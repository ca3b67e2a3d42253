import Hyperspace.Billing.Schema
import Hyperspace.Foundations.Doubles
import Mathlib.Algebra.Order.Floor.Ring

/-!
# Charges, credits and conversions

The pure functions of the billing scenarios. A JavaScript number that the code checks to be an
integer is an `Int`; one that arrives unchecked is a `ℚ`. Additions whose sum can leave the range
of exact integers are rounded as the engine rounds them; `bigint` arithmetic is exact.
-/

namespace Hyperspace.Billing

open Hyperspace.Foundations

/-- An exception a transaction ends with: thrown by the code, or raised by the database. -/
inductive BillingError where
  | error (message : String)
  | foreignKeyViolation
  | uniqueViolation
  | checkViolation
  | numericValueOutOfRange
  deriving DecidableEq, Repr

/-- The bucket a credit is meant for. -/
inductive CreditKind where
  | cash
  | promotional
  deriving DecidableEq, Repr

def microminorPerMinor : Int := 1000000
def billingMonthSeconds : Int := 30 * 24 * 60 * 60
def bytesPerDecimalGb : Int := 1000000000

/-- `Number.isInteger`. -/
def isInteger (q : ℚ) : Bool := q.den = 1

/-- `Number.isSafeInteger`. -/
def isSafeInteger (q : ℚ) : Bool := isInteger q && |q| ≤ maxSafeInteger

def calculateRetailChargeMicrominor (activeSeconds activeConfigMonthlyMinor bytesToDestination
    bytesFromDestination trafficPerGbMinor : Int) : Int :=
  let payloadBytes := max 0 bytesToDestination + max 0 bytesFromDestination
  let activeCharge :=
    max 0 activeSeconds * max 0 activeConfigMonthlyMinor * microminorPerMinor / billingMonthSeconds
  let trafficCharge :=
    payloadBytes * max 0 trafficPerGbMinor * microminorPerMinor / bytesPerDecimalGb
  activeCharge + trafficCharge

/-- Promotional money first, then unreserved cash; the rest becomes debt. -/
def consumeBillingCharge (buckets : BillingBucketsRow) (chargeMinor : Int) : BillingBucketsRow :=
  let remaining := max 0 chargeMinor
  let promotionalSpend := min buckets.promotionalMinor remaining
  let remaining := remaining - promotionalSpend
  let spendableCash := max 0 (buckets.cashMinor - buckets.reservedWithdrawalMinor)
  let cashSpend := min spendableCash remaining
  let remaining := remaining - cashSpend
  { buckets with
    promotionalMinor := buckets.promotionalMinor - promotionalSpend
    cashMinor := buckets.cashMinor - cashSpend
    debtMinor := addDouble buckets.debtMinor remaining }

/-- Debt first; the rest goes to the bucket of its kind. -/
def applyBucketCredit (buckets : BillingBucketsRow) (amountMinor : Int) (kind : CreditKind) :
    BillingBucketsRow :=
  let remaining := max 0 amountMinor
  let debtPayment := min buckets.debtMinor remaining
  let remaining := remaining - debtPayment
  { buckets with
    debtMinor := buckets.debtMinor - debtPayment
    cashMinor := addDouble buckets.cashMinor (if kind = .cash then remaining else 0)
    promotionalMinor :=
      addDouble buckets.promotionalMinor (if kind = .promotional then remaining else 0) }

def normalizeMarkupBps (markupBps : ℚ) : Int :=
  if !isInteger markupBps || markupBps < 0 || markupBps > 100000 then 0 else markupBps.num

def calculateMarkedUpChargeMinor (costMinor markupBps : ℚ) : Except BillingError Int :=
  if !isInteger costMinor || costMinor < 0 then
    throw (.error "costMinor must be a non-negative integer")
  else
    let normalizedMarkupBps := normalizeMarkupBps markupBps
    return ⌈toDouble (toDouble (costMinor * (10000 + normalizedMarkupBps)) / 10000)⌉

/-- A deposit in billing units, and what is left for the next one. -/
structure DepositConversion where
  amountMinor : Int
  remainderBaseUnits : Int
  deriving DecidableEq, Repr

def convertDepositToBillingMinor (previousRemainderBaseUnits depositBaseUnits
    baseUnitsPerBillingMinor : Int) : Except BillingError DepositConversion :=
  if previousRemainderBaseUnits < 0 ∨ depositBaseUnits ≤ 0 ∨ baseUnitsPerBillingMinor ≤ 0 then
    throw (.error "invalid direct deposit conversion input")
  else
    let total := previousRemainderBaseUnits + depositBaseUnits
    let amountMinor := total / baseUnitsPerBillingMinor
    if amountMinor > maxSafeInteger then
      throw (.error "direct deposit amount exceeds the billing ledger range")
    else
      return { amountMinor, remainderBaseUnits := total % baseUnitsPerBillingMinor }

/-- What the buckets say the account owns. -/
def BillingBucketsRow.balance (b : BillingBucketsRow) : Int :=
  b.cashMinor + b.promotionalMinor - b.debtMinor

/-- Buckets as `readBillingBuckets` returns them: valid, and every column within an `int`. -/
structure BillingBucketsRow.Read (b : BillingBucketsRow) : Prop where
  valid : b.Valid
  cash : FitsInt b.cashMinor
  promotional : FitsInt b.promotionalMinor
  reserved : FitsInt b.reservedWithdrawalMinor
  debt : FitsInt b.debtMinor

def BillingBucketsRow.bucket (b : BillingBucketsRow) : CreditKind → Int
  | .cash => b.cashMinor
  | .promotional => b.promotionalMinor

/-- The sum of the credited bucket and what the debt leaves of the credit is a double. -/
def CreditIsExact (buckets : BillingBucketsRow) (amountMinor : Int) (kind : CreditKind) : Prop :=
  let rest := amountMinor - min buckets.debtMinor amountMinor
  addDouble (buckets.bucket kind) rest = buckets.bucket kind + rest

instance (b : BillingBucketsRow) (n : Int) (kind : CreditKind) :
    Decidable (CreditIsExact b n kind) := inferInstanceAs (Decidable (_ = _))

section

variable {b : BillingBucketsRow} {n : Int}

theorem consumeBillingCharge_debtMinor (hRead : b.Read) (hCharge : 0 ≤ n) (hSmall : n ≤ 2 ^ 52) :
    (consumeBillingCharge b n).debtMinor =
      b.debtMinor + (n - min b.promotionalMinor n -
        min (max 0 (b.cashMinor - b.reservedWithdrawalMinor)) (n - min b.promotionalMinor n)) := by
  obtain ⟨⟨hCash, hPromotional, hReserved, hDebt, hCovered⟩, -, -, -, hDebtInt⟩ := hRead
  simp only [IsAmount, FitsInt] at hPromotional hDebt hDebtInt
  simp only [consumeBillingCharge]
  rw [addDouble_of_le (by rw [abs_le]; omega)]
  omega

theorem consumeBillingCharge_balance (hRead : b.Read) (hCharge : 0 ≤ n) (hSmall : n ≤ 2 ^ 52) :
    (consumeBillingCharge b n).balance = b.balance - n := by
  have hDebt := consumeBillingCharge_debtMinor hRead hCharge hSmall
  simp only [BillingBucketsRow.balance, consumeBillingCharge] at hDebt ⊢
  omega

theorem consumeBillingCharge_cash_le (hRead : b.Read) :
    0 ≤ (consumeBillingCharge b n).cashMinor ∧
      (consumeBillingCharge b n).cashMinor ≤ b.cashMinor := by
  obtain ⟨⟨hCash, hPromotional, hReserved, -, hCovered⟩, -⟩ := hRead
  simp only [IsAmount] at hCash hPromotional hReserved
  simp only [consumeBillingCharge]
  omega

theorem addDouble_zero (hInt : FitsInt n) : addDouble n 0 = n := by
  simp only [FitsInt] at hInt
  rw [addDouble_of_le (by rw [abs_le]; omega), add_zero]

theorem applyBucketCredit_balance {kind : CreditKind} (hRead : b.Read) (hAmount : 0 ≤ n)
    (hExact : CreditIsExact b n kind) : (applyBucketCredit b n kind).balance = b.balance + n := by
  have hMax : max 0 n = n := max_eq_right hAmount
  cases kind with
  | cash =>
      simp only [CreditIsExact, BillingBucketsRow.bucket] at hExact
      simp only [BillingBucketsRow.balance, applyBucketCredit, hMax, if_true, reduceCtorEq,
        if_false, hExact, addDouble_zero hRead.promotional]
      omega
  | promotional =>
      simp only [CreditIsExact, BillingBucketsRow.bucket] at hExact
      simp only [BillingBucketsRow.balance, applyBucketCredit, hMax, if_true, reduceCtorEq,
        if_false, hExact, addDouble_zero hRead.cash]
      omega

/-- The amounts a deposit can be credited with are far below the rounding range. -/
theorem creditIsExact_of_fitsInt {kind : CreditKind} (hRead : b.Read) (hAmount : 0 ≤ n)
    (hInt : FitsInt n) : CreditIsExact b n kind := by
  obtain ⟨⟨hCash, hPromotional, -, hDebt, -⟩, hCashInt, hPromotionalInt, -, -⟩ := hRead
  simp only [IsAmount, FitsInt] at *
  cases kind with
  | cash => exact addDouble_of_le (by rw [abs_le, BillingBucketsRow.bucket]; omega)
  | promotional => exact addDouble_of_le (by rw [abs_le, BillingBucketsRow.bucket]; omega)

theorem applyBucketCredit_cash (hRead : b.Read) (hAmount : 0 ≤ n) (hInt : FitsInt n) :
    (applyBucketCredit b n .cash).cashMinor +
      (b.debtMinor - (applyBucketCredit b n .cash).debtMinor) = b.cashMinor + n := by
  have hExact := @creditIsExact_of_fitsInt b n .cash hRead hAmount hInt
  simp only [CreditIsExact, BillingBucketsRow.bucket] at hExact
  simp only [applyBucketCredit, max_eq_right hAmount, if_true, hExact]
  omega

theorem applyBucketCredit_debt_le {kind : CreditKind} (hRead : b.Read) :
    (applyBucketCredit b n kind).debtMinor ≤ b.debtMinor := by
  have hDebt := hRead.valid.2.2.2.1.1
  simp only [applyBucketCredit]
  omega

theorem applyBucketCredit_valid {kind : CreditKind} (hRead : b.Read) (hAmount : 0 ≤ n)
    (hInt : FitsInt n) : (applyBucketCredit b n kind).Valid := by
  have hExact := @creditIsExact_of_fitsInt b n kind hRead hAmount hInt
  have hCashZero := addDouble_zero hRead.cash
  have hPromotionalZero := addDouble_zero hRead.promotional
  obtain ⟨⟨hCash, hPromotional, hReserved, hDebt, hCovered⟩, hCashInt, hPromotionalInt, -, -⟩ :=
    hRead
  simp only [CreditIsExact] at hExact
  simp only [BillingBucketsRow.Valid, IsAmount, FitsBigint, FitsInt] at *
  cases kind with
  | cash =>
      simp only [BillingBucketsRow.bucket] at hExact
      simp only [applyBucketCredit, max_eq_right hAmount, if_true, reduceCtorEq, if_false, hExact,
        hPromotionalZero]
      omega
  | promotional =>
      simp only [BillingBucketsRow.bucket] at hExact
      simp only [applyBucketCredit, max_eq_right hAmount, if_true, reduceCtorEq, if_false, hExact,
        hCashZero]
      omega

theorem applyBucketCredit_promotional_cash (hRead : b.Read) :
    (applyBucketCredit b n .promotional).cashMinor = b.cashMinor := by
  simp only [applyBucketCredit, reduceCtorEq, if_false, addDouble_zero hRead.cash]

end

theorem calculateRetailChargeMicrominor_nonneg {a m t f p : Int} :
    0 ≤ calculateRetailChargeMicrominor a m t f p := by
  simp only [calculateRetailChargeMicrominor, microminorPerMinor, billingMonthSeconds,
    bytesPerDecimalGb]
  have hActive : 0 ≤ max 0 a * max 0 m * 1000000 / (30 * 24 * 60 * 60) := by positivity
  have hTraffic : 0 ≤ (max 0 t + max 0 f) * max 0 p * 1000000 / 1000000000 := by positivity
  omega

theorem convertDepositToBillingMinor_spec {r d u : Int} {c : DepositConversion}
    (h : convertDepositToBillingMinor r d u = .ok c) :
    0 < u ∧ 0 < d ∧ 0 ≤ c.amountMinor ∧ u * c.amountMinor + c.remainderBaseUnits = r + d := by
  rw [convertDepositToBillingMinor] at h
  split at h
  · cases h
  · rename_i hInput
    simp only [not_or, not_lt, not_le] at hInput
    obtain ⟨hr, hd, hu⟩ := hInput
    simp only at h
    split at h
    · cases h
    · cases h
      exact ⟨hu, hd, Int.ediv_nonneg (by omega) hu.le, Int.mul_ediv_add_emod _ _⟩

theorem calculateMarkedUpChargeMinor_zero {markup : ℚ} :
    calculateMarkedUpChargeMinor 0 markup = .ok 0 := by
  simp [calculateMarkedUpChargeMinor, isInteger, toDouble, pure, Except.pure]

end Hyperspace.Billing
