import Hyperspace.Billing.History
import Hyperspace.Billing.StatementSuccess
import Mathlib.Algebra.Order.BigOperators.Group.Finset

/-!
# Deposits and credits of one account

What is admitted to an account in the order it comes in, the totals it adds up to, and the queries
that read the amounts of the account back.
-/

namespace Hyperspace.Billing

open Hyperspace.Foundations
open scoped BigOperators

/-! ### The queries that read the amounts of an account -/

/-- The sum of the entries in the currency of the account. -/
def Books.ledgerTotal (books : Books) (accountId : AccountId) (currency : String) : Int :=
  books.ledger.sum fun entry =>
    if entry.accountId = accountId ∧ entry.currency = currency then entry.amountMinor else 0

/-- The account trigger opens every account in USD. -/
def readBillingBalance (accountId : AccountId) : Tx Int := do
  ensureBillingAccount accountId
  let db ← get
  let balanceMinor := db.books.ledgerTotal accountId "USD"
  require (FitsBigint balanceMinor ∧ FitsInt balanceMinor) .numericValueOutOfRange
  return balanceMinor

def listLedgerEntries (accountId : AccountId) (limit : Nat) : Tx (List LedgerEntry) := do
  let db ← get
  let rows := ((db.books.ledger.rows.filter (·.accountId = accountId)).reverse).take limit
  require (∀ entry ∈ rows, FitsInt entry.amountMinor) .numericValueOutOfRange
  return rows

def listSolanaPaymentReceipts (accountId : AccountId) (limit : Nat) :
    Tx (List SolanaPaymentReceipt) := do
  let db ← get
  let rows := ((db.books.receipts.rows.filter (·.accountId = accountId)).reverse).take limit
  require (∀ receipt ∈ rows, FitsInt receipt.creditedAmountMinor) .numericValueOutOfRange
  return rows

def listWithdrawalRequests (accountId : AccountId) (limit : Nat) :
    Tx (List WithdrawalRequest) := do
  let db ← get
  let rows := ((db.books.withdrawals.rows.filter (·.accountId = accountId)).reverse).take limit
  require (∀ withdrawal ∈ rows, FitsInt withdrawal.amountMinor) .numericValueOutOfRange
  return rows

/-- None of the queries that read the amounts of the account fails. -/
structure AmountsReadable (a : AccountId) (db : BillingDb) : Prop where
  buckets : ∃ r, readBillingBuckets a db = .ok r
  balance : ∃ r, readBillingBalance a db = .ok r
  entries : ∀ limit, ∃ r, listLedgerEntries a limit db = .ok r
  receipts : ∀ limit, ∃ r, listSolanaPaymentReceipts a limit db = .ok r
  withdrawals : ∀ limit, ∃ r, listWithdrawalRequests a limit db = .ok r
  withdrawal : ∀ id, ∃ r, findWithdrawalForUpdate a id db = .ok r

/-! ### Deposits and credits of one account -/

/-- The deployment and the account, with the amount of every deposit and every credit. -/
structure AmountFeed where
  accountId : AccountId
  config : BillingConfig
  deposits : Identifier → Int
  credits : Identifier → Int
  kinds : Identifier → CreditKind

/-- An operation as the feed of an account sees it. -/
inductive Admission where
  | deposit (signature : Identifier)
  | credit (creditId : Identifier)
  /-- Something that moves no funds. -/
  | other (op : BillingOp)

/-- Withdrawals that are requested, given up, claimed, recorded and failed, and the passing of time
while the account is there. -/
def LeavesFunds (a : AccountId) : BillingOp → Bool
  | .createWithdrawalRequest _ _ _ | .cancelOwnedWithdrawal _ _ | .claimWithdrawalSigningJob _ _
  | .recordWithdrawalSubmission _ _ | .failWithdrawalSubmission _ => true
  | .environment usage _ => a ∈ usage.accounts
  | _ => false

def signatures (l : List Admission) : Finset Identifier :=
  (l.filterMap fun | .deposit signature => some signature | _ => none).toFinset

def creditIds (l : List Admission) : Finset Identifier :=
  (l.filterMap fun | .credit creditId => some creditId | _ => none).toFinset

namespace AmountFeed

variable (feed : AmountFeed)

def op : Admission → BillingOp
  | .deposit signature =>
    .creditDirectDeposit feed.accountId signature (feed.deposits signature) feed.config
  | .credit creditId =>
    .applyBillingCredit
      { accountId := feed.accountId, amountMinor := feed.credits creditId
        kind := feed.kinds creditId, sourceType := .adminManualCredit, sourceId := creditId }
  | .other op => op

def unit : Int := feed.config.solanaTokenBaseUnitsPerBillingMinor

/-- The base units of all deposits, each of them once. -/
def depositedBaseUnits (l : List Admission) : Int :=
  ∑ signature ∈ signatures l, feed.deposits signature

def creditedMinor (kind : CreditKind) (l : List Admission) : Int :=
  ∑ creditId ∈ creditIds l, if feed.kinds creditId = kind then feed.credits creditId else 0

def cashMinor (l : List Admission) : Int :=
  feed.depositedBaseUnits l / feed.unit + feed.creditedMinor .cash l

/-- The ledger in USD; deposits are entered in the currency of the deployment. -/
def ledgerMinor (l : List Admission) : Int :=
  (if feed.config.currency = "USD" then feed.depositedBaseUnits l / feed.unit else 0) +
    (feed.creditedMinor .cash l + feed.creditedMinor .promotional l)

/-- Cash, promotional money and the ledger of the account stay within an `int`. -/
def Fits (l : List Admission) : Prop :=
  FitsInt (feed.cashMinor l) ∧ FitsInt (feed.creditedMinor .promotional l) ∧
    FitsInt (feed.ledgerMinor l)

instance (l : List Admission) : Decidable (feed.Fits l) := inferInstanceAs (Decidable (_ ∧ _))

/-- What the code lets in: positive amounts, credits up to the largest safe integer, and deposits
whose total is within a `bigint`. -/
structure Admits (l : List Admission) : Prop where
  unit_pos : 0 < feed.unit
  deposits_pos : ∀ signature ∈ signatures l, 0 < feed.deposits signature
  credits_pos : ∀ creditId ∈ creditIds l,
    0 < feed.credits creditId ∧ feed.credits creditId ≤ maxSafeInteger
  total : FitsBigint (feed.depositedBaseUnits l)
  others : ∀ op, .other op ∈ l → LeavesFunds feed.accountId op = true

/-- A deposit or a credit that is not refused. -/
def Commits (db : BillingDb) : Admission → Prop
  | .deposit signature => ∃ r, creditDirectDeposit feed.accountId signature
      (feed.deposits signature) feed.config db = .ok r
  | .credit creditId => ∃ r, applyBillingCredit
      { accountId := feed.accountId, amountMinor := feed.credits creditId
        kind := feed.kinds creditId, sourceType := .adminManualCredit, sourceId := creditId } db =
      .ok r
  | .other _ => True

/-- Every deposit and credit commits, and after each of them every query reads the account. -/
def NeverBreaks (db : BillingDb) (l : List Admission) : Prop :=
  ∀ earlier x later, l = earlier ++ x :: later →
    feed.Commits (db.after (earlier.map feed.op)) x ∧
      AmountsReadable feed.accountId (db.after ((earlier ++ [x]).map feed.op))

end AmountFeed

/-! ### Totals -/

section Totals

variable {l : List Admission} {signature creditId : Identifier} {op : BillingOp}

@[simp] theorem signatures_deposit :
    signatures (l ++ [.deposit signature]) = insert signature (signatures l) := by
  ext
  simp [signatures, List.filterMap_append]

@[simp] theorem signatures_credit : signatures (l ++ [.credit creditId]) = signatures l := by
  simp [signatures, List.filterMap_append]

@[simp] theorem signatures_other : signatures (l ++ [.other op]) = signatures l := by
  simp [signatures, List.filterMap_append]

@[simp] theorem creditIds_credit :
    creditIds (l ++ [.credit creditId]) = insert creditId (creditIds l) := by
  ext
  simp [creditIds, List.filterMap_append]

@[simp] theorem creditIds_deposit : creditIds (l ++ [.deposit signature]) = creditIds l := by
  simp [creditIds, List.filterMap_append]

@[simp] theorem creditIds_other : creditIds (l ++ [.other op]) = creditIds l := by
  simp [creditIds, List.filterMap_append]

theorem signatures_initial {x : Admission} : signatures l ⊆ signatures (l ++ [x]) := by
  cases x <;> simp

theorem creditIds_initial {x : Admission} : creditIds l ⊆ creditIds (l ++ [x]) := by
  cases x <;> simp

namespace AmountFeed

variable {feed : AmountFeed}

section

variable {x : Admission}

theorem Admits.depositedBaseUnits_nonneg (h : feed.Admits l) : 0 ≤ feed.depositedBaseUnits l :=
  Finset.sum_nonneg fun signature hMem => (h.deposits_pos signature hMem).le

theorem Admits.credit_nonneg (h : feed.Admits l) {kind : CreditKind}
    (hMem : creditId ∈ creditIds l) :
    0 ≤ if feed.kinds creditId = kind then feed.credits creditId else 0 := by
  split
  · exact (h.credits_pos creditId hMem).1.le
  · exact le_refl 0

theorem Admits.creditedMinor_nonneg (h : feed.Admits l) {kind : CreditKind} :
    0 ≤ feed.creditedMinor kind l :=
  Finset.sum_nonneg fun _ hMem => h.credit_nonneg hMem

theorem Admits.deposited_nonneg (h : feed.Admits l) :
    0 ≤ feed.depositedBaseUnits l / feed.unit :=
  Int.ediv_nonneg h.depositedBaseUnits_nonneg h.unit_pos.le

theorem Admits.depositedBaseUnits_le (h : feed.Admits (l ++ [x])) :
    feed.depositedBaseUnits l ≤ feed.depositedBaseUnits (l ++ [x]) :=
  Finset.sum_le_sum_of_subset_of_nonneg signatures_initial fun signature hMem _ =>
    (h.deposits_pos signature hMem).le

theorem Admits.creditedMinor_le (h : feed.Admits (l ++ [x])) {kind : CreditKind} :
    feed.creditedMinor kind l ≤ feed.creditedMinor kind (l ++ [x]) :=
  Finset.sum_le_sum_of_subset_of_nonneg creditIds_initial fun _ hMem _ => h.credit_nonneg hMem

theorem Admits.initial (h : feed.Admits (l ++ [x])) : feed.Admits l := by
  have hDeposits : ∀ signature ∈ signatures l, 0 < feed.deposits signature :=
    fun signature hMem => h.deposits_pos signature (signatures_initial hMem)
  refine ⟨h.unit_pos, hDeposits,
    fun creditId hMem => h.credits_pos creditId (creditIds_initial hMem), ?_,
    fun op hMem => h.others op (List.mem_append_left _ hMem)⟩
  have hLe := h.depositedBaseUnits_le
  have hNonneg : 0 ≤ feed.depositedBaseUnits l :=
    Finset.sum_nonneg fun signature hMem => (hDeposits signature hMem).le
  have hTotal := h.total
  simp only [FitsBigint] at hTotal ⊢
  omega

theorem Fits.initial (h : feed.Fits (l ++ [x])) (hAdmits : feed.Admits (l ++ [x])) :
    feed.Fits l := by
  have hDeposited : feed.depositedBaseUnits l / feed.unit ≤
      feed.depositedBaseUnits (l ++ [x]) / feed.unit :=
    Int.ediv_le_ediv hAdmits.unit_pos hAdmits.depositedBaseUnits_le
  have hCash := @Admits.creditedMinor_le _ _ _ hAdmits .cash
  have hPromotional := @Admits.creditedMinor_le _ _ _ hAdmits .promotional
  have hDepositedNonneg := hAdmits.initial.deposited_nonneg
  have hCashNonneg := @Admits.creditedMinor_nonneg _ _ hAdmits.initial .cash
  have hPromotionalNonneg := @Admits.creditedMinor_nonneg _ _ hAdmits.initial .promotional
  obtain ⟨hFitsCash, hFitsPromotional, hFitsLedger⟩ := h
  simp only [Fits, FitsInt, cashMinor, ledgerMinor] at *
  refine ⟨by omega, by omega, ?_⟩
  split
  · rename_i hCurrency
    rw [if_pos hCurrency] at hFitsLedger
    omega
  · rename_i hCurrency
    rw [if_neg hCurrency] at hFitsLedger
    omega

end

theorem depositedBaseUnits_new (hNew : signature ∉ signatures l) :
    feed.depositedBaseUnits (l ++ [.deposit signature]) =
      feed.depositedBaseUnits l + feed.deposits signature := by
  rw [depositedBaseUnits, signatures_deposit, Finset.sum_insert hNew, add_comm]
  rfl

theorem creditedMinor_new {kind : CreditKind} (hNew : creditId ∉ creditIds l) :
    feed.creditedMinor kind (l ++ [.credit creditId]) =
      feed.creditedMinor kind l +
        if feed.kinds creditId = kind then feed.credits creditId else 0 := by
  rw [creditedMinor, creditIds_credit, Finset.sum_insert hNew, add_comm]
  rfl

end AmountFeed

end Totals

end Hyperspace.Billing
