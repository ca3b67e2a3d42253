import Hyperspace.Billing.Reservations
import Mathlib.Tactic.LinearCombination

/-!
# Tokens received are tokens accounted for

With SPL deposits, every base unit an account has sent in is either behind its cash, earmarked
for the treasury by a cash sweep, paid out by a confirmed withdrawal, or part of the remainder
that does not add up to a billing unit yet.
-/

namespace Hyperspace.Billing

open Hyperspace.Foundations

/-! ### What is counted -/

/-- The base units of the receipts of an account. -/
def Books.receivedBaseUnits (books : Books) (a : AccountId) : Int :=
  books.receipts.sum fun receipt => if receipt.accountId = a then receipt.amountBaseUnits else 0

/-- The amounts of the cash sweeps of an account, in billing units. -/
def Books.sweptMinor (books : Books) (a : AccountId) : Int :=
  books.sweeps.sum fun sweep => if sweep.accountId = a then sweep.amountMinor else 0

/-- The token amounts of the cash sweeps of an account. -/
def Books.sweptBaseUnits (books : Books) (a : AccountId) : Int :=
  books.sweeps.sum fun sweep => if sweep.accountId = a then sweep.tokenAmountBaseUnits else 0

/-- The amounts of the confirmed withdrawals of an account. -/
def Books.confirmedMinor (books : Books) (a : AccountId) : Int :=
  books.withdrawals.sum fun w =>
    if w.accountId = a ∧ w.status = .confirmed then w.amountMinor else 0

/-- The custody equation of an account whose tokens of one mint are worth `u` base units each. -/
def Books.Balanced (books : Books) (a : AccountId) (mint : Mint) (u : Int) : Prop :=
  books.receivedBaseUnits a =
    u * ((books.buckets a).val.cashMinor + books.sweptMinor a + books.confirmedMinor a) +
      (books.depositRemainders a mint).val

/-- The operations of a deployment in SPL mode: the cash of the account comes from deposits of
one mint at one rate, and manual credits do not pose as withdrawals. -/
def InSplMode (a : AccountId) (mint : Mint) (u : Int) : BillingOp → Prop
  | .applyBillingCredit input =>
    (input.accountId = a → input.kind = .promotional) ∧ input.sourceType ≠ .withdrawalRequest
  | .settleRatingCandidate candidate config =>
    candidate.accountId = a → config.tokenBaseUnitsPerBillingMinor = u
  | .creditDirectDeposit accountId _ _ config =>
    accountId = a → config.solanaTokenMint = mint ∧
      config.solanaTokenBaseUnitsPerBillingMinor = u ∧ config.solanaAssetKind = .spl
  | .importDoubleZeroUsage _ _ => False
  | _ => True

/-- Sweeps, withdrawals and their debits have the source they claim, so none is new when it is
recorded again. -/
structure Sourced (a : AccountId) (u : Int) (books : Books) (nextId : Identifier) : Prop where
  sweepsExact : ∀ sweep ∈ books.sweeps.rows, sweep.accountId = a →
    sweep.tokenAmountBaseUnits = u * sweep.amountMinor
  ratingSweepsKnown : ∀ id, books.sweeps.HasKey (.retailUsageRating, id) → id < nextId
  depositSweepsReceived : ∀ signature,
    books.sweeps.HasKey (.directDepositDebtRepayment, signature) →
      books.receipts.HasKey signature
  withdrawalsKnown : ∀ id, books.withdrawals.HasKey id → id < nextId
  debitsConfirmed : books.DebitsConfirmed

section

variable {books books' : Books} {nextId nextId' : Identifier} {a a' : AccountId} {mint : Mint}
  {u n : Int}

/-- The equation survives when tokens in are matched by billing units and remainder. -/
theorem Books.Balanced.of_deltas {received minor remainder : Int} (h : books.Balanced a mint u)
    (hReceived : books'.receivedBaseUnits a = books.receivedBaseUnits a + received)
    (hHeld : (books'.buckets a).val.cashMinor + books'.sweptMinor a + books'.confirmedMinor a =
      (books.buckets a).val.cashMinor + books.sweptMinor a + books.confirmedMinor a + minor)
    (hRemainder : (books'.depositRemainders a mint).val =
      (books.depositRemainders a mint).val + remainder)
    (hConverted : received = u * minor + remainder) : books'.Balanced a mint u := by
  simp only [Books.Balanced] at h ⊢
  linear_combination hReceived + h - u * hHeld - hRemainder + hConverted

theorem Books.Balanced.of_held (h : books.Balanced a mint u)
    (hReceipts : books'.receipts = books.receipts)
    (hHeld : (books'.buckets a).val.cashMinor + books'.sweptMinor a + books'.confirmedMinor a =
      (books.buckets a).val.cashMinor + books.sweptMinor a + books.confirmedMinor a)
    (hRemainders : books'.depositRemainders = books.depositRemainders) :
    books'.Balanced a mint u := by
  refine @Books.Balanced.of_deltas books books' a mint u 0 0 0 h ?_ ?_ ?_ (by ring)
  · rw [Books.receivedBaseUnits, Books.receivedBaseUnits, hReceipts, Int.add_zero]
  · rw [hHeld, Int.add_zero]
  · rw [hRemainders, Int.add_zero]

theorem Sourced.mono (h : Sourced a u books nextId) (hNext : nextId ≤ nextId') :
    Sourced a u books nextId' :=
  ⟨h.sweepsExact, fun id hKey => lt_of_lt_of_le (h.ratingSweepsKnown id hKey) hNext,
    h.depositSweepsReceived, fun id hKey => lt_of_lt_of_le (h.withdrawalsKnown id hKey) hNext,
    h.debitsConfirmed⟩

/-! ### Sweeps -/

theorem SweepRecorded.sweptMinor {source : SourceType} {id : Identifier}
    {sweeps : Table CashSweepRequest.key} {rate : Int}
    (h : SweepRecorded (cashSweep a' source id n mint rate) books.sweeps sweeps)
    (hFree : ¬ books.sweeps.HasKey (source, id)) (hRate : a' = a → rate = u) (hu : 0 < u)
    (hAmount : 0 ≤ n) :
    { books with sweeps }.sweptMinor a = books.sweptMinor a + if a' = a then n else 0 := by
  cases h with
  | nothingToSweep hEmpty =>
      split
      · rename_i ha
        have hZero : n = 0 := by
          rcases hEmpty with hEmpty | hEmpty
          · exact le_antisymm hEmpty hAmount
          · simp only [cashSweep, hRate ha] at hEmpty
            nlinarith
        rw [hZero, Int.add_zero]
      · exact (Int.add_zero _).symm
  | duplicate hTaken => exact absurd hTaken hFree
  | recorded hInsert hAccount hKey hMinor hToken =>
      simp only [Books.sweptMinor, Table.sum_insert hInsert, hAccount, hMinor, cashSweep]

theorem SweepRecorded.exact {source : SourceType} {id : Identifier}
    {sweeps : Table CashSweepRequest.key} {rate : Int}
    (h : SweepRecorded (cashSweep a' source id n mint rate) books.sweeps sweeps)
    (hRate : a' = a → rate = u)
    (hExact : ∀ sweep ∈ books.sweeps.rows, sweep.accountId = a →
      sweep.tokenAmountBaseUnits = u * sweep.amountMinor) :
    ∀ sweep ∈ sweeps.rows, sweep.accountId = a →
      sweep.tokenAmountBaseUnits = u * sweep.amountMinor := by
  cases h with
  | nothingToSweep => exact hExact
  | duplicate => exact hExact
  | recorded hInsert hAccount hKey hMinor hToken =>
      intro sweep hMem ha
      rcases (Table.mem_insert hInsert).1 hMem with hOld | rfl
      · exact hExact sweep hOld ha
      · simp only [cashSweep] at hAccount hMinor hToken
        rw [hToken, hMinor, hRate (hAccount.symm.trans ha), Int.mul_comm]

theorem SweepRecorded.hasKey {sweeps sweeps' : Table CashSweepRequest.key}
    {input : CashSweepInput} {key : SourceType × Identifier}
    (h : SweepRecorded input sweeps sweeps') (hKey : sweeps'.HasKey key) :
    sweeps.HasKey key ∨ key = (input.sourceType, input.sourceId) := by
  cases h with
  | nothingToSweep => exact .inl hKey
  | duplicate => exact .inl hKey
  | recorded hInsert hAccount hSource hMinor hToken =>
      exact ((Table.hasKey_insert hInsert).1 hKey).imp_right (·.trans hSource)

/-! ### Postings -/

theorem cash_update {buckets : StoredBuckets} :
    (Function.update books.buckets a' buckets a).val.cashMinor = (books.buckets a).val.cashMinor +
      if a' = a then buckets.val.cashMinor - (books.buckets a').val.cashMinor else 0 := by
  rcases eq_or_ne a' a with rfl | hne
  · rw [Function.update_self, if_pos rfl]
    omega
  · rw [Function.update_of_ne hne.symm, if_neg hne, Int.add_zero]

theorem CreditPosted.balanced {input : BillingCreditInput}
    (hPosted : CreditPosted input books books')
    (hKind : input.accountId = a → input.kind = .promotional) (h : books.Balanced a mint u) :
    books'.Balanced a mint u := by
  cases hPosted with
  | @mk ledger hValid hEntry hAmount hRead =>
      refine h.of_held rfl ?_ rfl
      have hCash : ((books.post ledger input.accountId ⟨_, hValid⟩).buckets a).val.cashMinor =
          (books.buckets a).val.cashMinor := by
        simp only [Books.post, cash_update]
        split
        · rename_i ha
          rw [hKind ha, applyBucketCredit_promotional_cash hRead]
          omega
        · exact Int.add_zero _
      rw [hCash]
      rfl

theorem CreditPosted.sourced {input : BillingCreditInput}
    (hPosted : CreditPosted input books books') (hSource : input.sourceType ≠ .withdrawalRequest)
    (h : Sourced a u books nextId) : Sourced a u books' nextId := by
  cases hPosted with
  | mk hValid hEntry hAmount hRead =>
      exact ⟨h.sweepsExact, h.ratingSweepsKnown, h.depositSweepsReceived, h.withdrawalsKnown,
        h.debitsConfirmed.of_withdrawals (fun id => hEntry.hasKey_withdrawal hSource) rfl⟩

theorem ChargePosted.balanced {config : RetailBillingRuntimeConfig}
    (hPosted : ChargePosted config a' nextId n books books')
    (hRate : a' = a → config.tokenBaseUnitsPerBillingMinor = u) (hu : 0 < u)
    (hSourced : Sourced a u books nextId) (h : books.Balanced a mint u) :
    books'.Balanced a mint u := by
  cases hPosted with
  | @mk ledger sweeps hValid hEntry hRead hSweep =>
      refine h.of_held rfl ?_ rfl
      have hFree : ¬ books.sweeps.HasKey (.retailUsageRating, nextId) :=
        fun hKey => lt_irrefl _ (hSourced.ratingSweepsKnown _ hKey)
      have hSpent := (@consumeBillingCharge_cash_le _ n hRead).2
      have hSwept := hSweep.sweptMinor hFree hRate hu (by omega)
      have hCash := @cash_update books a a' ⟨_, hValid⟩
      have hConfirmed : { books.post ledger a' ⟨_, hValid⟩ with sweeps }.confirmedMinor a =
          books.confirmedMinor a := rfl
      have hSwept' : { books.post ledger a' ⟨_, hValid⟩ with sweeps }.sweptMinor a =
          { books with sweeps }.sweptMinor a := rfl
      rw [hConfirmed, hSwept', hSwept]
      simp only [Books.post, hCash]
      split <;> omega

theorem ChargePosted.sourced {config : RetailBillingRuntimeConfig}
    (hPosted : ChargePosted config a' nextId n books books')
    (hRate : a' = a → config.tokenBaseUnitsPerBillingMinor = u) (hNext : nextId < nextId')
    (h : Sourced a u books nextId) : Sourced a u books' nextId' := by
  cases hPosted with
  | mk hValid hEntry hRead hSweep =>
      refine ⟨hSweep.exact hRate h.sweepsExact, ?_, ?_, ?_, ?_⟩
      · intro id hKey
        rcases hSweep.hasKey hKey with hOld | hNew
        · exact lt_trans (h.ratingSweepsKnown id hOld) hNext
        · cases hNew
          exact hNext
      · intro signature hKey
        rcases hSweep.hasKey hKey with hOld | hNew
        · exact h.depositSweepsReceived signature hOld
        · cases hNew
      · exact fun id hKey => lt_trans (h.withdrawalsKnown id hKey) hNext
      · exact h.debitsConfirmed.of_withdrawals (fun id => hEntry.hasKey_withdrawal (by simp)) rfl

/-! ### Deposits -/

theorem ReceiptTaken.received {config : BillingConfig} {signature : Identifier}
    {amountBaseUnits : Int} {conversion : DepositConversion}
    (h : ReceiptTaken config a' signature amountBaseUnits conversion books books') :
    books'.receivedBaseUnits a =
      books.receivedBaseUnits a + if a' = a then amountBaseUnits else 0 := by
  cases h with
  | mk hRemainder hConversion hInsert hSignature hAccount hAmount hInt =>
      simp only [Books.receivedBaseUnits, Table.sum_insert hInsert, hAccount, hAmount]

theorem ReceiptTaken.remainder {config : BillingConfig} {signature : Identifier}
    {amountBaseUnits : Int} {conversion : DepositConversion}
    (h : ReceiptTaken config a' signature amountBaseUnits conversion books books')
    (hMode : a' = a → config.solanaTokenMint = mint ∧
      config.solanaTokenBaseUnitsPerBillingMinor = u) :
    (books'.depositRemainders a mint).val = (books.depositRemainders a mint).val +
      if a' = a then amountBaseUnits - u * conversion.amountMinor else 0 := by
  cases h with
  | mk hRemainder hConversion hInsert hSignature hAccount hAmount hInt =>
      obtain ⟨-, -, -, hSplit⟩ := convertDepositToBillingMinor_spec hConversion
      rcases eq_or_ne a' a with rfl | hne
      · obtain ⟨rfl, rfl⟩ := hMode rfl
        simp only [Function.update_self, if_true]
        omega
      · simp only [Function.update_of_ne hne.symm, if_neg hne, Int.add_zero]

theorem ReceiptTaken.held {config : BillingConfig} {signature : Identifier}
    {amountBaseUnits : Int} {conversion : DepositConversion}
    (h : ReceiptTaken config a' signature amountBaseUnits conversion books books') :
    (books'.buckets a).val.cashMinor + books'.sweptMinor a + books'.confirmedMinor a =
      (books.buckets a).val.cashMinor + books.sweptMinor a + books.confirmedMinor a := by
  cases h with
  | mk => rfl

theorem ReceiptTaken.amountMinor {config : BillingConfig} {signature : Identifier}
    {amountBaseUnits : Int} {conversion : DepositConversion}
    (h : ReceiptTaken config a' signature amountBaseUnits conversion books books') :
    0 ≤ conversion.amountMinor ∧ FitsInt conversion.amountMinor := by
  cases h with
  | mk hRemainder hConversion hInsert hSignature hAccount hAmount hInt =>
      exact ⟨(convertDepositToBillingMinor_spec hConversion).2.2.1, hInt⟩

theorem DepositPosted.held {config : BillingConfig} {signature : Identifier}
    (hPosted : DepositPosted config a' signature n books books')
    (hFree : ¬ books.sweeps.HasKey (.directDepositDebtRepayment, signature))
    (hMode : a' = a → config.solanaTokenBaseUnitsPerBillingMinor = u ∧
      config.solanaAssetKind = .spl) (hu : 0 < u) (hAmount : 0 ≤ n) (hInt : FitsInt n) :
    (books'.buckets a).val.cashMinor + books'.sweptMinor a + books'.confirmedMinor a =
      (books.buckets a).val.cashMinor + books.sweptMinor a + books.confirmedMinor a +
        if a' = a then n else 0 := by
  cases hPosted with
  | @mk ledger sweeps hValid hEntry hRead hSweep =>
      have hCredit := applyBucketCredit_cash hRead hAmount hInt
      have hRepaid := @applyBucketCredit_debt_le _ n .cash hRead
      have hCash := @cash_update books a a' ⟨_, hValid⟩
      have hConfirmed : { books.post ledger a' ⟨_, hValid⟩ with sweeps }.confirmedMinor a =
          books.confirmedMinor a := rfl
      have hSwept' : { books.post ledger a' ⟨_, hValid⟩ with sweeps }.sweptMinor a =
          { books with sweeps }.sweptMinor a := rfl
      have hSwept : { books with sweeps }.sweptMinor a = books.sweptMinor a +
          if a' = a then (books.buckets a').val.debtMinor -
            (applyBucketCredit (books.buckets a').val n .cash).debtMinor else 0 := by
        rcases hSweep with ⟨hNative, rfl⟩ | ⟨-, hRecorded⟩
        · have hne : a' ≠ a := fun ha => by simp [(hMode ha).2] at hNative
          rw [if_neg hne, Int.add_zero]
        · exact hRecorded.sweptMinor hFree (fun ha => (hMode ha).1) hu (by omega)
      rw [hConfirmed, hSwept', hSwept]
      simp only [Books.post, hCash]
      split <;> omega

theorem ReceiptTaken.sourced {config : BillingConfig} {signature : Identifier}
    {amountBaseUnits : Int} {conversion : DepositConversion}
    (h : ReceiptTaken config a' signature amountBaseUnits conversion books books')
    (hSourced : Sourced a u books nextId) :
    Sourced a u books' nextId ∧ books'.receipts.HasKey signature ∧
      ¬ books'.sweeps.HasKey (.directDepositDebtRepayment, signature) := by
  cases h with
  | mk hRemainder hConversion hInsert hSignature hAccount hAmount hInt =>
      have hKeys := fun s => @Table.hasKey_insert _ _ _ _ _ _ _ s hInsert
      refine ⟨⟨hSourced.sweepsExact, hSourced.ratingSweepsKnown, ?_, hSourced.withdrawalsKnown,
        hSourced.debitsConfirmed⟩, (hKeys _).2 (.inr hSignature.symm), ?_⟩
      · exact fun s hKey => (hKeys s).2 (.inl (hSourced.depositSweepsReceived s hKey))
      · intro hKey
        exact (Table.insert_eq_some hInsert).1
          (hSignature ▸ hSourced.depositSweepsReceived signature hKey)

theorem DepositPosted.sourced {config : BillingConfig} {signature : Identifier}
    (hPosted : DepositPosted config a' signature n books books')
    (hReceipt : books.receipts.HasKey signature)
    (hRate : a' = a → config.solanaTokenBaseUnitsPerBillingMinor = u)
    (h : Sourced a u books nextId) : Sourced a u books' nextId := by
  cases hPosted with
  | @mk ledger sweeps hValid hEntry hRead hSweep =>
      have hDebits : Books.DebitsConfirmed { books.post ledger a' ⟨_, hValid⟩ with sweeps } :=
        h.debitsConfirmed.of_withdrawals (fun id => hEntry.hasKey_withdrawal (by simp)) rfl
      rcases hSweep with ⟨-, rfl⟩ | ⟨-, hRecorded⟩
      · exact ⟨h.sweepsExact, h.ratingSweepsKnown, h.depositSweepsReceived, h.withdrawalsKnown,
          hDebits⟩
      · refine ⟨hRecorded.exact hRate h.sweepsExact, ?_, ?_, h.withdrawalsKnown, hDebits⟩
        · intro id hKey
          rcases hRecorded.hasKey hKey with hOld | hNew
          · exact h.ratingSweepsKnown id hOld
          · cases hNew
        · intro s hKey
          rcases hRecorded.hasKey hKey with hOld | hNew
          · exact h.depositSweepsReceived s hOld
          · cases hNew
            exact hReceipt

theorem DepositCredited.sourced {config : BillingConfig} {signature : Identifier}
    {amountBaseUnits : Int}
    (hCredited : DepositCredited config a' signature amountBaseUnits books books')
    (hRate : a' = a → config.solanaTokenBaseUnitsPerBillingMinor = u)
    (h : Sourced a u books nextId) : Sourced a u books' nextId := by
  cases hCredited with
  | below hReceipt hBelow => exact (hReceipt.sourced h).1
  | posted hReceipt hPositive hPosted =>
      obtain ⟨hSourced, hTaken, -⟩ := hReceipt.sourced h
      exact hPosted.sourced hTaken hRate hSourced

theorem DepositCredited.balanced {config : BillingConfig} {signature : Identifier}
    {amountBaseUnits : Int}
    (hCredited : DepositCredited config a' signature amountBaseUnits books books')
    (hMode : a' = a → config.solanaTokenMint = mint ∧
      config.solanaTokenBaseUnitsPerBillingMinor = u ∧ config.solanaAssetKind = .spl)
    (hu : 0 < u) (hSourced : Sourced a u books nextId) (h : books.Balanced a mint u) :
    books'.Balanced a mint u := by
  have hMint := fun ha => And.intro (hMode ha).1 (hMode ha).2.1
  cases hCredited with
  | @below conversion _ hReceipt hBelow =>
      have hZero : conversion.amountMinor = 0 := le_antisymm hBelow hReceipt.amountMinor.1
      have hHeld := @ReceiptTaken.held books _ a a' _ _ _ _ hReceipt
      rw [← Int.add_zero (_ + books.confirmedMinor a)] at hHeld
      refine h.of_deltas hReceipt.received hHeld (hReceipt.remainder hMint) ?_
      rw [hZero]
      split <;> ring
  | @posted conversion books₁ _ hReceipt hPositive hPosted =>
      obtain ⟨-, -, hFree⟩ := hReceipt.sourced hSourced
      obtain ⟨hNonneg, hInt⟩ := hReceipt.amountMinor
      have hHeld := hPosted.held hFree (fun ha => (hMode ha).2) hu hNonneg hInt
      rw [hReceipt.held] at hHeld
      have hReceived : books'.receivedBaseUnits a =
          books.receivedBaseUnits a + if a' = a then amountBaseUnits else 0 := by
        rw [← hReceipt.received]
        cases hPosted with
        | mk => rfl
      have hRemainder : (books'.depositRemainders a mint).val =
          (books.depositRemainders a mint).val +
            if a' = a then amountBaseUnits - u * conversion.amountMinor else 0 := by
        rw [← hReceipt.remainder hMint]
        cases hPosted with
        | mk => rfl
      refine h.of_deltas hReceived hHeld hRemainder ?_
      split <;> ring

/-! ### Withdrawals -/

theorem confirmedMinor_insert {withdrawal : WithdrawalRequest}
    {withdrawals : Table WithdrawalRequest.id}
    (hInsert : books.withdrawals.insert withdrawal = some withdrawals)
    (hStatus : withdrawal.status = .cooldown) :
    { books with withdrawals }.confirmedMinor a = books.confirmedMinor a := by
  simp [Books.confirmedMinor, Table.sum_insert hInsert, hStatus]

theorem WithdrawalReserved.balanced (hReserved : WithdrawalReserved a' books nextId books')
    (h : books.Balanced a mint u) : books'.Balanced a mint u := by
  cases hReserved with
  | @mk withdrawal withdrawals hValid hInsert hId hStatus =>
      refine h.of_held rfl ?_ rfl
      have hCash := @cash_update books a a' ⟨_, hValid⟩
      have hConfirmed : Books.confirmedMinor { books with
          withdrawals, buckets := Function.update books.buckets a' ⟨_, hValid⟩ } a =
          books.confirmedMinor a := confirmedMinor_insert hInsert hStatus
      rw [hConfirmed]
      simp only [hCash, Int.sub_self, ite_self, Int.add_zero]
      rfl

theorem WithdrawalReserved.sourced (hReserved : WithdrawalReserved a' books nextId books')
    (hNext : nextId < nextId') (h : Sourced a u books nextId) : Sourced a u books' nextId' := by
  have hDebits := hReserved.debitsConfirmed h.debitsConfirmed
  cases hReserved with
  | mk hValid hInsert hId hStatus =>
      refine ⟨h.sweepsExact, fun id hKey => lt_trans (h.ratingSweepsKnown id hKey) hNext,
        h.depositSweepsReceived, ?_, hDebits⟩
      intro id hKey
      rcases (Table.hasKey_insert hInsert).1 hKey with hOld | rfl
      · exact lt_trans (h.withdrawalsKnown id hOld) hNext
      · exact hId ▸ hNext

theorem WithdrawalReleased.balanced {id : Identifier} {now : Timestamp}
    (hReleased : WithdrawalReleased a' id now books books') (h : books.Balanced a mint u) :
    books'.Balanced a mint u := by
  cases hReleased with
  | @mk withdrawal reserved hValid hFound hStatus =>
      refine h.of_held rfl ?_ rfl
      have hCash := @cash_update books a a' ⟨_, hValid⟩
      have hOpen : withdrawal.status ≠ .confirmed := fun hConfirmed => by
        simp [hConfirmed] at hStatus
      have hConfirmed : Books.confirmedMinor { books with
          withdrawals := books.withdrawals.update id (·.cancel now)
            (WithdrawalRequest.cancel_id now)
          buckets := Function.update books.buckets a' ⟨_, hValid⟩ } a =
          books.confirmedMinor a := by
        simp only [Books.confirmedMinor, Table.sum_update hFound]
        simp [WithdrawalRequest.cancel, hOpen]
      rw [hConfirmed]
      simp only [hCash, Int.sub_self, ite_self, Int.add_zero]
      rfl

theorem WithdrawalReleased.sourced {id : Identifier} {now : Timestamp}
    (hReleased : WithdrawalReleased a' id now books books') (h : Sourced a u books nextId) :
    Sourced a u books' nextId := by
  have hDebits := hReleased.debitsConfirmed h.debitsConfirmed
  cases hReleased with
  | mk =>
      exact ⟨h.sweepsExact, h.ratingSweepsKnown, h.depositSweepsReceived,
        fun k hKey =>
          h.withdrawalsKnown k ((Table.hasKey_update (WithdrawalRequest.cancel_id now)).1 hKey),
        hDebits⟩

/-- Cash and reservation of a debited withdrawal turn into a confirmed withdrawal. -/
theorem WithdrawalDebited.balanced {id : Identifier} {now : Timestamp}
    (hDebited : WithdrawalDebited a' id now books books') (hSourced : Sourced a u books nextId)
    (h : books.Balanced a mint u) : books'.Balanced a mint u := by
  cases hDebited with
  | @debited withdrawal ledger hValid hFound hAccount hStatus hEntry =>
      refine h.of_held rfl ?_ rfl
      have hCash := @cash_update books a a' ⟨_, hValid⟩
      have hConfirmed : Books.confirmedMinor { books.post ledger a' ⟨_, hValid⟩ with
          withdrawals := books.withdrawals.update id (·.markConfirmed now)
            (WithdrawalRequest.markConfirmed_id now) } a =
          books.confirmedMinor a + if a' = a then withdrawal.amountMinor else 0 := by
        simp only [Books.confirmedMinor, Table.sum_update hFound]
        simp [WithdrawalRequest.markConfirmed, hAccount, hStatus]
      have hSwept : Books.sweptMinor { books.post ledger a' ⟨_, hValid⟩ with
          withdrawals := books.withdrawals.update id (·.markConfirmed now)
            (WithdrawalRequest.markConfirmed_id now) } a = books.sweptMinor a := rfl
      rw [hConfirmed, hSwept]
      simp only [Books.post, hCash]
      split <;> omega
  | alreadyDebited hFound hStatus hTaken =>
      exact absurd hTaken (hSourced.debitsConfirmed.not_debited hFound (by simp [hStatus]))

theorem WithdrawalDebited.sourced {id : Identifier} {now : Timestamp}
    (hDebited : WithdrawalDebited a' id now books books') (h : Sourced a u books nextId) :
    Sourced a u books' nextId := by
  have hDebits := hDebited.debitsConfirmed h.debitsConfirmed
  cases hDebited with
  | debited | alreadyDebited =>
      exact ⟨h.sweepsExact, h.ratingSweepsKnown, h.depositSweepsReceived,
        fun k hKey => h.withdrawalsKnown k
          ((Table.hasKey_update (WithdrawalRequest.markConfirmed_id now)).1 hKey),
        hDebits⟩

theorem WithdrawalsMoved.balanced (hMoved : WithdrawalsMoved books books')
    (h : books.Balanced a mint u) : books'.Balanced a mint u := by
  obtain ⟨f, hf, rfl, hRows⟩ := hMoved
  refine h.of_held rfl ?_ rfl
  have hConfirmed : Books.confirmedMinor { books with
      withdrawals := books.withdrawals.modify f hf } a = books.confirmedMinor a := by
    refine Table.sum_modify_of_eq hf fun w hw => ?_
    have hw := hRows w hw
    simp only [hw.account, hw.confirmed, hw.amount]
  rw [hConfirmed]
  rfl

theorem WithdrawalsMoved.sourced (hMoved : WithdrawalsMoved books books')
    (h : Sourced a u books nextId) : Sourced a u books' nextId := by
  have hDebits := hMoved.debitsConfirmed h.debitsConfirmed
  obtain ⟨f, hf, rfl, -⟩ := hMoved
  exact ⟨h.sweepsExact, h.ratingSweepsKnown, h.depositSweepsReceived,
    fun k hKey => h.withdrawalsKnown k ((Table.hasKey_modify hf).1 hKey), hDebits⟩

end

/-! ### Histories -/

/-- The invariant of a history in SPL mode. -/
def Custody (a : AccountId) (mint : Mint) (u : Int) (db : BillingDb) : Prop :=
  db.books.Balanced a mint u ∧ Sourced a u db.books db.nextId

section

variable {db db' : BillingDb} {a : AccountId} {mint : Mint} {u : Int}

theorem Custody.of_books (h : Custody a mint u db) (hBooks : db'.books = db.books)
    (hNext : db.nextId ≤ db'.nextId) : Custody a mint u db' := by
  rw [Custody, hBooks]
  exact ⟨h.1, h.2.mono hNext⟩

theorem BillingOp.apply_custody {op : BillingOp} (hu : 0 < u) (hMode : InSplMode a mint u op)
    (h : Custody a mint u db) : Custody a mint u (op.apply db) := by
  have hBalanced := h.1
  have hSourced := h.2
  cases op with
  | applyBillingCredit input =>
      refine transaction_keeps (Custody a mint u) h fun _ db' hOk => ?_
      obtain ⟨hNext, ⟨hSame, -⟩ | hPosted⟩ := applyBillingCredit_spec hOk
      · exact h.of_books hSame hNext.ge
      · exact ⟨hPosted.balanced hMode.1 hBalanced, hNext ▸ hPosted.sourced hMode.2 hSourced⟩
  | settleRatingCandidate candidate config =>
      refine transaction_keeps (Custody a mint u) h fun _ db' hOk => ?_
      obtain ⟨hNext, hSame | ⟨n, -, -, hPosted⟩⟩ := settleRatingCandidate_spec hOk
      · exact h.of_books hSame hNext.le
      · exact ⟨hPosted.balanced hMode hu hSourced hBalanced, hPosted.sourced hMode hNext hSourced⟩
  | creditDirectDeposit accountId signature amount config =>
      refine transaction_keeps (Custody a mint u) h fun _ db' hOk => ?_
      obtain ⟨hNext, ⟨hSame, -⟩ | hCredited⟩ := creditDirectDeposit_spec hOk
      · exact h.of_books hSame hNext
      · exact ⟨hCredited.balanced hMode hu hSourced hBalanced,
          (hCredited.sourced (fun ha => (hMode ha).2.1) hSourced).mono hNext⟩
  | importDoubleZeroUsage records config => exact hMode.elim
  | createWithdrawalRequest actor input config =>
      refine transaction_keeps (Custody a mint u) h fun _ db' hOk => ?_
      obtain ⟨hNext, hSame | ⟨hNew, hReserved, -⟩⟩ := createWithdrawalRequest_spec hOk
      · exact h.of_books hSame hNext
      · exact ⟨hReserved.balanced hBalanced, hReserved.sourced hNew hSourced⟩
  | cancelOwnedWithdrawal actor id =>
      refine transaction_keeps (Custody a mint u) h fun _ db' hOk => ?_
      obtain ⟨hNext, hSame | hReleased⟩ := cancelOwnedWithdrawal_spec hOk
      · exact h.of_books hSame hNext.ge
      · exact ⟨hReleased.balanced hBalanced, hNext ▸ hReleased.sourced hSourced⟩
  | claimWithdrawalSigningJob locked key =>
      refine transaction_keeps (Custody a mint u) h fun _ db' hOk => ?_
      obtain ⟨hNext, hMoved⟩ := claimWithdrawalSigningJob_spec hOk
      exact ⟨hMoved.balanced hBalanced, hNext ▸ hMoved.sourced hSourced⟩
  | recordWithdrawalSubmission id signature =>
      refine transaction_keeps (Custody a mint u) h fun _ db' hOk => ?_
      obtain ⟨hNext, hMoved⟩ := markWithdrawalSubmitted_spec hOk
      exact ⟨hMoved.balanced hBalanced, hNext ▸ hMoved.sourced hSourced⟩
  | failWithdrawalSubmission id =>
      refine transaction_keeps (Custody a mint u) h fun _ db' hOk => ?_
      obtain ⟨hNext, hMoved⟩ := markWithdrawalFailed_spec hOk
      exact ⟨hMoved.balanced hBalanced, hNext ▸ hMoved.sourced hSourced⟩
  | confirmWithdrawal accountId id =>
      refine transaction_keeps (Custody a mint u) h fun _ db' hOk => ?_
      obtain ⟨hNext, hSame | hDebited⟩ := confirmWithdrawal_spec hOk
      · exact h.of_books hSame hNext.ge
      · exact ⟨hDebited.balanced hSourced hBalanced, hNext ▸ hDebited.sourced hSourced⟩
  | environment usage now => exact h

theorem custody_emptyDb {usage : UsageTables} {now : Timestamp} :
    Custody a mint u (emptyDb usage now) := by
  refine ⟨?_, ?_, ?_, ?_, ?_, ?_⟩
  · simp [Books.Balanced, Books.receivedBaseUnits, Books.sweptMinor, Books.confirmedMinor, emptyDb,
      emptyBuckets, zeroAmount]
  all_goals simp [emptyDb, Table.HasKey, Books.DebitsConfirmed]

/-- In every history in SPL mode the tokens an account has sent in are its cash, its sweeps and
its confirmed withdrawals at the rate of the deployment, plus the stored remainder; so what is
owed to the customer and to the treasury is covered. -/
theorem custody_conserved {usage : UsageTables} {now : Timestamp} {ops : List BillingOp}
    (hu : 0 < u) (hMode : ∀ op ∈ ops, InSplMode a mint u op) :
    let books := ((emptyDb usage now).after ops).books
    books.receivedBaseUnits a =
        u * ((books.buckets a).val.cashMinor + books.sweptMinor a + books.confirmedMinor a) +
          (books.depositRemainders a mint).val ∧
      (∀ sweep ∈ books.sweeps.rows, sweep.accountId = a →
        sweep.tokenAmountBaseUnits = u * sweep.amountMinor) ∧
      u * (books.buckets a).val.cashMinor + books.sweptBaseUnits a + u * books.confirmedMinor a ≤
        books.receivedBaseUnits a := by
  intro books
  have hCustody : Custody a mint u ((emptyDb usage now).after ops) := by
    have hMeet : StepsMeet step (fun _ op => InSplMode a mint u op) (emptyDb usage now) ops :=
      stepsMeet_of_forall fun op hOp _ => hMode op hOp
    refine run_invariant_of_stepsMeet ?_ custody_emptyDb run_step hMeet
    intro d op d' hd hOp hStep
    cases hStep
    exact BillingOp.apply_custody hu hOp hd
  obtain ⟨hBalanced, hSourced⟩ := hCustody
  refine ⟨hBalanced, hSourced.sweepsExact, ?_⟩
  have hSwept : books.sweptBaseUnits a = u * books.sweptMinor a := by
    refine Table.sum_eq_mul fun sweep hMem => ?_
    split
    · rename_i ha
      exact hSourced.sweepsExact sweep hMem ha
    · exact (Int.mul_zero u).symm
  have hRemainder := (books.depositRemainders a mint).2.1
  rw [hSwept, hBalanced]
  linarith

/-- A deposit of two cents and a half, delivered twice. -/
theorem custody_conserved_deposit :
    let books := ((emptyDb soleAccount 0).after
      [.creditDirectDeposit 1 9 25000 splConfig, .creditDirectDeposit 1 9 25000 splConfig]).books
    books.receivedBaseUnits 1 =
        10000 * ((books.buckets 1).val.cashMinor + books.sweptMinor 1 + books.confirmedMinor 1) +
          (books.depositRemainders 1 1).val ∧
      (∀ sweep ∈ books.sweeps.rows, sweep.accountId = 1 →
        sweep.tokenAmountBaseUnits = 10000 * sweep.amountMinor) ∧
      10000 * (books.buckets 1).val.cashMinor + books.sweptBaseUnits 1 +
        10000 * books.confirmedMinor 1 ≤ books.receivedBaseUnits 1 :=
  custody_conserved (by decide) (by simp [InSplMode, splConfig])

end

end Hyperspace.Billing
