import Hyperspace.Billing.StatementFrames

/-!
# Statements that succeed

For each statement, the rows and numbers with which it succeeds, and what it then leaves. Where the
rows it writes do not matter later, only that it succeeds.
-/

namespace Hyperspace.Billing

open Hyperspace.Foundations

section

variable {db : BillingDb} {a : AccountId} {n : Int}

theorem require_of {p : Prop} [Decidable p] {e : BillingError} (h : p) :
    require p e db = .ok ((), db) := require_eq_ok.2 ⟨h, rfl⟩

theorem ensureBillingAccount_ok (hAccount : a ∈ db.usage.accounts) :
    ensureBillingAccount a db = .ok ((), db) := by
  rw [ensureBillingAccount, bind_of_ok (get_eq_ok.2 rfl), require_of hAccount]

theorem ensurePrepaidBillingState_ok (hAccount : a ∈ db.usage.accounts) :
    ensurePrepaidBillingState a db =
      .ok ((), { db with usage := db.usage.ensureOpenPlan a db.now }) := by
  rw [ensurePrepaidBillingState, bind_of_ok (get_eq_ok.2 rfl), bind_of_ok (require_of hAccount)]
  rfl

theorem readBillingBuckets_ok (hAccount : a ∈ db.usage.accounts)
    (hRead : (db.books.buckets a).val.Read) :
    readBillingBuckets a db =
      .ok ((db.books.buckets a).val, { db with usage := db.usage.ensureOpenPlan a db.now }) := by
  rw [readBillingBuckets, bind_of_ok (ensurePrepaidBillingState_ok hAccount),
    bind_of_ok (get_eq_ok.2 rfl)]
  exact bind_of_ok (require_of ⟨hRead.cash, hRead.promotional, hRead.reserved, hRead.debt⟩)

theorem insertLedgerEntry_new {entry : LedgerEntry} {ledger : Table LedgerEntry.key}
    (hAmount : FitsBigint entry.amountMinor) (hInsert : db.books.ledger.insert entry = some ledger)
    (hAccount : entry.accountId ∈ db.usage.accounts) :
    insertLedgerEntry entry db = .ok (true, { db with books := { db.books with ledger } }) := by
  rw [insertLedgerEntry, bind_of_ok (require_of hAmount), bind_of_ok (get_eq_ok.2 rfl)]
  simp only [hInsert]
  rw [bind_of_ok (require_of hAccount), bind_of_ok (modifyBooks_eq_ok.2 rfl), pure_eq_ok]

theorem insertLedgerEntry_old {entry : LedgerEntry} (hAmount : FitsBigint entry.amountMinor)
    (hKey : db.books.ledger.HasKey entry.key) : insertLedgerEntry entry db = .ok (false, db) := by
  rw [insertLedgerEntry, bind_of_ok (require_of hAmount), bind_of_ok (get_eq_ok.2 rfl)]
  simp only [Table.insert_eq_none.2 hKey]
  rw [pure_eq_ok]

theorem writeBillingBuckets_ok {row : BillingBucketsRow} (hValid : row.Valid) :
    writeBillingBuckets a row db = .ok ((), { db with
      books := { db.books with
        buckets := Function.update db.books.buckets a ⟨row, hValid⟩ } }) := by
  rw [writeBillingBuckets, dif_pos hValid, modifyBooks_eq_ok]

theorem insertCashSweepRequest_nothing {input : CashSweepInput} (hAmount : input.amountMinor ≤ 0) :
    insertCashSweepRequest input db = .ok ((), db) := by
  rw [insertCashSweepRequest, dif_neg (fun h => absurd h.1 (not_lt.2 hAmount)), pure_eq_ok]

theorem convertDepositToBillingMinor_ok {r d u : Int} (hRemainder : 0 ≤ r) (hDeposit : 0 < d)
    (hUnit : 0 < u) (hSafe : (r + d) / u ≤ maxSafeInteger) :
    convertDepositToBillingMinor r d u = .ok ⟨(r + d) / u, (r + d) % u⟩ := by
  rw [convertDepositToBillingMinor, if_neg (by omega), if_neg (not_lt.2 hSafe)]
  rfl

theorem readSolanaDepositRemainderForUpdate_ok {mint : Mint} (hAccount : a ∈ db.usage.accounts) :
    readSolanaDepositRemainderForUpdate a mint db =
      .ok ((db.books.depositRemainders a mint).val, db) := by
  rw [readSolanaDepositRemainderForUpdate, bind_of_ok (get_eq_ok.2 rfl),
    bind_of_ok (require_of hAccount), pure_eq_ok]

theorem writeSolanaDepositRemainder_ok {mint : Mint} {n : Int} (hAmount : IsAmount n) :
    writeSolanaDepositRemainder a mint n db = .ok ((), { db with
      books := { db.books with
        depositRemainders := Function.update db.books.depositRemainders a
          (Function.update (db.books.depositRemainders a) mint ⟨n, hAmount⟩) } }) := by
  rw [writeSolanaDepositRemainder, dif_pos hAmount, modifyBooks_eq_ok]

/-- The receipt that `claimSolanaPaymentReceipt` inserts. -/
def ReceiptInput.receipt (input : ReceiptInput)
    (hAmount : 0 < input.amountBaseUnits ∧ FitsBigint input.amountBaseUnits)
    (hCredited : IsAmount input.creditedAmountMinor) : SolanaPaymentReceipt where
  transactionSignature := input.transactionSignature
  accountId := input.accountId
  tokenMint := input.tokenMint
  amountBaseUnits := input.amountBaseUnits
  creditedAmountMinor := input.creditedAmountMinor
  amount_valid := hAmount
  credited_valid := hCredited

theorem claimSolanaPaymentReceipt_new {input : ReceiptInput}
    {receipts : Table SolanaPaymentReceipt.transactionSignature}
    (hAmount : 0 < input.amountBaseUnits ∧ FitsBigint input.amountBaseUnits)
    (hCredited : IsAmount input.creditedAmountMinor)
    (hInsert : db.books.receipts.insert (input.receipt hAmount hCredited) = some receipts)
    (hInt : FitsInt input.creditedAmountMinor) (hAccount : input.accountId ∈ db.usage.accounts) :
    claimSolanaPaymentReceipt input db =
      .ok (true, { db with books := { db.books with receipts } }) := by
  rw [claimSolanaPaymentReceipt, dif_pos hAmount, dif_pos hCredited, bind_of_ok (get_eq_ok.2 rfl)]
  rw [ReceiptInput.receipt] at hInsert
  simp only [hInsert]
  rw [bind_of_ok (require_of hInt), bind_of_ok (require_of hAccount),
    bind_of_ok (modifyBooks_eq_ok.2 rfl), pure_eq_ok]

theorem claimSolanaPaymentReceipt_old {input : ReceiptInput} {existing : SolanaPaymentReceipt}
    (hAmount : 0 < input.amountBaseUnits ∧ FitsBigint input.amountBaseUnits)
    (hCredited : IsAmount input.creditedAmountMinor)
    (hFound : db.books.receipts.find? input.transactionSignature = some existing)
    (hInt : FitsInt existing.creditedAmountMinor) :
    claimSolanaPaymentReceipt input db = .ok (false, db) := by
  have hTaken : db.books.receipts.insert (input.receipt hAmount hCredited) = none := by
    refine Table.insert_eq_none.2 (Table.hasKey_iff.2 ⟨existing, ?_, ?_⟩)
    · exact (Table.find?_eq_some hFound).1
    · exact (Table.find?_eq_some hFound).2
  rw [claimSolanaPaymentReceipt, dif_pos hAmount, dif_pos hCredited, bind_of_ok (get_eq_ok.2 rfl)]
  rw [ReceiptInput.receipt] at hTaken
  simp only [hTaken, hFound]
  rw [bind_of_ok (require_of hInt), pure_eq_ok]

/-! ### The statements of a charge -/

theorem lockBillingAccrual_ok (hAccount : a ∈ db.usage.accounts) :
    lockBillingAccrual a db =
      .ok ((db.accruals a).val, { db with usage := db.usage.ensureOpenPlan a db.now }) := by
  rw [lockBillingAccrual, bind_of_ok (ensurePrepaidBillingState_ok hAccount)]
  rfl

theorem updateBillingAccrual_ok (hAmount : IsAmount n) :
    updateBillingAccrual a n db =
      .ok ((), { db with accruals := Function.update db.accruals a ⟨n, hAmount⟩ }) := by
  rw [updateBillingAccrual, dif_pos hAmount]
  rfl

theorem insertLedgerEntry_ok {entry : LedgerEntry} (hAmount : FitsBigint entry.amountMinor)
    (hAccount : entry.accountId ∈ db.usage.accounts) :
    ∃ inserted db', insertLedgerEntry entry db = .ok (inserted, db') ∧ db'.usage = db.usage := by
  rw [insertLedgerEntry, bind_of_ok (require_of hAmount), bind_of_ok (get_eq_ok.2 rfl)]
  cases db.books.ledger.insert entry with
  | none => exact ⟨_, _, rfl, rfl⟩
  | some ledger =>
      simp only
      rw [bind_of_ok (require_of hAccount)]
      exact ⟨_, _, rfl, rfl⟩

theorem insertCashSweepRequest_ok {input : CashSweepInput}
    (hFits : FitsBigint input.amountMinor ∧ FitsBigint input.tokenAmountBaseUnits)
    (hAccount : input.accountId ∈ db.usage.accounts) :
    ∃ db', insertCashSweepRequest input db = .ok ((), db') := by
  rw [insertCashSweepRequest]
  split
  · rw [bind_of_ok (get_eq_ok.2 rfl)]
    generalize db.books.sweeps.insert _ = recorded
    cases recorded with
    | none => exact ⟨_, rfl⟩
    | some sweeps =>
        simp only
        rw [bind_of_ok (require_of hAccount)]
        exact ⟨_, rfl⟩
  · exact ⟨_, rfl⟩

theorem fitsBigint_mul {x y k : Int} (hx : 0 ≤ x) (hxy : x ≤ y) (h : FitsBigint (y * k)) :
    FitsBigint (x * k) := by
  obtain ⟨hLow, hHigh⟩ := h
  rcases le_total 0 k with hk | hk
  · have hBelow : x * k ≤ y * k := mul_le_mul_of_nonneg_right hxy hk
    have hZero : 0 ≤ x * k := mul_nonneg hx hk
    exact ⟨by omega, by omega⟩
  · have hAbove : y * k ≤ x * k := mul_le_mul_of_nonpos_right hxy hk
    have hZero : x * k ≤ 0 := mul_nonpos_of_nonneg_of_nonpos hx hk
    exact ⟨by omega, by omega⟩

end

end Hyperspace.Billing
