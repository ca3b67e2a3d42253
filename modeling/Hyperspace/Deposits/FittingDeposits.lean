import Hyperspace.Billing.StatementSuccess
import Hyperspace.Deposits.Scan

/-!
# Deposits that fit

A deposit is converted in unbounded numbers and stored as `bigint`, but `RETURNING` and the read of
the buckets cast to `int`. Where the numbers fit, a deposit without a receipt is credited, whatever
the account owes.
-/

namespace Hyperspace.Deposits

open Hyperspace.Billing Hyperspace.Foundations

/-- The numbers of a deposit fit the types they go through. -/
structure DepositFits (db : BillingDb) (a : AccountId) (amountBaseUnits : Int)
    (config : BillingConfig) : Prop where
  account : a ∈ db.usage.accounts
  unit : 0 < config.solanaTokenBaseUnitsPerBillingMinor
  amount : 0 < amountBaseUnits ∧ FitsBigint amountBaseUnits
  /-- `credited_amount_minor::text::int`. -/
  credited : FitsInt (((db.books.depositRemainders a config.solanaTokenMint).val +
    amountBaseUnits) / config.solanaTokenBaseUnitsPerBillingMinor)
  remainder : FitsBigint (((db.books.depositRemainders a config.solanaTokenMint).val +
    amountBaseUnits) % config.solanaTokenBaseUnitsPerBillingMinor)
  /-- The casts of `readBillingBuckets`. -/
  balances : FitsInt (db.books.buckets a).val.cashMinor ∧
    FitsInt (db.books.buckets a).val.promotionalMinor ∧
    FitsInt (db.books.buckets a).val.reservedWithdrawalMinor ∧
    FitsInt (db.books.buckets a).val.debtMinor
  /-- The debt that may be repaid, in tokens. -/
  sweep : FitsBigint
    ((db.books.buckets a).val.debtMinor * config.solanaTokenBaseUnitsPerBillingMinor)

theorem depositFits_iff {db : BillingDb} {a : AccountId} {n : Int} {config : BillingConfig} :
    DepositFits db a n config ↔
      a ∈ db.usage.accounts ∧ 0 < config.solanaTokenBaseUnitsPerBillingMinor ∧
      (0 < n ∧ FitsBigint n) ∧
      FitsInt (((db.books.depositRemainders a config.solanaTokenMint).val + n) /
        config.solanaTokenBaseUnitsPerBillingMinor) ∧
      FitsBigint (((db.books.depositRemainders a config.solanaTokenMint).val + n) %
        config.solanaTokenBaseUnitsPerBillingMinor) ∧
      (FitsInt (db.books.buckets a).val.cashMinor ∧
        FitsInt (db.books.buckets a).val.promotionalMinor ∧
        FitsInt (db.books.buckets a).val.reservedWithdrawalMinor ∧
        FitsInt (db.books.buckets a).val.debtMinor) ∧
      FitsBigint
        ((db.books.buckets a).val.debtMinor * config.solanaTokenBaseUnitsPerBillingMinor) :=
  ⟨fun h => ⟨h.1, h.2, h.3, h.4, h.5, h.6, h.7⟩,
    fun ⟨h₁, h₂, h₃, h₄, h₅, h₆, h₇⟩ => ⟨h₁, h₂, h₃, h₄, h₅, h₆, h₇⟩⟩

instance (db : BillingDb) (a : AccountId) (n : Int) (config : BillingConfig) :
    Decidable (DepositFits db a n config) := decidable_of_iff' _ depositFits_iff

/-- A ledger entry of a deposit goes with a receipt. -/
def EntriesHaveReceipts (books : Books) : Prop :=
  ∀ signature, books.ledger.HasKey (.solanaDirectDeposit, signature) →
    books.receipts.HasKey signature

section

variable {db : BillingDb} {a : AccountId} {signature : Signature} {n : Int}
  {config : BillingConfig}

theorem exists_ok_bind {α β : Type} {x : Tx α} {f : α → Tx β} {v : α} {db' : BillingDb}
    (h : x db = .ok (v, db')) (hNext : ∃ r, f v db' = .ok r) : ∃ r, (x >>= f) db = .ok r := by
  rw [bind_of_ok h]
  exact hNext

/-- The part of a deposit that credits at least one billing unit, and repays debt first. -/
theorem postDirectDeposit_ok (hAccount : a ∈ db.usage.accounts)
    (hRead : (db.books.buckets a).val.Read)
    (hSweep : FitsBigint
      ((db.books.buckets a).val.debtMinor * config.solanaTokenBaseUnitsPerBillingMinor))
    (hFree : ¬ db.books.ledger.HasKey (.solanaDirectDeposit, signature)) (hAmount : 0 ≤ n)
    (hInt : FitsInt n) : ∃ r, postDirectDeposit a signature n config db = .ok r := by
  obtain ⟨ledger, hInsert⟩ := @Table.exists_insert _ _ _ _ db.books.ledger
    ⟨a, .topup, n, config.currency, .solanaDirectDeposit, signature⟩ hFree
  have hBigint : FitsBigint n := by
    simp only [FitsInt, FitsBigint] at hInt ⊢
    omega
  have hValid := @applyBucketCredit_valid _ _ .cash hRead hAmount hInt
  obtain ⟨db', hWrite, hUsage⟩ : ∃ db', writeBillingBuckets a
      (applyBucketCredit (db.books.buckets a).val n .cash)
        { db with
          books := { db.books with ledger }
          usage := db.usage.ensureOpenPlan a db.now } = .ok ((), db') ∧
      db'.usage = db.usage.ensureOpenPlan a db.now := ⟨_, writeBillingBuckets_ok hValid, rfl⟩
  rw [postDirectDeposit, bind_of_ok (insertLedgerEntry_new hBigint hInsert hAccount),
    bind_of_ok (require_of rfl)]
  refine exists_ok_bind (readBillingBuckets_ok hAccount hRead) (exists_ok_bind hWrite ?_)
  split
  · exact ⟨_, rfl⟩
  · have hRepaid : 0 ≤ (db.books.buckets a).val.debtMinor -
        (applyBucketCredit (db.books.buckets a).val n .cash).debtMinor :=
      sub_nonneg.2 (applyBucketCredit_debt_le hRead)
    have hOwed : (db.books.buckets a).val.debtMinor -
        (applyBucketCredit (db.books.buckets a).val n .cash).debtMinor ≤
          (db.books.buckets a).val.debtMinor := sub_le_self _ hValid.2.2.2.1.1
    have hDebt := hRead.debt
    obtain ⟨db'', hRecorded⟩ := @insertCashSweepRequest_ok db' (cashSweep a
      .directDepositDebtRepayment signature ((db.books.buckets a).val.debtMinor -
        (applyBucketCredit (db.books.buckets a).val n .cash).debtMinor) config.solanaTokenMint
      config.solanaTokenBaseUnitsPerBillingMinor)
      ⟨by simp only [FitsInt, FitsBigint, cashSweep] at hDebt ⊢; omega,
        fitsBigint_mul hRepaid hOwed hSweep⟩
      (by rw [hUsage, ensureOpenPlan_accounts]; exact hAccount)
    exact exists_ok_bind hRecorded ⟨_, rfl⟩

theorem DepositFits.credited_ok (h : DepositFits db a n config)
    (hEntries : EntriesHaveReceipts db.books) (hNew : ¬ db.books.receipts.HasKey signature) :
    ∃ r, creditDirectDeposit a signature n config db = .ok r := by
  obtain ⟨hAccount, hUnit, hAmount, hCredited, hRemainder, ⟨hCash, hPromotional, hReserved, hDebt⟩,
    hSweep⟩ := h
  have hRead : (db.books.buckets a).val.Read :=
    ⟨(db.books.buckets a).2, hCash, hPromotional, hReserved, hDebt⟩
  have hBefore := (db.books.depositRemainders a config.solanaTokenMint).2.1
  have hMinor : 0 ≤ ((db.books.depositRemainders a config.solanaTokenMint).val + n) /
      config.solanaTokenBaseUnitsPerBillingMinor :=
    Int.ediv_nonneg (add_nonneg hBefore hAmount.1.le) hUnit.le
  have hConvert : liftExcept (convertDepositToBillingMinor
      (db.books.depositRemainders a config.solanaTokenMint).val n
      config.solanaTokenBaseUnitsPerBillingMinor) db =
        .ok (⟨((db.books.depositRemainders a config.solanaTokenMint).val + n) /
            config.solanaTokenBaseUnitsPerBillingMinor,
          ((db.books.depositRemainders a config.solanaTokenMint).val + n) %
            config.solanaTokenBaseUnitsPerBillingMinor⟩, db) := by
    refine liftExcept_eq_ok.2 ⟨_, convertDepositToBillingMinor_ok hBefore hAmount.1 hUnit ?_, rfl⟩
    simp only [FitsInt, maxSafeInteger] at hCredited ⊢
    omega
  have hStored : IsAmount (((db.books.depositRemainders a config.solanaTokenMint).val + n) /
      config.solanaTokenBaseUnitsPerBillingMinor) := by
    simp only [FitsInt, IsAmount, FitsBigint] at hCredited ⊢
    omega
  obtain ⟨receipts, hInsert⟩ := @Table.exists_insert _ _ _ _ db.books.receipts
    (ReceiptInput.receipt ⟨signature, a, config.solanaTokenMint, n, _⟩ hAmount hStored) hNew
  rw [creditDirectDeposit, bind_of_ok (ensureBillingAccount_ok hAccount),
    bind_of_ok (readSolanaDepositRemainderForUpdate_ok hAccount), bind_of_ok hConvert,
    bind_of_ok (claimSolanaPaymentReceipt_new hAmount hStored hInsert hCredited hAccount),
    if_pos rfl, bind_of_ok (writeSolanaDepositRemainder_ok
      ⟨Int.emod_nonneg _ hUnit.ne', hRemainder⟩)]
  split
  · exact ⟨_, rfl⟩
  · exact @postDirectDeposit_ok
      { db with
        books := { db.books with
          receipts
          depositRemainders := Function.update db.books.depositRemainders a
            (Function.update (db.books.depositRemainders a) config.solanaTokenMint
              ⟨_, Int.emod_nonneg _ hUnit.ne', hRemainder⟩) } }
      a signature _ config hAccount hRead hSweep (fun hKey => hNew (hEntries _ hKey)) hMinor
      hCredited

end

end Hyperspace.Deposits
