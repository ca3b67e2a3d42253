import Hyperspace.Billing.History

/-!
# The ledger and the buckets agree

The buckets of an account say what the ledger adds up to. Every scenario that writes one side
writes the other by the same amount, except the import of DoubleZero usage, which debits the
ledger only.
-/

namespace Hyperspace.Billing

open Hyperspace.Foundations

/-- The buckets of the account add up to its ledger entries. -/
def Books.Agrees (books : Books) (a : AccountId) : Prop :=
  (books.buckets a).val.balance = books.ledgerBalance a

instance (books : Books) (a : AccountId) : Decidable (books.Agrees a) :=
  inferInstanceAs (Decidable (_ = _))

/-! ### Postings -/

theorem EntryAdded.ledgerBalance {books : Books} {ledger : Table LedgerEntry.key} {a a' : AccountId}
    {key : SourceType × Identifier} {n : Int} (h : EntryAdded books.ledger a key n ledger)
    (hAccount : a = a') : { books with ledger }.ledgerBalance a' = books.ledgerBalance a' + n := by
  obtain ⟨entry, hInsert, hEntry, -, rfl⟩ := h.added
  simp only [Books.ledgerBalance, Table.sum_insert hInsert, hEntry.trans hAccount, if_true]

theorem EntryAdded.ledgerBalance_of_ne {books : Books} {ledger : Table LedgerEntry.key}
    {a a' : AccountId} {key : SourceType × Identifier} {n : Int}
    (h : EntryAdded books.ledger a key n ledger) (hAccount : a ≠ a') :
    { books with ledger }.ledgerBalance a' = books.ledgerBalance a' := by
  obtain ⟨entry, hInsert, hEntry, -, -⟩ := h.added
  simp only [Books.ledgerBalance, Table.sum_insert hInsert]
  rw [if_neg (hEntry ▸ hAccount), Int.add_zero]

/-- An entry with the same movement of the buckets keeps every account in agreement. -/
theorem Books.Agrees.post {books : Books} {ledger : Table LedgerEntry.key} {a a' : AccountId}
    {key : SourceType × Identifier} {n : Int} {buckets : StoredBuckets} (h : books.Agrees a')
    (hEntry : EntryAdded books.ledger a key n ledger)
    (hBuckets : a = a' → buckets.val.balance = (books.buckets a).val.balance + n) :
    (books.post ledger a buckets).Agrees a' := by
  rcases eq_or_ne a a' with rfl | hne
  · have hLedger := hEntry.ledgerBalance rfl
    simp only [Books.Agrees] at h ⊢
    calc ((books.post ledger a buckets).buckets a).val.balance
        = buckets.val.balance := by simp [Books.post]
      _ = books.ledgerBalance a + n := by rw [hBuckets rfl, h]
      _ = (books.post ledger a buckets).ledgerBalance a := hLedger.symm
  · have hLedger := hEntry.ledgerBalance_of_ne hne
    simp only [Books.Agrees] at h ⊢
    calc ((books.post ledger a buckets).buckets a').val.balance
        = (books.buckets a').val.balance := by simp [Books.post, Function.update_of_ne hne.symm]
      _ = books.ledgerBalance a' := h
      _ = (books.post ledger a buckets).ledgerBalance a' := hLedger.symm

theorem Books.Agrees.congr {books books' : Books} {a : AccountId} (h : books.Agrees a)
    (hLedger : books'.ledger = books.ledger)
    (hBuckets : (books'.buckets a).val.balance = (books.buckets a).val.balance) :
    books'.Agrees a := by
  simp only [Books.Agrees, Books.ledgerBalance, hLedger, hBuckets] at h ⊢
  exact h

section

variable {books books' : Books} {a a' : AccountId} {n : Int}

theorem CreditPosted.agrees {input : BillingCreditInput} (hPosted : CreditPosted input books books')
    (hExact : input.accountId = a →
      CreditIsExact (books.buckets input.accountId).val input.amountMinor.num input.kind)
    (h : books.Agrees a) : books'.Agrees a := by
  cases hPosted with
  | mk hValid hEntry hAmount hRead =>
      exact h.post hEntry fun ha => applyBucketCredit_balance hRead hAmount (hExact ha)

theorem ChargePosted.agrees {config : RetailBillingRuntimeConfig} {ratingId : Identifier}
    (hPosted : ChargePosted config a' ratingId n books books') (hCharge : 0 ≤ n)
    (hSmall : n ≤ 2 ^ 52) (h : books.Agrees a) : books'.Agrees a := by
  cases hPosted with
  | mk hValid hEntry hRead hSweep =>
      refine (h.post hEntry fun _ => ?_).congr rfl rfl
      rw [consumeBillingCharge_balance hRead hCharge hSmall]
      omega

theorem DepositPosted.agrees {config : BillingConfig} {signature : Identifier}
    (hPosted : DepositPosted config a' signature n books books') (hAmount : 0 ≤ n)
    (hInt : FitsInt n) (h : books.Agrees a) : books'.Agrees a := by
  cases hPosted with
  | mk hValid hEntry hRead hSweep =>
      exact (h.post hEntry fun _ =>
        applyBucketCredit_balance hRead hAmount (creditIsExact_of_fitsInt hRead hAmount hInt)).congr
          rfl rfl

theorem DepositCredited.agrees {config : BillingConfig} {signature : Identifier}
    {amountBaseUnits : Int}
    (hCredited : DepositCredited config a' signature amountBaseUnits books books')
    (h : books.Agrees a) : books'.Agrees a := by
  cases hCredited with
  | below hReceipt hBelow =>
      cases hReceipt with
      | mk => exact h.congr rfl rfl
  | posted hReceipt hPositive hPosted =>
      cases hReceipt with
      | mk hRemainder hConversion hInsert hSignature hAccount hAmount hInt =>
          exact hPosted.agrees hPositive.le hInt (h.congr rfl rfl)

/-- New balances of one account that own the same keep every account in agreement. -/
theorem Books.Agrees.update_buckets {buckets : StoredBuckets}
    {withdrawals : Table WithdrawalRequest.id}
    (hSame : buckets.val.balance = (books.buckets a').val.balance) (h : books.Agrees a) :
    Books.Agrees
      { books with withdrawals, buckets := Function.update books.buckets a' buckets } a := by
  refine h.congr rfl ?_
  rcases eq_or_ne a a' with rfl | hne
  · simp only [Function.update_self, hSame]
  · simp only [Function.update_of_ne hne]

theorem WithdrawalReserved.agrees {id : Identifier}
    (hReserved : WithdrawalReserved a' books id books') (h : books.Agrees a) :
    books'.Agrees a := by
  cases hReserved with
  | mk => exact h.update_buckets rfl

theorem WithdrawalReleased.agrees {id : Identifier} {now : Timestamp}
    (hReleased : WithdrawalReleased a' id now books books') (h : books.Agrees a) :
    books'.Agrees a := by
  cases hReleased with
  | mk => exact h.update_buckets rfl

theorem WithdrawalDebited.agrees {id : Identifier} {now : Timestamp}
    (hDebited : WithdrawalDebited a' id now books books') (h : books.Agrees a) :
    books'.Agrees a := by
  cases hDebited with
  | debited hValid hFound hAccount hStatus hEntry =>
      refine (h.post hEntry fun _ => ?_).congr rfl rfl
      simp only [BillingBucketsRow.balance]
      omega
  | alreadyDebited => exact h.congr rfl rfl

theorem WithdrawalsMoved.agrees (hMoved : WithdrawalsMoved books books') (h : books.Agrees a) :
    books'.Agrees a := by
  obtain ⟨f, hf, rfl, -⟩ := hMoved
  exact h.congr rfl rfl

end

/-! ### The DoubleZero import -/

/-- The account `resolveRecordAccount` finds. -/
def UsageTables.recordAccount (usage : UsageTables) (record : DoubleZeroUsageRecord) :
    Option AccountId :=
  match record.accountId, record.sessionId with
  | some accountId, _ => if accountId ∈ usage.accounts then some accountId else none
  | none, some sessionId => (usage.sessions.find? (·.id = sessionId)).bind (·.accountId)
  | none, none => none

/-- The record names this account, has a cost and is not rated yet. -/
def DoubleZeroUsageRecord.Charges (record : DoubleZeroUsageRecord) (config : BillingConfig)
    (db : BillingDb) (a : AccountId) : Prop :=
  (∃ recordId ∈ record.recordId,
      ¬ db.ratedUsageEvents.HasKey (.doublezeroUsageRecord, recordId)) ∧
    isInteger record.doubleZeroCostMinor ∧ 0 < record.doubleZeroCostMinor ∧
    db.usage.recordAccount record = some a ∧
    record.currency.getD config.currency = config.currency

instance (record : DoubleZeroUsageRecord) (config : BillingConfig) (db : BillingDb)
    (a : AccountId) : Decidable (record.Charges config db a) := by
  unfold DoubleZeroUsageRecord.Charges
  infer_instance

section

variable {db db' : BillingDb} {config : BillingConfig} {a : AccountId}

theorem resolveRecordAccount_spec {record : DoubleZeroUsageRecord}
    {r : Option AccountId × BillingDb} (h : resolveRecordAccount record db = .ok r) :
    r = (db.usage.recordAccount record, db) := by
  cases hRecord : record.accountId with
  | some accountId =>
      simp only [resolveRecordAccount, hRecord, findAccountId, bind_eq_ok, get_eq_ok,
        pure_eq_ok] at h
      obtain ⟨_, _, hr, h⟩ := h
      cases hr
      simp only [h, UsageTables.recordAccount, hRecord]
  | none =>
      cases hSession : record.sessionId with
      | some sessionId =>
          simp only [resolveRecordAccount, hRecord, hSession, findAccountIdForSession, bind_eq_ok,
            get_eq_ok, pure_eq_ok] at h
          obtain ⟨_, _, hr, h⟩ := h
          cases hr
          simp only [h, UsageTables.recordAccount, hRecord, hSession]
      | none =>
          simp only [resolveRecordAccount, hRecord, hSession, pure_eq_ok] at h
          simp only [h, UsageTables.recordAccount, hRecord, hSession]

/-- Between two records of an import: only the ledger and the rated events move, and the ledger
balance of `a` stays as it is. -/
structure ImportStep (a : AccountId) (db db' : BillingDb) : Prop where
  usage : db'.usage = db.usage
  rated : ∀ key, db.ratedUsageEvents.HasKey key → db'.ratedUsageEvents.HasKey key
  buckets : db'.books.buckets = db.books.buckets
  ledgerBalance : db'.books.ledgerBalance a = db.books.ledgerBalance a

theorem ImportStep.refl : ImportStep a db db := ⟨rfl, fun _ h => h, rfl, rfl⟩

theorem ImportStep.trans {db'' : BillingDb} (h : ImportStep a db db') (h' : ImportStep a db' db'') :
    ImportStep a db db'' :=
  ⟨h'.usage.trans h.usage, fun key hKey => h'.rated key (h.rated key hKey),
    h'.buckets.trans h.buckets, h'.ledgerBalance.trans h.ledgerBalance⟩

theorem ImportStep.not_charges {record : DoubleZeroUsageRecord} (h : ImportStep a db db')
    (hFree : ¬ record.Charges config db a) : ¬ record.Charges config db' a := by
  rintro ⟨⟨recordId, hRecord, hUnrated⟩, hInteger, hCost, hAccount, hCurrency⟩
  refine hFree ⟨⟨recordId, hRecord, fun hKey => hUnrated (h.rated _ hKey)⟩, hInteger, hCost, ?_,
    hCurrency⟩
  rw [← h.usage]
  exact hAccount

theorem rateDoubleZeroRecord_spec {recordId : Identifier} {accountId : AccountId}
    {record : DoubleZeroUsageRecord} {charge : Option Int}
    (hFree : accountId = a → record.doubleZeroCostMinor = 0 ∨
      db.ratedUsageEvents.HasKey (.doublezeroUsageRecord, recordId))
    (h : rateDoubleZeroRecord config recordId accountId record db = .ok (charge, db')) :
    ImportStep a db db' := by
  simp only [rateDoubleZeroRecord, bind_eq_ok] at h
  obtain ⟨_, db₁, hAccount, chargeMinor, db₂, hCharge, rated, db₃, hRated, h⟩ := h
  cases (ensureBillingAccount_spec hAccount).2
  obtain ⟨_, hCharge, hr⟩ := liftExcept_eq_ok.1 hCharge
  cases hr
  rcases insertRatedUsageEvent_spec hRated with ⟨hr, -⟩ | ⟨event, events, hInsert, hKey, hr⟩
  · cases hr
    cases pure_eq_ok.1 h
    exact ⟨rfl, fun _ h => h, rfl, rfl⟩
  · cases hr
    simp only [bind_eq_ok, pure_eq_ok] at h
    obtain ⟨inserted, db₄, hLedger, h⟩ := h
    cases h
    have hRatedMono : ∀ key, db.ratedUsageEvents.HasKey key → events.HasKey key :=
      fun key h => (Table.hasKey_insert hInsert).2 (.inl h)
    rcases insertLedgerEntry_spec hLedger with ⟨hr, -⟩ | ⟨ledger, hEntry, hr⟩
    · cases hr
      exact ⟨rfl, hRatedMono, rfl, rfl⟩
    · cases hr
      refine ⟨rfl, hRatedMono, rfl, ?_⟩
      have hAdded : EntryAdded db.books.ledger accountId (.ratedUsageEvent, db.nextId)
          (-chargeMinor) ledger := .of_insert hEntry
      rcases eq_or_ne accountId a with rfl | hne
      · -- a record of this account that was inserted is free
        rcases hFree rfl with hCost | hTaken
        · rw [hCost, calculateMarkedUpChargeMinor_zero] at hCharge
          cases hCharge
          exact (hAdded.ledgerBalance rfl).trans (by simp)
        · exact absurd (hKey ▸ hTaken) (Table.insert_eq_some hInsert).1
      · exact hAdded.ledgerBalance_of_ne hne

theorem importDoubleZeroRecord_spec {record : DoubleZeroUsageRecord}
    {outcome : Except RejectReason (Option Int)} (hFree : ¬ record.Charges config db a)
    (h : importDoubleZeroRecord config record db = .ok (outcome, db')) : ImportStep a db db' := by
  rw [importDoubleZeroRecord] at h
  cases hRecord : record.recordId with
  | none =>
      rw [hRecord] at h
      cases pure_eq_ok.1 h
      exact .refl
  | some recordId =>
      rw [hRecord] at h
      simp only at h
      split at h
      · cases pure_eq_ok.1 h
        exact .refl
      · rename_i hCost
        simp only [bind_eq_ok] at h
        obtain ⟨found, db₁, hFound, h⟩ := h
        cases resolveRecordAccount_spec hFound
        cases hAccount : db.usage.recordAccount record with
        | none =>
            rw [hAccount] at h
            cases pure_eq_ok.1 h
            exact .refl
        | some accountId =>
            rw [hAccount] at h
            simp only at h
            split at h
            · cases pure_eq_ok.1 h
              exact .refl
            · rename_i hCurrency
              simp only [bind_eq_ok, pure_eq_ok] at h
              obtain ⟨charge, db₂, hRate, h⟩ := h
              cases h
              refine rateDoubleZeroRecord_spec (fun ha => ?_) hRate
              by_contra hBoth
              rw [not_or] at hBoth
              simp only [Bool.or_eq_true, Bool.not_eq_true', decide_eq_true_eq, not_or,
                Bool.not_eq_false, not_lt] at hCost
              exact hFree ⟨⟨recordId, hRecord, hBoth.2⟩, hCost.1,
                lt_of_le_of_ne hCost.2 (Ne.symm hBoth.1), ha ▸ hAccount, not_not.1 hCurrency⟩

theorem importDoubleZeroRecords_spec {records : List DoubleZeroUsageRecord}
    {result result' : DoubleZeroUsageImportResult}
    (hFree : ∀ record ∈ records, ¬ record.Charges config db a)
    (h : importDoubleZeroRecords config records result db = .ok (result', db')) :
    ImportStep a db db' := by
  induction records generalizing db result with
  | nil =>
      cases pure_eq_ok.1 h
      exact .refl
  | cons record records ih =>
      simp only [importDoubleZeroRecords, bind_eq_ok] at h
      obtain ⟨outcome, db₁, hRecord, h⟩ := h
      have hStep := importDoubleZeroRecord_spec (hFree record List.mem_cons_self) hRecord
      have hRest : ∀ r ∈ records, ¬ r.Charges config db₁ a :=
        fun r hr => hStep.not_charges (hFree r (List.mem_cons_of_mem _ hr))
      exact hStep.trans (ih hRest h)

theorem importDoubleZeroUsage_spec {records : List DoubleZeroUsageRecord}
    {result : DoubleZeroUsageImportResult}
    (hFree : ∀ record ∈ records, ¬ record.Charges config db a)
    (h : importDoubleZeroUsage records config db = .ok (result, db')) : ImportStep a db db' := by
  simp only [importDoubleZeroUsage, insertDoubleZeroUsageImport, bind_eq_ok] at h
  obtain ⟨_, db₁, hImport, h⟩ := h
  cases freshId_eq_ok.1 hImport
  have hFirst : ImportStep a db { db with nextId := db.nextId + 1 } := ⟨rfl, fun _ h => h, rfl, rfl⟩
  exact hFirst.trans (importDoubleZeroRecords_spec
    (fun record hr => hFirst.not_charges (hFree record hr)) h)

end

/-! ### Histories -/

/-- The steps that keep the account in agreement: no import charges it, and no credit to it has a
sum that a double cannot hold. -/
def KeepsAgreement (a : AccountId) (db : BillingDb) : BillingOp → Prop
  | .importDoubleZeroUsage records config => ∀ record ∈ records, ¬ record.Charges config db a
  | .applyBillingCredit input =>
    input.accountId = a → db.books.ledger.HasKey (input.sourceType, input.sourceId) ∨
      CreditIsExact (db.books.buckets input.accountId).val input.amountMinor.num input.kind
  | _ => True

section

variable {db db' : BillingDb} {a : AccountId}

theorem CreditPosted.source_free {books books' : Books} {input : BillingCreditInput}
    (h : CreditPosted input books books') :
    ¬ books.ledger.HasKey (input.sourceType, input.sourceId) := by
  cases h with
  | mk hValid hEntry hAmount hRead =>
      obtain ⟨entry, hInsert, -, hKey, -⟩ := hEntry.added
      exact hKey ▸ (Table.insert_eq_some hInsert).1

theorem BillingOp.apply_agrees {op : BillingOp} (hKeeps : KeepsAgreement a db op)
    (h : db.books.Agrees a) : (op.apply db).books.Agrees a := by
  cases op with
  | applyBillingCredit input =>
      refine transaction_keeps (fun d => d.books.Agrees a) h fun _ db' hOk => ?_
      rcases (applyBillingCredit_spec hOk).2 with ⟨hSame, -⟩ | hPosted
      · exact hSame ▸ h
      · exact hPosted.agrees (fun ha => (hKeeps ha).resolve_left hPosted.source_free) h
  | settleRatingCandidate candidate config =>
      refine transaction_keeps (fun d => d.books.Agrees a) h fun _ db' hOk => ?_
      rcases (settleRatingCandidate_spec hOk).2 with hSame | ⟨n, hPositive, hSmall, hPosted⟩
      · exact hSame ▸ h
      · exact hPosted.agrees hPositive.le hSmall h
  | creditDirectDeposit accountId signature amount config =>
      refine transaction_keeps (fun d => d.books.Agrees a) h fun _ db' hOk => ?_
      rcases (creditDirectDeposit_spec hOk).2 with ⟨hSame, -⟩ | hCredited
      · exact hSame ▸ h
      · exact hCredited.agrees h
  | importDoubleZeroUsage records config =>
      refine transaction_keeps (fun d => d.books.Agrees a) h fun _ db' hOk => ?_
      have hStep := importDoubleZeroUsage_spec hKeeps hOk
      simp only [Books.Agrees, hStep.buckets, hStep.ledgerBalance]
      exact h
  | createWithdrawalRequest actor input config =>
      refine transaction_keeps (fun d => d.books.Agrees a) h fun _ db' hOk => ?_
      rcases (createWithdrawalRequest_spec hOk).2 with hSame | ⟨-, hReserved, -⟩
      · exact hSame ▸ h
      · exact hReserved.agrees h
  | cancelOwnedWithdrawal actor id =>
      refine transaction_keeps (fun d => d.books.Agrees a) h fun _ db' hOk => ?_
      rcases (cancelOwnedWithdrawal_spec hOk).2 with hSame | hReleased
      · exact hSame ▸ h
      · exact hReleased.agrees h
  | claimWithdrawalSigningJob locked key =>
      exact transaction_keeps (fun d => d.books.Agrees a) h fun _ db' hOk =>
        (claimWithdrawalSigningJob_spec hOk).2.agrees h
  | recordWithdrawalSubmission id signature =>
      exact transaction_keeps (fun d => d.books.Agrees a) h fun _ db' hOk =>
        (markWithdrawalSubmitted_spec hOk).2.agrees h
  | failWithdrawalSubmission id =>
      exact transaction_keeps (fun d => d.books.Agrees a) h fun _ db' hOk =>
        (markWithdrawalFailed_spec hOk).2.agrees h
  | confirmWithdrawal accountId id =>
      refine transaction_keeps (fun d => d.books.Agrees a) h fun _ db' hOk => ?_
      rcases (confirmWithdrawal_spec hOk).2 with hSame | hDebited
      · exact hSame ▸ h
      · exact hDebited.agrees h
  | environment usage now => exact h

/-- In every history whose steps keep the agreement, the buckets of the account match its ledger
in every state. -/
theorem ledger_matches_buckets {ops : List BillingOp} (hInit : db.books.Agrees a)
    (hKeeps : StepsMeet step (KeepsAgreement a) db ops) : (db.after ops).books.Agrees a := by
  have hStep : ∀ d op d', Books.Agrees d.books a → KeepsAgreement a d op → step d op = some d' →
      Books.Agrees d'.books a := by
    intro d op d' hAgrees hCond hOp
    cases hOp
    exact BillingOp.apply_agrees hCond hAgrees
  exact run_invariant_of_stepsMeet hStep hInit run_step hKeeps

/-- A month of a config that nothing covers. -/
def unpaidMonth : RetailRatingCandidate where
  accountId := 1
  sessionId := 3
  planVersionId := 1
  activeConfigMonthlyMinor := 50
  trafficPerGbMinor := 0
  windowStart := 0
  windowEnd := 2592000000000
  activeSeconds := 2592000
  bytesToDestination := 0
  bytesFromDestination := 0

/-- The month leaves a debt, and a credit of five dollars pays it. -/
def debtPaid : List BillingOp :=
  [.settleRatingCandidate unpaidMonth
      { mode := .enforce
        settlementLagSeconds := 60
        batchSize := 100
        tokenMint := 1
        tokenBaseUnitsPerBillingMinor := 10000 },
    .applyBillingCredit ⟨1, 500, .promotional, .adminManualCredit, 1⟩]

theorem ledger_matches_buckets_credit :
    (((emptyDb pilotAccount 0).after (debtPaid.take 1)).books.buckets 1).val.debtMinor = 50 ∧
      (((emptyDb pilotAccount 0).after debtPaid).books.buckets 1).val = ⟨0, 450, 0, 0⟩ ∧
      ((emptyDb pilotAccount 0).after debtPaid).books.Agrees 1 :=
  ⟨by decide +kernel, by decide +kernel,
    ledger_matches_buckets (by decide) ⟨trivial, fun _ => .inr (by decide +kernel), trivial⟩⟩

/-- A DoubleZero record with a cost of one dollar debits the ledger and leaves the buckets. -/
theorem importDoubleZeroUsage_breaks_agreement :
    ¬ ∀ (db : BillingDb) (ops : List BillingOp) (a : AccountId),
      db.books.Agrees a → (db.after ops).books.Agrees a := by
  intro hClaim
  have hAgrees := hClaim (emptyDb soleAccount 0)
    [.importDoubleZeroUsage [⟨some 7, some 1, none, 0, 3600000000, none, none, 100, none⟩]
      splConfig]
    1 (by decide)
  revert hAgrees
  decide +kernel

end

end Hyperspace.Billing
