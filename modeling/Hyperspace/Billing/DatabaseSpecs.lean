import Hyperspace.Billing.Database

/-!
# What the statements do

One lemma per statement: what is known of the result and of the next database when the statement
succeeds. Proofs about transactions take these and never unfold a statement.
-/

namespace Hyperspace.Billing

open Hyperspace.Foundations

/-- What `insertCashSweepRequest` can do to the sweep table. -/
inductive SweepRecorded (input : CashSweepInput) (sweeps : Table CashSweepRequest.key) :
    Table CashSweepRequest.key → Prop
  | nothingToSweep : input.amountMinor ≤ 0 ∨ input.tokenAmountBaseUnits ≤ 0 →
      SweepRecorded input sweeps sweeps
  | duplicate : sweeps.HasKey (input.sourceType, input.sourceId) →
      SweepRecorded input sweeps sweeps
  | recorded {sweep sweeps'} : sweeps.insert sweep = some sweeps' →
      sweep.accountId = input.accountId → sweep.key = (input.sourceType, input.sourceId) →
      sweep.amountMinor = input.amountMinor →
      sweep.tokenAmountBaseUnits = input.tokenAmountBaseUnits →
      sweep.transactionSignature = none →
      SweepRecorded input sweeps sweeps'

section

variable {α β : Type} {db db' : BillingDb}

/-! ### Sequencing -/

theorem bind_eq_ok {x : Tx α} {f : α → Tx β} {r : β × BillingDb} :
    (x >>= f) db = .ok r ↔ ∃ a db₁, x db = .ok (a, db₁) ∧ f a db₁ = .ok r := by
  cases hx : x db with
  | error e => simp [bind, StateT.bind, Except.bind, hx]
  | ok p =>
      obtain ⟨a, db₁⟩ := p
      simp [bind, StateT.bind, Except.bind, hx]

theorem bind_eq_error {x : Tx α} {f : α → Tx β} {e : BillingError} :
    (x >>= f) db = .error e ↔
      x db = .error e ∨ ∃ a db₁, x db = .ok (a, db₁) ∧ f a db₁ = .error e := by
  cases hx : x db with
  | error e' => simp [bind, StateT.bind, Except.bind, hx]
  | ok p =>
      obtain ⟨a, db₁⟩ := p
      simp [bind, StateT.bind, Except.bind, hx]

theorem bind_of_ok {x : Tx α} {f : α → Tx β} {a : α} {db₁ : BillingDb} (h : x db = .ok (a, db₁)) :
    (x >>= f) db = f a db₁ := by
  simp only [bind, StateT.bind, Except.bind, h]

@[simp] theorem pure_eq_ok {a : α} {r : α × BillingDb} :
    (pure a : Tx α) db = .ok r ↔ r = (a, db) :=
  Except.ok.injEq (a, db) r ▸ eq_comm

@[simp] theorem get_eq_ok {r : BillingDb × BillingDb} :
    (get : Tx BillingDb) db = .ok r ↔ r = (db, db) := by
  simp [get, getThe, MonadStateOf.get, StateT.get, pure, Except.pure, eq_comm]

@[simp] theorem set_eq_ok {r : PUnit × BillingDb} :
    (set db' : Tx PUnit) db = .ok r ↔ r = (⟨⟩, db') :=
  Except.ok.injEq (PUnit.unit, db') r ▸ eq_comm

@[simp] theorem modify_eq_ok {f : BillingDb → BillingDb} {r : PUnit × BillingDb} :
    (modify f : Tx PUnit) db = .ok r ↔ r = (⟨⟩, f db) := by
  simp [modify, modifyGet, MonadStateOf.modifyGet, StateT.modifyGet, pure, Except.pure, eq_comm]

@[simp] theorem throw_ne_ok {e : BillingError} {r : α × BillingDb} :
    ¬ (throw e : Tx α) db = .ok r := by
  simp [throw, throwThe, MonadExceptOf.throw, StateT.lift, bind, Except.bind]

@[simp] theorem require_eq_ok {p : Prop} [Decidable p] {e : BillingError}
    {r : Unit × BillingDb} : require p e db = .ok r ↔ p ∧ r = ((), db) := by
  rw [require]
  split <;> simp_all

@[simp] theorem modifyBooks_eq_ok {f : Books → Books} {r : Unit × BillingDb} :
    modifyBooks f db = .ok r ↔ r = ((), { db with books := f db.books }) := by
  simp [modifyBooks]

@[simp] theorem freshId_eq_ok {r : Identifier × BillingDb} :
    freshId db = .ok r ↔ r = (db.nextId, { db with nextId := db.nextId + 1 }) := by
  simp only [freshId, bind_eq_ok, get_eq_ok, set_eq_ok, pure_eq_ok]
  constructor
  · rintro ⟨_, _, h₁, _, _, h₂, h⟩
    cases h₁
    cases h₂
    exact h
  · rintro rfl
    exact ⟨_, _, rfl, _, _, rfl, rfl⟩

theorem transaction_of_ok {body : Tx α} {a : α} (h : body db = .ok (a, db')) :
    transaction body db = (.ok a, db') := by
  rw [transaction, StateT.run, h]

theorem ok_of_transaction {body : Tx α} {a : α} (h : (transaction body db).1 = .ok a) :
    ∃ db', body db = .ok (a, db') := by
  cases hBody : body db with
  | error e => simp [transaction, StateT.run, hBody] at h
  | ok r =>
      rw [transaction_of_ok hBody] at h
      cases h
      exact ⟨r.2, rfl⟩

/-- A property of the database before a transaction and after every commit of its body. -/
theorem transaction_keeps {body : Tx α} (P : BillingDb → Prop) (hBefore : P db)
    (hCommit : ∀ a db', body db = .ok (a, db') → P db') : P (transaction body db).2 := by
  cases h : body db with
  | error e => simpa [transaction, StateT.run, h] using hBefore
  | ok r =>
      obtain ⟨a, db'⟩ := r
      simpa [transaction, StateT.run, h] using hCommit a db' h

/-! ### Accounts and plans -/

theorem ensureBillingAccount_spec {a : AccountId} {r : Unit × BillingDb}
    (h : ensureBillingAccount a db = .ok r) : a ∈ db.usage.accounts ∧ r = ((), db) := by
  simpa [ensureBillingAccount, bind_eq_ok] using h

theorem ensurePrepaidBillingState_spec {a : AccountId} {r : Unit × BillingDb}
    (h : ensurePrepaidBillingState a db = .ok r) :
    a ∈ db.usage.accounts ∧
      r = ((), { db with usage := db.usage.ensureOpenPlan a db.now }) := by
  simpa [ensurePrepaidBillingState, bind_eq_ok] using h

/-- The plan an account is on. -/
def UsageTables.currentPlan (usage : UsageTables) (a : AccountId) : Option BillingPlanVersion :=
  (usage.openPlanAssignment a).bind fun assignment =>
    usage.planVersions.find? (·.id = assignment.planVersionId)

theorem readCurrentBillingPlan_spec {a : AccountId} {r : BillingPlanVersion × BillingDb}
    (h : readCurrentBillingPlan a db = .ok r) :
    r.2 = { db with usage := db.usage.ensureOpenPlan a db.now } ∧
      r.2.usage.currentPlan a = some r.1 := by
  simp only [readCurrentBillingPlan, bind_eq_ok] at h
  obtain ⟨_, db₁, hEnsure, _, db₂, hGet, h⟩ := h
  obtain ⟨-, hdb₁⟩ := ensurePrepaidBillingState_spec hEnsure
  cases hdb₁
  rw [get_eq_ok] at hGet
  cases hGet
  cases hOpen : (db.usage.ensureOpenPlan a db.now).openPlanAssignment a with
  | none =>
      rw [hOpen] at h
      simp at h
  | some assignment =>
      rw [hOpen] at h
      simp only at h
      cases hPlan : (db.usage.ensureOpenPlan a db.now).planVersions.find?
          (·.id = assignment.planVersionId) with
      | none =>
          rw [hPlan] at h
          simp at h
      | some plan =>
          rw [hPlan] at h
          simp only [bind_eq_ok, require_eq_ok, pure_eq_ok] at h
          obtain ⟨_, _, ⟨-, hr⟩, h⟩ := h
          cases hr
          rw [h]
          exact ⟨rfl, by rw [UsageTables.currentPlan, hOpen]; exact hPlan⟩

theorem readBillingBuckets_spec {a : AccountId} {r : BillingBucketsRow × BillingDb}
    (h : readBillingBuckets a db = .ok r) :
    r = ((db.books.buckets a).val, { db with usage := db.usage.ensureOpenPlan a db.now }) ∧
      r.1.Read := by
  simp only [readBillingBuckets, bind_eq_ok] at h
  obtain ⟨_, db₁, hEnsure, _, db₂, hGet, _, db₃, hCasts, h⟩ := h
  obtain ⟨-, hdb₁⟩ := ensurePrepaidBillingState_spec hEnsure
  cases hdb₁
  rw [get_eq_ok] at hGet
  cases hGet
  obtain ⟨⟨hCash, hPromotional, hReserved, hDebt⟩, hr⟩ := require_eq_ok.1 hCasts
  cases hr
  rw [pure_eq_ok] at h
  subst h
  exact ⟨rfl, (db.books.buckets a).2, hCash, hPromotional, hReserved, hDebt⟩

/-! ### Ledger and buckets -/

theorem insertLedgerEntry_spec {entry : LedgerEntry} {r : Bool × BillingDb}
    (h : insertLedgerEntry entry db = .ok r) :
    r = (false, db) ∧ db.books.ledger.HasKey entry.key ∨
      ∃ ledger, db.books.ledger.insert entry = some ledger ∧
        r = (true, { db with books := { db.books with ledger } }) := by
  simp only [insertLedgerEntry, bind_eq_ok] at h
  obtain ⟨_, db₁, hAmount, _, db₂, hGet, h⟩ := h
  obtain ⟨-, hdb₁⟩ := require_eq_ok.1 hAmount
  cases hdb₁
  rw [get_eq_ok] at hGet
  cases hGet
  cases hInsert : db.books.ledger.insert entry with
  | none =>
      rw [hInsert] at h
      exact .inl ⟨pure_eq_ok.1 h, Table.insert_eq_none.1 hInsert⟩
  | some ledger =>
      rw [hInsert] at h
      simp only [bind_eq_ok, require_eq_ok, modifyBooks_eq_ok, pure_eq_ok] at h
      obtain ⟨_, _, ⟨-, hr₁⟩, _, _, hr₂, h⟩ := h
      cases hr₁
      cases hr₂
      exact .inr ⟨ledger, rfl, h⟩

theorem writeBillingBuckets_spec {a : AccountId} {row : BillingBucketsRow}
    {r : Unit × BillingDb} (h : writeBillingBuckets a row db = .ok r) :
    ∃ hValid : row.Valid, r = ((), { db with
      books := { db.books with
        buckets := Function.update db.books.buckets a ⟨row, hValid⟩ } }) := by
  rw [writeBillingBuckets] at h
  split at h
  · rename_i hValid
    exact ⟨hValid, modifyBooks_eq_ok.1 h⟩
  · simp at h

/-! ### Ratings and accruals -/

theorem lockBillingAccrual_spec {a : AccountId} {r : Int × BillingDb}
    (h : lockBillingAccrual a db = .ok r) :
    r = ((db.accruals a).val, { db with usage := db.usage.ensureOpenPlan a db.now }) := by
  simp only [lockBillingAccrual, bind_eq_ok] at h
  obtain ⟨_, db₁, hEnsure, _, db₂, hGet, h⟩ := h
  obtain ⟨-, hdb₁⟩ := ensurePrepaidBillingState_spec hEnsure
  cases hdb₁
  rw [get_eq_ok] at hGet
  cases hGet
  exact pure_eq_ok.1 h

theorem updateBillingAccrual_spec {a : AccountId} {n : Int} {r : Unit × BillingDb}
    (h : updateBillingAccrual a n db = .ok r) :
    ∃ hAmount : IsAmount n,
      r = ((), { db with accruals := Function.update db.accruals a ⟨n, hAmount⟩ }) := by
  rw [updateBillingAccrual] at h
  split at h
  · rename_i hAmount
    exact ⟨hAmount, modify_eq_ok.1 h⟩
  · simp at h

theorem insertRetailUsageRating_spec {input : RatingInput} {r : Option Identifier × BillingDb}
    (h : insertRetailUsageRating input db = .ok r) :
    ∃ hValid : input.Valid,
      r = (none, { db with nextId := db.nextId + 1 }) ∨
      ∃ ratings, db.ratings.insert (input.toRating db.nextId hValid) = some ratings ∧
        r = (some db.nextId, { db with ratings, nextId := db.nextId + 1 }) := by
  rw [insertRetailUsageRating] at h
  split at h
  · rename_i hValid
    refine ⟨hValid, ?_⟩
    simp only [bind_eq_ok] at h
    obtain ⟨_, db₁, hFresh, _, db₂, hGet, h⟩ := h
    cases freshId_eq_ok.1 hFresh
    cases get_eq_ok.1 hGet
    simp only at h
    cases hInsert : db.ratings.insert (input.toRating db.nextId hValid) with
    | none =>
        rw [hInsert] at h
        exact .inl (pure_eq_ok.1 h)
    | some ratings =>
        rw [hInsert] at h
        simp only [bind_eq_ok, require_eq_ok, set_eq_ok, pure_eq_ok] at h
        obtain ⟨_, _, ⟨-, hr₁⟩, _, _, hr₂, h⟩ := h
        cases hr₁
        cases hr₂
        exact .inr ⟨ratings, rfl, h⟩
  · simp at h

theorem markRatingPosted_spec {id : Identifier} {n : Int} {r : Unit × BillingDb}
    (h : markRatingPosted id n db = .ok r) :
    ∃ ratings, r = ((), { db with ratings }) := by
  rw [markRatingPosted, modify_eq_ok] at h
  exact ⟨_, h⟩

/-! ### Deposits and cash sweeps -/

theorem insertCashSweepRequest_spec {input : CashSweepInput} {r : Unit × BillingDb}
    (h : insertCashSweepRequest input db = .ok r) :
    ∃ sweeps, SweepRecorded input db.books.sweeps sweeps ∧
      r = ((), { db with books := { db.books with sweeps } }) := by
  rw [insertCashSweepRequest] at h
  split at h
  · split at h
    · simp only [bind_eq_ok] at h
      obtain ⟨_, db₁, hGet, h⟩ := h
      cases get_eq_ok.1 hGet
      generalize hInsert : db.books.sweeps.insert _ = inserted at h
      cases inserted with
      | none => exact ⟨_, .duplicate (Table.insert_eq_none.1 hInsert), pure_eq_ok.1 h⟩
      | some sweeps =>
          simp only [bind_eq_ok, require_eq_ok, modifyBooks_eq_ok] at h
          obtain ⟨_, _, ⟨-, hr₁⟩, h⟩ := h
          cases hr₁
          exact ⟨_, .recorded hInsert rfl rfl rfl rfl rfl, h⟩
    · simp at h
  · rename_i hEmpty
    exact ⟨_, .nothingToSweep (by omega), pure_eq_ok.1 h⟩

theorem claimSolanaPaymentReceipt_spec {input : ReceiptInput} {r : Bool × BillingDb}
    (h : claimSolanaPaymentReceipt input db = .ok r) :
    (r = (false, db) ∧ db.books.receipts.HasKey input.transactionSignature) ∨
    ∃ (receipt : SolanaPaymentReceipt) (receipts : Table SolanaPaymentReceipt.transactionSignature),
      db.books.receipts.insert receipt = some receipts ∧
      receipt.transactionSignature = input.transactionSignature ∧
      receipt.accountId = input.accountId ∧ receipt.amountBaseUnits = input.amountBaseUnits ∧
      FitsInt input.creditedAmountMinor ∧
      r = (true, { db with books := { db.books with receipts } }) := by
  rw [claimSolanaPaymentReceipt] at h
  split at h
  · split at h
    · simp only [bind_eq_ok] at h
      obtain ⟨_, db₁, hGet, h⟩ := h
      cases get_eq_ok.1 hGet
      generalize hInsert : db.books.receipts.insert _ = inserted at h
      cases inserted with
      | some receipts =>
          simp only [bind_eq_ok, require_eq_ok, modifyBooks_eq_ok, pure_eq_ok] at h
          obtain ⟨_, _, ⟨hInt, hr₁⟩, _, _, ⟨-, hr₂⟩, _, _, hr₃, h⟩ := h
          cases hr₁
          cases hr₂
          cases hr₃
          exact .inr ⟨_, receipts, hInsert, rfl, rfl, rfl, hInt, h⟩
      | none =>
          simp only at h
          generalize db.books.receipts.find? _ = found at h
          cases found with
          | none => simp at h
          | some existing =>
              simp only [bind_eq_ok, require_eq_ok, pure_eq_ok] at h
              obtain ⟨_, _, ⟨-, hr₁⟩, h⟩ := h
              cases hr₁
              exact .inl ⟨h, Table.insert_eq_none.1 hInsert⟩
    · simp at h
  · simp at h

theorem readSolanaDepositRemainderForUpdate_spec {a : AccountId} {mint : Mint}
    {r : Int × BillingDb} (h : readSolanaDepositRemainderForUpdate a mint db = .ok r) :
    r = ((db.books.depositRemainders a mint).val, db) := by
  simp only [readSolanaDepositRemainderForUpdate, bind_eq_ok] at h
  obtain ⟨_, db₁, hGet, _, db₂, hAccount, h⟩ := h
  cases get_eq_ok.1 hGet
  cases (require_eq_ok.1 hAccount).2
  exact pure_eq_ok.1 h

theorem writeSolanaDepositRemainder_spec {a : AccountId} {mint : Mint} {n : Int}
    {r : Unit × BillingDb} (h : writeSolanaDepositRemainder a mint n db = .ok r) :
    ∃ hAmount : IsAmount n, r = ((), { db with
      books := { db.books with
        depositRemainders := Function.update db.books.depositRemainders a
          (Function.update (db.books.depositRemainders a) mint ⟨n, hAmount⟩) } }) := by
  rw [writeSolanaDepositRemainder] at h
  split at h
  · rename_i hAmount
    exact ⟨hAmount, modifyBooks_eq_ok.1 h⟩
  · simp at h

/-! ### Withdrawals -/

theorem insertWithdrawalRequest_spec {input : WithdrawalInput}
    {r : WithdrawalRequest × BillingDb} (h : insertWithdrawalRequest input db = .ok r) :
    ∃ withdrawals, db.books.withdrawals.insert r.1 = some withdrawals ∧
      r.1.id = db.nextId ∧ r.1.status = .cooldown ∧ r.1.transactionSignature = none ∧
      r.1.amountMinor = input.amountMinor ∧ r.1.accountId = input.accountId ∧
      r.2 = { db with books := { db.books with withdrawals }, nextId := db.nextId + 1 } := by
  rw [insertWithdrawalRequest] at h
  split at h
  · split at h
    · simp only [bind_eq_ok] at h
      obtain ⟨_, db₁, hFresh, _, db₂, hGet, h⟩ := h
      cases freshId_eq_ok.1 hFresh
      cases get_eq_ok.1 hGet
      generalize hInsert : db.books.withdrawals.insert _ = inserted at h
      cases inserted with
      | none => simp at h
      | some withdrawals =>
          simp only [bind_eq_ok, require_eq_ok, modifyBooks_eq_ok, pure_eq_ok] at h
          obtain ⟨_, _, ⟨-, hr₁⟩, _, _, ⟨-, hr₂⟩, _, _, hr₃, h⟩ := h
          cases hr₁
          cases hr₂
          cases hr₃
          subst h
          exact ⟨withdrawals, hInsert, rfl, rfl, rfl, rfl, rfl, rfl⟩
    · simp at h
  · simp at h

theorem findWithdrawalForUpdate_spec {a : AccountId} {id : Identifier}
    {r : Option WithdrawalRequest × BillingDb} (h : findWithdrawalForUpdate a id db = .ok r) :
    r = (none, db) ∨
      ∃ w, db.books.withdrawals.find? id = some w ∧ w.accountId = a ∧ r = (some w, db) := by
  simp only [findWithdrawalForUpdate, bind_eq_ok] at h
  obtain ⟨_, db₁, hGet, h⟩ := h
  cases get_eq_ok.1 hGet
  cases hFind : db.books.withdrawals.find? id with
  | none =>
      rw [hFind] at h
      exact .inl (pure_eq_ok.1 h)
  | some w =>
      rw [hFind] at h
      simp only at h
      split at h
      · rename_i hAccount
        simp only [bind_eq_ok, require_eq_ok, pure_eq_ok] at h
        obtain ⟨_, _, ⟨-, hr₁⟩, h⟩ := h
        cases hr₁
        exact .inr ⟨w, rfl, hAccount, h⟩
      · exact .inl (pure_eq_ok.1 h)

theorem insertRatedUsageEvent_spec {input : RatedUsageInput} {r : Option Identifier × BillingDb}
    (h : insertRatedUsageEvent input db = .ok r) :
    (r = (none, { db with nextId := db.nextId + 1 }) ∧
      db.ratedUsageEvents.HasKey (.doublezeroUsageRecord, input.sourceId)) ∨
    ∃ event ratedUsageEvents,
      db.ratedUsageEvents.insert event = some ratedUsageEvents ∧
      event.key = (.doublezeroUsageRecord, input.sourceId) ∧
      r = (some db.nextId, { db with ratedUsageEvents, nextId := db.nextId + 1 }) := by
  simp only [insertRatedUsageEvent, bind_eq_ok] at h
  obtain ⟨_, db₁, hRange, _, db₂, hFresh, _, db₃, hGet, h⟩ := h
  cases (require_eq_ok.1 hRange).2
  cases freshId_eq_ok.1 hFresh
  cases get_eq_ok.1 hGet
  generalize hInsert : db.ratedUsageEvents.insert _ = inserted at h
  cases inserted with
  | none => exact .inl ⟨pure_eq_ok.1 h, Table.insert_eq_none.1 hInsert⟩
  | some ratedUsageEvents =>
      simp only [bind_eq_ok, require_eq_ok, set_eq_ok, pure_eq_ok] at h
      obtain ⟨_, _, ⟨-, hr₁⟩, _, _, hr₂, h⟩ := h
      cases hr₁
      cases hr₂
      exact .inr ⟨_, ratedUsageEvents, hInsert, rfl, h⟩

end

end Hyperspace.Billing
