import Hyperspace.Billing.StatementFrames
import Hyperspace.Foundations.Runs

/-!
# Histories of the billing database

A history is a list of committed or rolled back transactions in the order they take effect. Every
caller of the money scenarios is in it, and so is whatever the rest of the control plane does to
the tables that billing only reads.
-/

namespace Hyperspace.Billing

open Hyperspace.Foundations

/-- A database in which no money has moved yet. -/
def emptyDb (usage : UsageTables) (now : Timestamp) : BillingDb where
  books :=
    { buckets := fun _ => emptyBuckets, ledger := ∅, sweeps := ∅, receipts := ∅
      depositRemainders := fun _ _ => zeroAmount, withdrawals := ∅ }
  accruals := fun _ => zeroAmount
  ratings := ∅
  ratedUsageEvents := ∅
  usage
  nextId := 0
  now

/-- The operations of the billing database, one transaction each. -/
inductive BillingOp where
  | applyBillingCredit (input : BillingCreditInput)
  | settleRatingCandidate (candidate : RetailRatingCandidate) (config : RetailBillingRuntimeConfig)
  | creditDirectDeposit (accountId : AccountId) (transactionSignature : Identifier)
      (amountBaseUnits : Int) (config : BillingConfig)
  | importDoubleZeroUsage (records : List DoubleZeroUsageRecord) (config : BillingConfig)
  | createWithdrawalRequest (actor : SessionOwner) (input : CreateWithdrawalInput)
      (config : BillingConfig)
  | cancelOwnedWithdrawal (actor : SessionOwner) (withdrawalId : Identifier)
  | claimWithdrawalSigningJob (locked : List Identifier) (key : CustodialKey)
  | recordWithdrawalSubmission (withdrawalId transactionSignature : Identifier)
  | failWithdrawalSubmission (withdrawalId : Identifier)
  | confirmWithdrawal (accountId : AccountId) (withdrawalId : Identifier)
  /-- Time passes and other parts of the system write their own tables. -/
  | environment (usage : UsageTables) (now : Timestamp)

/-- The database after an operation, whether it commits or fails. -/
def BillingOp.apply (db : BillingDb) : BillingOp → BillingDb
  | .applyBillingCredit input => (transaction (Billing.applyBillingCredit input) db).2
  | .settleRatingCandidate candidate config =>
    (transaction (Billing.settleRatingCandidate candidate config) db).2
  | .creditDirectDeposit accountId signature amount config =>
    (transaction (Billing.creditDirectDeposit accountId signature amount config) db).2
  | .importDoubleZeroUsage records config =>
    (transaction (Billing.importDoubleZeroUsage records config) db).2
  | .createWithdrawalRequest actor input config =>
    (transaction (Billing.createWithdrawalRequest actor input config) db).2
  | .cancelOwnedWithdrawal actor id => (transaction (Billing.cancelOwnedWithdrawal actor id) db).2
  | .claimWithdrawalSigningJob locked key =>
    (transaction (Billing.claimWithdrawalSigningJob locked key) db).2
  | .recordWithdrawalSubmission id signature =>
    (transaction (Billing.recordWithdrawalSubmission id signature) db).2
  | .failWithdrawalSubmission id => (transaction (Billing.failWithdrawalSubmission id) db).2
  | .confirmWithdrawal accountId id => (transaction (Billing.confirmWithdrawal accountId id) db).2
  | .environment usage now => { db with usage, now }

/-- Every operation is possible in every state. -/
def step (db : BillingDb) (op : BillingOp) : Option BillingDb := some (op.apply db)

/-- The database after a history. -/
def BillingDb.after (db : BillingDb) (ops : List BillingOp) : BillingDb :=
  ops.foldl BillingOp.apply db

theorem BillingDb.after_append {db : BillingDb} {ops ops' : List BillingOp} :
    db.after (ops ++ ops') = (db.after ops).after ops' := List.foldl_append

theorem run_step {db : BillingDb} {ops : List BillingOp} :
    run step db ops = some (db.after ops) := by
  induction ops generalizing db with
  | nil => rfl
  | cons op ops ih => exact ih

/-- One account of one user, without sessions or plans. -/
def soleAccount : UsageTables where
  accounts := [1]
  users := [1]
  sessions := []
  assignments := []
  usageDeltas := []
  planVersions := []
  planAssignments := []

/-- The same account with a revoked session, where the pilot plan lets it withdraw a cent. -/
def pilotAccount : UsageTables :=
  { soleAccount with
    sessions := [⟨3, some 1, .revoked, .revoked⟩]
    planVersions :=
      [{ id := 1, code := "pilot", version := 1, activeConfigMonthlyMinor := 50
         trafficPerGbMinor := 0, gracePeriodSeconds := 0, withdrawalCooldownSeconds := 3600
         minimumWithdrawalMinor := 1, retiredAt := none }] }

/-- A deployment in SPL mode with ten thousand base units to a cent. -/
def splConfig : BillingConfig where
  currency := "USD"
  solanaTokenMint := 1
  solanaTokenBaseUnitsPerBillingMinor := 10000
  usageMarkupBps := 2000
  solanaAssetKind := .spl

/-! ### The withdrawal worker -/

/-- What the worker may change of a withdrawal that is not confirmed: nothing that counts money. -/
structure WithdrawalMoved (w w' : WithdrawalRequest) : Prop where
  id : w'.id = w.id
  account : w'.accountId = w.accountId
  amount : w'.amountMinor = w.amountMinor
  confirmed : w'.status = .confirmed ↔ w.status = .confirmed
  reserved : w'.status.isReserved = w.status.isReserved

/-- The withdrawals after some status changes of the worker. -/
def WithdrawalsMoved (books books' : Books) : Prop :=
  ∃ (f : WithdrawalRequest → WithdrawalRequest) (hf : ∀ w, (f w).id = w.id),
    books' = { books with withdrawals := books.withdrawals.modify f hf } ∧
      ∀ w ∈ books.withdrawals.rows, WithdrawalMoved w (f w)

theorem WithdrawalMoved.refl {w : WithdrawalRequest} : WithdrawalMoved w w :=
  ⟨rfl, rfl, rfl, Iff.rfl, rfl⟩

theorem WithdrawalMoved.trans {w w' w'' : WithdrawalRequest} (h : WithdrawalMoved w w')
    (h' : WithdrawalMoved w' w'') : WithdrawalMoved w w'' :=
  ⟨h'.id.trans h.id, h'.account.trans h.account, h'.amount.trans h.amount,
    h'.confirmed.trans h.confirmed, h'.reserved.trans h.reserved⟩

theorem WithdrawalsMoved.refl {books : Books} : WithdrawalsMoved books books :=
  ⟨id, fun _ => rfl, by rw [Table.modify_id], fun _ _ => .refl⟩

theorem WithdrawalsMoved.trans {books books' books'' : Books} (h : WithdrawalsMoved books books')
    (h' : WithdrawalsMoved books' books'') : WithdrawalsMoved books books'' := by
  obtain ⟨f, hf, rfl, hMoved⟩ := h
  obtain ⟨g, hg, rfl, hMoved'⟩ := h'
  refine ⟨g ∘ f, fun w => (hg _).trans (hf w), by simp only [Table.modify_modify], ?_⟩
  intro w hw
  have hMem : f w ∈ (books.withdrawals.modify f hf).rows := (Table.mem_modify hf).2 ⟨w, hw, rfl⟩
  exact (hMoved w hw).trans (hMoved' _ hMem)

theorem WithdrawalsMoved.update {books : Books} {id : Identifier}
    {f : WithdrawalRequest → WithdrawalRequest} (hf : ∀ w, (f w).id = w.id)
    (hMoved : ∀ w ∈ books.withdrawals.rows, w.id = id → WithdrawalMoved w (f w)) :
    WithdrawalsMoved books { books with withdrawals := books.withdrawals.update id f hf } := by
  refine ⟨_, _, rfl, ?_⟩
  intro w hw
  by_cases hid : w.id = id
  · rw [if_pos hid]
    exact hMoved w hw hid
  · rw [if_neg hid]
    exact .refl

section

variable {db db' : BillingDb}

theorem advanceWithdrawalCooldowns_spec (h : advanceWithdrawalCooldowns db = .ok ((), db')) :
    db'.nextId = db.nextId ∧ WithdrawalsMoved db.books db'.books := by
  simp only [advanceWithdrawalCooldowns, bind_eq_ok, get_eq_ok, modifyBooks_eq_ok] at h
  obtain ⟨_, _, hr₁, hr₂⟩ := h
  cases hr₁
  cases hr₂
  refine ⟨rfl, _, _, rfl, ?_⟩
  intro w _
  simp only [WithdrawalRequest.advanceCooldown]
  split
  · split
    · exact ⟨rfl, rfl, rfl, Iff.rfl, rfl⟩
    · exact .refl
  · exact .refl
  · split
    · rename_i hDue
      refine ⟨rfl, rfl, rfl, ?_, ?_⟩ <;>
        rcases hDue.1 with hStatus | hStatus <;> simp [hStatus, WithdrawalStatus.isReserved]
    · exact .refl

theorem claimReadyWithdrawal_spec {locked : List Identifier} {w? : Option WithdrawalRequest}
    (h : claimReadyWithdrawal locked db = .ok (w?, db')) :
    db'.nextId = db.nextId ∧ WithdrawalsMoved db.books db'.books := by
  simp only [claimReadyWithdrawal, bind_eq_ok, get_eq_ok] at h
  obtain ⟨_, _, hr₁, h⟩ := h
  cases hr₁
  generalize hReady : List.insertionSort WithdrawalRequest.DueBefore _ = ready at h
  cases ready with
  | nil =>
      cases pure_eq_ok.1 h
      exact ⟨rfl, .refl⟩
  | cons candidate rest =>
      simp only [bind_eq_ok, modifyBooks_eq_ok, pure_eq_ok] at h
      obtain ⟨_, _, hr₂, h⟩ := h
      cases hr₂
      cases h
      have hMem : candidate ∈ db.books.withdrawals.rows.filter
          (fun w => w.status = .ready && w.id ∉ locked) := by
        rw [← List.mem_insertionSort WithdrawalRequest.DueBefore, hReady]
        exact List.mem_cons_self
      obtain ⟨hRow, hStatus⟩ := List.mem_filter.1 hMem
      simp only [Bool.and_eq_true, decide_eq_true_eq] at hStatus
      refine ⟨rfl, WithdrawalsMoved.update _ ?_⟩
      intro w hw hid
      obtain rfl := Table.row_unique hw hRow hid
      exact ⟨rfl, rfl, rfl, by simp [WithdrawalRequest.claim, hStatus.1],
        by simp [WithdrawalRequest.claim, hStatus.1, WithdrawalStatus.isReserved]⟩

theorem markWithdrawalFailed_spec {id : Identifier}
    (h : markWithdrawalFailed id db = .ok ((), db')) :
    db'.nextId = db.nextId ∧ WithdrawalsMoved db.books db'.books := by
  simp only [markWithdrawalFailed, bind_eq_ok, get_eq_ok, modifyBooks_eq_ok] at h
  obtain ⟨_, _, hr₁, hr₂⟩ := h
  cases hr₁
  cases hr₂
  refine ⟨rfl, WithdrawalsMoved.update _ ?_⟩
  intro w _ _
  simp only [WithdrawalRequest.markFailed]
  split
  · rename_i hStatus
    refine ⟨rfl, rfl, rfl, ?_, ?_⟩ <;>
      rcases hStatus with hStatus | hStatus <;> simp [hStatus, WithdrawalStatus.isReserved]
  · exact .refl

theorem markWithdrawalSubmitted_spec {id signature : Identifier}
    (h : markWithdrawalSubmitted id signature db = .ok ((), db')) :
    db'.nextId = db.nextId ∧ WithdrawalsMoved db.books db'.books := by
  simp only [markWithdrawalSubmitted, bind_eq_ok, get_eq_ok, require_eq_ok,
    modifyBooks_eq_ok] at h
  obtain ⟨_, _, hr₁, _, _, ⟨-, hr₂⟩, hr₃⟩ := h
  cases hr₁
  cases hr₂
  cases hr₃
  refine ⟨rfl, WithdrawalsMoved.update _ ?_⟩
  intro w _ _
  simp only [WithdrawalRequest.markSubmitted]
  split
  · rename_i hStatus
    exact ⟨rfl, rfl, rfl, by simp [hStatus], by simp [hStatus, WithdrawalStatus.isReserved]⟩
  · exact .refl

theorem claimWithdrawalSigningJob_spec {locked : List Identifier} {key : CustodialKey}
    {job : Option WithdrawalRequest}
    (h : claimWithdrawalSigningJob locked key db = .ok (job, db')) :
    db'.nextId = db.nextId ∧ WithdrawalsMoved db.books db'.books := by
  simp only [claimWithdrawalSigningJob, bind_eq_ok] at h
  obtain ⟨_, db₁, hAdvance, w?, db₂, hClaim, h⟩ := h
  obtain ⟨hNext₁, hMoved₁⟩ := advanceWithdrawalCooldowns_spec hAdvance
  obtain ⟨hNext₂, hMoved₂⟩ := claimReadyWithdrawal_spec hClaim
  have hMoved := hMoved₁.trans hMoved₂
  have hNext := hNext₂.trans hNext₁
  cases w? with
  | none =>
      cases pure_eq_ok.1 h
      exact ⟨hNext, hMoved⟩
  | some w =>
      cases key with
      | usable =>
          cases pure_eq_ok.1 h
          exact ⟨hNext, hMoved⟩
      | undecryptable => simp at h
      | missing | unsupportedFormat =>
          simp only [bind_eq_ok, pure_eq_ok] at h
          obtain ⟨_, db₃, hFail, h⟩ := h
          cases h
          obtain ⟨hNext₃, hMoved₃⟩ := markWithdrawalFailed_spec hFail
          exact ⟨hNext₃.trans hNext, hMoved.trans hMoved₃⟩

end

end Hyperspace.Billing
