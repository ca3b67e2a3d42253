import Hyperspace.Billing.Reservations

/-!
# The cooldown of withdrawals

A pass of the withdrawal worker moves `eligible_at` of the requests whose account has a session,
promotes those that are due, and claims one that is ready. The claim looks at the status alone, and
of the requests that get a new `eligible_at` only those in cooldown have to wait for it. So the
cooldown of a request is kept as long as no pass meets a session of its account after the request
has left the cooldown.
-/

namespace Hyperspace.Billing

open Hyperspace.Foundations

/-- The request is there, and its account has a session. -/
def BillingDb.MeetsSession (db : BillingDb) (id : Identifier) : Prop :=
  ∃ w ∈ db.books.withdrawals.rows, w.id = id ∧
    db.usage.nonTerminalAccountSessions w.accountId ≠ []

instance (db : BillingDb) (id : Identifier) : Decidable (db.MeetsSession id) :=
  inferInstanceAs (Decidable (∃ _ ∈ _, _))

/-- A pass that meets a session of the account finds the request in cooldown, under a plan whose
cooldown is at least the given one, and is not rolled back. The clock does not go back. -/
def KeepsCooldown (id : Identifier) (seconds : Int) (db : BillingDb) : BillingOp → Prop
  | .claimWithdrawalSigningJob _ key =>
    ∀ w ∈ db.books.withdrawals.rows, w.id = id →
      db.usage.nonTerminalAccountSessions w.accountId ≠ [] →
      w.status = .cooldown ∧ key ≠ .undecryptable ∧
        ∃ plan ∈ db.usage.currentPlan w.accountId, seconds ≤ plan.withdrawalCooldownSeconds
  | .environment _ now => db.now ≤ now
  | _ => True

instance (id : Identifier) (seconds : Int) (db : BillingDb) :
    DecidablePred (KeepsCooldown id seconds db)
  | .claimWithdrawalSigningJob _ _ => inferInstanceAs (Decidable (∀ _ ∈ _, _))
  | .environment _ _ => inferInstanceAs (Decidable (_ ≤ _))
  | .applyBillingCredit _ | .settleRatingCandidate _ _ | .creditDirectDeposit _ _ _ _
  | .importDoubleZeroUsage _ _ | .createWithdrawalRequest _ _ _ | .cancelOwnedWithdrawal _ _
  | .recordWithdrawalSubmission _ _ | .failWithdrawalSubmission _ | .confirmWithdrawal _ _ =>
    inferInstanceAs (Decidable True)

/-- The cooldown of the plan an account is on. -/
def UsageTables.currentCooldownSeconds (usage : UsageTables) (a : AccountId) : Int :=
  match usage.currentPlan a with
  | some plan => plan.withdrawalCooldownSeconds
  | none => 0

/-! ### Requests between passes -/

/-- What every transaction but a pass leaves of a request: it does not make it ready. -/
structure RequestKept (w w' : WithdrawalRequest) : Prop where
  id : w'.id = w.id
  account : w'.accountId = w.accountId
  eligibleAt : w'.eligibleAt = w.eligibleAt
  ready : w'.status = .ready → w.status = .ready

instance : IsPreorder WithdrawalRequest RequestKept where
  refl _ := ⟨rfl, rfl, rfl, fun h => h⟩
  trans _ _ _ h h' := ⟨h'.id.trans h.id, h'.account.trans h.account,
    h'.eligibleAt.trans h.eligibleAt, fun hReady => h.ready (h'.ready hReady)⟩

/-- At the same time, every request was there before, or is a new one that is not ready. -/
structure RequestsKept (db db' : BillingDb) : Prop where
  now : db'.now = db.now
  rows : ∀ w' ∈ db'.books.withdrawals.rows,
    (∃ w ∈ db.books.withdrawals.rows, RequestKept w w') ∨
      ¬ db.books.withdrawals.HasKey w'.id ∧ w'.status ≠ .ready
  there : ∀ id, db.books.withdrawals.HasKey id → db'.books.withdrawals.HasKey id

theorem RequestsKept.of_eq {db db' : BillingDb}
    (hRows : db'.books.withdrawals = db.books.withdrawals) (hNow : db'.now = db.now) :
    RequestsKept db db' := by
  refine ⟨hNow, fun w hw => .inl ⟨w, hRows ▸ hw, refl_of RequestKept w⟩, fun id hId => ?_⟩
  rw [hRows]
  exact hId

instance : IsPreorder BillingDb RequestsKept where
  refl _ := .of_eq rfl rfl
  trans db₁ db₂ db₃ h h' := by
    refine ⟨h'.now.trans h.now, fun w₃ hw₃ => ?_, fun id hId => h'.there id (h.there id hId)⟩
    rcases h'.rows w₃ hw₃ with ⟨w₂, hw₂, hKept⟩ | ⟨hNew, hStatus⟩
    · rcases h.rows w₂ hw₂ with ⟨w₁, hw₁, hKept'⟩ | ⟨hNew, hStatus⟩
      · exact .inl ⟨w₁, hw₁, trans_of RequestKept hKept' hKept⟩
      · exact .inr ⟨hKept.id ▸ hNew, fun hReady => hStatus (hKept.ready hReady)⟩
    · exact .inr ⟨fun hKey => hNew (h.there _ hKey), hStatus⟩

section

variable {db : BillingDb} {a : AccountId}

theorem RequestsKept.of_update {id : Identifier} {f : WithdrawalRequest → WithdrawalRequest}
    (hf : ∀ w, (f w).id = w.id) (hKept : ∀ w, RequestKept w (f w)) :
    RequestsKept db
      { db with
        books := { db.books with withdrawals := db.books.withdrawals.update id f hf } } := by
  refine ⟨rfl, fun w' hw' => ?_, fun id' hId => (Table.hasKey_update hf).2 hId⟩
  obtain ⟨w, hw, rfl⟩ := (Table.mem_update hf).1 hw'
  refine .inl ⟨w, hw, ?_⟩
  split
  · exact hKept w
  · exact refl_of RequestKept w

theorem requestKept_markFailed {now : Timestamp} {w : WithdrawalRequest} :
    RequestKept w (w.markFailed now) := by
  rw [WithdrawalRequest.markFailed]
  split
  · exact ⟨rfl, rfl, rfl, by simp⟩
  · exact refl_of RequestKept w

theorem requestKept_markSubmitted {now : Timestamp} {signature : Identifier}
    {w : WithdrawalRequest} : RequestKept w (w.markSubmitted now signature) := by
  rw [WithdrawalRequest.markSubmitted]
  split
  · exact ⟨rfl, rfl, rfl, by simp⟩
  · exact refl_of RequestKept w

/-! #### The statements -/

theorem keepsRequests_insertWithdrawalRequest {input : WithdrawalInput} :
    Keeps RequestsKept (insertWithdrawalRequest input) := by
  intro db w db' h
  obtain ⟨withdrawals, hInsert, -, hStatus, -, -, -, hr⟩ := insertWithdrawalRequest_spec h
  simp only at hr
  subst hr
  refine ⟨rfl, fun w' hw' => ?_, fun id hId => (Table.hasKey_insert hInsert).2 (.inl hId)⟩
  rcases (Table.mem_insert hInsert).1 hw' with hOld | rfl
  · exact .inl ⟨w', hOld, refl_of RequestKept w'⟩
  · refine .inr ⟨fun hKey => ?_, by rw [hStatus]; decide⟩
    rw [Table.insert_eq_none.2 hKey] at hInsert
    cases hInsert

theorem keepsRequests_cancelWithdrawalRequest {id : Identifier} :
    Keeps RequestsKept (cancelWithdrawalRequest id) := by
  intro db _ db' h
  simp only [cancelWithdrawalRequest, bind_eq_ok, get_eq_ok, modifyBooks_eq_ok] at h
  obtain ⟨_, _, hr₁, hr₂⟩ := h
  cases hr₁
  cases hr₂
  exact .of_update _ fun w => ⟨rfl, rfl, rfl, by simp [WithdrawalRequest.cancel]⟩

theorem keepsRequests_markWithdrawalConfirmed {id : Identifier} :
    Keeps RequestsKept (markWithdrawalConfirmed id) := by
  intro db _ db' h
  simp only [markWithdrawalConfirmed, bind_eq_ok, get_eq_ok, modifyBooks_eq_ok] at h
  obtain ⟨_, _, hr₁, hr₂⟩ := h
  cases hr₁
  cases hr₂
  exact .of_update _ fun w => ⟨rfl, rfl, rfl, by simp [WithdrawalRequest.markConfirmed]⟩

theorem keepsRequests_markWithdrawalSubmitted {id signature : Identifier} :
    Keeps RequestsKept (markWithdrawalSubmitted id signature) := by
  intro db _ db' h
  simp only [markWithdrawalSubmitted, bind_eq_ok, get_eq_ok, require_eq_ok,
    modifyBooks_eq_ok] at h
  obtain ⟨_, _, hr₁, _, _, ⟨-, hr₂⟩, hr₃⟩ := h
  cases hr₁
  cases hr₂
  cases hr₃
  exact .of_update _ fun w => requestKept_markSubmitted

theorem keepsRequests_markWithdrawalFailed {id : Identifier} :
    Keeps RequestsKept (markWithdrawalFailed id) := by
  intro db _ db' h
  simp only [markWithdrawalFailed, bind_eq_ok, get_eq_ok, modifyBooks_eq_ok] at h
  obtain ⟨_, _, hr₁, hr₂⟩ := h
  cases hr₁
  cases hr₂
  exact .of_update _ fun w => requestKept_markFailed

theorem statementsKeep_requests : StatementsKeep RequestsKept :=
  statementsKeep_of_withdrawals (fun _ _ h => .of_eq h.withdrawals h.now)
    (fun _ => keepsRequests_insertWithdrawalRequest)
      (fun _ => keepsRequests_cancelWithdrawalRequest)
    (fun _ => keepsRequests_markWithdrawalConfirmed)
    (fun _ _ => keepsRequests_markWithdrawalSubmitted)
    (fun _ => keepsRequests_markWithdrawalFailed)

end

/-! ### A pass -/

section

variable {db db' : BillingDb} {w : WithdrawalRequest}

theorem WithdrawalRequest.advanceCooldown_id : (w.advanceCooldown db).id = w.id := by
  rw [WithdrawalRequest.advanceCooldown]
  split
  · split <;> rfl
  · rfl
  · split <;> rfl

theorem WithdrawalRequest.advanceCooldown_accountId :
    (w.advanceCooldown db).accountId = w.accountId := by
  rw [WithdrawalRequest.advanceCooldown]
  split
  · split <;> rfl
  · rfl
  · split <;> rfl

theorem WithdrawalRequest.advanceCooldown_of_noSessions
    (hSessions : db.usage.nonTerminalAccountSessions w.accountId = []) :
    (w.advanceCooldown db).eligibleAt = w.eligibleAt ∧
      ((w.advanceCooldown db).status = .ready → w.status = .ready ∨ w.eligibleAt ≤ db.now) := by
  simp only [WithdrawalRequest.advanceCooldown, hSessions, List.isEmpty_nil, Bool.not_true]
  split
  · rename_i hDue
    exact ⟨rfl, fun _ => .inr hDue.2.1⟩
  · exact ⟨rfl, .inl⟩

/-- With a session, a request in cooldown waits for the cooldown of the plan once more. -/
theorem WithdrawalRequest.advanceCooldown_of_cooldown {plan : BillingPlanVersion}
    (hSessions : db.usage.nonTerminalAccountSessions w.accountId ≠ [])
    (hStatus : w.status = .cooldown) (hPlan : db.usage.currentPlan w.accountId = some plan) :
    (w.advanceCooldown db).eligibleAt = db.now + plan.withdrawalCooldownSeconds * 1000000 ∧
      (w.advanceCooldown db).status = .cooldown := by
  have hMet : (!(db.usage.nonTerminalAccountSessions w.accountId).isEmpty) = true := by
    simpa [List.isEmpty_iff] using hSessions
  rw [UsageTables.currentPlan] at hPlan
  simp only [WithdrawalRequest.advanceCooldown, hMet, hPlan, hStatus, true_or, if_true, and_self]

theorem advanceWithdrawalCooldowns_eq_ok {r : Unit × BillingDb} :
    advanceWithdrawalCooldowns db = .ok r ↔ r = ((), { db with
      books := { db.books with
        withdrawals := db.books.withdrawals.modify (·.advanceCooldown db)
          fun _ => WithdrawalRequest.advanceCooldown_id } }) := by
  simp only [advanceWithdrawalCooldowns, bind_eq_ok, get_eq_ok, modifyBooks_eq_ok]
  constructor
  · rintro ⟨_, _, hr, h⟩
    cases hr
    exact h
  · rintro rfl
    exact ⟨_, _, rfl, rfl⟩

/-- What the two updates of a pass leave. -/
structure CooldownsAdvanced (db db' : BillingDb) : Prop where
  now : db'.now = db.now
  rows : ∀ w' ∈ db'.books.withdrawals.rows,
    ∃ w ∈ db.books.withdrawals.rows, w' = w.advanceCooldown db
  there : ∀ id, db.books.withdrawals.HasKey id → db'.books.withdrawals.HasKey id

theorem advanceWithdrawalCooldowns_advanced (h : advanceWithdrawalCooldowns db = .ok ((), db')) :
    CooldownsAdvanced db db' := by
  cases advanceWithdrawalCooldowns_eq_ok.1 h
  have hKey : ∀ w : WithdrawalRequest, (w.advanceCooldown db).id = w.id :=
    fun _ => WithdrawalRequest.advanceCooldown_id
  refine ⟨rfl, fun w' hw' => ?_, fun id hId => (Table.hasKey_modify hKey).2 hId⟩
  obtain ⟨w, hw, hRow⟩ := (Table.mem_modify hKey).1 hw'
  exact ⟨w, hw, hRow.symm⟩

theorem claimReadyWithdrawal_claimed {locked : List Identifier} {w? : Option WithdrawalRequest}
    (h : claimReadyWithdrawal locked db = .ok (w?, db')) :
    RequestsKept db db' ∧ ∀ w ∈ w?, ∃ w₀ ∈ db.books.withdrawals.rows,
      w₀.status = .ready ∧ w = w₀.claim db.now := by
  simp only [claimReadyWithdrawal, bind_eq_ok, get_eq_ok] at h
  obtain ⟨_, _, hr₁, h⟩ := h
  cases hr₁
  generalize hReady : List.insertionSort WithdrawalRequest.DueBefore _ = ready at h
  cases ready with
  | nil =>
      cases pure_eq_ok.1 h
      exact ⟨refl_of RequestsKept db, by simp⟩
  | cons candidate rest =>
      simp only [bind_eq_ok, modifyBooks_eq_ok, pure_eq_ok] at h
      obtain ⟨_, _, hr₂, h⟩ := h
      cases hr₂
      cases h
      have hMem : candidate ∈ db.books.withdrawals.rows.filter
          (fun w => w.status = .ready && w.id ∉ locked) := by
        rw [← List.mem_insertionSort WithdrawalRequest.DueBefore, hReady]
        exact List.mem_cons_self
      obtain ⟨hRow, hStatus⟩ := List.mem_filter.1 hMem
      simp only [Bool.and_eq_true, decide_eq_true_eq] at hStatus
      refine ⟨.of_update _ fun w => ⟨rfl, rfl, rfl, by simp [WithdrawalRequest.claim]⟩, ?_⟩
      rintro w ⟨⟩
      exact ⟨candidate, hRow, hStatus.1, rfl⟩

/-- After its two updates a pass only claims, and perhaps fails, one of the ready requests. -/
theorem claimWithdrawalSigningJob_claimed {locked : List Identifier} {key : CustodialKey}
    {job : Option WithdrawalRequest}
    (h : claimWithdrawalSigningJob locked key db = .ok (job, db')) :
    ∃ advanced, CooldownsAdvanced db advanced ∧ RequestsKept advanced db' ∧
      ∀ w ∈ job, ∃ w₀ ∈ advanced.books.withdrawals.rows,
        w₀.status = .ready ∧ w = w₀.claim db.now := by
  simp only [claimWithdrawalSigningJob, bind_eq_ok] at h
  obtain ⟨_, advanced, hAdvance, w?, db₂, hClaim, h⟩ := h
  obtain ⟨hKept, hClaimed⟩ := claimReadyWithdrawal_claimed hClaim
  cases advanceWithdrawalCooldowns_eq_ok.1 hAdvance
  refine ⟨_, advanceWithdrawalCooldowns_advanced hAdvance, ?_⟩
  cases w? with
  | none =>
      cases pure_eq_ok.1 h
      exact ⟨hKept, by simp⟩
  | some w =>
      cases key with
      | usable =>
          cases pure_eq_ok.1 h
          exact ⟨hKept, hClaimed⟩
      | undecryptable => simp at h
      | missing | unsupportedFormat =>
          simp only [bind_eq_ok, pure_eq_ok] at h
          obtain ⟨_, db₃, hFail, h⟩ := h
          cases h
          exact ⟨trans_of RequestsKept hKept (keepsRequests_markWithdrawalFailed _ _ _ hFail),
            by simp⟩

theorem claimWithdrawalSigningJob_commits {locked : List Identifier} {key : CustodialKey}
    (hKey : key ≠ .undecryptable) :
    ∃ job db', claimWithdrawalSigningJob locked key db = .ok (job, db') := by
  have hClaims : ∀ d : BillingDb, ∃ r, claimReadyWithdrawal locked d = .ok r := by
    intro d
    simp only [claimReadyWithdrawal, bind_eq_ok, get_eq_ok]
    refine Exists.imp (fun r h => ⟨_, _, rfl, h⟩) ?_
    generalize List.insertionSort WithdrawalRequest.DueBefore _ = ready
    cases ready with
    | nil => exact ⟨_, rfl⟩
    | cons w rest => exact ⟨_, bind_eq_ok.2 ⟨_, _, modifyBooks_eq_ok.2 rfl, rfl⟩⟩
  have hFails : ∀ (id : Identifier) (d : BillingDb), ∃ r, markWithdrawalFailed id d = .ok r :=
    fun id d => ⟨_, rfl⟩
  obtain ⟨⟨w?, d⟩, hClaim⟩ := hClaims { db with
    books := { db.books with
      withdrawals := db.books.withdrawals.modify (·.advanceCooldown db)
        fun _ => WithdrawalRequest.advanceCooldown_id } }
  simp only [claimWithdrawalSigningJob, bind_eq_ok]
  cases w? with
  | none => exact ⟨_, _, _, _, advanceWithdrawalCooldowns_eq_ok.2 rfl, _, _, hClaim, rfl⟩
  | some w =>
      cases key with
      | undecryptable => exact absurd rfl hKey
      | usable => exact ⟨_, _, _, _, advanceWithdrawalCooldowns_eq_ok.2 rfl, _, _, hClaim, rfl⟩
      | missing | unsupportedFormat =>
          obtain ⟨⟨_, d'⟩, hFail⟩ := hFails w.id d
          exact ⟨_, _, _, _, advanceWithdrawalCooldowns_eq_ok.2 rfl, _, _, hClaim,
            bind_eq_ok.2 ⟨_, _, hFail, rfl⟩⟩

end

/-! ### What holds of one request through a history -/

/-- The request is ready only once it is due. -/
def BillingDb.ReadyDue (id : Identifier) (db : BillingDb) : Prop :=
  ∀ w ∈ db.books.withdrawals.rows, w.id = id → w.status = .ready → w.eligibleAt ≤ db.now

/-- The request has to wait for the given seconds after `t`. -/
structure BillingDb.CoolsDown (id : Identifier) (seconds : Int) (t : Timestamp) (db : BillingDb) :
    Prop where
  there : db.books.withdrawals.HasKey id
  clock : t ≤ db.now
  waits : ∀ w ∈ db.books.withdrawals.rows, w.id = id → t + seconds * 1000000 ≤ w.eligibleAt

section

variable {db db' : BillingDb} {id : Identifier} {seconds : Int} {t : Timestamp}

theorem RequestsKept.readyDue (hKept : RequestsKept db db') (h : db.ReadyDue id) :
    db'.ReadyDue id := by
  intro w' hw' hId hStatus
  rw [hKept.now]
  rcases hKept.rows w' hw' with ⟨w, hw, hRow⟩ | ⟨-, hNew⟩
  · rw [hRow.eligibleAt]
    exact h w hw (hRow.id.symm.trans hId) (hRow.ready hStatus)
  · exact absurd hStatus hNew

theorem RequestsKept.coolsDown (hKept : RequestsKept db db') (h : db.CoolsDown id seconds t) :
    db'.CoolsDown id seconds t := by
  refine ⟨hKept.there id h.there, hKept.now ▸ h.clock, ?_⟩
  intro w' hw' hId
  rcases hKept.rows w' hw' with ⟨w, hw, hRow⟩ | ⟨hNew, -⟩
  · rw [hRow.eligibleAt]
    exact h.waits w hw (hRow.id.symm.trans hId)
  · exact absurd (hId ▸ h.there) hNew

section Pass

variable {locked : List Identifier} {key : CustodialKey}

theorem readyDue_of_advanced (hAdvance : CooldownsAdvanced db db')
    (hCond : KeepsCooldown id seconds db (.claimWithdrawalSigningJob locked key))
    (h : db.ReadyDue id) : db'.ReadyDue id := by
  intro w' hw' hId hStatus
  obtain ⟨w, hw, rfl⟩ := hAdvance.rows w' hw'
  rw [WithdrawalRequest.advanceCooldown_id] at hId
  by_cases hSessions : db.usage.nonTerminalAccountSessions w.accountId = []
  · obtain ⟨hEligible, hReady⟩ := w.advanceCooldown_of_noSessions hSessions
    rw [hEligible, hAdvance.now]
    exact (hReady hStatus).elim (h w hw hId) (fun hDue => hDue)
  · obtain ⟨hCooldown, -, plan, hPlan, -⟩ := hCond w hw hId hSessions
    rw [(w.advanceCooldown_of_cooldown hSessions hCooldown hPlan).2] at hStatus
    cases hStatus

theorem coolsDown_of_advanced (hAdvance : CooldownsAdvanced db db')
    (hCond : KeepsCooldown id seconds db (.claimWithdrawalSigningJob locked key))
    (h : db.CoolsDown id seconds t) : db'.CoolsDown id seconds t := by
  refine ⟨hAdvance.there id h.there, hAdvance.now ▸ h.clock, ?_⟩
  intro w' hw' hId
  obtain ⟨w, hw, rfl⟩ := hAdvance.rows w' hw'
  rw [WithdrawalRequest.advanceCooldown_id] at hId
  by_cases hSessions : db.usage.nonTerminalAccountSessions w.accountId = []
  · rw [(w.advanceCooldown_of_noSessions hSessions).1]
    exact h.waits w hw hId
  · obtain ⟨hCooldown, -, plan, hPlan, hSeconds⟩ := hCond w hw hId hSessions
    rw [(w.advanceCooldown_of_cooldown hSessions hCooldown hPlan).1]
    exact add_le_add h.clock (mul_le_mul_of_nonneg_right hSeconds (by decide))

/-- A pass that meets a session lets the request wait for the cooldown from now on. -/
theorem coolsDown_of_met (hAdvance : CooldownsAdvanced db db')
    (hCond : KeepsCooldown id seconds db (.claimWithdrawalSigningJob locked key))
    (hMet : db.MeetsSession id) : db'.CoolsDown id seconds db.now := by
  obtain ⟨met, hRow, rfl, hSessions⟩ := hMet
  refine ⟨hAdvance.there _ (.of_mem hRow), hAdvance.now.ge, ?_⟩
  intro w' hw' hId
  obtain ⟨w, hw, rfl⟩ := hAdvance.rows w' hw'
  rw [WithdrawalRequest.advanceCooldown_id] at hId
  obtain rfl := Table.row_unique hw hRow hId
  obtain ⟨hCooldown, -, plan, hPlan, hSeconds⟩ := hCond w hw rfl hSessions
  rw [(w.advanceCooldown_of_cooldown hSessions hCooldown hPlan).1]
  exact add_le_add (le_refl db.now) (mul_le_mul_of_nonneg_right hSeconds (by decide))

end Pass

theorem transaction_requestsKept {α : Type} {body : Tx α} (hBody : Keeps RequestsKept body) :
    RequestsKept db (transaction body db).2 :=
  transaction_keeps (RequestsKept db) (refl_of RequestsKept db) fun a db' h => hBody db a db' h

/-- What a pass preserves through its updates, what `RequestsKept` preserves and what the clock
preserves holds after every operation. -/
theorem BillingOp.apply_keeps {P : BillingDb → Prop}
    (hKept : ∀ {d d'}, RequestsKept d d' → P d → P d')
    (hClock : ∀ {usage now}, db.now ≤ now → P db → P { db with usage, now })
    (hPass : ∀ {locked key d},
      KeepsCooldown id seconds db (.claimWithdrawalSigningJob locked key) →
      CooldownsAdvanced db d → P db → P d)
    {op : BillingOp} (hCond : KeepsCooldown id seconds db op) (h : P db) : P (op.apply db) := by
  cases op with
  | applyBillingCredit =>
      exact hKept (transaction_requestsKept statementsKeep_requests.applyBillingCredit) h
  | settleRatingCandidate =>
      exact hKept (transaction_requestsKept statementsKeep_requests.settleRatingCandidate) h
  | creditDirectDeposit =>
      exact hKept (transaction_requestsKept statementsKeep_requests.creditDirectDeposit) h
  | importDoubleZeroUsage =>
      exact hKept (transaction_requestsKept statementsKeep_requests.importDoubleZeroUsage) h
  | createWithdrawalRequest =>
      exact hKept (transaction_requestsKept statementsKeep_requests.createWithdrawalRequest) h
  | cancelOwnedWithdrawal =>
      exact hKept (transaction_requestsKept statementsKeep_requests.cancelOwnedWithdrawal) h
  | claimWithdrawalSigningJob locked key =>
      refine transaction_keeps P h fun job db' hOk => ?_
      obtain ⟨advanced, hAdvance, hRest, -⟩ := claimWithdrawalSigningJob_claimed hOk
      exact hKept hRest (hPass hCond hAdvance h)
  | recordWithdrawalSubmission =>
      exact hKept (transaction_requestsKept keepsRequests_markWithdrawalSubmitted) h
  | failWithdrawalSubmission =>
      exact hKept (transaction_requestsKept keepsRequests_markWithdrawalFailed) h
  | confirmWithdrawal =>
      exact hKept (transaction_requestsKept statementsKeep_requests.confirmWithdrawal) h
  | environment usage now => exact hClock hCond h

theorem BillingOp.apply_readyDue {op : BillingOp} (hCond : KeepsCooldown id seconds db op)
    (h : db.ReadyDue id) : (op.apply db).ReadyDue id := by
  refine apply_keeps (fun hKept => hKept.readyDue) ?_ (fun hPass hAdvance =>
    readyDue_of_advanced hAdvance hPass) hCond h
  intro usage now hNow hDue w hw hId hStatus
  exact (hDue w hw hId hStatus).trans hNow

theorem BillingOp.apply_coolsDown {op : BillingOp} (hCond : KeepsCooldown id seconds db op)
    (h : db.CoolsDown id seconds t) : (op.apply db).CoolsDown id seconds t := by
  refine apply_keeps (fun hKept => hKept.coolsDown) ?_ (fun hPass hAdvance =>
    coolsDown_of_advanced hAdvance hPass) hCond h
  intro usage now hNow hCools
  exact ⟨hCools.there, hCools.clock.trans hNow, hCools.waits⟩

theorem claimed_due {locked : List Identifier} {key : CustodialKey} {w : WithdrawalRequest}
    (hClaim : claimWithdrawalSigningJob locked key db = .ok (some w, db'))
    (hCond : KeepsCooldown w.id seconds db (.claimWithdrawalSigningJob locked key))
    (hDue : db.ReadyDue w.id) :
    w.eligibleAt ≤ db.now ∧ db.usage.nonTerminalAccountSessions w.accountId = [] := by
  obtain ⟨advanced, hAdvance, -, hJob⟩ := claimWithdrawalSigningJob_claimed hClaim
  obtain ⟨w₁, hw₁, hReady, rfl⟩ := hJob w rfl
  obtain ⟨w₀, hw₀, rfl⟩ := hAdvance.rows w₁ hw₁
  have hAccount : (w₀.advanceCooldown db).accountId = w₀.accountId :=
    WithdrawalRequest.advanceCooldown_accountId
  have hNoSessions : db.usage.nonTerminalAccountSessions w₀.accountId = [] := by
    by_contra hSessions
    obtain ⟨hCooldown, -, plan, hPlan, -⟩ :=
      hCond w₀ hw₀ WithdrawalRequest.advanceCooldown_id.symm hSessions
    rw [(w₀.advanceCooldown_of_cooldown hSessions hCooldown hPlan).2] at hReady
    cases hReady
  refine ⟨?_, hAccount.symm ▸ hNoSessions⟩
  obtain ⟨hEligible, hWas⟩ := w₀.advanceCooldown_of_noSessions hNoSessions
  refine hEligible.trans_le ((hWas hReady).elim (hDue w₀ hw₀ ?_) fun h => h)
  exact WithdrawalRequest.advanceCooldown_id.symm

theorem claimed_waits {locked : List Identifier} {key : CustodialKey} {w : WithdrawalRequest}
    (hClaim : claimWithdrawalSigningJob locked key db = .ok (some w, db'))
    (hCond : KeepsCooldown w.id seconds db (.claimWithdrawalSigningJob locked key))
    (hCools : db.CoolsDown w.id seconds t) : t + seconds * 1000000 ≤ w.eligibleAt := by
  obtain ⟨advanced, hAdvance, -, hJob⟩ := claimWithdrawalSigningJob_claimed hClaim
  obtain ⟨w₁, hw₁, -, rfl⟩ := hJob w rfl
  exact (coolsDown_of_advanced hAdvance hCond hCools).waits w₁ hw₁ rfl

/-- After a pass that meets a session, the request waits for the cooldown from then on. -/
theorem apply_coolsDown_of_met {locked : List Identifier} {key : CustodialKey}
    (hCond : KeepsCooldown id seconds db (.claimWithdrawalSigningJob locked key))
    (hMet : db.MeetsSession id) :
    ((BillingOp.claimWithdrawalSigningJob locked key).apply db).CoolsDown id seconds db.now := by
  have ⟨met, hRow, hId, hSessions⟩ := hMet
  obtain ⟨-, hKey, -⟩ := hCond met hRow hId hSessions
  obtain ⟨job, db', hOk⟩ := @claimWithdrawalSigningJob_commits db locked key hKey
  obtain ⟨advanced, hAdvance, hRest, -⟩ := claimWithdrawalSigningJob_claimed hOk
  rw [BillingOp.apply, transaction_of_ok hOk]
  exact hRest.coolsDown (coolsDown_of_met hAdvance hCond hMet)

end

/-- If every pass that meets a session while a request is there finds it in cooldown, then the pass
that claims it finds it due and meets none, and the whole cooldown has passed since the last pass
that did. -/
theorem cooldown_kept {usage : UsageTables} {now : Timestamp} {ops : List BillingOp}
    {locked : List Identifier} {key : CustodialKey} {w : WithdrawalRequest}
    (hClaim : (transaction (claimWithdrawalSigningJob locked key)
      ((emptyDb usage now).after ops)).1 = .ok (some w))
    (hMeet : StepsMeet step (KeepsCooldown w.id
        (((emptyDb usage now).after ops).usage.currentCooldownSeconds w.accountId))
      (emptyDb usage now) (ops ++ [.claimWithdrawalSigningJob locked key])) :
    let db := (emptyDb usage now).after ops
    w.eligibleAt ≤ db.now ∧ db.usage.nonTerminalAccountSessions w.accountId = [] ∧
      ∀ earlier locked' key' later,
        ops = earlier ++ .claimWithdrawalSigningJob locked' key' :: later →
        let seen := (emptyDb usage now).after earlier
        seen.MeetsSession w.id →
          seen.now + db.usage.currentCooldownSeconds w.accountId * 1000000 ≤ db.now := by
  intro db
  obtain ⟨db', hOk⟩ := ok_of_transaction hClaim
  have hStart : (emptyDb usage now).ReadyDue w.id := by simp [BillingDb.ReadyDue, emptyDb]
  have hDue : db.ReadyDue w.id := by
    refine run_invariant_of_stepsMeet ?_ hStart run_step
      (stepsMeet_of_initial (List.prefix_append _ _) hMeet)
    intro d op d' h hCond hOp
    cases hOp
    exact BillingOp.apply_readyDue hCond h
  have hCond := (stepsMeet_append run_step hMeet).1
  obtain ⟨hEligible, hNoSessions⟩ := claimed_due hOk hCond hDue
  refine ⟨hEligible, hNoSessions, ?_⟩
  rintro earlier locked' key' later rfl
  intro seen hMet
  rw [List.append_assoc, List.cons_append] at hMeet
  obtain ⟨hPass, hLater⟩ := (stepsMeet_cons rfl).1 (stepsMeet_append run_step hMeet)
  have hSame : ((BillingOp.claimWithdrawalSigningJob locked' key').apply seen).after later = db :=
    (@BillingDb.after_append _ earlier (.claimWithdrawalSigningJob locked' key' :: later)).symm
  have hCools := by
    refine run_invariant_of_stepsMeet ?_ (apply_coolsDown_of_met hPass hMet) run_step
      (stepsMeet_of_initial (List.prefix_append _ _) hLater)
    intro d op d' h hCond hOp
    cases hOp
    exact BillingOp.apply_coolsDown hCond h
  rw [hSame] at hCools
  exact (claimed_waits hOk hCond hCools).trans hEligible

/-- The pilot account with a session that has just been created. -/
def pilotAccountInUse : UsageTables :=
  { pilotAccount with
    sessions := [⟨3, some 1, .revoked, .revoked⟩, ⟨4, some 1, .active, .scheduling⟩]
    planAssignments := [⟨1, 1, 0, none⟩] }

/-- The same account once the session has been revoked. -/
def pilotAccountReleased : UsageTables :=
  { pilotAccount with
    sessions := [⟨3, some 1, .revoked, .revoked⟩, ⟨4, some 1, .revoked, .revoked⟩]
    planAssignments := [⟨1, 1, 0, none⟩] }

/-- A dollar is deposited and half of it requested; a pass meets a session after half an hour. -/
def restartedHistory : List BillingOp :=
  [.creditDirectDeposit 1 9 1000000 splConfig,
    .createWithdrawalRequest ⟨1, 1⟩ ⟨50, some 5, 0⟩ splConfig,
    .environment pilotAccountInUse 1800000000,
    .claimWithdrawalSigningJob [] .usable,
    .environment pilotAccountReleased 5400000000]

theorem exists_claimed {p : WithdrawalRequest → Bool}
    {result : Except BillingError (Option WithdrawalRequest)}
    (h : (match result with | .ok (some w) => p w | _ => false) = true) :
    ∃ w, result = .ok (some w) ∧ p w = true := by
  rcases result with e | (_ | w)
  · cases h
  · cases h
  · exact ⟨w, rfl, h⟩

/-- The request is claimed when the hour since that pass is over. -/
theorem cooldown_kept_restarted :
    let db := (emptyDb pilotAccount 0).after restartedHistory
    ∃ w, (transaction (claimWithdrawalSigningJob [] .usable) db).1 = .ok (some w) ∧
      w.eligibleAt ≤ db.now ∧ db.usage.nonTerminalAccountSessions w.accountId = [] ∧
      ∀ earlier locked' key' later,
        restartedHistory = earlier ++ .claimWithdrawalSigningJob locked' key' :: later →
        let seen := (emptyDb pilotAccount 0).after earlier
        seen.MeetsSession w.id →
          seen.now + db.usage.currentCooldownSeconds w.accountId * 1000000 ≤ db.now := by
  have hClaimed : ∃ w, (transaction (claimWithdrawalSigningJob [] .usable)
      ((emptyDb pilotAccount 0).after restartedHistory)).1 = .ok (some w) ∧
      decide (w.id = 0 ∧ w.accountId = 1) = true := exists_claimed (by decide +kernel)
  obtain ⟨w, hClaim, hRow⟩ := hClaimed
  obtain ⟨hId, hAccount⟩ := of_decide_eq_true hRow
  refine ⟨w, hClaim, cooldown_kept hClaim ?_⟩
  rw [hId, hAccount]
  decide +kernel

/-- Two requests are due and promoted by one pass, which claims the first; then the owner creates a
session. -/
def promotedHistory : List BillingOp :=
  [.creditDirectDeposit 1 9 1000000 splConfig,
    .createWithdrawalRequest ⟨1, 1⟩ ⟨50, some 5, 0⟩ splConfig,
    .createWithdrawalRequest ⟨1, 1⟩ ⟨50, some 5, 0⟩ splConfig,
    .environment pilotAccountReleased 7200000000,
    .claimWithdrawalSigningJob [] .usable,
    .environment pilotAccountInUse 7300000000]

/-- The next pass claims the second request beside the session, an hour before it is due. -/
theorem promoted_request_claimed_early :
    ¬ ∀ (ops : List BillingOp) (locked : List Identifier) (key : CustodialKey)
        (w : WithdrawalRequest),
      let db := (emptyDb pilotAccount 0).after ops
      (transaction (claimWithdrawalSigningJob locked key) db).1 = .ok (some w) →
        w.eligibleAt ≤ db.now ∧ db.usage.nonTerminalAccountSessions w.accountId = [] := by
  intro hClaim
  have hEarly : ∃ w, (transaction (claimWithdrawalSigningJob [] .usable)
      ((emptyDb pilotAccount 0).after promotedHistory)).1 = .ok (some w) ∧
      decide (((emptyDb pilotAccount 0).after promotedHistory).now < w.eligibleAt) = true :=
    exists_claimed (by decide +kernel)
  obtain ⟨w, hClaimed, hRow⟩ := hEarly
  exact absurd (hClaim promotedHistory [] .usable w hClaimed).1
    (not_le.2 (of_decide_eq_true hRow))

end Hyperspace.Billing
