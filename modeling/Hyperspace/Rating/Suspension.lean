import Hyperspace.Rating.AccountStates
import Hyperspace.Rating.SettlementSpecs

/-!
# Suspensions

What the passes have seen of an account decides its state. As long as they see a negative balance,
the first of these observations fixes when the suspension is due; an observation of any other
balance makes the account active again.
-/

namespace Hyperspace.Rating

open Hyperspace.Billing Hyperspace.ControlPlane Hyperspace.Foundations

variable {s s' : BillingSystem} {a : AccountId} {os : List Observation}

/-! ### What a row says of the observations -/

theorem jsDate_dueAt {o : Observation} : jsDate o.dueAt = o.dueAt := by
  have hSeconds : o.gracePeriodSeconds * 1000000 = o.gracePeriodSeconds * 1000 * 1000 := by ring
  rw [Observation.dueAt, hSeconds, jsDate, Int.add_mul_ediv_right _ _ (by decide), Int.add_mul]
  exact congrArg (· + _) jsDate_idem

@[simp] theorem map_jsDate_jsDate {t : Timestamp} :
    (some (jsDate t)).map jsDate = some (jsDate t) := congrArg some jsDate_idem

@[simp] theorem map_jsDate_dueAt {o : Observation} : (some o.dueAt).map jsDate = some o.dueAt :=
  congrArg some jsDate_dueAt

theorem negativeSpell_of_nonneg {o : Observation} (h : 0 ≤ o.balance) :
    negativeSpell (os ++ [o]) = [] :=
  List.rtakeWhile_concat_neg _ _ _ (by simpa using h)

theorem negativeSpell_of_neg {o : Observation} (h : o.balance < 0) :
    negativeSpell (os ++ [o]) = negativeSpell os ++ [o] :=
  List.rtakeWhile_concat_pos _ _ _ (by simpa using h)

/-- The row during a negative spell that began with the observation. -/
structure BillingAccountState.InSpell (row : BillingAccountState) (first : Observation) : Prop where
  overdrawnAt : row.overdrawnAt = some (jsDate first.now)
  suspensionDueAt : row.suspensionDueAt = some first.dueAt
  state : (row.state = .grace ∧ row.suspendedAt = none) ∨
    row.state = .suspended ∧ ∃ t, row.suspendedAt = some (jsDate t) ∧
      dateParse first.dueAt ≤ jsDate t

/-- The row that a spell leads to. -/
def BillingAccountState.Follows (row : BillingAccountState) : List Observation → Prop
  | [] => row.state = .active ∧ row.overdrawnAt = none ∧ row.suspensionDueAt = none ∧
    row.suspendedAt = none
  | first :: _ => row.InSpell first

theorem BillingAccountState.Follows.consistent {row : BillingAccountState}
    (h : row.Follows os) : row.Consistent := by
  cases os with
  | nil =>
      obtain ⟨hState, hNone⟩ := h
      refine ⟨fun _ => hNone, fun hGrace => ?_, fun hSuspended => ?_⟩
      · rw [hState] at hGrace
        cases hGrace
      · rw [hState] at hSuspended
        cases hSuspended
  | cons first rest =>
      obtain ⟨hOverdrawn, hDue, ⟨hState, hNone⟩ | ⟨hState, t, hAt, hLate⟩⟩ := h
      · refine ⟨fun hActive => ?_, fun _ => ⟨by simp [hOverdrawn], by simp [hDue], hNone⟩,
          fun hSuspended => ?_⟩
        · rw [hState] at hActive
          cases hActive
        · rw [hState] at hSuspended
          cases hSuspended
      · refine ⟨fun hActive => ?_, fun hGrace => ?_,
          fun _ => ⟨by simp [hOverdrawn], _, hDue, _, hAt, hLate⟩⟩
        · rw [hState] at hActive
          cases hActive
        · rw [hState] at hGrace
          cases hGrace

theorem BillingAccountState.Follows.read {row : BillingAccountState} (h : row.Follows os) :
    (readBillingAccountState row).Follows os := by
  cases os with
  | nil =>
      obtain ⟨hState, hOverdrawn, hDue, hAt⟩ := h
      exact ⟨hState, by simp [readBillingAccountState, hOverdrawn],
        by simp [readBillingAccountState, hDue], by simp [readBillingAccountState, hAt]⟩
  | cons first rest =>
      obtain ⟨hOverdrawn, hDue, hState⟩ := h
      refine ⟨?_, ?_, ?_⟩
      · simp only [readBillingAccountState, hOverdrawn, map_jsDate_jsDate]
      · simp only [readBillingAccountState, hDue, map_jsDate_dueAt]
      · rcases hState with ⟨hGrace, hNone⟩ | ⟨hSuspended, t, hAt, hLate⟩
        · exact .inl ⟨hGrace, by simp [readBillingAccountState, hNone]⟩
        · exact .inr ⟨hSuspended, t, by simp only [readBillingAccountState, hAt, map_jsDate_jsDate],
            hLate⟩

/-! ### One pass over an account -/

namespace BillingSystem

@[simp] theorem updateBillingAccountState_self {row : BillingAccountState} :
    (s.updateBillingAccountState a row).states a = { row with updatedAt := s.db.now } :=
  Function.update_self ..

@[simp] theorem updateBillingAccountState_ne {b : AccountId} {row : BillingAccountState}
    (hNe : b ≠ a) : (s.updateBillingAccountState a row).states b = s.states b :=
  Function.update_of_ne hNe ..

@[simp] theorem states_requestSystemSessionRevocation {id : SessionId} :
    (s.requestSystemSessionRevocation id).states = s.states := by
  rw [requestSystemSessionRevocation]
  split <;> rfl

@[simp] theorem states_revoked {ids : List SessionId} :
    (ids.foldl requestSystemSessionRevocation s).states = s.states := by
  induction ids generalizing s with
  | nil => rfl
  | cons id ids ih => rw [List.foldl_cons, ih, states_requestSystemSessionRevocation]

variable {now : Timestamp} {buckets : BillingBucketsRow} {plan : BillingPlanVersion}

theorem states_reconcileWith_ne {b : AccountId} (hNe : b ≠ a) :
    (s.reconcileWith a now buckets plan).1.states b = s.states b := by
  simp only [reconcileWith]
  split
  · exact updateBillingAccountState_ne hNe
  · split
    · exact updateBillingAccountState_ne hNe
    · split
      · rw [updateBillingAccountState_ne hNe, states_revoked]
      · exact updateBillingAccountState_ne hNe

theorem state_reconcileWith_of_nonneg (hBalance : 0 ≤ availableBillingBalance buckets) :
    ((s.reconcileWith a now buckets plan).1.states a).state = .active := by
  simp only [reconcileWith, if_pos hBalance, updateBillingAccountState_self]

theorem follows_reconcileWith (h : (s.states a).Follows (negativeSpell os)) :
    ((s.reconcileWith a now buckets plan).1.states a).Follows
      (negativeSpell (os ++ [observed now buckets plan])) := by
  have hRead := h.read
  simp only [reconcileWith]
  split
  · rename_i hBalance
    rw [negativeSpell_of_nonneg hBalance, updateBillingAccountState_self]
    exact ⟨rfl, rfl, rfl, rfl⟩
  rename_i hBalance
  rw [negativeSpell_of_neg (o := observed now buckets plan) (not_le.1 hBalance)]
  generalize negativeSpell os = spell at h hRead
  cases spell with
  | nil =>
      -- The first observation of a spell starts the period of grace.
      rw [if_pos hRead.1, updateBillingAccountState_self]
      exact ⟨rfl, rfl, .inl ⟨rfl, rfl⟩⟩
  | cons first rest =>
      obtain ⟨hOverdrawn, hDue, hState⟩ := hRead
      have hNotActive : (readBillingAccountState (s.states a)).state ≠ .active := by
        rcases hState with ⟨hState, -⟩ | ⟨hState, -⟩ <;> rw [hState] <;> decide
      rw [if_neg hNotActive]
      split
      · rename_i hLate
        obtain ⟨-, dueAt, hMem, hLe⟩ := hLate
        rw [hDue] at hMem
        cases hMem
        rw [updateBillingAccountState_self]
        exact ⟨hOverdrawn, hDue, .inr ⟨rfl, now, rfl, hLe⟩⟩
      · rw [updateBillingAccountState_self]
        exact ⟨hOverdrawn, hDue, hState⟩

/-! ### Events -/

/-- An event that observes the account is a pass over it, from the rows as they were read. -/
theorem exists_of_observation {e : BillingEvent} {o : Observation}
    (h : s.observation a e = some o) : ∃ now db buckets plan,
      e = .reconcileBillingAccountState a now ∧ o = observed now buckets plan ∧
      readBalanceAndPlan a s.db = .ok ((buckets, plan), db) ∧
      s.apply e = ({ s with db }.reconcileWith a now buckets plan).1 := by
  cases e with
  | billing | hideSessions => cases h
  | reconcileBillingAccountState reconciled now =>
      simp only [observation] at h
      split at h
      · rename_i hEq
        subst hEq
        cases hRead : (readBalanceAndPlan reconciled).run s.db with
        | error => simp [hRead] at h
        | ok r =>
            obtain ⟨⟨buckets, plan⟩, db⟩ := r
            simp only [hRead, Option.some.injEq] at h
            refine ⟨now, db, buckets, plan, rfl, h.symm, hRead, ?_⟩
            simp only [apply, reconcileBillingAccountState, hRead]
      · cases h

theorem states_apply_of_observation {e : BillingEvent} (h : s.observation a e = none) :
    (s.apply e).states a = s.states a := by
  cases e with
  | billing | hideSessions => rfl
  | reconcileBillingAccountState reconciled now =>
      simp only [apply, reconcileBillingAccountState]
      cases hRead : (readBalanceAndPlan reconciled).run s.db with
      | error => rfl
      | ok r =>
          obtain ⟨⟨buckets, plan⟩, db⟩ := r
          simp only [observation] at h
          split at h
          · rename_i hEq
            subst hEq
            simp [hRead] at h
          · rename_i hNe
            exact states_reconcileWith_ne (Ne.symm hNe)

theorem follows_apply {e : BillingEvent} (h : (s.states a).Follows (negativeSpell os)) :
    ((s.apply e).states a).Follows (negativeSpell (os ++ (s.observation a e).toList)) := by
  cases hObserved : s.observation a e with
  | none =>
      rw [states_apply_of_observation hObserved, Option.toList_none, List.append_nil]
      exact h
  | some o =>
      obtain ⟨now, db, buckets, plan, -, rfl, -, hApply⟩ := exists_of_observation hObserved
      rw [hApply]
      exact follows_reconcileWith (s := { s with db }) h

theorem follows_run {es : List BillingEvent} (h : (s.states a).Follows (negativeSpell os))
    (hRun : run step s es = some s') :
    (s'.states a).Follows (negativeSpell (os ++ observations a s es)) := by
  induction es generalizing s os with
  | nil =>
      cases hRun
      rw [observations, List.append_nil]
      exact h
  | cons e es ih =>
      obtain ⟨s₁, hStep, hRest⟩ := run_cons.1 hRun
      cases hStep
      rw [observations, ← List.append_assoc]
      exact ih (follows_apply h) hRest

/-- An account becomes suspended by a pass that sees a negative balance once the suspension is
due. -/
theorem observation_of_suspended {e : BillingEvent} (h : (s.states a).Follows (negativeSpell os))
    (hBefore : (s.states a).state ≠ .suspended)
    (hAfter : ((s.apply e).states a).state = .suspended) :
    ∃ o ∈ s.observation a e, o.balance < 0 ∧
      ∃ first ∈ (negativeSpell os).head?, dateParse first.dueAt ≤ jsDate o.now := by
  cases hObserved : s.observation a e with
  | none =>
      rw [states_apply_of_observation hObserved] at hAfter
      exact absurd hAfter hBefore
  | some o =>
      refine ⟨o, rfl, ?_⟩
      obtain ⟨now, db, buckets, plan, -, rfl, -, hApply⟩ := exists_of_observation hObserved
      rw [hApply] at hAfter
      have hRead := h.read
      simp only [reconcileWith] at hAfter
      split at hAfter
      · simp at hAfter
      rename_i hBalance
      refine ⟨not_le.1 hBalance, ?_⟩
      split at hAfter
      · simp at hAfter
      rename_i hNotActive
      split at hAfter
      · rename_i hLate
        obtain ⟨-, dueAt, hMem, hLe⟩ := hLate
        cases hSpell : negativeSpell os with
        | nil =>
            rw [hSpell] at hRead
            exact absurd hRead.1 hNotActive
        | cons first rest =>
            rw [hSpell] at hRead
            rw [hRead.suspensionDueAt] at hMem
            cases hMem
            exact ⟨first, rfl, hLe⟩
      · rw [updateBillingAccountState_self] at hAfter
        exact absurd hAfter hBefore

/-! ### Sessions -/

/-- While the account is suspended, its sessions that are not over are hidden. -/
def Quiet (a : AccountId) (s : BillingSystem) : Prop :=
  (s.states a).state = .suspended →
    ∀ session ∈ s.db.usage.nonTerminalAccountSessions a, s.hidden session.id = true

theorem Quiet.visibleSessions (h : Quiet a s) (hState : (s.states a).state = .suspended) :
    s.visibleSessions a = [] := by
  rw [BillingSystem.visibleSessions, List.filter_eq_nil_iff]
  intro session hMem
  simp [h hState session hMem]

theorem mem_nonTerminalAccountSessions {usage : UsageTables} {session : BilledSession} :
    session ∈ usage.nonTerminalAccountSessions a ↔
      session ∈ usage.sessions ∧ session.accountId = some a ∧
        session.phase.isNonTerminal session.desiredState := by
  simp [UsageTables.nonTerminalAccountSessions]

theorem nonTerminalAccountSessions_of_sessions {usage usage' : UsageTables}
    (h : usage'.sessions = usage.sessions) :
    usage'.nonTerminalAccountSessions a = usage.nonTerminalAccountSessions a := by
  rw [UsageTables.nonTerminalAccountSessions, UsageTables.nonTerminalAccountSessions, h]

@[simp] theorem hidden_requestSystemSessionRevocation {id : SessionId} :
    (s.requestSystemSessionRevocation id).hidden = s.hidden := by
  rw [requestSystemSessionRevocation]
  split <;> rfl

@[simp] theorem hidden_revoked {ids : List SessionId} :
    (ids.foldl requestSystemSessionRevocation s).hidden = s.hidden := by
  induction ids generalizing s with
  | nil => rfl
  | cons id ids ih => rw [List.foldl_cons, ih, hidden_requestSystemSessionRevocation]

theorem mem_of_requestSystemSessionRevocation {id : SessionId} {session : BilledSession}
    (h : session ∈ (s.requestSystemSessionRevocation id).db.usage.nonTerminalAccountSessions a) :
    session ∈ s.db.usage.nonTerminalAccountSessions a ∧
      (s.hidden id = false → session.id ≠ id) := by
  rw [requestSystemSessionRevocation] at h
  split at h
  · rename_i hHidden
    exact ⟨h, fun hVisible => absurd hHidden (by simp [hVisible])⟩
  · obtain ⟨hMem, hAccount, hRuns⟩ := mem_nonTerminalAccountSessions.1 h
    obtain ⟨before, hBefore, hEq⟩ := List.mem_map.1 hMem
    split at hEq
    · subst hEq
      simp [requestRevocation, SessionPhase.isNonTerminal] at hRuns
    · rename_i hId
      subst hEq
      exact ⟨mem_nonTerminalAccountSessions.2 ⟨hBefore, hAccount, hRuns⟩, fun _ => hId⟩

theorem mem_of_revoked {ids : List SessionId} {session : BilledSession}
    (h : session ∈ (ids.foldl requestSystemSessionRevocation s).db.usage.nonTerminalAccountSessions
      a) :
    session ∈ s.db.usage.nonTerminalAccountSessions a ∧
      ∀ id ∈ ids, s.hidden id = false → session.id ≠ id := by
  induction ids generalizing s with
  | nil => exact ⟨h, by simp⟩
  | cons id ids ih =>
      obtain ⟨hMem, hRest⟩ := ih h
      obtain ⟨hMem, hFirst⟩ := mem_of_requestSystemSessionRevocation hMem
      rw [hidden_requestSystemSessionRevocation] at hRest
      exact ⟨hMem, List.forall_mem_cons.2 ⟨hFirst, hRest⟩⟩

theorem quiet_reconcileWith {b : AccountId} (h : Quiet a s) :
    Quiet a (s.reconcileWith b now buckets plan).1 := by
  by_cases hEq : a = b
  · subst hEq
    simp only [reconcileWith]
    split
    · intro hState
      simp at hState
    split
    · intro hState
      simp at hState
    split
    · intro _ session hMem
      by_contra hVisible
      obtain ⟨hBefore, hIds⟩ := mem_of_revoked hMem
      refine hIds session.id (List.mem_map_of_mem hBefore) ?_ rfl
      simpa [updateBillingAccountState] using hVisible
    · intro hState
      rw [updateBillingAccountState_self] at hState
      exact h hState
  · intro hState
    rw [states_reconcileWith_ne hEq] at hState
    simp only [reconcileWith]
    split
    · exact h hState
    split
    · exact h hState
    split
    · intro session hMem
      simpa [updateBillingAccountState] using h hState session (mem_of_revoked hMem).1
    · exact h hState

theorem usageLeft_readBalanceAndPlan {db db' : BillingDb}
    {r : BillingBucketsRow × BillingPlanVersion}
    (h : readBalanceAndPlan a db = .ok (r, db')) : UsageLeft db db' := by
  have hKeep : StatementsKeep UsageLeft := statementsKeep_of_usage fun _ _ h => h
  have hEnsure : Keeps UsageLeft (ensurePrepaidBillingState a) := by
    intro db _ db' hOk
    cases (ensurePrepaidBillingState_spec hOk).2
    exact ⟨rfl, ensureOpenPlan_accounts, ensureOpenPlan_sessions⟩
  refine hEnsure.bind (fun _ => ?_) db r db' h
  exact (hKeep.readBillingBuckets a).bind fun _ => (hKeep.readCurrentBillingPlan a).bind fun _ =>
    .pure

theorem usageLeft_apply {db : BillingDb} {op : BillingOp}
    (hOp : ∀ usage now, op ≠ .environment usage now) : UsageLeft db (op.apply db) := by
  have hKeep : StatementsKeep UsageLeft := statementsKeep_of_usage fun _ _ h => h
  have hTransaction : ∀ {α : Type} {body : Tx α}, Keeps UsageLeft body →
      UsageLeft db (transaction body db).2 := fun hBody =>
    transaction_keeps (UsageLeft db) (refl_of UsageLeft db) fun r db' hOk => hBody db r db' hOk
  cases op with
  | applyBillingCredit => exact hTransaction hKeep.applyBillingCredit
  | settleRatingCandidate => exact hTransaction hKeep.settleRatingCandidate
  | creditDirectDeposit => exact hTransaction hKeep.creditDirectDeposit
  | importDoubleZeroUsage => exact hTransaction hKeep.importDoubleZeroUsage
  | createWithdrawalRequest => exact hTransaction hKeep.createWithdrawalRequest
  | cancelOwnedWithdrawal => exact hTransaction hKeep.cancelOwnedWithdrawal
  | claimWithdrawalSigningJob =>
      exact hTransaction (keeps_claimWithdrawalSigningJob_of_usage fun _ _ h => h)
  | recordWithdrawalSubmission => exact hTransaction (hKeep.markWithdrawalSubmitted _ _)
  | failWithdrawalSubmission => exact hTransaction (hKeep.markWithdrawalFailed _)
  | confirmWithdrawal => exact hTransaction hKeep.confirmWithdrawal
  | environment usage now => exact absurd rfl (hOp usage now)

theorem quiet_apply {e : BillingEvent} (h : Quiet a s) (hCond : OpensNoSession a s e) :
    Quiet a (s.apply e) := by
  cases e with
  | billing op =>
      intro hState session hMem
      by_cases hEnvironment : ∃ usage now, op = .environment usage now
      · obtain ⟨usage, now, rfl⟩ := hEnvironment
        by_contra hVisible
        obtain ⟨before, hBefore, hId⟩ :=
          hCond hState session hMem (Bool.not_eq_true _ ▸ hVisible)
        exact hVisible (hId ▸ h hState before hBefore)
      · have hLeft : UsageLeft s.db (op.apply s.db) :=
          usageLeft_apply fun usage now hOp => hEnvironment ⟨usage, now, hOp⟩
        rw [show (s.apply (.billing op)).db = op.apply s.db from rfl,
          nonTerminalAccountSessions_of_sessions hLeft.sessions] at hMem
        exact h hState session hMem
  | hideSessions sessionIds =>
      intro hState session hMem
      simp only [apply, Bool.or_eq_true]
      exact .inl (h hState session hMem)
  | reconcileBillingAccountState b now =>
      simp only [apply, reconcileBillingAccountState]
      cases hRead : (readBalanceAndPlan b).run s.db with
      | error => exact h
      | ok r =>
          obtain ⟨⟨buckets, plan⟩, db⟩ := r
          refine quiet_reconcileWith (s := { s with db }) fun hState session hMem => ?_
          rw [nonTerminalAccountSessions_of_sessions (usageLeft_readBalanceAndPlan hRead).sessions]
            at hMem
          exact h hState session hMem

theorem Quiet.run {es : List BillingEvent} (h : Quiet a s)
    (hMeet : StepsMeet step (OpensNoSession a) s es) (hRun : Foundations.run step s es = some s') :
    Quiet a s' := by
  refine run_invariant_of_stepsMeet ?_ h hRun hMeet
  intro s e s' hQuiet hCond hStep
  cases hStep
  exact quiet_apply hQuiet hCond

end BillingSystem

/-! ### Passes of the settlement -/

/-- The events of a pass. -/
def BillingEvent.InPass : BillingEvent → Prop
  | .billing (.settleRatingCandidate _ _) | .reconcileBillingAccountState _ _ => True
  | .billing _ | .hideSessions _ => False

theorem BillingEvent.InPass.opensNoSession {e : BillingEvent} (h : e.InPass) :
    s.OpensNoSession a e := by
  cases e with
  | billing op =>
      cases op with
      | environment => cases h
      | _ => trivial
  | hideSessions => cases h
  | reconcileBillingAccountState => trivial

/-- The events of a pass lead from one system to the other. -/
def PassReaches (s s' : BillingSystem) : Prop :=
  ∃ es, run BillingSystem.step s es = some s' ∧ ∀ e ∈ es, e.InPass

theorem PassReaches.refl : PassReaches s s := ⟨[], rfl, by simp⟩

theorem PassReaches.trans {s₁ s₂ s₃ : BillingSystem} (h : PassReaches s₁ s₂)
    (h' : PassReaches s₂ s₃) : PassReaches s₁ s₃ := by
  obtain ⟨es, hRun, hEvents⟩ := h
  obtain ⟨fs, hRun', hEvents'⟩ := h'
  refine ⟨es ++ fs, run_append.2 ⟨s₂, hRun, hRun'⟩, ?_⟩
  intro e hMem
  exact (List.mem_append.1 hMem).elim (hEvents e) (hEvents' e)

theorem PassReaches.of_apply {e : BillingEvent} (h : e.InPass) : PassReaches s (s.apply e) :=
  ⟨[e], rfl, by simpa using h⟩

theorem passReaches_foldlM {α : Type}
    {body : SettlementPass → α → Except BillingSystem SettlementPass}
    (hBody : ∀ pass x, PassReaches pass.system (passEnd (body pass x))) {xs : List α}
    {pass : SettlementPass} : PassReaches pass.system (passEnd (xs.foldlM body pass)) := by
  induction xs generalizing pass with
  | nil => exact .refl
  | cons x xs ih =>
      have hFirst := hBody pass x
      rw [List.foldlM_cons]
      cases hRun : body pass x with
      | error s =>
          rw [hRun] at hFirst
          exact hFirst
      | ok next =>
          rw [hRun] at hFirst
          exact hFirst.trans ih

theorem passReaches_settle {config : RetailBillingRuntimeConfig} {pass : SettlementPass}
    {candidate : RetailRatingCandidate} :
    PassReaches pass.system (passEnd (pass.settle config candidate)) := by
  have hStep : PassReaches pass.system
      (pass.system.apply (.billing (.settleRatingCandidate candidate config))) := .of_apply trivial
  simp only [BillingSystem.apply, BillingOp.apply] at hStep
  rw [SettlementPass.settle]
  split <;> rename_i hRun <;> rw [hRun] at hStep <;> exact hStep

theorem passReaches_reconcile {now : Timestamp} {pass : SettlementPass} {accountId : AccountId} :
    PassReaches pass.system (passEnd (pass.reconcile now accountId)) := by
  have hStep : PassReaches pass.system
      (pass.system.apply (.reconcileBillingAccountState accountId now)) := .of_apply trivial
  simp only [BillingSystem.apply] at hStep
  rw [SettlementPass.reconcile]
  split <;> rename_i hRun <;> rw [hRun] at hStep <;> exact hStep

/-- A pass is a sequence of transactions that settle candidates and reconcile accounts. -/
theorem passReaches_settleRetailBilling {config : RetailBillingRuntimeConfig} {now : Timestamp} :
    PassReaches s (passEnd (settleRetailBilling config now s)) := by
  rw [settleRetailBilling]
  split
  · exact .refl
  · rename_i listed _ _
    have hSettled : PassReaches s (passEnd ((listed.map ListedCandidate.toRow).foldlM
        (SettlementPass.settle config) ⟨s, ⟨0, 0, 0, 0, 0⟩, []⟩)) :=
      @passReaches_foldlM _ (SettlementPass.settle config) (fun _ _ => passReaches_settle) _
        ⟨s, ⟨0, 0, 0, 0, 0⟩, []⟩
    cases hRun : (listed.map ListedCandidate.toRow).foldlM (SettlementPass.settle config)
        ⟨s, ⟨0, 0, 0, 0, 0⟩, []⟩ with
    | error s' =>
        rw [hRun] at hSettled
        exact hSettled
    | ok pass =>
        rw [hRun] at hSettled
        refine hSettled.trans ?_
        change PassReaches pass.system (passEnd (pass.reconcileTouched config now))
        rw [SettlementPass.reconcileTouched]
        split
        · exact .refl
        · exact passReaches_foldlM fun _ _ => passReaches_reconcile

/-! ### Suspended accounts -/

theorem follows_empty {usage : UsageTables} {now : Timestamp} :
    ((BillingSystem.empty usage now).states a).Follows (negativeSpell []) := ⟨rfl, rfl, rfl, rfl⟩

/-- After every sequence of transactions the state of an account goes with its times. An account
becomes suspended only by a pass that sees a negative balance, and not before the second in which
the suspension is due since the negative balance was first seen. A pass that sees another balance
makes it active. And a pass leaves a suspended account without visible sessions that run, unless
one has been opened or revived since it was not suspended. -/
theorem suspension_consistent {usage : UsageTables} {now : Timestamp} {es : List BillingEvent}
    (hRun : run BillingSystem.step (.empty usage now) es = some s) (a : AccountId) :
    (s.states a).Consistent ∧
    (∀ e, (s.states a).state ≠ .suspended → ((s.apply e).states a).state = .suspended →
      ∃ o ∈ s.observation a e, o.balance < 0 ∧
        ∃ first ∈ (negativeSpell (BillingSystem.observations a (.empty usage now) es)).head?,
          dateParse first.dueAt ≤ jsDate o.now) ∧
    (∀ e, ∀ o ∈ s.observation a e, 0 ≤ o.balance → ((s.apply e).states a).state = .active) ∧
    ∀ es₁ es₂ s₁, es = es₁ ++ es₂ → run BillingSystem.step (.empty usage now) es₁ = some s₁ →
      (s₁.states a).state ≠ .suspended →
      StepsMeet BillingSystem.step (BillingSystem.OpensNoSession a) s₁ es₂ →
      ∀ config now, ((passEnd (settleRetailBilling config now s)).states a).state = .suspended →
        (passEnd (settleRetailBilling config now s)).visibleSessions a = [] := by
  have hFollows := BillingSystem.follows_run (follows_empty (a := a)) hRun
  rw [List.nil_append] at hFollows
  refine ⟨hFollows.consistent, fun e hBefore hAfter => ?_, fun e o hObserved hBalance => ?_, ?_⟩
  · exact BillingSystem.observation_of_suspended hFollows hBefore hAfter
  · obtain ⟨now, db, buckets, plan, -, rfl, -, hApply⟩ :=
      BillingSystem.exists_of_observation hObserved
    rw [hApply]
    exact BillingSystem.state_reconcileWith_of_nonneg hBalance
  · rintro es₁ es₂ s₁ rfl hRun₁ hState hMeet config now hSuspended
    obtain ⟨s₁', hRun₁', hRun₂⟩ := run_append.1 hRun
    rw [hRun₁] at hRun₁'
    cases hRun₁'
    have hQuiet : s₁.Quiet a := fun h => absurd h hState
    obtain ⟨fs, hRun₃, hEvents⟩ : PassReaches s (passEnd (settleRetailBilling config now s)) :=
      passReaches_settleRetailBilling
    have hPass : (passEnd (settleRetailBilling config now s)).Quiet a := by
      refine BillingSystem.Quiet.run (hQuiet.run hMeet hRun₂) ?_ hRun₃
      exact stepsMeet_of_forall fun e hMem _ => (hEvents e hMem).opensNoSession
    exact hPass.visibleSessions hSuspended

/-! ### An account that overdraws -/

/-- The only account, with a session and without a period of grace. -/
def overdrawnAccount : UsageTables :=
  { pilotAccount with sessions := [⟨3, some 1, .active, .active⟩] }

def enforceConfig : RetailBillingRuntimeConfig where
  mode := .enforce
  settlementLagSeconds := 60
  batchSize := 250
  tokenMint := 1
  tokenBaseUnitsPerBillingMinor := 10000

/-- A month of a config is rated without any credit, and two passes a second apart suspend the
account. -/
def overdrawing : List BillingEvent :=
  [.billing (.settleRatingCandidate
      { accountId := 1, sessionId := 3, planVersionId := 1, activeConfigMonthlyMinor := 50
        trafficPerGbMinor := 0, windowStart := 0, windowEnd := 2592000000000
        activeSeconds := 2592000, bytesToDestination := 0, bytesFromDestination := 0 }
      enforceConfig),
    .reconcileBillingAccountState 1 2592001000000, .reconcileBillingAccountState 1 2592002000000]

theorem suspension_consistent_overdrawn : ∃ s,
    run BillingSystem.step (.empty overdrawnAccount 0) overdrawing = some s ∧
      (s.states 1).state = .suspended ∧ (s.states 1).Consistent := by
  have hSome : ((run BillingSystem.step (.empty overdrawnAccount 0) overdrawing).any fun s =>
      (s.states 1).state = .suspended) = true := by
    decide +kernel
  obtain ⟨s, hRun, hState⟩ := (Option.any_eq_true _ _).1 hSome
  exact ⟨s, hRun, of_decide_eq_true hState, (suspension_consistent hRun 1).1⟩

/-- A session that is opened after the suspension. -/
def openedLater : BillingEvent :=
  .billing (.environment { overdrawnAccount with
    sessions := [⟨3, some 1, .revoked, .revoking⟩, ⟨4, some 1, .active, .requested⟩] } 0)

/-- What a pass leaves of an account that was suspended before the session was opened. -/
def runsWhileSuspended (s : BillingSystem) : Bool :=
  (s.states 1).state = .suspended &&
    (s.db.usage.nonTerminalAccountSessions 1).any fun session => session.desiredState = .active

/-- The session goes on, though no batch of the pass is full. -/
theorem session_runs_while_suspended : ∃ s pass,
    run BillingSystem.step (.empty overdrawnAccount 0) (overdrawing ++ [openedLater]) = some s ∧
      settleRetailBilling enforceConfig 2592003000000 s = .ok pass ∧
      s.accountsNeedingStateCheck.length < enforceConfig.batchSize ∧
      ratingCandidates s.db (settlementCutoff enforceConfig 2592003000000) = [] ∧
      runsWhileSuspended pass.system = true := by
  have hSome : ((run BillingSystem.step (.empty overdrawnAccount 0)
      (overdrawing ++ [openedLater])).any fun s =>
        s.accountsNeedingStateCheck.length < enforceConfig.batchSize &&
          ratingCandidates s.db (settlementCutoff enforceConfig 2592003000000) = [] &&
          (settleRetailBilling enforceConfig 2592003000000 s).toOption.any fun pass =>
            runsWhileSuspended pass.system) = true := by
    decide +kernel
  obtain ⟨s, hRun, hPass⟩ := (Option.any_eq_true _ _).1 hSome
  simp only [Bool.and_eq_true, decide_eq_true_eq] at hPass
  obtain ⟨⟨hBatch, hListed⟩, hPass⟩ := hPass
  obtain ⟨pass, hOk, hRuns⟩ := (Option.any_eq_true _ _).1 hPass
  refine ⟨s, pass, hRun, ?_, hBatch, hListed, hRuns⟩
  cases hSettled : settleRetailBilling enforceConfig 2592003000000 s with
  | error => simp [hSettled, Except.toOption] at hOk
  | ok settled =>
      rw [hSettled] at hOk
      cases hOk
      rfl

end Hyperspace.Rating
