import Hyperspace.Provisioning.SharedRows
import Hyperspace.Provisioning.SoundCells

/-!
# Traffic quotas

The enforcement of quotas marks an entitlement as exhausted when it has requested the revocation of
the session. For a hidden session the request finds nothing, but the entitlement is marked all the
same. A session that is served gets hidden when a deletion reads it while it is revoked and writes
after it was reactivated.

An adjustment asks who requested the last revocation, and takes the request with the latest
`created_at` for the last one. That is the start of its transaction: a request that had to wait for
the row can take effect after another one and carry an earlier time.
-/

namespace Hyperspace.Provisioning

open Hyperspace.Billing (AccountId SessionId Timestamp)
open Hyperspace.ControlPlane Hyperspace.Foundations

variable {config : SessionReconcileConfig} {id : AssignmentId} {c c' : Cell}

/-- The session has an account, and is to be revoked when its entitlement is exhausted. -/
structure Session.Metered (s : Session) : Prop where
  account : s.accountId.isSome
  exhausted : ∀ e ∈ s.entitlement, e.exhaustedAt.isSome → s.desiredState = .revoked

/-- Updates that leave the account, the desired state and the entitlement of a session. -/
theorem Session.Metered.of_eq {s s' : Session} (h : s.Metered)
    (hAccount : s'.accountId = s.accountId)
    (hDesired : s'.desiredState = s.desiredState) (hEntitlement : s'.entitlement = s.entitlement) :
    s'.Metered :=
  ⟨hAccount ▸ h.account, fun e he hSome => hDesired ▸ h.exhausted e (hEntitlement ▸ he) hSome⟩

theorem SessionMove.metered {now : Timestamp} {s s' : Session} (h : SessionMove now s s')
    (hMetered : s.Metered) : s'.Metered := by
  have hRevoked : s'.desiredState = .revoked → s'.accountId = s.accountId → s'.Metered :=
    fun hDesired hAccount => ⟨hAccount ▸ hMetered.account, fun _ _ _ => hDesired⟩
  cases h with
  | revocationRequested => exact hRevoked rfl rfl
  | exhausted desired => exact hRevoked desired rfl
  | revocationBegun desired => exact hRevoked desired rfl
  | hidden | probing | probed | unplaced => exact hMetered.of_eq rfl rfl rfl
  | consumed bytes =>
      refine ⟨hMetered.account, fun e' he' hSome => ?_⟩
      obtain ⟨e, he, rfl⟩ := Option.map_eq_some_iff.1 he'
      exact hMetered.exhausted e he hSome
  | adjusted includedBytes =>
      refine ⟨hMetered.account, fun e' he' hSome => ?_⟩
      obtain ⟨e, he, rfl⟩ := Option.map_eq_some_iff.1 he'
      by_cases hActive : s.desiredState = .active
      · simp [TrafficEntitlement.adjust, hActive] at hSome
      · simp only [TrafficEntitlement.adjust, hActive, decide_false, Bool.false_eq_true,
          if_false] at hSome
        exact hMetered.exhausted e he hSome
  | reactivated includedBytes =>
      refine ⟨hMetered.account, fun e' he' hSome => ?_⟩
      obtain ⟨e, he, rfl⟩ := Option.map_eq_some_iff.1 he'
      simp [TrafficEntitlement.adjust] at hSome
  | entitled trafficLimitBytes | paid trafficLimitBytes =>
      refine ⟨hMetered.account, fun e he hSome => ?_⟩
      rcases Option.or_eq_some_iff.1 he with hOld | ⟨-, hNew⟩
      · exact hMetered.exhausted e hOld hSome
      · obtain ⟨bytes, -, rfl⟩ := Option.map_eq_some_iff.1 hNew
        cases hSome

theorem Session.create_metered {now : Timestamp} {sid : SessionId} {accountId : AccountId}
    {clientProtocol : ClientProtocol} {phase : SessionPhase} {configGrant : Option Int} :
    (Session.create now sid accountId clientProtocol phase configGrant).Metered := by
  refine ⟨rfl, fun e he hSome => ?_⟩
  obtain ⟨bytes, -, rfl⟩ := Option.map_eq_some_iff.1 he
  cases hSome

/-- A transaction and the time it began, which is its `now()`; `now` is when it takes effect. -/
structure Transaction extends Event where
  begun : Timestamp

/-- A transaction that waits for nothing. -/
def Event.atOnce (e : Event) : Transaction := ⟨e, e.now⟩

/-- The session of the cell is metered. -/
def Cell.Metered (c : Cell) : Prop := ∀ s ∈ c.session, s.Metered

theorem Cell.Metered.pass (hInv : c.Metered) (h : CellPass id c c') : c'.Metered := by
  intro s' hs'
  rcases h.mem_session hs' with ⟨-, _, _, _, _, rfl⟩ | ⟨s, hs, rfl | rfl | hMove⟩
  · exact Session.create_metered
  · exact hInv _ hs
  · exact (hInv s hs).of_eq rfl rfl rfl
  · exact hMove.metered (hInv s hs)

theorem Cell.Metered.updateSession {f : Session → Session} (hInv : c.Metered)
    (hSession : c'.session = c.session.map f)
    (hf : ∀ s, (f s).accountId = s.accountId ∧ (f s).desiredState = s.desiredState ∧
      (f s).entitlement = s.entitlement) : c'.Metered := by
  intro s' hs'
  rw [hSession] at hs'
  obtain ⟨s, hs, rfl⟩ := Option.map_eq_some_iff.1 hs'
  exact (hInv s hs).of_eq (hf s).1 (hf s).2.1 (hf s).2.2

namespace ProvisioningDb

variable {db db' : ProvisioningDb} {es : List Transaction} {action : Action} {t : Transaction}

/-! ### Transactions and when they began -/

/-- The revoke requests behind the first `count` get the time their transaction began. -/
def dateRequests (db : ProvisioningDb) (count : Nat) (begun : Timestamp) : ProvisioningDb :=
  { db with
    revokeRequests := db.revokeRequests.take count ++
      (db.revokeRequests.drop count).map fun r => { r with createdAt := begun } }

/-- Transactions take effect one after another. -/
def stepBegun (config : SessionReconcileConfig) (db : ProvisioningDb) (t : Transaction) :
    Option ProvisioningDb :=
  if t.begun ≤ t.now then
    (step config db t.toEvent).map (·.dateRequests db.revokeRequests.length t.begun)
  else none

/-- The sessions that a transaction asks to revoke. -/
def requestedSessions (db : ProvisioningDb) : Action → List SessionId
  | .revokeByOwner _ id => [id]
  | .revokeExpired ids | .suspendAccount ids => ids
  | .enforceQuota locked =>
    (db.findExhaustedSessionTrafficEntitlementForUpdate locked).toList.map (·.id)
  | _ => []

theorem revokeRequests_perform : ∃ added : List RevokeRequest,
    (∀ r ∈ added, r.sessionId ∈ db.requestedSessions action ∧ r.createdAt = db.now) ∧
      (db.perform config action).revokeRequests = db.revokeRequests ++ added := by
  have hSame : ∀ {db' : ProvisioningDb}, db'.revokeRequests = db.revokeRequests →
      ∃ added : List RevokeRequest,
        (∀ r ∈ added, r.sessionId ∈ db.requestedSessions action ∧ r.createdAt = db.now) ∧
          db'.revokeRequests = db.revokeRequests ++ added :=
    fun hEq => ⟨[], by simp, by rw [hEq, List.append_nil]⟩
  by_cases hPrivate : action.IsPrivate
  · exact hSame (congrArg SharedRows.revokeRequests (shared_perform hPrivate))
  cases action with
  | revokeByOwner => exact requests_requestOwnedSessionRevocation.revokeRequests
  | revokeExpired | suspendAccount => exact requests_requestSystemRevocations.revokeRequests
  | enforceQuota => exact requests_enforceSessionTrafficQuota.revokeRequests
  | snapshot | deleteSnapshots => exact hSame rfl
  | deleteUnpaidSession accountId sid =>
      refine hSame ?_
      rw [perform, deleteUnpaidSession]
      split
      · split <;> rfl
      · rfl
  | schedule outcome locked =>
      refine hSame (revokeRequests_foldl fun db s => ?_)
      rcases @shared_scheduleSession db config outcome s with hShared | ⟨address, -, hShared⟩
      · exact congrArg SharedRows.revokeRequests hShared
      · exact congrArg SharedRows.revokeRequests hShared
  | failTimedOut | completeRevoked => exact hSame (revokeRequests_foldl fun _ _ => rfl)
  | _ => exact absurd trivial hPrivate

theorem stepBegun_eq_some (h : stepBegun config db t = some db') :
    ∃ after, step config db t.toEvent = some after ∧
      ∃ added : List RevokeRequest,
        (∀ r ∈ added, r.sessionId ∈ (db.atTime t.now).requestedSessions t.action ∧
          r.createdAt = t.begun) ∧
        db' = { after with revokeRequests := db.revokeRequests ++ added } := by
  obtain ⟨-, hMap⟩ := Option.ite_none_right_eq_some.1 h
  obtain ⟨after, hStep, rfl⟩ := Option.map_eq_some_iff.1 hMap
  refine ⟨after, hStep, ?_⟩
  obtain ⟨-, rfl⟩ := step_eq_some hStep
  obtain ⟨added, hAdded, hRequests⟩ := @revokeRequests_perform config (db.atTime t.now) t.action
  refine ⟨added.map fun r => { r with createdAt := t.begun }, ?_, ?_⟩
  · intro r' hr'
    obtain ⟨r, hr, rfl⟩ := List.mem_map.1 hr'
    exact ⟨(hAdded r hr).1, rfl⟩
  · have hLength : (db.atTime t.now).revokeRequests = db.revokeRequests := rfl
    rw [dateRequests, hRequests, hLength, List.take_left, List.drop_left]

theorem stepBegun_atOnce {e : Event} : stepBegun config db e.atOnce = step config db e := by
  have hEvent : stepBegun config db e.atOnce =
      (step config db e).map (·.dateRequests db.revokeRequests.length e.now) := if_pos le_rfl
  rw [hEvent]
  cases hStep : step config db e with
  | none => rfl
  | some after =>
      obtain ⟨-, rfl⟩ := step_eq_some hStep
      obtain ⟨added, hAdded, hRequests⟩ := @revokeRequests_perform config (db.atTime e.now) e.action
      have hDated : added.map (fun r => { r with createdAt := e.now }) = added := by
        refine (List.map_congr_left fun r hr => ?_).trans (List.map_id added)
        have hNow : r.createdAt = e.now := (hAdded r hr).2
        rw [← hNow]
        rfl
      have hLength : (db.atTime e.now).revokeRequests = db.revokeRequests := rfl
      rw [Option.map_some, dateRequests, hRequests, hLength, List.take_left, List.drop_left, hDated,
        ← hLength, ← hRequests]

theorem run_atOnce {events : List Event} :
    run (stepBegun config) db (events.map Event.atOnce) = run (step config) db events := by
  induction events generalizing db with
  | nil => rfl
  | cons e events ih =>
      rw [List.map_cons, run, run, stepBegun_atOnce]
      cases step config db e with
      | none => rfl
      | some after => exact ih

/-! ### The invariant of the entitlements -/

/-- The entitlement that a round of the enforcement finds is of a visible session. -/
def EnforcesVisible (db : ProvisioningDb) : Action → Prop
  | .enforceQuota locked =>
    ∀ s ∈ db.findExhaustedSessionTrafficEntitlementForUpdate locked, s.hiddenAt = none
  | _ => True

/-- The enforcement finds visible sessions only, and a session is asked to be revoked only by
transactions that began after the revoke requests it already has. -/
def KeepsQuotas (db : ProvisioningDb) (t : Transaction) : Prop :=
  (db.atTime t.now).EnforcesVisible t.action ∧
    ∀ r ∈ db.revokeRequests, r.sessionId ∈ (db.atTime t.now).requestedSessions t.action →
      r.createdAt < t.begun

instance : DecidablePred db.EnforcesVisible := fun action => by
  apply Action.casesOn (motive := fun action => Decidable (db.EnforcesVisible action)) action
  all_goals
    intros
    dsimp only [EnforcesVisible]
    infer_instance

theorem CellChange.metered (h : db.CellChange config id action c) (hSound : (db.cell id).Sound id)
    (hMeets : db.EnforcesVisible action) (hInv : (db.cell id).Metered) : c.Metered := by
  cases h with
  | passed _ _ passes =>
      exact passes.invariant (fun _ _ _ hInv hPass => hInv.pass hPass) hSound hInv
  | exhaustedHidden locked s found session hidden => exact absurd (hMeets s found) hidden
  | claimed | reported => exact hInv
  | scheduled => exact hInv.updateSession Cell.schedule_session fun _ => ⟨rfl, rfl, rfl⟩
  | activated | timedOut | revoked =>
      refine hInv.updateSession rfl ?_
      exact fun _ => ⟨rfl, rfl, rfl⟩

/-- The invariant of every session in every run that enforces the quotas of visible sessions. -/
theorem metered_run (hRun : run (stepBegun config) emptyDb es = some db)
    (hMeet : StepsMeet (stepBegun config) KeepsQuotas emptyDb es) {s : Session}
    (hs : s ∈ db.sessions.rows) : s.Metered := by
  let id : AssignmentId := (s.id, .ingress)
  have hEmpty : (emptyDb.cell id).Metered := by
    simp [Cell.Metered, emptyDb, cell, session?, Table.find?]
  have hBoth : (db.cell id).Sound id ∧ (db.cell id).Metered := by
    refine @run_invariant_of_stepsMeet _ _ _ _
      (fun db : ProvisioningDb => (db.cell id).Sound id ∧ (db.cell id).Metered) ?_ _ _ _
      ⟨sound_emptyDb, hEmpty⟩ hRun hMeet
    rintro db t db' ⟨hSound, hMetered⟩ ⟨hVisible, -⟩ hStep
    obtain ⟨after, hAfter, added, -, rfl⟩ := stepBegun_eq_some hStep
    obtain ⟨hTicked, hChange⟩ := cellChange_step hSound hAfter
    exact ⟨hChange.sound hTicked.sound hTicked.earlier,
      hChange.metered hTicked.sound hVisible hMetered⟩
  exact hBoth.2 s (cell_session_eq_some hs rfl)

/-! ### Revoke requests -/

/-- The revoke requests of every session are recorded in the order of their times. -/
def RequestsDated (db : ProvisioningDb) : Prop :=
  ∀ sid, (db.revokeRequests.filter (·.sessionId = sid)).Pairwise
    (fun r r' => r.createdAt ≤ r'.createdAt)

theorem requestsDated_step (hInv : db.RequestsDated) (hMeets : db.KeepsQuotas t)
    (hStep : stepBegun config db t = some db') : db'.RequestsDated := by
  obtain ⟨after, -, added, hAdded, rfl⟩ := stepBegun_eq_some hStep
  intro sid
  dsimp only
  rw [List.filter_append]
  refine List.pairwise_append.2 ⟨hInv sid, ?_, ?_⟩
  · refine List.pairwise_of_forall_mem_list fun r hr r' hr' => ?_
    rw [(hAdded r (List.mem_of_mem_filter hr)).2, (hAdded r' (List.mem_of_mem_filter hr')).2]
  · intro r hr r' hr'
    obtain ⟨hMem, hId⟩ := List.mem_filter.1 hr
    obtain ⟨hMem', hId'⟩ := List.mem_filter.1 hr'
    obtain ⟨hRequested, hBegun⟩ := hAdded r' hMem'
    rw [of_decide_eq_true hId', ← of_decide_eq_true hId] at hRequested
    rw [hBegun]
    exact (hMeets.2 r hMem hRequested).le

theorem requestsDated_run (hRun : run (stepBegun config) emptyDb es = some db)
    (hMeet : StepsMeet (stepBegun config) KeepsQuotas emptyDb es) : db.RequestsDated :=
  run_invariant_of_stepsMeet (fun _ _ _ hInv hMeets hStep => requestsDated_step hInv hMeets hStep)
    (fun _ => List.Pairwise.nil) hRun hMeet

/-- The last revoke request of a session by its time is the one that was recorded last. -/
theorem lastRevokeRequest?_eq_getLast? (h : db.RequestsDated) {sid : SessionId} :
    db.lastRevokeRequest? sid = (db.revokeRequests.filter (·.sessionId = sid)).getLast? :=
  foldl_latest_eq_getLast? (h sid)

/-! ### The enforcement of quotas -/

/-- Sessions that are served are below their quota. -/
def BelowQuotas (db : ProvisioningDb) : Prop :=
  ∀ s ∈ db.sessions.rows, s.desiredState = .active → s.phase ≠ .revoking → s.phase ≠ .revoked →
    s.phase ≠ .failed → ∀ e ∈ s.entitlement, e.consumedBytes < e.includedBytes

/-- One round of an enforcement run. -/
def enforcementRound (now : Timestamp) : Event := ⟨now, .enforceQuota []⟩

theorem belowQuotas_of_none (hMetered : ∀ s ∈ db.sessions.rows, s.Metered)
    (hNone : db.findExhaustedSessionTrafficEntitlementForUpdate [] = none) : db.BelowQuotas := by
  intro s hs hActive hRevoking hRevoked hFailed e he
  by_contra hOver
  have hMarked : e.exhaustedAt = none := by
    rw [← Option.not_isSome_iff_eq_none]
    intro hSome
    simp [(hMetered s hs).exhausted e he hSome] at hActive
  have hExhausted : Exhausted s :=
    ⟨⟨e, he, hMarked, not_lt.1 hOver⟩, (hMetered s hs).account, hActive, hRevoking, hRevoked,
      hFailed⟩
  cases locked_of_head?_selectForUpdate_eq_none hNone hs hExhausted

/-- An enforcement run is a run of its rounds, and finds nothing any more when it handles fewer
entitlements than its batch allows. -/
theorem run_enforceSessionTrafficQuotas {times : List Timestamp}
    (hTimes : (db.now :: times).Pairwise (· < ·)) :
    ∃ executed, executed <+: times ∧
      run (step config) db (executed.map enforcementRound) =
        some (db.enforceSessionTrafficQuotas times).1 ∧
      ((db.enforceSessionTrafficQuotas times).2 < times.length →
        (db.enforceSessionTrafficQuotas times).1.findExhaustedSessionTrafficEntitlementForUpdate
          [] = none) := by
  induction times generalizing db with
  | nil => exact ⟨[], List.prefix_refl [], rfl, fun h => by simp at h⟩
  | cons now times ih =>
      obtain ⟨hNow, hLater⟩ := List.pairwise_cons.1 hTimes
      have hStep : step config db (enforcementRound now) =
          some (((db.atTime now).enforceSessionTrafficQuota []).getD (db.atTime now)) :=
        if_pos (hNow now List.mem_cons_self)
      rw [enforceSessionTrafficQuotas]
      cases hRound : (db.atTime now).enforceSessionTrafficQuota [] with
      | none =>
          rw [hRound] at hStep
          have hRound' : { db with now }.enforceSessionTrafficQuota [] = none := hRound
          rw [hRound']
          refine ⟨[now], by simp, run_cons.2 ⟨_, hStep, rfl⟩, fun _ => ?_⟩
          exact Option.map_eq_none_iff.1 hRound
      | some db' =>
          rw [hRound] at hStep
          have hRound' : { db with now }.enforceSessionTrafficQuota [] = some db' := hRound
          have hNow' : db'.now = now := by
            have hKept := (@requests_enforceSessionTrafficQuota (db.atTime now) []).1
            rw [hRound] at hKept
            exact hKept
          rw [hRound']
          rw [← hNow'] at hLater
          obtain ⟨executed, hPrefix, hRun, hNone⟩ := ih hLater
          refine ⟨now :: executed, List.cons_prefix_cons.2 ⟨rfl, hPrefix⟩,
            run_cons.2 ⟨db', hStep, hRun⟩, fun hFewer => hNone ?_⟩
          simpa using hFewer

/-- No session whose last revocation was not requested by the enforcement is reactivated. -/
def ReactivatesExhausted (db : ProvisioningDb) : Prop :=
  ∀ sid includedBytes,
    (∀ r ∈ (db.revokeRequests.filter (·.sessionId = sid)).getLast?,
      r.reason ≠ .trafficQuotaExhausted) →
    ∀ s ∈ db.session? sid, ∀ s' ∈ (db.adjustSessionTrafficQuota sid includedBytes).1.session? sid,
      s'.desiredState = s.desiredState ∧ s'.phase = s.phase

theorem reactivatesExhausted_of_dated (h : db.RequestsDated) : db.ReactivatesExhausted := by
  intro sid includedBytes hOther s hs s' hs'
  have hId : s.id = sid := session?_id hs
  have hNotRequested : db.reactivation s ≠ .requested := by
    intro hRequested
    obtain ⟨hQuota, -⟩ := reactivation_eq_requested hRequested
    rw [quotaRevoked, hId, lastRevokeRequest?_eq_getLast? h, Option.any_eq_true] at hQuota
    obtain ⟨r, hr, hReason⟩ := hQuota
    exact hOther r hr (of_decide_eq_true hReason)
  have hSame : db.session? sid = some s' → s'.desiredState = s.desiredState ∧
      s'.phase = s.phase := by
    intro hs''
    rw [Option.mem_def.1 hs] at hs''
    cases hs''
    exact ⟨rfl, rfl⟩
  rw [adjustSessionTrafficQuota, Option.mem_def.1 hs] at hs'
  dsimp only at hs'
  split at hs'
  · exact hSame hs'
  · split at hs'
    · exact hSame hs'
    · split at hs'
      · exact hSame hs'
      · split at hs'
        · exact hSame hs'
        · dsimp only at hs'
          rw [session?_updateSession, if_pos rfl, Option.mem_def.1 hs] at hs'
          cases hs'
          exact ⟨rfl, rfl⟩

/-- What the enforcement of quotas is for. `times` are the times of the rounds of a run of it. -/
structure QuotasEnforced (db : ProvisioningDb) (times : List Timestamp) : Prop where
  exhausted : ∀ s ∈ db.sessions.rows, ∀ e ∈ s.entitlement, e.exhaustedAt.isSome →
    s.desiredState = .revoked
  enforced : (db.enforceSessionTrafficQuotas times).2 < times.length →
    (db.enforceSessionTrafficQuotas times).1.BelowQuotas
  reactivates : db.ReactivatesExhausted

instance : DecidablePred db.KeepsQuotas := fun _ => inferInstanceAs (Decidable (_ ∧ _))

/-- A session has used its traffic up and is revoked. -/
def quotaRevokedRun : List Event :=
  activeRun ++
    [⟨15, .usage 1 200⟩, ⟨16, .enforceQuota []⟩, ⟨17, .enqueueRevocations []⟩,
      ⟨18, .claim 1 none []⟩, ⟨19, .report 1 4 (succeeds "")⟩, ⟨20, .claim 2 none []⟩,
      ⟨21, .report 2 5 (succeeds "")⟩, ⟨22, .completeRevoked []⟩]

/-- The session gets more traffic, uses it up again, and the next enforcement revokes it. -/
def usedUpAgain : List Transaction :=
  List.map Event.atOnce
    (quotaRevokedRun ++ [⟨23, .adjustQuota 1 1000⟩, ⟨24, .usage 1 900⟩] : List Event)

/-- A deletion reads the session while it is revoked, and writes after it has got more traffic. -/
def hiddenWhileServed : List Transaction :=
  List.map Event.atOnce
    (quotaRevokedRun ++
      [⟨23, .beginHide 7 1⟩, ⟨24, .adjustQuota 1 1000⟩, ⟨25, .finishHide 1⟩, ⟨26, .usage 1 900⟩,
        ⟨27, .enforceQuota []⟩] : List Event)

/-- The owner's request began at 16 and has waited for the enforcement of 17. -/
def ownerWaits : List Transaction :=
  List.map Event.atOnce
      (activeRun ++ [⟨15, .usage 1 200⟩, ⟨17, .enforceQuota []⟩] : List Event) ++
    [⟨⟨18, .revokeByOwner 7 1⟩, 16⟩] ++
    List.map Event.atOnce
      [⟨19, .enqueueRevocations []⟩, ⟨20, .claim 1 none []⟩, ⟨21, .report 1 4 (succeeds "")⟩,
        ⟨22, .claim 2 none []⟩, ⟨23, .report 2 5 (succeeds "")⟩, ⟨24, .completeRevoked []⟩]

end ProvisioningDb

end Hyperspace.Provisioning
