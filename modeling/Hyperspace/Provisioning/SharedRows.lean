import Hyperspace.Provisioning.CellEvents

/-!
# Rows that belong to no cell

The address leases, the snapshots of the gates and the recorded revoke requests are lists of the
whole database. Most transactions do not touch them, and each of the others touches one of them.
-/

namespace Hyperspace.Provisioning

open Hyperspace.Billing (AccountId SessionId Timestamp)
open Hyperspace.ControlPlane Hyperspace.Foundations

/-- The rows that belong to no cell. -/
structure SharedRows where
  leases : List ClientAddressLease
  snapshots : List GateSnapshot
  revokeRequests : List RevokeRequest

namespace ProvisioningDb

def shared (db : ProvisioningDb) : SharedRows := ⟨db.leases, db.snapshots, db.revokeRequests⟩

variable {db db' : ProvisioningDb} {config : SessionReconcileConfig}

theorem shared_foldl {ρ : Type} {rows : List ρ} {body : ProvisioningDb → ρ → ProvisioningDb}
    (hBody : ∀ db r, (body db r).shared = db.shared) :
    (rows.foldl body db).shared = db.shared :=
  @foldl_invariant _ _ rows db body (fun db' => db'.shared = db.shared)
    (fun db' r _ hSame => (hBody db' r).trans hSame) rfl

/-! ### Statements -/

@[simp] theorem shared_updateSession {sid : SessionId} {f : Session → Session}
    {hf : ∀ s, (f s).id = s.id} : (db.updateSession sid f hf).shared = db.shared := rfl

@[simp] theorem shared_updateSessionStatusPhase {sid : SessionId} {phase : SessionPhase}
    {observed : Option Nat} :
    (db.updateSessionStatusPhase sid phase observed).shared = db.shared := rfl

@[simp] theorem shared_upsertRenderedPlan {plan : RenderedPlan} :
    (db.upsertRenderedPlan plan).shared = db.shared := by
  rw [upsertRenderedPlan]
  split <;> rfl

@[simp] theorem shared_createAssignment {sid : SessionId} {gateId : GateId}
    {role : GateAssignmentRole} {planId : PlanId} :
    (db.createAssignment sid gateId role planId).shared = db.shared := by
  rw [createAssignment]
  split <;> rfl

@[simp] theorem shared_insertApplyAssignmentJob {input : EnqueueApplyJobInput} :
    (db.insertApplyAssignmentJob input).shared = db.shared := by
  rw [insertApplyAssignmentJob]
  split <;> rfl

@[simp] theorem shared_insertRevokeAssignmentJob {a : GateAssignment} :
    (db.insertRevokeAssignmentJob a).shared = db.shared := by
  rw [insertRevokeAssignmentJob]
  split <;> rfl

/-! ### Transactions that touch none of these rows -/

theorem shared_revokeAssignment {a : GateAssignment} :
    (db.revokeAssignment a).shared = db.shared := by
  rw [revokeAssignment, shared_insertRevokeAssignmentJob]
  rfl

theorem shared_enqueueCommitJobs {s : Session} {ingress egress : GateAssignment} :
    (db.enqueueCommitJobs s ingress egress).shared = db.shared := by
  rw [enqueueCommitJobs, shared_insertApplyAssignmentJob, shared_insertApplyAssignmentJob]

theorem shared_provisionSession {s : Session} {ingressGateId egressGateId : GateId}
    {draw : TunnelDraw} {clientAddress : ClientAddress} :
    (db.provisionSession config s ingressGateId egressGateId draw clientAddress).shared =
      db.shared := by
  simp only [provisionSession, shared_updateSessionStatusPhase, shared_insertApplyAssignmentJob,
    shared_createAssignment, shared_upsertRenderedPlan]

theorem shared_insertRequestedSession {sid : SessionId} {accountId : AccountId}
    {clientProtocol : ClientProtocol} {phase : SessionPhase} {configGrant : Option Int} :
    (db.insertRequestedSession sid accountId clientProtocol phase configGrant).shared =
      db.shared := by
  rw [insertRequestedSession]
  split <;> rfl

theorem shared_activatePaidSession {accountId : AccountId} {sid : SessionId}
    {trafficLimitBytes : Option Int} :
    (db.activatePaidSession accountId sid trafficLimitBytes).shared = db.shared := by
  rw [activatePaidSession]
  split
  · split
    · dsimp only
      split <;> rfl
    · rfl
  · rfl

theorem shared_beginHidingSession {accountId : AccountId} {sid : SessionId} :
    (db.beginHidingSession accountId sid).shared = db.shared := by
  rw [beginHidingSession]
  split
  · split <;> rfl
  · rfl

theorem shared_finishHidingSession {sid : SessionId} :
    (db.finishHidingSession sid).shared = db.shared := by
  rw [finishHidingSession]
  split <;> rfl

theorem shared_adjustSessionTrafficQuota {sid : SessionId} {includedBytes : Int} :
    (db.adjustSessionTrafficQuota sid includedBytes).1.shared = db.shared := by
  rw [adjustSessionTrafficQuota]
  split
  · rfl
  · split
    · rfl
    · split
      · rfl
      · split
        · rfl
        · split
          · rfl
          · dsimp only
            rw [shared_updateSession]
            split <;> rfl

theorem shared_claimGateJob {gateId : GateId} {lane : Option GateJobLane} {locked : List JobId} :
    (db.claimGateJob gateId lane locked).shared = db.shared := by
  rw [claimGateJob]
  split
  · rfl
  · split
    · rfl
    · split <;> rfl

theorem shared_recordAssignmentProgress {id : AssignmentId} {jobType : JobType}
    {report : GateJobReport} {terminalFailure : Bool} :
    (db.recordAssignmentProgress id jobType report terminalFailure).shared = db.shared := by
  rw [recordAssignmentProgress]
  split
  · split <;> rfl
  · split <;> rfl

theorem shared_recordGateJobReport {gateId : GateId} {jobId : JobId} {report : GateJobReport} :
    (db.recordGateJobReport gateId jobId report).shared = db.shared := by
  rw [recordGateJobReport]
  split
  · rfl
  · split
    · dsimp only
      split
      · rfl
      · rw [shared_recordAssignmentProgress]
        rfl
    · rfl

theorem shared_beginSessionRevocation {locked : List SessionId} :
    (db.beginSessionRevocation locked).shared = db.shared :=
  shared_foldl fun _ s => by
    cases beginRevokingTransition s.phase <;> rfl

theorem shared_commitPreparedSession {s : Session} :
    (db.commitPreparedSession s).shared = db.shared := by
  rw [commitPreparedSession]
  split
  · have hEnqueued := @shared_enqueueCommitJobs db s
    exact hEnqueued
  · rfl
  · rfl
  · rfl

theorem shared_repairSession {s : Session} : (db.repairSession s).shared = db.shared := by
  rw [repairSession]
  split
  · exact shared_enqueueCommitJobs
  · rfl
  · rfl
  · rfl

theorem shared_reconcileGateDrift {locks : DriftLocks} {gate : GateActualStateDriftRow} :
    (db.reconcileGateDrift locks gate).shared = db.shared := by
  rw [reconcileGateDrift]
  split
  · rfl
  · dsimp only
    split
    · rfl
    · rw [enqueueCleanupJobsForKnownOrphans, shared_foldl fun _ _ => shared_revokeAssignment,
        enqueueRepairJobsForMissingHandles, shared_foldl fun _ _ => shared_repairSession]
      rfl

theorem shared_completeProvisionedSession {s : Session}
    (h : db.completeProvisionedSession config s = .ok db') : db'.shared = db.shared := by
  rw [completeProvisionedSession] at h
  split at h
  · cases h
    rfl
  · cases hPrepared : db.prepareClientConfigArtifact config s with
    | error e =>
        rw [hPrepared] at h
        cases h
    | ok prepared =>
        obtain ⟨artifact, -, rfl⟩ := prepareClientConfigArtifact_eq_ok hPrepared
        rw [hPrepared] at h
        cases h
        rfl

theorem shared_completeProvisionedSessions {locked : List SessionId} :
    ((db.completeProvisionedSessions config locked).toOption.getD db).shared = db.shared := by
  cases hDone : db.completeProvisionedSessions config locked with
  | error e => rfl
  | ok db' =>
      exact @foldlM_invariant _ _ _ _ _ _ _ (fun db' => db'.shared = db.shared)
        (fun _ _ _ _ hSame hStep => (shared_completeProvisionedSession hStep).trans hSame) rfl hDone

end ProvisioningDb

/-- The transactions that touch only rows of cells. -/
def Action.IsPrivate : Action → Prop
  | .deleteUnpaidSession .. | .revokeByOwner .. | .revokeExpired .. | .suspendAccount ..
  | .enforceQuota .. | .snapshot .. | .deleteSnapshots .. | .schedule .. | .failTimedOut ..
  | .completeRevoked .. => False
  | .createSession .. | .activatePaidSession .. | .beginHide .. | .finishHide ..
  | .adjustQuota .. | .claim .. | .report .. | .requeueExpired | .archiveJobs ..
  | .otherJob .. | .usage .. | .beginRevocation .. | .enqueueRevocations .. | .beginProbing ..
  | .advanceProbed .. | .enqueueCommits .. | .completeProvisioned .. | .drift .. => True

namespace ProvisioningDb

variable {db db' : ProvisioningDb} {config : SessionReconcileConfig} {action : Action}

theorem shared_perform (h : action.IsPrivate) :
    (db.perform config action).shared = db.shared := by
  cases action with
  | createSession => exact shared_insertRequestedSession
  | activatePaidSession => exact shared_activatePaidSession
  | beginHide => exact shared_beginHidingSession
  | finishHide => exact shared_finishHidingSession
  | adjustQuota => exact shared_adjustSessionTrafficQuota
  | claim => exact shared_claimGateJob
  | report => exact shared_recordGateJobReport
  | requeueExpired | archiveJobs | otherJob | usage => rfl
  | beginRevocation => exact shared_beginSessionRevocation
  | enqueueRevocations => exact shared_foldl fun _ _ => shared_revokeAssignment
  | beginProbing | advanceProbed => exact shared_foldl fun _ _ => rfl
  | enqueueCommits => exact shared_foldl fun _ _ => shared_commitPreparedSession
  | completeProvisioned => exact shared_completeProvisionedSessions
  | drift => exact shared_foldl fun _ _ => shared_reconcileGateDrift
  | deleteUnpaidSession | revokeByOwner | revokeExpired | suspendAccount | enforceQuota | snapshot
  | deleteSnapshots | schedule | failTimedOut | completeRevoked => exact h.elim

/-! ### Revoke requests -/

/-- A request of the system for the revocation of a session, or none where the session is hidden. -/
theorem shared_requestSystemSessionRevocation {sid : SessionId} {reason : RevokeReason} :
    ((db.requestSystemSessionRevocation sid reason).getD db).shared = db.shared ∨
      ((db.requestSystemSessionRevocation sid reason).getD db).shared =
        { db.shared with revokeRequests := db.revokeRequests ++ [⟨sid, reason, db.now⟩] } := by
  rw [requestSystemSessionRevocation]
  cases hSession : db.session? sid with
  | none => exact .inl rfl
  | some s =>
      obtain rfl := session?_id hSession
      dsimp only
      split
      · exact .inr rfl
      · exact .inl rfl

theorem shared_requestOwnedSessionRevocation {accountId : AccountId} {sid : SessionId} :
    ((db.requestOwnedSessionRevocation accountId sid).getD db).shared = db.shared ∨
      ((db.requestOwnedSessionRevocation accountId sid).getD db).shared =
        { db.shared with revokeRequests := db.revokeRequests ++ [⟨sid, .user, db.now⟩] } := by
  rw [requestOwnedSessionRevocation]
  cases hSession : db.session? sid with
  | none => exact .inl rfl
  | some s =>
      obtain rfl := session?_id hSession
      dsimp only
      split
      · exact .inr rfl
      · exact .inl rfl

/-- Requests for the revocation of some sessions add records of them. -/
def Requests (db : ProvisioningDb) (ids : List SessionId) (db' : ProvisioningDb) : Prop :=
  db'.now = db.now ∧
    ∃ added : List RevokeRequest, (∀ r ∈ added, r.sessionId ∈ ids ∧ r.createdAt = db.now) ∧
      db'.shared = { db.shared with revokeRequests := db.revokeRequests ++ added }

theorem Requests.of_shared {ids : List SessionId} (hNow : db'.now = db.now)
    (h : db'.shared = db.shared) : db.Requests ids db' :=
  ⟨hNow, [], by simp, by rw [h, List.append_nil]; rfl⟩

theorem Requests.trans {ids : List SessionId} {db'' : ProvisioningDb} (h : db.Requests ids db')
    (h' : db'.Requests ids db'') : db.Requests ids db'' := by
  obtain ⟨hNow, added, hAdded, hShared⟩ := h
  obtain ⟨hNow', added', hAdded', hShared'⟩ := h'
  have hRequests : db'.revokeRequests = db.revokeRequests ++ added :=
    congrArg SharedRows.revokeRequests hShared
  refine ⟨hNow'.trans hNow, added ++ added', ?_, ?_⟩
  · intro r hr
    rcases List.mem_append.1 hr with hr | hr
    · exact hAdded r hr
    · exact ⟨(hAdded' r hr).1, (hAdded' r hr).2.trans hNow⟩
  · rw [hShared', hShared, hRequests, List.append_assoc]

theorem requests_requestSystemSessionRevocation {ids : List SessionId} {sid : SessionId}
    {reason : RevokeReason} (hId : sid ∈ ids) :
    db.Requests ids ((db.requestSystemSessionRevocation sid reason).getD db) := by
  have hNow : ((db.requestSystemSessionRevocation sid reason).getD db).now = db.now := by
    rw [requestSystemSessionRevocation]
    split
    · split <;> rfl
    · rfl
  rcases @shared_requestSystemSessionRevocation db sid reason with hSame | hAdded
  · exact .of_shared hNow hSame
  · exact ⟨hNow, [_], by simp [hId], hAdded⟩

theorem requests_requestOwnedSessionRevocation {accountId : AccountId} {sid : SessionId} :
    db.Requests [sid] ((db.requestOwnedSessionRevocation accountId sid).getD db) := by
  have hNow : ((db.requestOwnedSessionRevocation accountId sid).getD db).now = db.now := by
    rw [requestOwnedSessionRevocation]
    split
    · split <;> rfl
    · rfl
  rcases @shared_requestOwnedSessionRevocation db accountId sid with hSame | hAdded
  · exact .of_shared hNow hSame
  · exact ⟨hNow, [_], by simp, hAdded⟩

theorem requests_requestSystemRevocations {ids : List SessionId} {reason : RevokeReason} :
    db.Requests ids (db.requestSystemRevocations ids reason) :=
  @foldl_invariant _ _ ids db _ (fun db' => db.Requests ids db')
    (fun _ _ hId h => h.trans (requests_requestSystemSessionRevocation hId)) (.of_shared rfl rfl)

theorem requests_enforceSessionTrafficQuota {locked : List SessionId} :
    db.Requests ((db.findExhaustedSessionTrafficEntitlementForUpdate locked).toList.map (·.id))
      ((db.enforceSessionTrafficQuota locked).getD db) := by
  rw [enforceSessionTrafficQuota]
  cases db.findExhaustedSessionTrafficEntitlementForUpdate locked with
  | none => exact .of_shared rfl rfl
  | some s => exact (requests_requestSystemSessionRevocation (by simp)).trans (.of_shared rfl rfl)

theorem Requests.revokeRequests {ids : List SessionId} (h : db.Requests ids db') :
    ∃ added : List RevokeRequest, (∀ r ∈ added, r.sessionId ∈ ids ∧ r.createdAt = db.now) ∧
      db'.revokeRequests = db.revokeRequests ++ added := by
  obtain ⟨-, added, hAdded, hShared⟩ := h
  exact ⟨added, hAdded, congrArg SharedRows.revokeRequests hShared⟩

theorem revokeRequests_foldl {ρ : Type} {rows : List ρ}
    {body : ProvisioningDb → ρ → ProvisioningDb}
    (hBody : ∀ db r, (body db r).revokeRequests = db.revokeRequests) :
    (rows.foldl body db).revokeRequests = db.revokeRequests :=
  @foldl_invariant _ _ rows db body (fun db' => db'.revokeRequests = db.revokeRequests)
    (fun db' r _ hSame => (hBody db' r).trans hSame) rfl

/-! ### Leases -/

/-- The leases after the release of the lease of a session. -/
def released (now : Timestamp) (sessionId : SessionId) (leases : List ClientAddressLease) :
    List ClientAddressLease :=
  leases.map fun l =>
    if l.sessionId = sessionId ∧ l.releasedAt = none then { l with releasedAt := some now } else l

theorem shared_ensureClientAddressLease {sid : SessionId} {addresses : List ClientAddress}
    {address : ClientAddress}
    (h : db.ensureClientAddressLease sid addresses = some (address, db')) :
    db'.shared = db.shared ∨
      (∀ l ∈ db.leases, l.releasedAt = none → l.clientAddress ≠ address) ∧
        db'.shared = { db.shared with leases := db.leases ++ [⟨sid, address, none⟩] } := by
  rw [ensureClientAddressLease] at h
  split at h
  · cases h
    exact .inl rfl
  · dsimp only at h
    obtain ⟨found, hFound, hEq⟩ := Option.map_eq_some_iff.1 h
    cases hEq
    refine .inr ⟨fun l hl hActive hSame => ?_, rfl⟩
    have hFree := List.find?_some hFound
    simp only [decide_eq_true_eq] at hFree
    refine hFree (List.mem_map.2 ⟨l, List.mem_filter.2 ⟨hl, ?_⟩, hSame⟩)
    rw [hActive]
    rfl

theorem shared_scheduleSession {outcome : SessionId → PathOutcome} {s : Session} :
    (db.scheduleSession config outcome s).shared = db.shared ∨
      ∃ address, (∀ l ∈ db.leases, l.releasedAt = none → l.clientAddress ≠ address) ∧
        (db.scheduleSession config outcome s).shared =
          { db.shared with leases := db.leases ++ [⟨s.id, address, none⟩] } := by
  rw [scheduleSession]
  cases outcome s.id with
  | noPath => exact .inl rfl
  | path ingressGateId egressGateId addresses draw =>
      dsimp only
      cases hLease : db.ensureClientAddressLease s.id addresses with
      | none => exact .inl rfl
      | some leased =>
          obtain ⟨address, db'⟩ := leased
          dsimp only
          rw [shared_provisionSession]
          rcases shared_ensureClientAddressLease hLease with hSame | ⟨hFree, hAdded⟩
          · exact .inl hSame
          · exact .inr ⟨address, hFree, hAdded⟩

/-! ### Snapshots -/

theorem Requests.snapshots {ids : List SessionId} (h : db.Requests ids db') :
    db'.snapshots = db.snapshots := by
  obtain ⟨-, added, -, hShared⟩ := h
  exact congrArg SharedRows.snapshots hShared

theorem Requests.leases {ids : List SessionId} (h : db.Requests ids db') :
    db'.leases = db.leases := by
  obtain ⟨-, added, -, hShared⟩ := h
  exact congrArg SharedRows.leases hShared

theorem snapshots_foldl {ρ : Type} {rows : List ρ} {body : ProvisioningDb → ρ → ProvisioningDb}
    (hBody : ∀ db r, (body db r).snapshots = db.snapshots) :
    (rows.foldl body db).snapshots = db.snapshots :=
  @foldl_invariant _ _ rows db body (fun db' => db'.snapshots = db.snapshots)
    (fun db' r _ hSame => (hBody db' r).trans hSame) rfl

theorem snapshots_scheduleSession {outcome : SessionId → PathOutcome} {s : Session} :
    (db.scheduleSession config outcome s).snapshots = db.snapshots := by
  rcases @shared_scheduleSession db config outcome s with hSame | ⟨address, -, hAdded⟩
  · exact congrArg SharedRows.snapshots hSame
  · exact congrArg SharedRows.snapshots hAdded

theorem snapshots_deleteUnpaidSession {accountId : AccountId} {sid : SessionId} :
    (db.deleteUnpaidSession accountId sid).snapshots = db.snapshots := by
  rw [deleteUnpaidSession]
  split
  · split <;> rfl
  · rfl

theorem mem_snapshots_perform {g : GateSnapshot} (hg : g ∈ (db.perform config action).snapshots) :
    g ∈ db.snapshots ∨
      ∃ gateId managedHandles, action = .snapshot gateId managedHandles g.reportedAt := by
  by_cases hPrivate : action.IsPrivate
  · have hSame : (db.perform config action).snapshots = db.snapshots :=
      congrArg SharedRows.snapshots (shared_perform hPrivate)
    exact .inl (hSame ▸ hg)
  have hKept : (db.perform config action).snapshots = db.snapshots → g ∈ db.snapshots :=
    fun hSame => hSame ▸ hg
  cases action with
  | snapshot gateId managedHandles reportedAt =>
      rcases List.mem_append.1 hg with hOld | hNew
      · exact .inl hOld
      · rw [List.mem_singleton.1 hNew]
        exact .inr ⟨gateId, managedHandles, rfl⟩
  | deleteSnapshots => exact .inl (List.mem_of_mem_filter hg)
  | deleteUnpaidSession => exact .inl (hKept snapshots_deleteUnpaidSession)
  | revokeByOwner => exact .inl (hKept requests_requestOwnedSessionRevocation.snapshots)
  | revokeExpired | suspendAccount => exact .inl (hKept requests_requestSystemRevocations.snapshots)
  | enforceQuota => exact .inl (hKept requests_enforceSessionTrafficQuota.snapshots)
  | schedule => exact .inl (hKept (snapshots_foldl fun _ _ => snapshots_scheduleSession))
  | failTimedOut | completeRevoked => exact .inl (hKept (snapshots_foldl fun _ _ => rfl))
  | _ => exact absurd trivial hPrivate

end ProvisioningDb

end Hyperspace.Provisioning
