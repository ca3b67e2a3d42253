import Hyperspace.Provisioning.CellEvents

/-!
# Frames of the transactions

A transaction keeps every preorder that its statements keep. A frame is checked once for each
statement; the claims and the reports of gates and the end of a deletion write what some frames
are about, so they are left to the frame.
-/

namespace Hyperspace.Provisioning

open Hyperspace.Billing (AccountId SessionId Timestamp)
open Hyperspace.ControlPlane Hyperspace.Foundations

/-- What no statement but `hideOwnedSession` rewrites of a session. -/
structure Session.Kept (s s' : Session) : Prop where
  id : s'.id = s.id
  accountId : s'.accountId = s.accountId
  clientProtocol : s'.clientProtocol = s.clientProtocol
  hiddenAt : s'.hiddenAt = s.hiddenAt
  createdAt : s'.createdAt = s.createdAt
  configGrant : s'.configGrant = s.configGrant

namespace ProvisioningDb

/-- A frame that the statements of the transactions keep. -/
structure StatementsKeep (R : ProvisioningDb → ProvisioningDb → Prop) : Prop where
  insertRequestedSession : ∀ db id accountId clientProtocol phase includedBytes,
    R db (db.insertRequestedSession id accountId clientProtocol phase includedBytes)
  updateSession : ∀ (db : ProvisioningDb) (id : SessionId) (f : Session → Session) hf,
    (∀ s : Session, s.Kept (f s)) → R db (db.updateSession id f hf)
  deleteSession : ∀ db id, R db (db.deleteSession id)
  insertRevokeRequest : ∀ db id reason, R db (db.insertRevokeRequest id reason)
  beginHidingSession : ∀ db accountId id, R db (db.beginHidingSession accountId id)
  upsertRenderedPlan : ∀ db plan, R db (db.upsertRenderedPlan plan)
  insertClientAddressLease : ∀ db id address, R db (db.insertClientAddressLease id address)
  releaseClientAddressLease : ∀ db id, R db (db.releaseClientAddressLease id)
  insertClientConfigArtifact : ∀ db artifact, R db (db.insertClientConfigArtifact artifact)
  invalidateSessionArtifacts : ∀ db id, R db (db.invalidateSessionArtifacts id)
  createAssignment : ∀ db id gateId role planId, R db (db.createAssignment id gateId role planId)
  modifyAssignments : ∀ (db : ProvisioningDb) f hf,
    R db { db with assignments := db.assignments.modify f hf }
  insertApplyAssignmentJob : ∀ db input, R db (db.insertApplyAssignmentJob input)
  insertRevokeAssignmentJob : ∀ db a, R db (db.insertRevokeAssignmentJob a)
  insertOtherJob : ∀ db job, R db (db.insertOtherJob job)
  markApplyJobsDeadForSession : ∀ db id, R db (db.markApplyJobsDeadForSession id)
  requeueExpiredJobLeases : ∀ db, R db db.requeueExpiredJobLeases
  archiveJobs : ∀ db ids, R db (db.archiveJobs ids)
  updateGateActualState : ∀ db gateId managedHandles reportedAt,
    R db (db.updateGateActualState gateId managedHandles reportedAt)
  deleteSnapshots : ∀ db receivedBefore,
    R db (db.deleteExpiredGateActualStateSnapshots receivedBefore)

end ProvisioningDb

/-- The transactions that the statements of a frame make up. -/
def Action.IsFramed : Action → Prop
  | .claim .. | .report .. | .finishHide .. => False
  | .createSession .. | .activatePaidSession .. | .deleteUnpaidSession .. | .revokeByOwner ..
  | .revokeExpired .. | .suspendAccount .. | .beginHide .. | .enforceQuota .. | .adjustQuota ..
  | .requeueExpired | .archiveJobs .. | .otherJob .. | .snapshot .. | .deleteSnapshots ..
  | .usage .. | .beginRevocation .. | .enqueueRevocations .. | .beginProbing ..
  | .advanceProbed .. | .schedule .. | .enqueueCommits .. | .completeProvisioned ..
  | .failTimedOut .. | .completeRevoked .. | .drift .. => True

namespace ProvisioningDb.StatementsKeep

variable {R : ProvisioningDb → ProvisioningDb → Prop} {db : ProvisioningDb}
  {config : SessionReconcileConfig}

section

variable (h : StatementsKeep R)

include h

theorem updateSessionStatusPhase {id : SessionId} {phase : SessionPhase} {observed : Option Nat} :
    R db (db.updateSessionStatusPhase id phase observed) :=
  h.updateSession _ _ _ _ fun _ => ⟨rfl, rfl, rfl, rfl, rfl, rfl⟩

theorem touchSessionStatus {id : SessionId} : R db (db.touchSessionStatus id) :=
  h.updateSession _ _ _ _ fun _ => ⟨rfl, rfl, rfl, rfl, rfl, rfl⟩

theorem updateEntitlement {id : SessionId} {f : TrafficEntitlement → TrafficEntitlement} :
    R db (db.updateSession id (·.setEntitlement f) fun _ => Session.setEntitlement_id) :=
  h.updateSession _ _ _ _ fun _ => ⟨rfl, rfl, rfl, rfl, rfl, rfl⟩

theorem updateAssignment {id : AssignmentId} {f : GateAssignment → GateAssignment}
    {hf : ∀ a, (f a).id = a.id} : R db (db.updateAssignment id f hf) :=
  h.modifyAssignments _ _ _

end

variable [IsPreorder ProvisioningDb R]

theorem foldl {ρ : Type} {rows : List ρ} {body : ProvisioningDb → ρ → ProvisioningDb}
    (hBody : ∀ db r, R db (body db r)) : R db (rows.foldl body db) :=
  @foldl_invariant _ _ rows db body (fun db' => R db db')
    (fun db' r _ hKept => trans_of R hKept (hBody db' r)) (refl_of R db)

variable (h : StatementsKeep R)

include h

/-! ### Requests -/

theorem requestRevocation {s : Session} {reason : RevokeReason} :
    R db (db.requestRevocation s reason) := by
  have hDesired : R db (db.updateSessionDesiredState s.id .revoked true) :=
    h.updateSession _ _ _ _ fun _ => ⟨rfl, rfl, rfl, rfl, rfl, rfl⟩
  rw [ProvisioningDb.requestRevocation]
  exact trans_of R (trans_of R hDesired h.updateSessionStatusPhase) (h.insertRevokeRequest _ _ _)

theorem requestOwnedSessionRevocation {accountId : AccountId} {id : SessionId} :
    R db ((db.requestOwnedSessionRevocation accountId id).getD db) := by
  rw [ProvisioningDb.requestOwnedSessionRevocation]
  split
  · split
    · exact h.requestRevocation
    · exact refl_of R db
  · exact refl_of R db

theorem requestSystemSessionRevocation {id : SessionId} {reason : RevokeReason} :
    R db ((db.requestSystemSessionRevocation id reason).getD db) := by
  rw [ProvisioningDb.requestSystemSessionRevocation]
  split
  · split
    · exact h.requestRevocation
    · exact refl_of R db
  · exact refl_of R db

theorem activatePaidSession {accountId : AccountId} {id : SessionId}
    {trafficLimitBytes : Option Int} :
    R db (db.activatePaidSession accountId id trafficLimitBytes) := by
  have hEntitled : R db (db.updateSession id (·.entitle db.now trafficLimitBytes)
      fun _ => Session.entitle_id) :=
    h.updateSession _ _ _ _ fun _ => ⟨rfl, rfl, rfl, rfl, rfl, rfl⟩
  rw [ProvisioningDb.activatePaidSession]
  split
  · split
    · dsimp only
      split
      · exact trans_of R hEntitled h.updateSessionStatusPhase
      · exact hEntitled
    · exact refl_of R db
  · exact refl_of R db

theorem deleteUnpaidSession {accountId : AccountId} {id : SessionId} :
    R db (db.deleteUnpaidSession accountId id) := by
  rw [ProvisioningDb.deleteUnpaidSession]
  split
  · split
    · exact h.deleteSession _ _
    · exact refl_of R db
  · exact refl_of R db

theorem enforceSessionTrafficQuota {locked : List SessionId} :
    R db ((db.enforceSessionTrafficQuota locked).getD db) := by
  rw [ProvisioningDb.enforceSessionTrafficQuota]
  cases db.findExhaustedSessionTrafficEntitlementForUpdate locked with
  | none => exact refl_of R db
  | some s => exact trans_of R h.requestSystemSessionRevocation h.updateEntitlement

theorem adjustSessionTrafficQuota {id : SessionId} {includedBytes : Int} :
    R db (db.adjustSessionTrafficQuota id includedBytes).1 := by
  rw [ProvisioningDb.adjustSessionTrafficQuota]
  split
  · exact refl_of R db
  · rename_i s hSession
    split
    · exact refl_of R db
    · split
      · exact refl_of R db
      · split
        · exact refl_of R db
        · split
          · exact refl_of R db
          · refine trans_of R ?_ h.updateEntitlement
            split
            · have hDesired : R db (db.updateSessionDesiredState id .active true) :=
                h.updateSession _ _ _ _ fun _ => ⟨rfl, rfl, rfl, rfl, rfl, rfl⟩
              exact trans_of R hDesired h.updateSessionStatusPhase
            · exact refl_of R db

/-! ### Passes -/

theorem beginSessionRevocation {locked : List SessionId} :
    R db (db.beginSessionRevocation locked) := by
  refine foldl fun db s => ?_
  cases beginRevokingTransition s.phase with
  | none => exact refl_of R db
  | some phase => exact h.updateSessionStatusPhase

theorem revokeAssignment {a : GateAssignment} : R db (db.revokeAssignment a) :=
  trans_of R h.updateAssignment (h.insertRevokeAssignmentJob _ _)

theorem provisionSession {s : Session} {ingressGateId egressGateId : GateId} {draw : TunnelDraw}
    {clientAddress : ClientAddress} :
    R db (db.provisionSession config s ingressGateId egressGateId draw clientAddress) := by
  rw [ProvisioningDb.provisionSession]
  refine trans_of R ?_ h.updateSessionStatusPhase
  refine trans_of R ?_ (h.insertApplyAssignmentJob _ _)
  refine trans_of R ?_ (h.insertApplyAssignmentJob _ _)
  refine trans_of R ?_ (h.createAssignment _ _ _ _ _)
  exact trans_of R (h.upsertRenderedPlan _ _) (h.createAssignment _ _ _ _ _)

theorem ensureClientAddressLease {id : SessionId} {addresses : List ClientAddress}
    {r : ClientAddress × ProvisioningDb}
    (hLeased : db.ensureClientAddressLease id addresses = some r) :
    R db r.2 := by
  rw [ProvisioningDb.ensureClientAddressLease] at hLeased
  split at hLeased
  · cases hLeased
    exact refl_of R db
  · obtain ⟨address, -, rfl⟩ := Option.map_eq_some_iff.1 hLeased
    exact h.insertClientAddressLease _ _ _

theorem scheduleSession {outcome : SessionId → PathOutcome} {s : Session} :
    R db (db.scheduleSession config outcome s) := by
  rw [ProvisioningDb.scheduleSession]
  split
  · exact h.updateSessionStatusPhase
  · split
    · exact h.updateSessionStatusPhase
    · rename_i hLeased
      exact trans_of R (h.ensureClientAddressLease hLeased) h.provisionSession

theorem enqueueCommitJobs {s : Session} {ingress egress : GateAssignment} :
    R db (db.enqueueCommitJobs s ingress egress) := by
  rw [ProvisioningDb.enqueueCommitJobs]
  exact trans_of R (h.insertApplyAssignmentJob _ _) (h.insertApplyAssignmentJob _ _)

theorem commitPreparedSession {s : Session} : R db (db.commitPreparedSession s) := by
  rw [ProvisioningDb.commitPreparedSession]
  split
  · refine trans_of R ?_ h.touchSessionStatus
    exact trans_of R h.enqueueCommitJobs (h.modifyAssignments _ _ _)
  · exact refl_of R db
  · exact refl_of R db
  · exact refl_of R db

theorem completeProvisionedSession {s : Session} {db' : ProvisioningDb}
    (hDone : db.completeProvisionedSession config s = .ok db') : R db db' := by
  rw [ProvisioningDb.completeProvisionedSession] at hDone
  split at hDone
  · cases hDone
    exact h.updateSessionStatusPhase
  · cases hPrepared : db.prepareClientConfigArtifact config s with
    | error e =>
        rw [hPrepared] at hDone
        cases hDone
    | ok prepared =>
        obtain ⟨artifact, -, rfl⟩ := prepareClientConfigArtifact_eq_ok hPrepared
        rw [hPrepared] at hDone
        cases hDone
        refine trans_of R ?_ h.updateSessionStatusPhase
        exact trans_of R (h.insertClientConfigArtifact _ artifact) h.touchSessionStatus

theorem completeProvisionedSessions {locked : List SessionId} :
    R db ((db.completeProvisionedSessions config locked).toOption.getD db) := by
  cases hDone : db.completeProvisionedSessions config locked with
  | error e => exact refl_of R db
  | ok db' =>
      refine @foldlM_invariant _ _ _ _ _ _ _ (fun db' => R db db') ?_ (refl_of R db) hDone
      intro db₁ s _ db₂ hKept hStep
      exact trans_of R hKept (h.completeProvisionedSession hStep)

theorem failTimedOutSession {s : Session} : R db (db.failTimedOutSession s) := by
  rw [ProvisioningDb.failTimedOutSession]
  refine trans_of R ?_ (h.releaseClientAddressLease _ _)
  refine trans_of R ?_ h.updateSessionStatusPhase
  refine trans_of R ?_ (h.invalidateSessionArtifacts _ _)
  exact trans_of R (h.markApplyJobsDeadForSession _ _) (h.modifyAssignments _ _ _)

theorem completeRevokedSession {s : Session} : R db (db.completeRevokedSession s) := by
  rw [ProvisioningDb.completeRevokedSession]
  refine trans_of R ?_ (h.releaseClientAddressLease _ _)
  exact trans_of R (h.invalidateSessionArtifacts _ _) h.updateSessionStatusPhase

theorem repairSession {s : Session} : R db (db.repairSession s) := by
  rw [ProvisioningDb.repairSession]
  split
  · exact h.enqueueCommitJobs
  · exact refl_of R db
  · exact refl_of R db
  · exact refl_of R db

theorem reconcileGateDrift {locks : DriftLocks} {gate : GateActualStateDriftRow} :
    R db (db.reconcileGateDrift locks gate) := by
  rw [ProvisioningDb.reconcileGateDrift]
  split
  · exact refl_of R db
  · dsimp only
    split
    · exact refl_of R db
    · refine trans_of R ?_ (foldl fun _ _ => h.revokeAssignment)
      refine trans_of R ?_ (foldl fun _ _ => h.repairSession)
      exact h.modifyAssignments _ _ _

theorem perform {action : Action} (hFramed : action.IsFramed) :
    R db (db.perform config action) := by
  cases action with
  | createSession => exact h.insertRequestedSession _ _ _ _ _ _
  | activatePaidSession => exact h.activatePaidSession
  | deleteUnpaidSession => exact h.deleteUnpaidSession
  | revokeByOwner => exact h.requestOwnedSessionRevocation
  | revokeExpired | suspendAccount => exact foldl fun _ _ => h.requestSystemSessionRevocation
  | beginHide => exact h.beginHidingSession _ _ _
  | enforceQuota => exact h.enforceSessionTrafficQuota
  | adjustQuota => exact h.adjustSessionTrafficQuota
  | requeueExpired => exact h.requeueExpiredJobLeases _
  | archiveJobs => exact h.archiveJobs _ _
  | otherJob => exact h.insertOtherJob _ _
  | snapshot => exact h.updateGateActualState _ _ _ _
  | deleteSnapshots => exact h.deleteSnapshots _ _
  | usage => exact h.updateEntitlement
  | beginRevocation => exact h.beginSessionRevocation
  | enqueueRevocations => exact foldl fun _ _ => h.revokeAssignment
  | beginProbing | advanceProbed => exact foldl fun _ _ => h.updateSessionStatusPhase
  | schedule => exact foldl fun _ _ => h.scheduleSession
  | enqueueCommits => exact foldl fun _ _ => h.commitPreparedSession
  | completeProvisioned => exact h.completeProvisionedSessions
  | failTimedOut => exact foldl fun _ _ => h.failTimedOutSession
  | completeRevoked => exact foldl fun _ _ => h.completeRevokedSession
  | drift => exact foldl fun _ _ => h.reconcileGateDrift
  | claim | report | finishHide => exact hFramed.elim

end ProvisioningDb.StatementsKeep

end Hyperspace.Provisioning
