import Hyperspace.Provisioning.Statements

/-!
# The transactions of the control plane

What the API, the gates and the passes of the reconcile loop run, each as one transaction. A pass
reads its rows once and then handles them one after another.
-/

namespace Hyperspace.Provisioning

open Hyperspace.Billing (AccountId SessionId Timestamp)
open Hyperspace.ControlPlane Hyperspace.Foundations

/-- What the passes are configured with, and the SHA-256 fingerprint of a header protection key. -/
structure SessionReconcileConfig where
  provisioningTimeoutSeconds : Nat
  keyFingerprint : String → String

/-- The random draws of `createClientTunnel`. -/
structure TunnelDraw where
  headerProtectionKey : String
  keyValid : isHeaderProtectionKey headerProtectionKey = true
  messagePrefix : Int
  prefixRange : 16 ≤ messagePrefix ∧ messagePrefix < 49
  jc : Int
  jcRange : 4 ≤ jc ∧ jc < 13

/-- What `choosePath` and the address pools offer to a session that is being scheduled. -/
inductive PathOutcome where
  | noPath
  | path (ingressGateId egressGateId : GateId) (addresses : List ClientAddress)
      (draw : TunnelDraw)

def createClientTunnel (config : SessionReconcileConfig) (draw : TunnelDraw) : ClientTunnel :=
  .amneziawg (config.keyFingerprint draw.headerProtectionKey)
    { jc := draw.jc, jmin := 40, jmax := 1000, s1 := draw.messagePrefix
      s2 := draw.messagePrefix, s3 := draw.messagePrefix, s4 := draw.messagePrefix
      h1 := "1", h2 := "2", h3 := "3", h4 := "4"
      contentPaddingAddition := "0-64", rekeyAfterTime := "100-140", rekeyTimeout := "4-7"
      keepaliveTimeout := "8-15", randomTrailers := "on" }

def renderWireGuardPlan (config : SessionReconcileConfig) (s : Session) (draw : TunnelDraw)
    (clientAddress : ClientAddress) : RenderedPlan where
  sessionId := s.id
  generation := s.generation
  clientAddress := clientAddress
  clientTunnel :=
    match s.clientProtocol with
    | .wireguard => .wireguard
    | .amneziawg => createClientTunnel config draw
  headerProtectionKey :=
    match s.clientProtocol with
    | .wireguard => none
    | .amneziawg => some draw.headerProtectionKey

/-- What a gate sends about a job. -/
structure GateJobReport where
  status : JobReportStatus
  resultSummary : Json

namespace ProvisioningDb

variable (db : ProvisioningDb)

/-! ### Requests about sessions -/

/-- Requesting the revocation of a session whose row has been read. -/
def requestRevocation (s : Session) (reason : RevokeReason) : ProvisioningDb :=
  ((db.updateSessionDesiredState s.id .revoked true).updateSessionStatusPhase s.id
    (requestRevocationPhase s.phase) none).insertRevokeRequest s.id reason

/-- `none` where the session is not found. -/
def requestOwnedSessionRevocation (accountId : AccountId) (id : SessionId) :
    Option ProvisioningDb :=
  match db.session? id with
  | some s =>
    if s.accountId = some accountId ∧ s.hiddenAt = none then
      some (db.requestRevocation s .user)
    else none
  | none => none

def requestSystemSessionRevocation (id : SessionId) (reason : RevokeReason) :
    Option ProvisioningDb :=
  match db.session? id with
  | some s => if s.hiddenAt = none then some (db.requestRevocation s reason) else none
  | none => none

/-- The revocations of a list of sessions for one reason, as the expiry pass and the suspension of
an account request them. -/
def requestSystemRevocations (ids : List SessionId) (reason : RevokeReason) : ProvisioningDb :=
  ids.foldl (fun db id => (db.requestSystemSessionRevocation id reason).getD db) db

/-- `deleteOwnedHiddenSession` up to its update: the row is read without a lock. -/
def beginHidingSession (accountId : AccountId) (id : SessionId) : ProvisioningDb :=
  match db.session? id with
  | some s =>
    if s.accountId = some accountId ∧ canHideSession s.phase s.hiddenAt.isSome = .canHide then
      { db with pendingHides := id :: db.pendingHides }
    else db
  | none => db

/-- The update of a deletion that has read the row. -/
def finishHidingSession (id : SessionId) : ProvisioningDb :=
  if id ∈ db.pendingHides then
    { db.hideOwnedSession id with pendingHides := db.pendingHides.erase id }
  else db

/-- `activatePaidSession` with a payment that is confirmed for the session. -/
def activatePaidSession (accountId : AccountId) (id : SessionId)
    (trafficLimitBytes : Option Int) : ProvisioningDb :=
  match db.session? id with
  | some s =>
    if s.accountId = some accountId then
      let entitled :=
        db.updateSession id (·.entitle db.now trafficLimitBytes) fun _ => Session.entitle_id
      if s.phase = .paymentPending then
        entitled.updateSessionStatusPhase id .requested none
      else entitled
    else db
  | none => db

/-- The rows that refer to a row of `sessions` are deleted with it. -/
def deleteSession (id : SessionId) : ProvisioningDb :=
  { db with
    sessions := db.sessions.filter fun s => s.id ≠ id
    plans := db.plans.filter fun p => p.sessionId ≠ id
    assignments := db.assignments.filter fun a => a.sessionId ≠ id
    jobs := db.jobs.filter fun j =>
      j.sessionId ≠ some id && j.assignmentId.all fun a => a.1 ≠ id
    leases := db.leases.filter (·.sessionId ≠ id)
    artifacts := db.artifacts.filter (·.sessionId ≠ id) }

def deleteUnpaidSession (accountId : AccountId) (id : SessionId) : ProvisioningDb :=
  match db.session? id with
  | some s =>
    if s.accountId = some accountId ∧ s.phase = .paymentPending then db.deleteSession id else db
  | none => db

/-! ### Traffic quotas -/

/-- One round of `enforceSessionTrafficQuotas`; `none` where no entitlement is exhausted. -/
def enforceSessionTrafficQuota (locked : List SessionId) : Option ProvisioningDb :=
  (db.findExhaustedSessionTrafficEntitlementForUpdate locked).map fun s =>
    ((db.requestSystemSessionRevocation s.id .trafficQuotaExhausted).getD
      db).markSessionTrafficEntitlementExhausted s.id

/-- `enforceSessionTrafficQuotas`, with the time of each round of its batch, and how many
entitlements it has handled. No other transaction holds a lock. -/
def enforceSessionTrafficQuotas (db : ProvisioningDb) : List Timestamp → ProvisioningDb × Nat
  | [] => (db, 0)
  | now :: times =>
    match { db with now }.enforceSessionTrafficQuota [] with
    | none => ({ db with now }, 0)
    | some db' =>
      let (after, handled) := enforceSessionTrafficQuotas db' times
      (after, handled + 1)

/-- Whether raising a quota starts the session again. -/
inductive Reactivation where
  | notNeeded
  | requested
  | waitingForRevocation
  deriving DecidableEq, Repr

/-- What the adjustment of a quota answers. -/
inductive AdminTrafficQuotaAdjustmentResult where
  | notFound
  | notMetered
  | belowConsumed (consumedBytes : Int)
  | updated (includedBytes consumedBytes : Int) (reactivation : Reactivation)
  deriving DecidableEq, Repr

/-- The last revocation of the session was requested by the enforcement of its quota. -/
def quotaRevoked (id : SessionId) : Bool :=
  (db.lastRevokeRequest? id).any fun r => r.reason = .trafficQuotaExhausted

/-- What an adjustment does about the revocation of the session. -/
def reactivation (s : Session) : Reactivation :=
  if db.quotaRevoked s.id ∧ s.desiredState = .revoked ∧ s.phase = .revoked then .requested
  else if db.quotaRevoked s.id ∧ s.desiredState = .revoked ∧ s.phase = .revoking then
    .waitingForRevocation
  else .notNeeded

def adjustSessionTrafficQuota (id : SessionId) (includedBytes : Int) :
    ProvisioningDb × AdminTrafficQuotaAdjustmentResult :=
  match db.session? id with
  | none => (db, .notFound)
  | some s =>
    if s.hiddenAt ≠ none then (db, .notFound)
    else if s.accountId = none then (db, .notMetered)
    else
      match s.entitlement with
      | none => (db, .notMetered)
      | some e =>
        if includedBytes ≤ e.consumedBytes then (db, .belowConsumed e.consumedBytes)
        else
          let reactivation := db.reactivation s
          let reactivated :=
            if reactivation = .requested then
              (db.updateSessionDesiredState id .active true).updateSessionStatusPhase id
                .scheduling none
            else db
          let clearExhaustedAt := reactivation ≠ .waitingForRevocation ∧
            (s.desiredState = .active ∨ reactivation = .requested)
          (reactivated.updateSession id
            (·.setEntitlement (·.adjust db.now includedBytes (decide clearExhaustedAt)))
            fun _ => Session.setEntitlement_id,
            .updated includedBytes e.consumedBytes reactivation)

/-! ### Gates and their jobs -/

def claimGateJob (gateId : GateId) (lane : Option GateJobLane) (locked : List JobId) :
    ProvisioningDb :=
  match db.findClaimableGateJobForUpdate gateId lane locked with
  | none => db
  | some job =>
    match job.assignmentId with
    | none => db.leaseJob job.id
    | some id =>
      match db.assignment? id with
      | some a =>
        (db.leaseJob job.id).updateAssignmentPhase id (leasedAssignmentTransition job.type a.phase)
      -- the job references a missing assignment: the transaction is rolled back
      | none => db

def recordAssignmentProgress (id : AssignmentId) (jobType : JobType) (report : GateJobReport)
    (terminalFailure : Bool) : ProvisioningDb :=
  if report.status = .succeeded ∧ jobType = .applyAssignment then
    if report.resultSummary.readString "operation" = "prepare" then
      db.markAssignmentPreparedFromReport id
        (Json.asRecord (report.resultSummary.field? "material"))
    else db.markAssignmentAppliedFromReport id
  else if report.status = .succeeded ∧ jobType = .revokeAssignment then
    db.markAssignmentRevokedFromReport id
  else db.markAssignmentFailedFromReport id terminalFailure

/-- A job that is not the gate's own is not found. -/
def recordGateJobReport (gateId : GateId) (jobId : JobId) (report : GateJobReport) :
    ProvisioningDb :=
  match db.jobs.find? jobId with
  | none => db
  | some job =>
    if job.gateId = some gateId then
      let transition := resolveReportedJobTransition report.status job.retryCount job.maxRetries
      let recorded :=
        db.recordJobReportOutcome job.id transition.nextPhase transition.retryDelaySeconds
      match job.assignmentId with
      | none => recorded
      | some id =>
        recorded.recordAssignmentProgress id job.type report transition.terminalFailure
    else db

/-! ### The reconcile passes -/

def beginSessionRevocation (locked : List SessionId) : ProvisioningDb :=
  (db.listSessionsToBeginRevocation locked).foldl
    (fun db s =>
      match beginRevokingTransition s.phase with
      | some phase => db.updateSessionStatusPhase s.id phase none
      | none => db) db

/-- Revoke an assignment whose row has been read. -/
def revokeAssignment (a : GateAssignment) : ProvisioningDb :=
  (db.requestAssignmentRevocation a.id).insertRevokeAssignmentJob a

def enqueueRevocationJobsForAssignments (locked : List AssignmentId) : ProvisioningDb :=
  (db.listAssignmentsToRevoke locked).foldl revokeAssignment db

def beginRequestedSessionProbing (locked : List SessionId) : ProvisioningDb :=
  (db.listSessionRowsForPhaseForUpdate .requested locked).foldl
    (fun db s => db.updateSessionStatusPhase s.id .probing none) db

def advanceProbedSessionsToScheduling (locked : List SessionId) : ProvisioningDb :=
  (db.listSessionRowsForPhaseForUpdate .probing locked).foldl
    (fun db s => db.updateSessionStatusPhase s.id .scheduling none) db

/-- The rows that one session with a path and an address gets. -/
def provisionSession (config : SessionReconcileConfig) (s : Session)
    (ingressGateId egressGateId : GateId) (draw : TunnelDraw) (clientAddress : ClientAddress) :
    ProvisioningDb :=
  let plan := renderWireGuardPlan config s draw clientAddress
  let created := ((db.upsertRenderedPlan plan).createAssignment s.id ingressGateId .ingress
    plan.id).createAssignment s.id egressGateId .egress plan.id
  ((created.insertApplyAssignmentJob
    ⟨(s.id, .ingress), ingressGateId, s.id, .prepare, plan.id⟩).insertApplyAssignmentJob
    ⟨(s.id, .egress), egressGateId, s.id, .prepare, plan.id⟩).updateSessionStatusPhase s.id
    .provisioning (some s.generation)

def scheduleSession (config : SessionReconcileConfig) (outcome : SessionId → PathOutcome)
    (s : Session) : ProvisioningDb :=
  match outcome s.id with
  | .noPath => db.updateSessionStatusPhase s.id .failed none
  | .path ingressGateId egressGateId addresses draw =>
    match db.ensureClientAddressLease s.id addresses with
    | none => db.updateSessionStatusPhase s.id .failed none
    | some (clientAddress, leased) =>
      leased.provisionSession config s ingressGateId egressGateId draw clientAddress

def scheduleSessionsForProvisioning (config : SessionReconcileConfig)
    (outcome : SessionId → PathOutcome) (locked : List SessionId) : ProvisioningDb :=
  (db.listSessionRowsForPhaseForUpdate .scheduling locked).foldl
    (fun db s => db.scheduleSession config outcome s) db

/-- Enqueue the commit jobs of a session for both of its assignments. -/
def enqueueCommitJobs (s : Session) (ingress egress : GateAssignment) : ProvisioningDb :=
  (db.insertApplyAssignmentJob
    ⟨ingress.id, ingress.gateId, s.id, .commit, (s.id, s.generation)⟩).insertApplyAssignmentJob
    ⟨egress.id, egress.gateId, s.id, .commit, (s.id, s.generation)⟩

def commitPreparedSession (s : Session) : ProvisioningDb :=
  match db.assignment? (s.id, .ingress), db.assignment? (s.id, .egress) with
  | some ingress, some egress =>
    ((db.enqueueCommitJobs s ingress egress).markPreparedAssignmentsQueued ingress.id
      egress.id).touchSessionStatus s.id
  | some _, none | none, some _ | none, none => db

def enqueueCommitJobsForPreparedAssignments (locked : List SessionId) : ProvisioningDb :=
  (db.listSessionsReadyForCommit locked).foldl commitPreparedSession db

def prepareClientConfigArtifact (config : SessionReconcileConfig) (s : Session) :
    Except String ProvisioningDb := do
  let some plan := db.plan? (s.id, s.generation) | throw "missing rendered plan for session"
  let some ingress := db.assignment? (s.id, .ingress)
    | throw "missing applied assignment material for session"
  let some _ := db.assignment? (s.id, .egress)
    | throw "missing applied assignment material for session"
  let reportedTunnel ← readClientTunnel (ingress.localMaterial.field? "clientTunnel")
  if reportedTunnel ≠ plan.clientTunnel then
    throw "ingress client tunnel does not match rendered plan"
  let wireGuard := Json.asRecord (ingress.localMaterial.field? "wireGuard")
  let serverPublicKey := wireGuard.readString "clientPublicKey"
  if serverPublicKey = "" then throw "missing required string clientPublicKey"
  let some (.num listenPort) := wireGuard.field? "clientListenPort"
    | throw "missing required number clientListenPort"
  let _ ← validateHeaderProtectionKey config.keyFingerprint plan.clientTunnel
    plan.headerProtectionKey
  return (db.insertClientConfigArtifact
    ⟨s.id, s.generation, plan.clientAddress, serverPublicKey, listenPort, plan.clientTunnel,
      none⟩).touchSessionStatus s.id

def completeProvisionedSession (config : SessionReconcileConfig) (s : Session) :
    Except String ProvisioningDb := do
  let prepared ←
    if db.hasActiveClientConfigArtifact s.id then .ok db
    else db.prepareClientConfigArtifact config s
  return prepared.updateSessionStatusPhase s.id .active (some s.generation)

/-- An error is thrown out of the pass, and the whole pass is rolled back. -/
def completeProvisionedSessions (config : SessionReconcileConfig) (locked : List SessionId) :
    Except String ProvisioningDb :=
  (db.listProvisionedSessionsForActivation locked).foldlM
    (fun db s => db.completeProvisionedSession config s) db

def failTimedOutSession (s : Session) : ProvisioningDb :=
  ((((db.markApplyJobsDeadForSession s.id).markPendingAssignmentsDeadForSession
    s.id).invalidateSessionArtifacts s.id).updateSessionStatusPhase s.id .failed
    none).releaseClientAddressLease s.id

def failTimedOutProvisioningSessions (config : SessionReconcileConfig) (locked : List SessionId) :
    ProvisioningDb :=
  (db.listTimedOutProvisioningSessions config.provisioningTimeoutSeconds locked).foldl
    failTimedOutSession db

def completeRevokedSession (s : Session) : ProvisioningDb :=
  ((db.invalidateSessionArtifacts s.id).updateSessionStatusPhase s.id .revoked
    (some s.generation)).releaseClientAddressLease s.id

def completeRevokedSessions (locked : List SessionId) : ProvisioningDb :=
  (db.listSessionsReadyToMarkRevoked locked).foldl completeRevokedSession db

/-! ### Drift repair -/

def repairSession (s : Session) : ProvisioningDb :=
  match db.assignment? (s.id, .ingress), db.assignment? (s.id, .egress) with
  | some ingress, some egress => db.enqueueCommitJobs s ingress egress
  | some _, none | none, some _ | none, none => db

def enqueueRepairJobsForMissingHandles (gateId : GateId) (missingHandles : List Handle)
    (locked : List SessionId) : ProvisioningDb :=
  (db.listMissingHandleRepairSessions gateId missingHandles locked).foldl repairSession db

def enqueueCleanupJobsForKnownOrphans (gateId : GateId) (orphanHandles : List Handle)
    (locked : List AssignmentId) : ProvisioningDb :=
  (db.listKnownOrphanAssignmentsForCleanup gateId orphanHandles locked).foldl revokeAssignment db

/-- The rows that other transactions hold while the drift pass runs. -/
structure DriftLocks where
  sessions : List SessionId
  assignments : List AssignmentId

def reconcileGateDrift (locks : DriftLocks) (gate : GateActualStateDriftRow) : ProvisioningDb :=
  if gate.reportedAt = none then db
  else
    let (missingHandles, orphanHandles) :=
      compareManagedHandles gate.desiredHandles gate.actualHandles
    if missingHandles = [] ∧ orphanHandles = [] then db
    else
      ((db.markMissingHandleAssignmentsDrifted gate.gateId
        missingHandles).enqueueRepairJobsForMissingHandles gate.gateId missingHandles
        locks.sessions).enqueueCleanupJobsForKnownOrphans gate.gateId orphanHandles
        locks.assignments

/-- `gates` are the rows of the gates table in the order the query returns them. -/
def reconcileDrift (gates : List GateId) (locks : DriftLocks) : ProvisioningDb :=
  (gates.map db.gateActualStateDriftRow).foldl
    (fun db gate => db.reconcileGateDrift locks gate) db

end ProvisioningDb

/-! ### Steps -/

/-- What can happen next. -/
inductive Action where
  | createSession (id : SessionId) (accountId : AccountId) (clientProtocol : ClientProtocol)
      (awaitsPayment : Bool) (configGrant : Option Int)
  | activatePaidSession (accountId : AccountId) (id : SessionId) (trafficLimitBytes : Option Int)
  | deleteUnpaidSession (accountId : AccountId) (id : SessionId)
  | revokeByOwner (accountId : AccountId) (id : SessionId)
  | revokeExpired (ids : List SessionId)
  | suspendAccount (ids : List SessionId)
  | beginHide (accountId : AccountId) (id : SessionId)
  | finishHide (id : SessionId)
  | enforceQuota (locked : List SessionId)
  | adjustQuota (id : SessionId) (includedBytes : Int)
  | claim (gateId : GateId) (lane : Option GateJobLane) (locked : List JobId)
  | report (gateId : GateId) (jobId : JobId) (report : GateJobReport)
  | requeueExpired
  | archiveJobs (ids : List JobId)
  | otherJob (job : OtherJob)
  | snapshot (gateId : GateId) (managedHandles : List Handle) (reportedAt : Option Timestamp)
  | deleteSnapshots (receivedBefore : Timestamp)
  | usage (sessionId : SessionId) (bytes : Nat)
  | beginRevocation (locked : List SessionId)
  | enqueueRevocations (locked : List AssignmentId)
  | beginProbing (locked : List SessionId)
  | advanceProbed (locked : List SessionId)
  | schedule (outcome : SessionId → PathOutcome) (locked : List SessionId)
  | enqueueCommits (locked : List SessionId)
  | completeProvisioned (locked : List SessionId)
  | failTimedOut (locked : List SessionId)
  | completeRevoked (locked : List SessionId)
  | drift (gates : List GateId) (locks : ProvisioningDb.DriftLocks)

/-- A transaction and the time its `now()` reads. -/
structure Event where
  now : Timestamp
  action : Action

namespace ProvisioningDb

/-- What the transaction leaves in the database. -/
def perform (config : SessionReconcileConfig) (db : ProvisioningDb) : Action → ProvisioningDb
  | .createSession id accountId clientProtocol awaitsPayment configGrant =>
    db.insertRequestedSession id accountId clientProtocol
      (if awaitsPayment then .paymentPending else .requested) configGrant
  | .activatePaidSession accountId id trafficLimitBytes =>
    db.activatePaidSession accountId id trafficLimitBytes
  | .deleteUnpaidSession accountId id => db.deleteUnpaidSession accountId id
  | .revokeByOwner accountId id => (db.requestOwnedSessionRevocation accountId id).getD db
  | .revokeExpired ids => db.requestSystemRevocations ids .entitlementExpired
  | .suspendAccount ids => db.requestSystemRevocations ids .billingBalanceExhausted
  | .beginHide accountId id => db.beginHidingSession accountId id
  | .finishHide id => db.finishHidingSession id
  | .enforceQuota locked => (db.enforceSessionTrafficQuota locked).getD db
  | .adjustQuota id includedBytes => (db.adjustSessionTrafficQuota id includedBytes).1
  | .claim gateId lane locked => db.claimGateJob gateId lane locked
  | .report gateId jobId report => db.recordGateJobReport gateId jobId report
  | .requeueExpired => db.requeueExpiredJobLeases
  | .archiveJobs ids => db.archiveJobs ids
  | .otherJob job => db.insertOtherJob job
  | .snapshot gateId managedHandles reportedAt =>
    db.updateGateActualState gateId managedHandles reportedAt
  | .deleteSnapshots receivedBefore => db.deleteExpiredGateActualStateSnapshots receivedBefore
  | .usage sessionId bytes => db.addConsumedBytes sessionId bytes
  | .beginRevocation locked => db.beginSessionRevocation locked
  | .enqueueRevocations locked => db.enqueueRevocationJobsForAssignments locked
  | .beginProbing locked => db.beginRequestedSessionProbing locked
  | .advanceProbed locked => db.advanceProbedSessionsToScheduling locked
  | .schedule outcome locked => db.scheduleSessionsForProvisioning config outcome locked
  | .enqueueCommits locked => db.enqueueCommitJobsForPreparedAssignments locked
  | .completeProvisioned locked => (db.completeProvisionedSessions config locked).toOption.getD db
  | .failTimedOut locked => db.failTimedOutProvisioningSessions config locked
  | .completeRevoked locked => db.completeRevokedSessions locked
  | .drift gates locks => db.reconcileDrift gates locks

/-- Transactions run one after another, each at a later time than the ones before. That each is a
whole step is taken for granted where the code's locks do not give it: the passes that activate and
that end sessions lock the sessions they list but not the assignments by which they list them, and
the suspension of an account looks at sessions that it does not lock. -/
def step (config : SessionReconcileConfig) (db : ProvisioningDb) (e : Event) :
    Option ProvisioningDb :=
  if db.now < e.now then some ({ db with now := e.now }.perform config e.action) else none

end ProvisioningDb

/-! ### Sample inputs -/

/-- A timeout of 15 minutes, and every key its own fingerprint. -/
def sampleConfig : SessionReconcileConfig := ⟨900, id⟩

def sampleDraw : TunnelDraw where
  headerProtectionKey := "AAAAAAAAAAAAAAAAAAAAAAAAAAAAAAAAAAAAAAAAAAA="
  keyValid := by decide +kernel
  messagePrefix := 16
  prefixRange := by decide
  jc := 4
  jcRange := by decide

/-- A session that is placed on the gates 1 and 2 with the address 10. -/
def samplePath : SessionId → PathOutcome := fun _ => .path 1 2 [10] sampleDraw

def succeeds (operation : String) : GateJobReport :=
  ⟨.succeeded, .obj [("operation", .str operation)]⟩

/-- A gate has prepared its assignment and reports its keys. -/
def prepares : GateJobReport :=
  ⟨.succeeded, .obj [("operation", .str "prepare"), ("material", .obj [("wireGuard", .obj
    [("clientPublicKey", .str "gate"), ("clientListenPort", .num 51820)])])]⟩

def failsForNow : GateJobReport := ⟨.retryableFailed, .obj []⟩

def failsForGood : GateJobReport := ⟨.failed, .obj []⟩

/-- A session is created with a grant and scheduled. -/
def scheduledRun : List Event :=
  [⟨1, .createSession 1 7 .wireguard false (some 100)⟩, ⟨2, .beginProbing []⟩,
    ⟨3, .advanceProbed []⟩, ⟨4, .schedule samplePath []⟩]

/-- Both gates prepare the assignments of the session. -/
def preparedRun : List Event :=
  scheduledRun ++
    [⟨5, .claim 1 none []⟩, ⟨6, .report 1 0 prepares⟩, ⟨7, .claim 2 none []⟩,
      ⟨8, .report 2 1 prepares⟩]

/-- Both gates apply the assignments, and the session becomes active. -/
def activeRun : List Event :=
  preparedRun ++
    [⟨9, .enqueueCommits []⟩, ⟨10, .claim 1 none []⟩, ⟨11, .report 1 2 (succeeds "commit")⟩,
      ⟨12, .claim 2 none []⟩, ⟨13, .report 2 3 (succeeds "commit")⟩,
      ⟨14, .completeProvisioned []⟩]

end Hyperspace.Provisioning
