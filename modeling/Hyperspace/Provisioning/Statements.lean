import Hyperspace.Foundations.Queries
import Hyperspace.Provisioning.Schema

/-!
# The statements of the control plane

The queries and updates of the session, assignment, job, address and snapshot repositories, one
definition each. Where a query locks rows, `locked` are the rows that other transactions hold; ties
that `ORDER BY` leaves open go by id, and a query without `ORDER BY` returns rows in the order of
the table.
-/

namespace Hyperspace.Provisioning

open Hyperspace.Billing (AccountId SessionId Timestamp)
open Hyperspace.ControlPlane Hyperspace.Foundations

/-- `ORDER BY sessions.created_at`. -/
def Session.CreatedBefore (s t : Session) : Prop :=
  s.createdAt < t.createdAt ∨ (s.createdAt = t.createdAt ∧ s.id ≤ t.id)

/-- `ORDER BY sessions.updated_at`. -/
def Session.UpdatedBefore (s t : Session) : Prop :=
  s.updatedAt < t.updatedAt ∨ (s.updatedAt = t.updatedAt ∧ s.id ≤ t.id)

/-- `ORDER BY session_traffic_entitlements.updated_at, session_traffic_entitlements.session_id`. -/
def Session.MeteredBefore (s t : Session) : Prop :=
  let metered (s : Session) : Timestamp := s.entitlement.elim 0 (·.updatedAt)
  metered s < metered t ∨ (metered s = metered t ∧ s.id ≤ t.id)

/-- `ORDER BY jobs.created_at`. -/
def Job.CreatedBefore (j k : Job) : Prop :=
  j.createdAt < k.createdAt ∨ (j.createdAt = k.createdAt ∧ j.id ≤ k.id)

instance : DecidableRel Session.CreatedBefore := fun _ _ => inferInstanceAs (Decidable (_ ∨ _))
instance : DecidableRel Session.UpdatedBefore := fun _ _ => inferInstanceAs (Decidable (_ ∨ _))
instance : DecidableRel Session.MeteredBefore := fun _ _ => inferInstanceAs (Decidable (_ ∨ _))
instance : DecidableRel Job.CreatedBefore := fun _ _ => inferInstanceAs (Decidable (_ ∨ _))

/-- No `ORDER BY`. -/
def Unordered {ρ : Type} (_ _ : ρ) : Prop := True

instance {ρ : Type} : DecidableRel (@Unordered ρ) := fun _ _ => inferInstanceAs (Decidable True)

/-! ### Rewriting rows -/

/-- A new session; a config grant of an administrator comes with its traffic entitlement. -/
def Session.create (now : Timestamp) (id : SessionId) (accountId : AccountId)
    (clientProtocol : ClientProtocol) (initialPhase : SessionPhase) (includedBytes : Option Int) :
    Session where
  id := id
  accountId := some accountId
  desiredState := .active
  generation := 1
  clientProtocol := clientProtocol
  hiddenAt := none
  createdAt := now
  updatedAt := now
  phase := if includedBytes.isSome then .requested else initialPhase
  observedGeneration := 0
  statusUpdatedAt := now
  entitlement := includedBytes.map fun bytes => ⟨bytes, 0, none, now⟩
  configGrant := includedBytes.isSome

def Session.setDesiredState (now : Timestamp) (desiredState : DesiredSessionState)
    (incrementGeneration : Bool) (s : Session) : Session :=
  { s with
    desiredState
    generation := if incrementGeneration then s.generation + 1 else s.generation
    updatedAt := now }

/-- `observed_generation = COALESCE($3, observed_generation)`. -/
def Session.setPhase (now : Timestamp) (phase : SessionPhase) (observedGeneration : Option Nat)
    (s : Session) : Session :=
  { s with
    phase
    observedGeneration := observedGeneration.getD s.observedGeneration
    statusUpdatedAt := now }

def Session.touch (now : Timestamp) (s : Session) : Session := { s with statusUpdatedAt := now }

def Session.hide (now : Timestamp) (s : Session) : Session :=
  { s with hiddenAt := some now, updatedAt := now }

def Session.setEntitlement (f : TrafficEntitlement → TrafficEntitlement) (s : Session) : Session :=
  { s with entitlement := s.entitlement.map f }

def TrafficEntitlement.exhaust (now : Timestamp) (e : TrafficEntitlement) : TrafficEntitlement :=
  { e with exhaustedAt := some (e.exhaustedAt.getD now), updatedAt := now }

def TrafficEntitlement.consume (now : Timestamp) (bytes : Nat) (e : TrafficEntitlement) :
    TrafficEntitlement :=
  { e with consumedBytes := e.consumedBytes + bytes, updatedAt := now }

def TrafficEntitlement.adjust (now : Timestamp) (includedBytes : Int) (clearExhaustedAt : Bool)
    (e : TrafficEntitlement) : TrafficEntitlement :=
  { e with
    includedBytes
    exhaustedAt := if clearExhaustedAt then none else e.exhaustedAt
    updatedAt := now }

/-- `ON CONFLICT (session_id) DO NOTHING`. -/
def Session.entitle (now : Timestamp) (trafficLimitBytes : Option Int) (s : Session) : Session :=
  { s with
    entitlement :=
      s.entitlement.or (trafficLimitBytes.map fun bytes => ⟨bytes, 0, none, now⟩) }

/-- The conflicting upserts of a plan and of its secret. -/
def RenderedPlan.overwrite (plan old : RenderedPlan) : RenderedPlan :=
  { old with
    clientAddress := plan.clientAddress
    clientTunnel := plan.clientTunnel
    headerProtectionKey := old.headerProtectionKey.or plan.headerProtectionKey }

theorem RenderedPlan.overwrite_id {plan old : RenderedPlan} :
    (plan.overwrite old).id = old.id := rfl

/-- A new assignment with desired state Applied. -/
def GateAssignment.create (now : Timestamp) (sessionId : SessionId) (gateId : GateId)
    (role : GateAssignmentRole) (planId : PlanId) : GateAssignment where
  sessionId := sessionId
  role := role
  gateId := gateId
  generation := 1
  desiredState := .applied
  planId := planId
  updatedAt := now
  phase := .queued
  observedGeneration := 0
  appliedPlanId := none
  appliedAt := none
  revokedAt := none
  localMaterial := .obj []
  statusUpdatedAt := now

/-- What the upserts make of an assignment they find. -/
def GateAssignment.recreate (now : Timestamp) (gateId : GateId) (planId : PlanId)
    (a : GateAssignment) : GateAssignment :=
  { a with
    desiredState := .applied
    gateId
    planId
    generation :=
      if a.desiredState ≠ .applied ∨ a.gateId ≠ gateId ∨ a.planId ≠ planId then a.generation + 1
      else a.generation
    updatedAt := now
    phase := if a.phase = .applied then .applied else .queued
    statusUpdatedAt := now }

def GateAssignment.setPhase (now : Timestamp) (phase : GateAssignmentPhase) (a : GateAssignment) :
    GateAssignment :=
  { a with phase, statusUpdatedAt := now }

def GateAssignment.queueForCommit (now : Timestamp) (a : GateAssignment) : GateAssignment :=
  if a.phase = .prepared then a.setPhase now .queued else a

def GateAssignment.failPending (now : Timestamp) (a : GateAssignment) : GateAssignment :=
  if a.phase.isPending then a.setPhase now .dead else a

def GateAssignment.requestRevocation (now : Timestamp) (a : GateAssignment) : GateAssignment :=
  { a with
    desiredState := .revoked
    generation := a.generation + 1
    updatedAt := now
    phase := if a.phase = .revoked then .revoked else .revoking
    statusUpdatedAt := now }

def GateAssignment.markPrepared (now : Timestamp) (material : Json) (a : GateAssignment) :
    GateAssignment :=
  { a with
    phase := .prepared
    observedGeneration := a.generation
    localMaterial := material
    statusUpdatedAt := now }

def GateAssignment.markApplied (now : Timestamp) (a : GateAssignment) : GateAssignment :=
  { a with
    phase := .applied
    observedGeneration := a.generation
    appliedPlanId := some a.planId
    appliedAt := some now
    statusUpdatedAt := now }

def GateAssignment.markRevoked (now : Timestamp) (a : GateAssignment) : GateAssignment :=
  { a with phase := .revoked, revokedAt := some now, statusUpdatedAt := now }

def GateAssignment.markDrifted (now : Timestamp) (missingHandles : List Handle)
    (a : GateAssignment) : GateAssignment :=
  if a.id ∈ missingHandles ∧ a.desiredState = .applied ∧ a.phase = .applied then
    a.setPhase now .drifted
  else a

/-- A new row of `jobs` with the defaults of its columns. -/
def Job.create (now : Timestamp) (type : JobType) (gateId : Option GateId)
    (sessionId : Option SessionId) (assignmentId : Option AssignmentId)
    (operation : Option ApplyOperation) (planId : Option PlanId) (id : JobId) : Job where
  id := id
  type := type
  phase := .queued
  gateId := gateId
  sessionId := sessionId
  assignmentId := assignmentId
  operation := operation
  planId := planId
  deploymentId := none
  benchmarkTarget := none
  leaseExpiresAt := none
  runAfter := now
  retryCount := 0
  maxRetries := 5
  createdAt := now
  updatedAt := now

/-- A new `apply_assignment` job of an assignment. -/
def Job.createApply (now : Timestamp) (id : AssignmentId) (gateId : GateId)
    (operation : ApplyOperation) (planId : PlanId) : JobId → Job :=
  .create now .applyAssignment (some gateId) (some id.1) (some id) (some operation) (some planId)

/-- A new `revoke_assignment` job of an assignment. -/
def Job.createRevoke (now : Timestamp) (id : AssignmentId) (gateId : GateId) : JobId → Job :=
  .create now .revokeAssignment (some gateId) (some id.1) (some id) none none

/-- The jobs that belong to no assignment. -/
inductive OtherJob where
  | reconcile (gateId : Option GateId) (sessionId : Option SessionId)
  | gateBenchmark (sourceGateId targetGateId : GateId)
  | gateNtpDiscovery (gateId : GateId)
  | deployAgent (gateId : GateId) (deploymentId : DeploymentId)
  | rollbackAgent (gateId : GateId) (deploymentId : DeploymentId)
  deriving DecidableEq, Repr

def Job.createOther (now : Timestamp) (job : OtherJob) (id : JobId) : Job :=
  match job with
  | .reconcile gateId sessionId => .create now .reconcile gateId sessionId none none none id
  | .gateBenchmark sourceGateId targetGateId =>
    { Job.create now .probe (some sourceGateId) none none none none id with
      benchmarkTarget := some targetGateId
      maxRetries := 2 }
  | .gateNtpDiscovery gateId =>
    { Job.create now .probe (some gateId) none none none none id with maxRetries := 1 }
  | .deployAgent gateId deploymentId =>
    { Job.create now .deployAgent (some gateId) none none none none id with
      deploymentId := some deploymentId
      maxRetries := 2 }
  | .rollbackAgent gateId deploymentId =>
    { Job.create now .rollbackAgent (some gateId) none none none none id with
      deploymentId := some deploymentId
      maxRetries := 2 }

def Job.lease (now : Timestamp) (j : Job) : Job :=
  { j with phase := .leased, leaseExpiresAt := some (now + 60 * second), updatedAt := now }

def Job.recordOutcome (now : Timestamp) (nextPhase : JobPhase) (retryDelaySeconds : Option Nat)
    (j : Job) : Job :=
  { j with
    phase := nextPhase
    retryCount := if nextPhase = .retryableFailed then j.retryCount + 1 else j.retryCount
    leaseExpiresAt := none
    runAfter := now + (retryDelaySeconds.getD 0 : Nat) * second
    updatedAt := now }

def Job.requeueExpired (now : Timestamp) (j : Job) : Job :=
  if j.phase.isLeased ∧ ∃ t ∈ j.leaseExpiresAt, t < now then
    { j with phase := .queued, leaseExpiresAt := none, updatedAt := now }
  else j

/-- What the failure of its session does to a job of the session. -/
def Job.failApply (now : Timestamp) (j : Job) : Job :=
  if j.type = .applyAssignment ∧ j.phase.isLive then
    { j with phase := .dead, leaseExpiresAt := none, updatedAt := now }
  else j

/-- A job of the assignment with this type and operation. -/
def Job.IsFor (j : Job) (id : AssignmentId) (type : JobType) (operation : Option ApplyOperation) :
    Prop :=
  j.assignmentId = some id ∧ j.type = type ∧ j.operation = operation

instance (j : Job) (id : AssignmentId) (type : JobType) (operation : Option ApplyOperation) :
    Decidable (j.IsFor id type operation) :=
  inferInstanceAs (Decidable (_ ∧ _))

/-- A finished job whose last update is 30 days ago, a probe's one day. -/
def Job.Archivable (now : Timestamp) (j : Job) : Prop :=
  (j.phase = .succeeded ∨ j.phase = .dead) ∧
    j.updatedAt < now - (if j.type = .probe then 1 else 30) * 86400 * second

instance (now : Timestamp) : DecidablePred (Job.Archivable now) :=
  fun _ => inferInstanceAs (Decidable (_ ∧ _))

section

variable {now : Timestamp}

theorem Session.setDesiredState_id {desiredState : DesiredSessionState} {increment : Bool}
    {s : Session} : (s.setDesiredState now desiredState increment).id = s.id := rfl

theorem Session.setPhase_id {phase : SessionPhase} {observed : Option Nat} {s : Session} :
    (s.setPhase now phase observed).id = s.id := rfl

theorem Session.touch_id {s : Session} : (s.touch now).id = s.id := rfl

theorem Session.hide_id {s : Session} : (s.hide now).id = s.id := rfl

theorem Session.setEntitlement_id {f : TrafficEntitlement → TrafficEntitlement} {s : Session} :
    (s.setEntitlement f).id = s.id := rfl

theorem Session.entitle_id {trafficLimitBytes : Option Int} {s : Session} :
    (s.entitle now trafficLimitBytes).id = s.id := rfl

theorem Job.create_id {type : JobType} {gateId : Option GateId} {sessionId : Option SessionId}
    {assignmentId : Option AssignmentId} {operation : Option ApplyOperation}
    {planId : Option PlanId} {id : JobId} :
    (Job.create now type gateId sessionId assignmentId operation planId id).id = id := rfl

theorem Job.createOther_id {job : OtherJob} {id : JobId} :
    (Job.createOther now job id).id = id := by
  cases job <;> rfl

theorem Job.createOther_assignmentId {job : OtherJob} {id : JobId} :
    (Job.createOther now job id).assignmentId = none := by
  cases job <;> rfl

theorem GateAssignment.recreate_id {gateId : GateId} {planId : PlanId} {a : GateAssignment} :
    (a.recreate now gateId planId).id = a.id := rfl

theorem GateAssignment.setPhase_id {phase : GateAssignmentPhase} {a : GateAssignment} :
    (a.setPhase now phase).id = a.id := rfl

theorem GateAssignment.requestRevocation_id {a : GateAssignment} :
    (a.requestRevocation now).id = a.id := rfl

theorem GateAssignment.markPrepared_id {material : Json} {a : GateAssignment} :
    (a.markPrepared now material).id = a.id := rfl

theorem GateAssignment.markApplied_id {a : GateAssignment} : (a.markApplied now).id = a.id := rfl

theorem GateAssignment.markRevoked_id {a : GateAssignment} : (a.markRevoked now).id = a.id := rfl

theorem GateAssignment.queueForCommit_id {a : GateAssignment} :
    (a.queueForCommit now).id = a.id := by
  rw [queueForCommit]
  split <;> rfl

theorem GateAssignment.failPending_id {a : GateAssignment} :
    (a.failPending now).id = a.id := by
  rw [failPending]
  split <;> rfl

theorem GateAssignment.markDrifted_id {missingHandles : List Handle}
    {a : GateAssignment} : (a.markDrifted now missingHandles).id = a.id := by
  rw [markDrifted]
  split <;> rfl

/-- What no update rewrites of a job. -/
structure Job.Kept (j j' : Job) : Prop where
  id : j'.id = j.id
  type : j'.type = j.type
  gateId : j'.gateId = j.gateId
  sessionId : j'.sessionId = j.sessionId
  assignmentId : j'.assignmentId = j.assignmentId
  operation : j'.operation = j.operation
  planId : j'.planId = j.planId
  deploymentId : j'.deploymentId = j.deploymentId
  benchmarkTarget : j'.benchmarkTarget = j.benchmarkTarget
  maxRetries : j'.maxRetries = j.maxRetries
  createdAt : j'.createdAt = j.createdAt

theorem Job.Kept.refl {j : Job} : j.Kept j := by
  constructor <;> rfl

/-- A job that is rewritten stays the job of its assignment. -/
def KeepsOwner (f : Job → Job) : Prop := ∀ j : Job, j.Kept (f j)

theorem keepsOwner_requeueExpired : KeepsOwner (Job.requeueExpired now) := by
  intro j
  rw [Job.requeueExpired]
  split <;> constructor <;> rfl

theorem keepsOwner_failApply : KeepsOwner (Job.failApply now) := by
  intro j
  rw [Job.failApply]
  split <;> constructor <;> rfl

theorem keepsOwner_lease : KeepsOwner (Job.lease now) :=
  fun _ => by constructor <;> rfl

theorem keepsOwner_recordOutcome {nextPhase : JobPhase} {retryDelaySeconds : Option Nat} :
    KeepsOwner (Job.recordOutcome now nextPhase retryDelaySeconds) :=
  fun _ => by constructor <;> rfl

end

namespace ProvisioningDb

variable (db : ProvisioningDb)

/-! ### Sessions -/

def insertRequestedSession (id : SessionId) (accountId : AccountId)
    (clientProtocol : ClientProtocol) (initialPhase : SessionPhase) (includedBytes : Option Int) :
    ProvisioningDb :=
  match db.sessions.insert
    (.create db.now id accountId clientProtocol initialPhase includedBytes) with
  | some sessions => { db with sessions }
  | none => db

def updateSessionDesiredState (id : SessionId) (desiredState : DesiredSessionState)
    (incrementGeneration : Bool) : ProvisioningDb :=
  db.updateSession id (·.setDesiredState db.now desiredState incrementGeneration)
    fun _ => Session.setDesiredState_id

def updateSessionStatusPhase (id : SessionId) (phase : SessionPhase)
    (observedGeneration : Option Nat) : ProvisioningDb :=
  db.updateSession id (·.setPhase db.now phase observedGeneration) fun _ => Session.setPhase_id

def touchSessionStatus (id : SessionId) : ProvisioningDb :=
  db.updateSession id (·.touch db.now) fun _ => Session.touch_id

def hideOwnedSession (id : SessionId) : ProvisioningDb :=
  db.updateSession id (·.hide db.now) fun _ => Session.hide_id

def insertRevokeRequest (sessionId : SessionId) (reason : RevokeReason) : ProvisioningDb :=
  { db with revokeRequests := db.revokeRequests ++ [⟨sessionId, reason, db.now⟩] }

def listSessionRowsForPhaseForUpdate (phase : SessionPhase) (locked : List SessionId) :
    List Session :=
  selectForUpdate Session.id (fun s => s.desiredState = .active ∧ s.phase = phase)
    Session.CreatedBefore 20 locked db.sessions.rows

/-- How many assignments of a session have a status in this phase. -/
def countAssignments (sessionId : SessionId) (phase : GateAssignmentPhase) : Nat :=
  (db.assignments.rows.filter fun a => a.sessionId = sessionId && a.phase = phase).length

/-- An `apply_assignment` job of the session with operation `commit` that is in progress or done. -/
def HasCommitJob (sessionId : SessionId) : Prop :=
  ∃ j ∈ db.jobs.rows, j.sessionId = some sessionId ∧ j.type = .applyAssignment ∧
    j.operation = some .commit ∧ (j.phase.isLive ∨ j.phase = .succeeded)

instance (sessionId : SessionId) : Decidable (db.HasCommitJob sessionId) :=
  inferInstanceAs (Decidable (∃ j ∈ db.jobs.rows, _))

/-- The condition of `listSessionsReadyForCommit`. -/
def ReadyForCommit (s : Session) : Prop :=
  (db.plan? (s.id, s.generation)).isSome ∧ s.phase = .provisioning ∧
    db.countAssignments s.id .prepared = 2 ∧ ¬ db.HasCommitJob s.id

instance : DecidablePred db.ReadyForCommit := fun _ => inferInstanceAs (Decidable (_ ∧ _))

def listSessionsReadyForCommit (locked : List SessionId) : List Session :=
  selectForUpdate Session.id db.ReadyForCommit Session.UpdatedBefore 50 locked db.sessions.rows

def listProvisionedSessionsForActivation (locked : List SessionId) : List Session :=
  selectForUpdate Session.id
    (fun s => s.phase = .provisioning ∧ db.countAssignments s.id .applied = 2)
    Unordered 50 locked db.sessions.rows

def listTimedOutProvisioningSessions (provisioningTimeoutSeconds : Nat) (locked : List SessionId) :
    List Session :=
  selectForUpdate Session.id
    (fun s => s.desiredState = .active ∧ s.phase = .provisioning ∧
      s.statusUpdatedAt < db.now - provisioningTimeoutSeconds * second)
    Unordered 50 locked db.sessions.rows

def listSessionsToBeginRevocation (locked : List SessionId) : List Session :=
  selectForUpdate Session.id
    (fun s => s.desiredState = .revoked ∧ s.phase ≠ .revoking ∧ s.phase ≠ .revoked ∧
      s.phase ≠ .failed)
    Session.UpdatedBefore 50 locked db.sessions.rows

/-- The condition of `listSessionsReadyToMarkRevoked`. -/
def ReadyToMarkRevoked (s : Session) : Prop :=
  s.phase = .revoking ∧ ¬ ∃ a ∈ db.assignments.rows, a.sessionId = s.id ∧ a.phase ≠ .revoked

instance : DecidablePred db.ReadyToMarkRevoked := fun _ => inferInstanceAs (Decidable (_ ∧ _))

def listSessionsReadyToMarkRevoked (locked : List SessionId) : List Session :=
  selectForUpdate Session.id db.ReadyToMarkRevoked Unordered 50 locked db.sessions.rows

/-- The condition of `findExhaustedSessionTrafficEntitlementForUpdate`. -/
def Exhausted (s : Session) : Prop :=
  (∃ e ∈ s.entitlement, e.exhaustedAt = none ∧ e.includedBytes ≤ e.consumedBytes) ∧
    s.accountId.isSome ∧ s.desiredState = .active ∧ s.phase ≠ .revoking ∧ s.phase ≠ .revoked ∧
    s.phase ≠ .failed

instance : DecidablePred Exhausted := fun _ => inferInstanceAs (Decidable (_ ∧ _))

def findExhaustedSessionTrafficEntitlementForUpdate (locked : List SessionId) : Option Session :=
  (selectForUpdate Session.id Exhausted Session.MeteredBefore 1 locked db.sessions.rows).head?

def markSessionTrafficEntitlementExhausted (id : SessionId) : ProvisioningDb :=
  db.updateSession id (·.setEntitlement (·.exhaust db.now)) fun _ => Session.setEntitlement_id

/-! ### Rendered plans, addresses and artifacts -/

/-- `upsertRenderedPlan` and `writeRenderedPlanSecret`: the plan is overwritten on a conflict, its
secret is not. -/
def upsertRenderedPlan (plan : RenderedPlan) : ProvisioningDb :=
  match db.plans.insert plan with
  | some plans => { db with plans }
  | none =>
    { db with
      plans := db.plans.update plan.id plan.overwrite fun _ => RenderedPlan.overwrite_id }

def insertClientAddressLease (sessionId : SessionId) (clientAddress : ClientAddress) :
    ProvisioningDb :=
  { db with leases := db.leases ++ [⟨sessionId, clientAddress, none⟩] }

/-- `addresses` are the addresses of the pools in the order the allocator tries them. -/
def ensureClientAddressLease (sessionId : SessionId) (addresses : List ClientAddress) :
    Option (ClientAddress × ProvisioningDb) :=
  match db.activeAddress? sessionId with
  | some address => some (address, db)
  | none =>
    let leased := (db.leases.filter (·.releasedAt.isNone)).map (·.clientAddress)
    (addresses.find? (· ∉ leased)).map fun address =>
      (address, db.insertClientAddressLease sessionId address)

def releaseClientAddressLease (sessionId : SessionId) : ProvisioningDb :=
  { db with
    leases := db.leases.map fun l =>
      if l.sessionId = sessionId ∧ l.releasedAt = none then { l with releasedAt := some db.now }
      else l }

def hasActiveClientConfigArtifact (sessionId : SessionId) : Bool :=
  db.artifacts.any fun a => a.sessionId = sessionId && a.invalidatedAt.isNone

def insertClientConfigArtifact (artifact : ClientConfigArtifact) : ProvisioningDb :=
  { db with artifacts := db.artifacts ++ [artifact] }

def invalidateSessionArtifacts (sessionId : SessionId) : ProvisioningDb :=
  { db with
    artifacts := db.artifacts.map fun a =>
      if a.sessionId = sessionId ∧ a.invalidatedAt = none then
        { a with invalidatedAt := some db.now }
      else a }

/-! ### Assignments -/

/-- `upsertGateAssignment` with desired state Applied, then `ensureGateAssignmentStatusPhase`. -/
def createAssignment (sessionId : SessionId) (gateId : GateId) (role : GateAssignmentRole)
    (planId : PlanId) : ProvisioningDb :=
  match db.assignments.insert (.create db.now sessionId gateId role planId) with
  | some assignments => { db with assignments }
  | none =>
      db.updateAssignment (sessionId, role) (·.recreate db.now gateId planId) fun _ =>
        GateAssignment.recreate_id

def markPreparedAssignmentsQueued (ingress egress : AssignmentId) : ProvisioningDb :=
  { db with
    assignments := db.assignments.modify
      (fun a => if a.id = ingress ∨ a.id = egress then a.queueForCommit db.now else a)
      fun a => by split <;> simp [GateAssignment.queueForCommit_id] }

def markPendingAssignmentsDeadForSession (sessionId : SessionId) : ProvisioningDb :=
  { db with
    assignments := db.assignments.modify
      (fun a => if a.sessionId = sessionId then a.failPending db.now else a)
      fun a => by split <;> simp [GateAssignment.failPending_id] }

/-- The condition of `listAssignmentsToRevoke`. -/
def ToRevoke (a : GateAssignment) : Prop :=
  (∃ s ∈ db.session? a.sessionId, s.desiredState = .revoked) ∧ a.desiredState ≠ .revoked

instance : DecidablePred db.ToRevoke := fun _ => inferInstanceAs (Decidable (_ ∧ _))

def listAssignmentsToRevoke (locked : List AssignmentId) : List GateAssignment :=
  selectForUpdate GateAssignment.id db.ToRevoke Unordered 100 locked db.assignments.rows

/-- `updateAssignmentDesiredState` to Revoked, then `markAssignmentRevoking`. -/
def requestAssignmentRevocation (id : AssignmentId) : ProvisioningDb :=
  db.updateAssignment id (·.requestRevocation db.now) fun _ => GateAssignment.requestRevocation_id

def updateAssignmentPhase (id : AssignmentId) (phase : GateAssignmentPhase) : ProvisioningDb :=
  db.updateAssignment id (·.setPhase db.now phase) fun _ => GateAssignment.setPhase_id

def markAssignmentPreparedFromReport (id : AssignmentId) (material : Json) : ProvisioningDb :=
  db.updateAssignment id (·.markPrepared db.now material) fun _ => GateAssignment.markPrepared_id

def markAssignmentAppliedFromReport (id : AssignmentId) : ProvisioningDb :=
  db.updateAssignment id (·.markApplied db.now) fun _ => GateAssignment.markApplied_id

def markAssignmentRevokedFromReport (id : AssignmentId) : ProvisioningDb :=
  db.updateAssignment id (·.markRevoked db.now) fun _ => GateAssignment.markRevoked_id

def markAssignmentFailedFromReport (id : AssignmentId) (terminalFailure : Bool) :
    ProvisioningDb :=
  db.updateAssignmentPhase id (failedFromReportTransition terminalFailure)

/-! ### Jobs -/

/-- The argument of `enqueueApplyJob`. -/
structure EnqueueApplyJobInput where
  assignmentId : AssignmentId
  gateId : GateId
  sessionId : SessionId
  operation : ApplyOperation
  planId : PlanId
  deriving DecidableEq, Repr

/-- A job with operation `operation` for the assignment is in progress. -/
def HasLiveApplyJob (id : AssignmentId) (operation : ApplyOperation) : Prop :=
  ∃ j ∈ db.jobs.rows, j.IsFor id .applyAssignment (some operation) ∧ j.phase.isLive

/-- A job with operation `operation` has carried out the plan of the assignment, and its status
does not say that this is undone. -/
def HasCarriedOutPlan (id : AssignmentId) (operation : ApplyOperation) : Prop :=
  ∃ a ∈ db.assignment? id,
    (a.phase = .queued ∨ a.phase = .leased ∨ a.phase = .applying ∨ a.phase = .prepared ∨
      a.phase = .applied) ∧
    ∃ j ∈ db.jobs.rows, j.IsFor id .applyAssignment (some operation) ∧
      j.planId = some a.planId ∧ j.phase = .succeeded

def HasLiveRevokeJob (id : AssignmentId) : Prop :=
  ∃ j ∈ db.jobs.rows, j.assignmentId = some id ∧ j.type = .revokeAssignment ∧ j.phase.isLive

/-- A revoke job that was enqueued after the last change of the assignment is done. -/
def HasRevokedSinceUpdate (id : AssignmentId) : Prop :=
  ∃ a ∈ db.assignment? id, ∃ j ∈ db.jobs.rows, j.assignmentId = some id ∧
    j.type = .revokeAssignment ∧ j.phase = .succeeded ∧ a.updatedAt ≤ j.createdAt

instance (id : AssignmentId) (operation : ApplyOperation) :
    Decidable (db.HasLiveApplyJob id operation) :=
  inferInstanceAs (Decidable (∃ j ∈ db.jobs.rows, _))

instance (id : AssignmentId) (operation : ApplyOperation) :
    Decidable (db.HasCarriedOutPlan id operation) :=
  inferInstanceAs (Decidable (∃ a ∈ db.assignment? id, _))

instance (id : AssignmentId) : Decidable (db.HasLiveRevokeJob id) :=
  inferInstanceAs (Decidable (∃ j ∈ db.jobs.rows, _))

instance (id : AssignmentId) : Decidable (db.HasRevokedSinceUpdate id) :=
  inferInstanceAs (Decidable (∃ a ∈ db.assignment? id, _))

def insertApplyAssignmentJob (input : EnqueueApplyJobInput) : ProvisioningDb :=
  if db.HasLiveApplyJob input.assignmentId input.operation ∨
      db.HasCarriedOutPlan input.assignmentId input.operation then db
  else
    { db with
      jobs := db.jobs.insert (.create db.now .applyAssignment (some input.gateId)
        (some input.sessionId) (some input.assignmentId) (some input.operation)
        (some input.planId)) fun _ => Job.create_id }

/-- The assignment with the gate and the session that the caller has read of it. -/
def insertRevokeAssignmentJob (a : GateAssignment) : ProvisioningDb :=
  if db.HasLiveRevokeJob a.id ∨ db.HasRevokedSinceUpdate a.id then db
  else
    { db with
      jobs := db.jobs.insert (.create db.now .revokeAssignment (some a.gateId) (some a.sessionId)
        (some a.id) none none) fun _ => Job.create_id }

/-- When such a job is due is left open. -/
def insertOtherJob (job : OtherJob) : ProvisioningDb :=
  { db with jobs := db.jobs.insert (.createOther db.now job) fun _ => Job.createOther_id }

def markApplyJobsDeadForSession (sessionId : SessionId) : ProvisioningDb :=
  db.modifyJobs (fun j => if j.sessionId = some sessionId then j.failApply db.now else j)
    fun j => by split <;> simp [(keepsOwner_failApply j).id]

def requeueExpiredJobLeases : ProvisioningDb :=
  db.modifyJobs (·.requeueExpired db.now) fun j => (keepsOwner_requeueExpired j).id

/-- The condition of `findClaimableGateJobForUpdate`. -/
def Claimable (gateId : GateId) (lane : Option GateJobLane) (j : Job) : Prop :=
  j.gateId = some gateId ∧ (j.phase = .queued ∨ j.phase = .retryableFailed) ∧
    j.runAfter ≤ db.now ∧ (∀ t ∈ j.leaseExpiresAt, t < db.now) ∧
    (lane = none ∨ (lane = some .probe ∧ j.type = .probe) ∨
      (lane = some .control ∧ j.type ≠ .probe))

instance (gateId : GateId) (lane : Option GateJobLane) : DecidablePred (db.Claimable gateId lane) :=
  fun _ => inferInstanceAs (Decidable (_ ∧ _))

def findClaimableGateJobForUpdate (gateId : GateId) (lane : Option GateJobLane)
    (locked : List JobId) : Option Job :=
  (selectForUpdate Job.id (db.Claimable gateId lane) Job.CreatedBefore 1 locked
    db.jobs.rows).head?

/-- `claimJobTransition` and `updateJobLease`. -/
def leaseJob (id : JobId) : ProvisioningDb :=
  { db with jobs := db.jobs.update id (·.lease db.now) fun j => (keepsOwner_lease j).id }

def recordJobReportOutcome (id : JobId) (nextPhase : JobPhase) (retryDelaySeconds : Option Nat) :
    ProvisioningDb :=
  { db with
    jobs := db.jobs.update id (·.recordOutcome db.now nextPhase retryDelaySeconds)
      fun j => (keepsOwner_recordOutcome j).id }

/-- The archive deletes finished jobs some time after their last update, some at a time. -/
def archiveJobs (ids : List JobId) : ProvisioningDb :=
  { db with
    jobs := db.jobs.filter fun j => !(decide (j.Archivable db.now) && j.id ∈ ids) }

/-! ### Snapshots of gates -/

/-- `updateGateActualState`, the snapshot of it. -/
def updateGateActualState (gateId : GateId) (managedHandles : List Handle)
    (reportedAt : Option Timestamp) : ProvisioningDb :=
  { db with snapshots := db.snapshots ++ [⟨gateId, managedHandles, reportedAt, db.now⟩] }

/-- The oldest snapshots are deleted first, 24 hours after they came in. -/
def deleteExpiredGateActualStateSnapshots (receivedBefore : Timestamp) : ProvisioningDb :=
  { db with
    snapshots := db.snapshots.filter fun s =>
      !(s.receivedAt < receivedBefore && s.receivedAt < db.now - 86400 * second) }

/-- The traffic that a gate reports for the session of an egress assignment. -/
def addConsumedBytes (sessionId : SessionId) (bytes : Nat) : ProvisioningDb :=
  db.updateSession sessionId (·.setEntitlement (·.consume db.now bytes)) fun _ =>
    Session.setEntitlement_id

/-- A row of `listGateActualStateDriftInputs`. -/
structure GateActualStateDriftRow where
  gateId : GateId
  desiredHandles : List Handle
  actualHandles : List Handle
  reportedAt : Option Timestamp

/-- An assignment whose handle is desired on its gate. -/
def IsDesired (a : GateAssignment) : Prop :=
  a.desiredState = .applied ∧ (a.phase = .applied ∨ a.phase = .drifted) ∧
    ∃ t ∈ a.appliedAt, ∃ s ∈ db.latestSnapshot? a.gateId, t ≤ s.receivedAt

instance : DecidablePred db.IsDesired := fun _ => inferInstanceAs (Decidable (_ ∧ _))

def gateActualStateDriftRow (gateId : GateId) : GateActualStateDriftRow where
  gateId := gateId
  desiredHandles :=
    (db.assignments.rows.filter fun a => a.gateId = gateId && db.IsDesired a).map (·.id)
  actualHandles := (db.latestSnapshot? gateId).elim [] (·.managedHandles)
  reportedAt := (db.latestSnapshot? gateId).bind (·.reportedAt)

/-- `compareManagedHandles`: the missing and the orphaned handles. -/
def compareManagedHandles (desiredHandles actualHandles : List Handle) :
    List Handle × List Handle :=
  (desiredHandles.filter (· ∉ actualHandles), actualHandles.filter (· ∉ desiredHandles))

def markMissingHandleAssignmentsDrifted (gateId : GateId) (missingHandles : List Handle) :
    ProvisioningDb :=
  { db with
    assignments := db.assignments.modify
      (fun a => if a.gateId = gateId then a.markDrifted db.now missingHandles else a)
      fun a => by split <;> simp [GateAssignment.markDrifted_id] }

/-- The condition of `listMissingHandleRepairSessions` on the session. -/
def Repairable (s : Session) : Prop :=
  s.desiredState = .active ∧
    (s.phase = .active ∨ s.phase = .provisioning ∨ s.phase = .degraded) ∧
    (db.plan? (s.id, s.generation)).isSome

instance : DecidablePred db.Repairable := fun _ => inferInstanceAs (Decidable (_ ∧ _))

def listMissingHandleRepairSessions (gateId : GateId) (missingHandles : List Handle)
    (locked : List SessionId) : List Session :=
  let targets := db.assignments.rows.filter fun a =>
    a.gateId = gateId && a.id ∈ missingHandles && a.desiredState = .applied
  selectForUpdate Session.id db.Repairable Session.UpdatedBefore 50 locked
    (targets.filterMap fun a => db.session? a.sessionId)

/-- The condition of `listKnownOrphanAssignmentsForCleanup`. -/
def KnownOrphan (gateId : GateId) (orphanHandles : List Handle) (a : GateAssignment) : Prop :=
  a.gateId = gateId ∧ a.id ∈ orphanHandles ∧
    (a.desiredState = .revoked ∨ a.phase = .revoking ∨ a.phase = .revoked ∨ a.phase = .dead)

instance (gateId : GateId) (orphanHandles : List Handle) :
    DecidablePred (KnownOrphan gateId orphanHandles) :=
  fun _ => inferInstanceAs (Decidable (_ ∧ _))

def listKnownOrphanAssignmentsForCleanup (gateId : GateId) (orphanHandles : List Handle)
    (locked : List AssignmentId) : List GateAssignment :=
  selectForUpdate GateAssignment.id (KnownOrphan gateId orphanHandles) Unordered 100 locked
    db.assignments.rows

end ProvisioningDb

end Hyperspace.Provisioning
