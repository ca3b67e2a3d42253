import Hyperspace.Billing.Schema
import Hyperspace.Provisioning.ClientTunnel

/-!
# The control-plane tables

Sessions, rendered plans, gate assignments, jobs, address leases, artifacts and gate snapshots.
A row of `sessions` carries its `session_status`, its traffic entitlement and its config grant, and
a row of `gate_assignments` its `gate_assignment_status`.

The upserts on `gate_assignments` and `rendered_plans` keep the id of the row they find, so the
unique keys of these tables stand for their ids.
-/

namespace Hyperspace.Provisioning

open Hyperspace.Billing (AccountId SessionId Timestamp)
open Hyperspace.ControlPlane Hyperspace.Foundations

abbrev GateId := Nat
abbrev JobId := Nat
abbrev ClientAddress := Nat
abbrev DeploymentId := Nat

/-- `UNIQUE (session_id, role)`. -/
abbrev AssignmentId := SessionId × GateAssignmentRole

/-- `UNIQUE (session_id, generation)`. -/
abbrev PlanId := SessionId × Nat

/-- `external_handle` is `hs-assignment-` followed by the id. -/
abbrev Handle := AssignmentId

instance : LawfulBEq Handle := inferInstance

/-- The number of microseconds in a second. -/
def second : Int := 1000000

inductive ClientProtocol where
  | wireguard
  | amneziawg
  deriving DecidableEq, Repr

/-- Why a `session_revoke_requested` event was recorded. -/
inductive RevokeReason where
  | user
  | entitlementExpired
  | billingBalanceExhausted
  | trafficQuotaExhausted
  deriving DecidableEq, Repr

/-- The quota of a session, in bytes. -/
structure TrafficEntitlement where
  includedBytes : Int
  consumedBytes : Int
  exhaustedAt : Option Timestamp
  updatedAt : Timestamp
  deriving DecidableEq, Repr

/-- A row of `sessions` with its status, its quota and its config grant. -/
structure Session where
  id : SessionId
  accountId : Option AccountId
  desiredState : DesiredSessionState
  generation : Nat
  clientProtocol : ClientProtocol
  hiddenAt : Option Timestamp
  createdAt : Timestamp
  updatedAt : Timestamp
  phase : SessionPhase
  observedGeneration : Nat
  statusUpdatedAt : Timestamp
  entitlement : Option TrafficEntitlement
  configGrant : Bool
  deriving DecidableEq, Repr

/-- A rendered plan with the part of its secret that a client tunnel needs. -/
structure RenderedPlan where
  sessionId : SessionId
  generation : Nat
  clientAddress : ClientAddress
  clientTunnel : ClientTunnel
  headerProtectionKey : Option String
  deriving DecidableEq

def RenderedPlan.id (plan : RenderedPlan) : PlanId := (plan.sessionId, plan.generation)

/-- A row of `gate_assignments` with its status. -/
structure GateAssignment where
  sessionId : SessionId
  role : GateAssignmentRole
  gateId : GateId
  generation : Nat
  desiredState : GateAssignmentDesiredState
  planId : PlanId
  updatedAt : Timestamp
  phase : GateAssignmentPhase
  observedGeneration : Nat
  appliedPlanId : Option PlanId
  appliedAt : Option Timestamp
  revokedAt : Option Timestamp
  localMaterial : Json
  statusUpdatedAt : Timestamp

def GateAssignment.id (assignment : GateAssignment) : AssignmentId :=
  (assignment.sessionId, assignment.role)

/-- `planId`, `deploymentId` and `benchmarkTarget` are of the payload: the plan, under either of its
two names, and the target gate of a payload of kind `gate_benchmark_v1`. -/
structure Job where
  id : JobId
  type : JobType
  phase : JobPhase
  gateId : Option GateId
  sessionId : Option SessionId
  assignmentId : Option AssignmentId
  operation : Option ApplyOperation
  planId : Option PlanId
  deploymentId : Option DeploymentId
  benchmarkTarget : Option GateId
  leaseExpiresAt : Option Timestamp
  runAfter : Timestamp
  retryCount : Nat
  maxRetries : Nat
  createdAt : Timestamp
  updatedAt : Timestamp
  deriving DecidableEq, Repr

/-- A row of `client_address_leases`. -/
structure ClientAddressLease where
  sessionId : SessionId
  clientAddress : ClientAddress
  releasedAt : Option Timestamp
  deriving DecidableEq, Repr

/-- A row of `artifacts`, of the config of a client. -/
structure ClientConfigArtifact where
  sessionId : SessionId
  generation : Nat
  clientAddress : ClientAddress
  serverPublicKey : String
  listenPort : ℚ
  clientTunnel : ClientTunnel
  invalidatedAt : Option Timestamp

/-- A row of `gate_actual_state_snapshots`: what a gate reports to have installed. -/
structure GateSnapshot where
  gateId : GateId
  managedHandles : List Handle
  reportedAt : Option Timestamp
  receivedAt : Timestamp
  deriving DecidableEq, Repr

/-- An entry of `audit_events` that asks to revoke a session. -/
structure RevokeRequest where
  sessionId : SessionId
  reason : RevokeReason
  createdAt : Timestamp
  deriving DecidableEq, Repr

/-- The database, and the deletions of sessions that have read their session but not yet written.
`now` is `now()` of the transaction that runs. -/
structure ProvisioningDb where
  sessions : Table Session.id
  plans : Table RenderedPlan.id
  assignments : Table GateAssignment.id
  jobs : SerialTable Job.id
  leases : List ClientAddressLease
  artifacts : List ClientConfigArtifact
  snapshots : List GateSnapshot
  revokeRequests : List RevokeRequest
  pendingHides : List SessionId
  now : Timestamp

/-- The database before its first transaction. -/
def emptyDb : ProvisioningDb where
  sessions := ∅
  plans := ∅
  assignments := ∅
  jobs := ∅
  leases := []
  artifacts := []
  snapshots := []
  revokeRequests := []
  pendingHides := []
  now := 0

namespace ProvisioningDb

def session? (db : ProvisioningDb) (id : SessionId) : Option Session := db.sessions.find? id

def plan? (db : ProvisioningDb) (id : PlanId) : Option RenderedPlan := db.plans.find? id

def assignment? (db : ProvisioningDb) (id : AssignmentId) : Option GateAssignment :=
  db.assignments.find? id

/-- Rewrite the row of a session. -/
def updateSession (db : ProvisioningDb) (id : SessionId) (f : Session → Session)
    (hf : ∀ s, (f s).id = s.id) : ProvisioningDb :=
  { db with sessions := db.sessions.update id f hf }

/-- Rewrite the row of an assignment. -/
def updateAssignment (db : ProvisioningDb) (id : AssignmentId)
    (f : GateAssignment → GateAssignment) (hf : ∀ a, (f a).id = a.id) : ProvisioningDb :=
  { db with assignments := db.assignments.update id f hf }

/-- Rewrite all rows of `jobs`. -/
def modifyJobs (db : ProvisioningDb) (f : Job → Job) (hf : ∀ j, (f j).id = j.id) :
    ProvisioningDb :=
  { db with jobs := db.jobs.modify f hf }

/-- The address that a session holds. -/
def activeAddress? (db : ProvisioningDb) (id : SessionId) : Option ClientAddress :=
  (db.leases.find? fun l => l.sessionId = id && l.releasedAt.isNone).map (·.clientAddress)

/-- The last `session_revoke_requested` event of a session, by its time. -/
def lastRevokeRequest? (db : ProvisioningDb) (id : SessionId) : Option RevokeRequest :=
  (db.revokeRequests.filter (·.sessionId = id)).foldl
    (fun last r => if last.all fun l => l.createdAt ≤ r.createdAt then some r else last) none

/-- The newest snapshot of a gate. -/
def latestSnapshot? (db : ProvisioningDb) (gateId : GateId) : Option GateSnapshot :=
  (db.snapshots.filter (·.gateId = gateId)).foldl
    (fun last s => if last.all fun l => l.receivedAt ≤ s.receivedAt then some s else last) none

end ProvisioningDb

end Hyperspace.Provisioning
