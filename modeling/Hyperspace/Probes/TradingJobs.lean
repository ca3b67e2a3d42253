import Hyperspace.Foundations.Queries
import Hyperspace.Foundations.Runs
import Hyperspace.Foundations.Tables
import Hyperspace.Probes.CatalogSync

/-!
# The relational queue of trading probes

The queue of a control plane without a Mongo store. Each statement of the scheduler and each
transaction of an agent is one step. An agent measures after it has claimed an attempt; its report
can come late, more than once, or never.
-/

namespace Hyperspace.Probes

open Hyperspace.Foundations

abbrev TradingJobId := Nat

inductive TradingJobPhase where
  | queued
  | leased
  | succeeded
  | failed
  | dead
  deriving DecidableEq, Repr

/-- `phase IN ('queued', 'leased')`. -/
def TradingJobPhase.isActive : TradingJobPhase → Bool
  | queued | leased => true
  | succeeded | failed | dead => false

/-- A row of `trading_probe_jobs`. -/
structure TradingProbeJob where
  id : TradingJobId
  probeNodeId : Uuid
  targetId : Uuid
  targetRevision : Int
  networkProfile : String
  phase : TradingJobPhase
  leaseExpiresAt : Option Milliseconds
  runAfter : Milliseconds
  retryCount : Nat
  maxRetries : Nat
  createdAt : Milliseconds

def TradingProbeJob.latestId (job : TradingProbeJob) : TradingId :=
  (job.probeNodeId, job.targetId, job.networkProfile)

/-- A row of `trading_probe_job_attempts`. -/
structure TradingProbeJobAttempt where
  jobId : TradingJobId
  attemptNumber : Nat
  leaseExpiresAt : Milliseconds
  completedAt : Option Milliseconds

/-- The condition of the update that completes an attempt. -/
def TradingProbeJobAttempt.isOpen (attempt : TradingProbeJobAttempt) (jobId : TradingJobId)
    (attemptNumber : Nat) : Bool :=
  attempt.jobId = jobId && attempt.attemptNumber = attemptNumber && attempt.completedAt.isNone

/-- A row of `trading_latency_latest`. -/
structure TradingLatencyLatest where
  targetRevision : Int
  phase : TradingJobPhase
  measuredAt : Milliseconds
  values : Json

/-- A row of `trading_probe_targets`. -/
structure TradingProbeTarget where
  id : Uuid
  revision : Int
  intervalSeconds : Nat
  sortOrder : Int
  enabled : Bool

structure TradingProbeResult where
  status : String
  measuredAt : Milliseconds
  values : Json

def TradingProbeResult.phase (result : TradingProbeResult) : TradingJobPhase :=
  if result.status = "succeeded" then .succeeded else .failed

/-- The tables of the trading probes. -/
structure TradingDb where
  jobs : SerialTable TradingProbeJob.id
  attempts : List TradingProbeJobAttempt
  latest : TradingId → Option TradingLatencyLatest
  /-- The nodes with a row in `trading_probe_node_status`. -/
  nodeStatus : List Uuid

def emptyTradingDb : TradingDb := ⟨∅, [], fun _ => none, []⟩

/-! ### The scheduler -/

/-- An expired lease leads back to the queue, or to the end of the job after its last attempt. -/
def TradingProbeJob.requeue (now : Milliseconds) (job : TradingProbeJob) : TradingProbeJob :=
  if job.phase = .leased ∧ job.leaseExpiresAt.any (· < now) then
    { job with
      phase := if job.maxRetries ≤ job.retryCount then .dead else .queued
      leaseExpiresAt := none
      runAfter := if job.maxRetries ≤ job.retryCount then job.runAfter
        else now + min 60 (max 2 (job.retryCount * job.retryCount * 2)) * 1000 }
  else job

@[simp] theorem TradingProbeJob.requeue_id {now : Milliseconds} {job : TradingProbeJob} :
    (job.requeue now).id = job.id := by
  rw [requeue]
  split <;> rfl

/-- A new job, with the defaults of its columns. -/
def TradingProbeJob.create (now : Milliseconds) (nodeId : Uuid) (target : TradingProbeTarget)
    (id : TradingJobId) : TradingProbeJob where
  id := id
  probeNodeId := nodeId
  targetId := target.id
  targetRevision := target.revision
  networkProfile := "direct"
  phase := .queued
  leaseExpiresAt := none
  runAfter := now
  retryCount := 0
  maxRetries := 3
  createdAt := now

namespace TradingDb

variable (db : TradingDb) (now : Milliseconds)

/-- The first statement of `scheduleTradingProbeJobs`. -/
def requeueExpired : TradingDb :=
  { db with jobs := db.jobs.modify (·.requeue now) fun _ => TradingProbeJob.requeue_id }

/-- The `WHERE` clause of the second statement. -/
def isDue (nodeId : Uuid) (target : TradingProbeTarget) : Bool :=
  target.enabled && (db.latest (nodeId, target.id, "direct")).all fun latest =>
    latest.measuredAt < now - target.intervalSeconds * 1000 ||
      latest.targetRevision ≠ target.revision

/-- On conflict with an active job of the same node and target do nothing. -/
def insertJob (nodeId : Uuid) (target : TradingProbeTarget) : TradingDb :=
  if db.jobs.rows.any fun job =>
      job.latestId = (nodeId, target.id, "direct") && job.phase.isActive then db
  else { db with jobs := db.jobs.insert (.create now nodeId target) fun _ => rfl }

/-- The second statement, for the nodes that are enabled and alive. -/
def insertDue (nodes : List Uuid) (targets : List TradingProbeTarget) : TradingDb :=
  ((nodes.product targets).filter fun (nodeId, target) => db.isDue now nodeId target).foldl
    (fun db (nodeId, target) => db.insertJob now nodeId target) db

/-! ### The agents -/

/-- `ORDER BY jobs.created_at, targets.sort_order`. -/
def claimRankOf (targets : List TradingProbeTarget) (job : TradingProbeJob) : Milliseconds ×ₗ Int :=
  toLex (job.createdAt, ((targets.find? (·.id = job.targetId)).map (·.sortOrder)).getD 0)

def claimable (node : AuthenticatedTradingProbeNode) (targets : List TradingProbeTarget) :
    List TradingProbeJob :=
  db.jobs.rows.filter fun job => job.probeNodeId = node.id && job.phase = .queued &&
    job.runAfter ≤ now && targets.any fun target => target.id = job.targetId && target.enabled

/-- `claimTradingProbeJob`: the row it leases, if any, and the attempt it inserts. -/
def claim (node : AuthenticatedTradingProbeNode) (targets : List TradingProbeTarget)
    (locked : List TradingJobId) : TradingDb :=
  if node.desiredState = .enabled then
    match (selectForUpdate TradingProbeJob.id (fun _ => True)
        (fun job job' => claimRankOf targets job ≤ claimRankOf targets job') 1 locked
        (db.claimable now node targets)).head? with
    | none => db
    | some job =>
      let leaseExpiresAt := now + 45000
      { db with
        jobs := db.jobs.update job.id (fun job => { job with
            phase := .leased
            leaseExpiresAt := some leaseExpiresAt
            retryCount := job.retryCount + 1 }) fun _ => rfl
        attempts := db.attempts ++ [⟨job.id, job.retryCount + 1, leaseExpiresAt, none⟩] }
  else db

/-- The row that `recordTradingProbeJobReport` locks. -/
def reportedJob? (nodeId : Uuid) (jobId : TradingJobId) : Option TradingProbeJob :=
  db.jobs.rows.find? fun job => job.id = jobId && job.probeNodeId = nodeId && job.phase = .leased

/-- The writes of a report that is accepted. -/
def applyReport (node : AuthenticatedTradingProbeNode) (job : TradingProbeJob)
    (attemptNumber : Nat) (result : TradingProbeResult) : TradingDb where
  jobs := db.jobs.update job.id
    (fun job => { job with phase := result.phase, leaseExpiresAt := none }) fun _ => rfl
  attempts := db.attempts.map fun attempt =>
    if attempt.isOpen job.id attemptNumber then { attempt with completedAt := some now }
    else attempt
  latest := if node.id ∈ db.nodeStatus then
      Function.update db.latest (node.id, job.targetId, job.networkProfile)
        (some ⟨job.targetRevision, result.phase, result.measuredAt, result.values⟩)
    else db.latest
  nodeStatus := db.nodeStatus

/-- `recordTradingProbeJobReport`; `none` where it returns false. -/
def recordReport (node : AuthenticatedTradingProbeNode) (jobId : TradingJobId)
    (attemptNumber : Nat) (result : TradingProbeResult) : Option TradingDb := do
  let job ← db.reportedJob? node.id jobId
  if db.attempts.any (·.isOpen jobId attemptNumber) then
    return db.applyReport now node job attemptNumber result
  else none

end TradingDb

/-! ### The system -/

/-- A measurement that an agent has taken for an attempt. -/
structure TakenMeasurement where
  jobId : TradingJobId
  attemptNumber : Nat
  measuredAt : Milliseconds
  deriving DecidableEq, Repr

/-- A report that was answered with true, with what the job held just before. -/
structure AcceptedReport where
  jobId : TradingJobId
  attemptNumber : Nat
  retryCount : Nat
  leaseExpiresAt : Option Milliseconds
  acceptedAt : Milliseconds
  deriving DecidableEq, Repr

/-- The tables with a record of measurements and reports. -/
structure TradingSystem where
  clock : Milliseconds
  db : TradingDb
  /-- The measurements of all agents, in the order they were taken. -/
  taken : List TakenMeasurement
  accepted : List AcceptedReport
  /-- The times that were written to `trading_latency_latest`, one after another. -/
  written : List (TradingId × Milliseconds)

def emptyTradingSystem : TradingSystem := ⟨0, emptyTradingDb, [], [], []⟩

/-- The operations of nodes and workers on the tables. -/
inductive TradingEvent where
  | tick (elapsed : Nat)
  | heartbeat (nodeId : Uuid)
  | requeueExpired
  | insertDue (nodes : List Uuid) (targets : List TradingProbeTarget)
  | claim (node : AuthenticatedTradingProbeNode) (targets : List TradingProbeTarget)
      (locked : List TradingJobId)
  | measure (jobId : TradingJobId) (attemptNumber : Nat) (measuredAt : Milliseconds)
  | report (node : AuthenticatedTradingProbeNode) (jobId : TradingJobId) (attemptNumber : Nat)
      (result : TradingProbeResult)

namespace TradingSystem

variable (s : TradingSystem)

/-- A later measurement has no earlier time, and it is for an attempt that was claimed. -/
def canMeasure (jobId : TradingJobId) (attemptNumber : Nat) (measuredAt : Milliseconds) : Bool :=
  s.db.attempts.any
    (fun attempt => attempt.jobId = jobId && attempt.attemptNumber = attemptNumber) &&
    s.taken.all (·.measuredAt ≤ measuredAt)

def report (node : AuthenticatedTradingProbeNode) (jobId : TradingJobId) (attemptNumber : Nat)
    (result : TradingProbeResult) : TradingSystem :=
  match s.db.recordReport s.clock node jobId attemptNumber result,
    s.db.reportedJob? node.id jobId with
  | some db', some job =>
    { s with
      db := db'
      accepted := s.accepted ++
        [⟨jobId, attemptNumber, job.retryCount, job.leaseExpiresAt, s.clock⟩]
      written := if node.id ∈ s.db.nodeStatus then s.written ++ [(job.latestId, result.measuredAt)]
        else s.written }
  | _, _ => s

/-- An agent reports only what it has measured. -/
def step (s : TradingSystem) : TradingEvent → Option TradingSystem
  | .tick elapsed => some { s with clock := s.clock + elapsed }
  | .heartbeat nodeId =>
    some { s with db := { s.db with nodeStatus := s.db.nodeStatus ++ [nodeId] } }
  | .requeueExpired => some { s with db := s.db.requeueExpired s.clock }
  | .insertDue nodes targets => some { s with db := s.db.insertDue s.clock nodes targets }
  | .claim node targets locked => some { s with db := s.db.claim s.clock node targets locked }
  | .measure jobId attemptNumber measuredAt =>
    if s.canMeasure jobId attemptNumber measuredAt then
      some { s with taken := s.taken ++ [⟨jobId, attemptNumber, measuredAt⟩] }
    else none
  | .report node jobId attemptNumber result =>
    if ⟨jobId, attemptNumber, result.measuredAt⟩ ∈ s.taken then
      some (s.report node jobId attemptNumber result)
    else none

end TradingSystem

end Hyperspace.Probes
