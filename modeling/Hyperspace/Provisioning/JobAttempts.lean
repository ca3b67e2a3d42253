import Hyperspace.Provisioning.CellEvents

/-!
# Attempts and reports of jobs

A claim inserts a row into `job_attempts`, and a report completes the open ones. The report of a
probe also stores the results of a benchmark, and the report of a deployment job moves the
deployment of its agent. A gate sends the id of its job and nothing of the attempt, so the attempt
that a report answers stands in the event and in no transaction.
-/

namespace Hyperspace.Provisioning

open Hyperspace.Billing (AccountId SessionId Timestamp)
open Hyperspace.ControlPlane Hyperspace.Foundations

abbrev AttemptId := Nat

/-- A row of `job_attempts`. -/
structure JobAttempt where
  id : AttemptId
  jobId : JobId
  attemptNumber : Nat
  leaseExpiresAt : Timestamp
  completedAt : Option Timestamp
  deriving DecidableEq, Repr

inductive DeploymentPhase where
  | queued
  | staging
  | verifying
  | succeeded
  | rollbackRequested
  | rollingBack
  | rolledBack
  | failed
  deriving DecidableEq, Repr

/-- `phase IN ('queued', 'staging', 'verifying', 'rollback_requested', 'rolling_back')`. -/
def DeploymentPhase.isActive : DeploymentPhase → Bool
  | .queued | .staging | .verifying | .rollbackRequested | .rollingBack => true
  | .succeeded | .rolledBack | .failed => false

/-- A row of `gate_agent_deployments`. -/
structure GateAgentDeployment where
  id : DeploymentId
  gateId : GateId
  phase : DeploymentPhase
  previousArtifactSha256 : Option String
  stagedAt : Option Timestamp
  failedAt : Option Timestamp
  rollbackAttemptCount : Nat
  verificationDeadlineAt : Timestamp
  updatedAt : Timestamp
  deriving DecidableEq, Repr

/-- `event_type` of `gate_agent_deployment_events`. -/
inductive DeploymentEventType where
  | requested
  | jobRetryableFailed
  | jobStaged
  | jobFailed
  | verified
  | rollbackRequested
  | rollbackRetried
  | rolledBack
  | failed
  deriving DecidableEq, Repr

inductive BenchmarkTransport where
  | publicNetwork
  | doublezero
  deriving DecidableEq, Repr

/-- A measurement of a benchmark; `record` holds its metrics. -/
structure GateBenchmarkReportMetric where
  transport : BenchmarkTransport
  succeeded : Bool
  record : Json

/-- A row of `gate_benchmark_results`. -/
structure GateBenchmarkResult where
  jobId : JobId
  sourceGateId : GateId
  targetGateId : GateId
  metric : GateBenchmarkReportMetric

/-- The control-plane database with the tables that reports write. -/
structure ReportDb where
  control : ProvisioningDb
  attempts : SerialTable JobAttempt.id
  deployments : SerialTable GateAgentDeployment.id
  deploymentEvents : List (DeploymentId × DeploymentEventType)
  benchmarkResults : List GateBenchmarkResult

/-- The database before its first transaction. -/
def emptyReportDb : ReportDb := ⟨emptyDb, ∅, ∅, [], []⟩

/-! ### Rewriting rows -/

def JobAttempt.create (now : Timestamp) (jobId : JobId) (attemptNumber : Nat) (id : AttemptId) :
    JobAttempt :=
  ⟨id, jobId, attemptNumber, now + 60 * second, none⟩

def JobAttempt.complete (now : Timestamp) (jobId : JobId) (a : JobAttempt) : JobAttempt :=
  if a.jobId = jobId ∧ a.completedAt = none then { a with completedAt := some now } else a

theorem JobAttempt.complete_id {now : Timestamp} {jobId : JobId} {a : JobAttempt} :
    (a.complete now jobId).id = a.id := by
  rw [complete]
  split <;> rfl

namespace GateAgentDeployment

/-- A new deployment with the defaults of its columns. -/
def create (now : Timestamp) (gateId : GateId) (previousArtifactSha256 : Option String)
    (id : DeploymentId) : GateAgentDeployment where
  id := id
  gateId := gateId
  phase := .queued
  previousArtifactSha256 := previousArtifactSha256
  stagedAt := none
  failedAt := none
  rollbackAttemptCount := 0
  verificationDeadlineAt := now + 300 * second
  updatedAt := now

def markJobReported (now : Timestamp) (phase : DeploymentPhase) (d : GateAgentDeployment) :
    GateAgentDeployment :=
  if d.phase.isActive then
    { d with
      phase
      stagedAt := if phase = .verifying then some now else d.stagedAt
      failedAt := if phase = .failed then some now else d.failedAt
      verificationDeadlineAt := now + 300 * second
      updatedAt := now }
  else d

def markSucceeded (now : Timestamp) (d : GateAgentDeployment) : GateAgentDeployment :=
  if d.phase = .staging ∨ d.phase = .verifying then
    { d with phase := .succeeded, updatedAt := now }
  else d

def requestRollback (now : Timestamp) (d : GateAgentDeployment) : GateAgentDeployment :=
  { d with
    phase := .rollbackRequested
    rollbackAttemptCount := 1
    verificationDeadlineAt := now + 300 * second
    updatedAt := now }

def retryRollback (now : Timestamp) (d : GateAgentDeployment) : GateAgentDeployment :=
  { d with
    rollbackAttemptCount := d.rollbackAttemptCount + 1
    verificationDeadlineAt := now + 300 * second
    updatedAt := now }

def markRolledBack (now : Timestamp) (d : GateAgentDeployment) : GateAgentDeployment :=
  if d.phase = .staging ∨ d.phase = .verifying ∨ d.phase = .rollbackRequested ∨
      d.phase = .rollingBack then
    { d with phase := .rolledBack, updatedAt := now }
  else d

def markFailed (now : Timestamp) (d : GateAgentDeployment) : GateAgentDeployment :=
  if d.phase.isActive then
    { d with phase := .failed, failedAt := some now, updatedAt := now }
  else d

section

variable {now : Timestamp} {d : GateAgentDeployment}

theorem markJobReported_id {phase : DeploymentPhase} : (d.markJobReported now phase).id = d.id := by
  rw [markJobReported]
  split <;> rfl

theorem markSucceeded_id : (d.markSucceeded now).id = d.id := by
  rw [markSucceeded]
  split <;> rfl

theorem requestRollback_id : (d.requestRollback now).id = d.id := rfl

theorem retryRollback_id : (d.retryRollback now).id = d.id := rfl

theorem markRolledBack_id : (d.markRolledBack now).id = d.id := by
  rw [markRolledBack]
  split <;> rfl

theorem markFailed_id : (d.markFailed now).id = d.id := by
  rw [markFailed]
  split <;> rfl

end

end GateAgentDeployment

/-! ### Results of a benchmark -/

def readBenchmarkResult (value : Json) : Option GateBenchmarkReportMetric :=
  if value.isObj then
    let succeeded : Bool := value.readString "status" ≠ "failed"
    if value.readString "transport" = "public" then some ⟨.publicNetwork, succeeded, value⟩
    else if value.readString "transport" = "doublezero" then some ⟨.doublezero, succeeded, value⟩
    else none
  else none

def readBenchmarkResults (summary : Json) : List GateBenchmarkReportMetric :=
  match summary.field? "results" with
  | some (.arr items) => items.filterMap readBenchmarkResult
  | some .null | some (.bool _) | some (.num _) | some (.str _) | some (.obj _) | none => []

namespace ReportDb

variable (db : ReportDb)

def updateDeployment (id : DeploymentId) (f : GateAgentDeployment → GateAgentDeployment)
    (hf : ∀ d, (f d).id = d.id) : ReportDb :=
  { db with deployments := db.deployments.update id f hf }

def insertDeploymentEvent (id : DeploymentId) (eventType : DeploymentEventType) : ReportDb :=
  { db with deploymentEvents := db.deploymentEvents ++ [(id, eventType)] }

/-! ### Claims -/

def nextJobAttemptNumber (jobId : JobId) : Nat :=
  ((db.attempts.rows.filter (·.jobId = jobId)).map (·.attemptNumber)).foldl max 0 + 1

def insertJobAttemptLease (jobId : JobId) (attemptNumber : Nat) : ReportDb :=
  { db with
    attempts := db.attempts.insert (.create db.control.now jobId attemptNumber) fun _ => rfl }

/-- The claim of a job with the row of its attempt. -/
def claimGateJob (gateId : GateId) (lane : Option GateJobLane) (locked : List JobId) : ReportDb :=
  match db.control.findClaimableGateJobForUpdate gateId lane locked with
  | none => db
  | some job =>
    -- the job references a missing assignment: the transaction is rolled back
    if job.assignmentId.any fun id => (db.control.assignment? id).isNone then db
    else
      { db.insertJobAttemptLease job.id (db.nextJobAttemptNumber job.id) with
        control := db.control.claimGateJob gateId lane locked }

/-! ### Reports -/

def completeJobAttempts (jobId : JobId) : ReportDb :=
  { db with
    attempts := db.attempts.modify (·.complete db.control.now jobId)
      fun _ => JobAttempt.complete_id }

def insertGateBenchmarkReport (jobId : JobId) (sourceGateId targetGateId : GateId)
    (results : List GateBenchmarkReportMetric) : ReportDb :=
  { db with
    benchmarkResults :=
      db.benchmarkResults ++ results.map (⟨jobId, sourceGateId, targetGateId, ·⟩) }

/-- `storable` are the metrics that the columns of the table can hold. -/
def recordGateBenchmarkJobReport (storable : Json → Bool) (jobId : JobId) (sourceGateId : GateId)
    (target : Option GateId) (resultSummary : Json) : Option ReportDb :=
  match target with
  | none => some db
  | some targetGateId =>
    let results := readBenchmarkResults resultSummary
    if results.all fun r => storable r.record then
      some (db.insertGateBenchmarkReport jobId sourceGateId targetGateId results)
    else none

/-- The event refers to the deployment, so a deployment must be there. -/
def markDeploymentJobReported (id : DeploymentId) (jobType : JobType) (succeeded : Bool)
    (terminalFailure : Bool) : Option ReportDb :=
  if (db.deployments.find? id).isNone then none
  else if !succeeded && !terminalFailure then some (db.insertDeploymentEvent id .jobRetryableFailed)
  else
    let phase : DeploymentPhase :=
      if succeeded then if jobType = .deployAgent then .verifying else .rollingBack else .failed
    some ((db.updateDeployment id (·.markJobReported db.control.now phase)
      fun _ => GateAgentDeployment.markJobReported_id).insertDeploymentEvent id
        (if succeeded then .jobStaged else .jobFailed))

/-- What a report about a probe stores. -/
def recordProbeReport (storable : Json → Bool) (gateId : GateId) (job : Job)
    (report : GateJobReport) : Option ReportDb :=
  if job.type = .probe then
    db.recordGateBenchmarkJobReport storable job.id gateId job.benchmarkTarget report.resultSummary
  else some db

/-- What a report about a deployment job does to the deployment. -/
def recordDeploymentReport (job : Job) (report : GateJobReport) : Option ReportDb :=
  match job.deploymentId with
  | some id =>
    if job.type = .deployAgent ∨ job.type = .rollbackAgent then
      db.markDeploymentJobReported id job.type (report.status = .succeeded)
        (resolveReportedJobTransition report.status job.retryCount job.maxRetries).terminalFailure
    else some db
  | none => some db

/-- `none` where the gate has no such job, or a statement fails and the transaction is rolled
back. -/
def recordGateJobReport (storable : Json → Bool) (gateId : GateId) (jobId : JobId)
    (report : GateJobReport) : Option ReportDb :=
  match db.control.jobs.find? jobId with
  | none => none
  | some job =>
    if job.gateId = some gateId then
      let recorded : ReportDb :=
        { db.completeJobAttempts job.id with
          control := db.control.recordGateJobReport gateId jobId report }
      (recorded.recordProbeReport storable gateId job report).bind fun measured =>
        measured.recordDeploymentReport job report
    else none

/-! ### Deployments of the agent -/

/-- A live rollback job of a deployment. -/
def HasLiveRollbackJob (gateId : GateId) (id : DeploymentId) : Prop :=
  ∃ j ∈ db.control.jobs.rows, j.gateId = some gateId ∧ j.type = .rollbackAgent ∧
    j.deploymentId = some id ∧ j.phase.isLive

instance (gateId : GateId) (id : DeploymentId) : Decidable (db.HasLiveRollbackJob gateId id) :=
  inferInstanceAs (Decidable (∃ j ∈ db.control.jobs.rows, _))

/-- Some other deployment is under way on the gate. -/
def HasActiveDeployment (gateId : GateId) (except : Option DeploymentId) : Prop :=
  ∃ d ∈ db.deployments.rows, d.gateId = gateId ∧ some d.id ≠ except ∧ d.phase.isActive

instance (gateId : GateId) (except : Option DeploymentId) :
    Decidable (db.HasActiveDeployment gateId except) :=
  inferInstanceAs (Decidable (∃ d ∈ db.deployments.rows, _))

def insertRollbackJob (gateId : GateId) (id : DeploymentId) : ReportDb :=
  if db.HasLiveRollbackJob gateId id then db
  else { db with control := db.control.insertOtherJob (.rollbackAgent gateId id) }

/-- The release and the gate are known, and the gate can be deployed to. -/
def insertGateAgentDeployment (gateId : GateId) (previousArtifactSha256 : Option String) :
    ReportDb :=
  if db.HasActiveDeployment gateId none then db
  else
    let id := db.deployments.next
    let inserted : ReportDb :=
      { db with
        deployments := db.deployments.insert
          (.create db.control.now gateId previousArtifactSha256) fun _ => rfl
        control := db.control.insertOtherJob (.deployAgent gateId id) }
    inserted.insertDeploymentEvent id .requested

def markDeploymentSucceeded (id : DeploymentId) : ReportDb :=
  (db.updateDeployment id (·.markSucceeded db.control.now)
    fun _ => GateAgentDeployment.markSucceeded_id).insertDeploymentEvent id .verified

def requestDeploymentRollback (id : DeploymentId) : ReportDb :=
  match db.deployments.find? id with
  | none => db
  | some d =>
    if d.previousArtifactSha256.isSome ∧ (d.phase = .succeeded ∨ d.phase = .staging ∨
        d.phase = .verifying ∨ d.phase = .failed) ∧ ¬ db.HasActiveDeployment d.gateId (some id) then
      ((db.updateDeployment id (·.requestRollback db.control.now)
        fun _ => GateAgentDeployment.requestRollback_id).insertRollbackJob d.gateId
          id).insertDeploymentEvent id .rollbackRequested
    else db

def retryDeploymentRollback (id : DeploymentId) : ReportDb :=
  match db.deployments.find? id with
  | none => db
  | some d =>
    if (d.phase = .rollbackRequested ∨ d.phase = .rollingBack) ∧ d.previousArtifactSha256.isSome ∧
        d.rollbackAttemptCount < 3 then
      ((db.updateDeployment id (·.retryRollback db.control.now)
        fun _ => GateAgentDeployment.retryRollback_id).insertRollbackJob d.gateId
          id).insertDeploymentEvent id .rollbackRetried
    else db

def markDeploymentRolledBack (id : DeploymentId) : ReportDb :=
  (db.updateDeployment id (·.markRolledBack db.control.now)
    fun _ => GateAgentDeployment.markRolledBack_id).insertDeploymentEvent id .rolledBack

def markDeploymentFailed (id : DeploymentId) : ReportDb :=
  (db.updateDeployment id (·.markFailed db.control.now)
    fun _ => GateAgentDeployment.markFailed_id).insertDeploymentEvent id .failed

end ReportDb

/-! ### Steps -/

/-- What happens to a deployment besides the reports of its jobs. Which of the writes the
controller chooses depends on what the gate shows. -/
inductive DeploymentAction where
  | request (gateId : GateId) (previousArtifactSha256 : Option String)
  | succeed (id : DeploymentId)
  | requestRollback (id : DeploymentId)
  | retryRollback (id : DeploymentId)
  | rollBack (id : DeploymentId)
  | fail (id : DeploymentId)
  deriving DecidableEq, Repr

/-- The transactions of gates, which also write the tables of reports. -/
def Action.isOfGate : Action → Bool
  | .claim .. | .report .. => true
  | _ => false

/-- What can happen next. A report answers an attempt that its gate has claimed. -/
inductive ReportAction where
  | control (action : Action) (other : action.isOfGate = false)
  | claim (gateId : GateId) (lane : Option GateJobLane) (locked : List JobId)
  | report (gateId : GateId) (jobId : JobId) (attempt : AttemptId) (report : GateJobReport)
  | deployment (action : DeploymentAction)
  | archiveAttempts (ids : List AttemptId)

structure ReportEvent where
  now : Timestamp
  action : ReportAction

namespace ReportDb

def atTime (db : ReportDb) (now : Timestamp) : ReportDb :=
  { db with control := { db.control with now } }

/-- A transaction of the control plane; the attempts of a job are deleted with it. -/
def performControl (config : SessionReconcileConfig) (db : ReportDb) (action : Action) : ReportDb :=
  let control := db.control.perform config action
  { db with
    control
    attempts := db.attempts.filter fun a => (control.jobs.find? a.jobId).isSome }

def performDeployment (db : ReportDb) : DeploymentAction → ReportDb
  | .request gateId previousArtifactSha256 =>
    db.insertGateAgentDeployment gateId previousArtifactSha256
  | .succeed id => db.markDeploymentSucceeded id
  | .requestRollback id => db.requestDeploymentRollback id
  | .retryRollback id => db.retryDeploymentRollback id
  | .rollBack id => db.markDeploymentRolledBack id
  | .fail id => db.markDeploymentFailed id

/-- The archive deletes completed attempts, those of probes after a day and others later. -/
def archiveJobAttempts (db : ReportDb) (ids : List AttemptId) : ReportDb :=
  { db with
    attempts := db.attempts.filter fun a =>
      !(a.id ∈ ids && a.completedAt.any fun t => t < db.control.now - 86400 * second) }

def perform (config : SessionReconcileConfig) (storable : Json → Bool) (db : ReportDb) :
    ReportAction → ReportDb
  | .control action _ => db.performControl config action
  | .claim gateId lane locked => db.claimGateJob gateId lane locked
  | .report gateId jobId _ report =>
    (db.recordGateJobReport storable gateId jobId report).getD db
  | .deployment action => db.performDeployment action
  | .archiveAttempts ids => db.archiveJobAttempts ids

/-- Transactions run one after another, each at a later time than the ones before. -/
def step (config : SessionReconcileConfig) (storable : Json → Bool) (db : ReportDb)
    (e : ReportEvent) : Option ReportDb :=
  if db.control.now < e.now then some ((db.atTime e.now).perform config storable e.action)
  else none

end ReportDb

end Hyperspace.Provisioning
