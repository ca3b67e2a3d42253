import Hyperspace.ControlPlane.Phases
import Hyperspace.Foundations.Queries
import Hyperspace.Foundations.Runs
import Hyperspace.Foundations.Tables
import Hyperspace.Probes.Measurements

/-!
# The queue of probes

The tasks of the Mongo probe store. An update of a document is atomic; what a call does between two
of its requests to the database, the clock reading included, is one step with the request that
follows. Any number of calls are in progress at a time, and each of them can stop for good.
-/

namespace Hyperspace.Probes

open Hyperspace.ControlPlane Hyperspace.Foundations

abbrev TaskId := Nat
abbrev ClaimId := Nat

/-- `new Date(text)` and `toISOString`. -/
structure DateFunctions where
  parse : String → Option Milliseconds
  toISOString : Milliseconds → String

inductive ProbeKind where
  | benchmark
  | trading
  | ntp
  deriving DecidableEq, Repr

/-- The fields of a payload that the queue reads. -/
inductive ProbePayload where
  | benchmark (transports : List String)
  | trading (sampleCount timeoutMs : Nat)
  | ntp (sampleSeconds : Nat)
  deriving DecidableEq, Repr

def ProbePayload.kind : ProbePayload → ProbeKind
  | benchmark _ => .benchmark
  | trading _ _ => .trading
  | ntp _ => .ntp

/-- How long a claim holds the lease: from two to fifteen minutes. -/
def ProbePayload.leaseDuration (payload : ProbePayload) : Milliseconds :=
  min 900000 (max 120000 (match payload with
    | benchmark _ => 60 * 1000
    | trading sampleCount timeoutMs => 15000 + (1 + sampleCount) * timeoutMs
    | ntp sampleSeconds => (60 + sampleSeconds) * 1000))

/-- What the schedulers pass to `enqueue`. They allow one, two or three attempts. -/
structure NewTask where
  key : String
  sourceId : Uuid
  targetId : Uuid
  revision : Int
  intervalMs : Milliseconds
  payload : ProbePayload
  maxAttempts : Nat
  maxAttempts_pos : 0 < maxAttempts
  deriving DecidableEq

inductive TaskPhase where
  | queued
  | leased
  | completed
  deriving DecidableEq, Repr

/-- A document of `jobs`, the collection of the probe tasks. -/
structure ProbeTask extends NewTask where
  id : TaskId
  phase : TaskPhase
  active : Bool
  attempts : Nat
  createdAt : Milliseconds
  runAfter : Milliseconds
  claimId : Option ClaimId
  leaseExpiresAt : Option Milliseconds
  completedAt : Option Milliseconds
  outcome : Option String
  events : Option (List ProbeEvent)
  deliveryPending : Option Bool
  deliveryAfter : Option Milliseconds
  deliveryAttempts : Nat
  expiresAt : Option Milliseconds
  lastReportedClaimId : Option ClaimId
  releaseAfter : Option Milliseconds

/-- `$setOnInsert` of `enqueue`. -/
def NewTask.create (task : NewTask) (now : Milliseconds) (id : TaskId) : ProbeTask :=
  { task with
    id
    phase := .queued
    active := true
    attempts := 0
    createdAt := now
    runAfter := now
    claimId := none
    leaseExpiresAt := none
    completedAt := none
    outcome := none
    events := none
    deliveryPending := none
    deliveryAfter := none
    deliveryAttempts := 0
    expiresAt := none
    lastReportedClaimId := none
    releaseAfter := none }

/-! ### Reports -/

/-- The text of a status. -/
def statusText : JobReportStatus → String
  | .succeeded => "succeeded"
  | .retryableFailed => "retryable_failed"
  | .failed => "failed"

/-- A result of a gate, as `readBenchmarkResults` returns it. -/
structure GateBenchmarkReportMetric where
  transport : BenchmarkTransport
  measuredAt : Option String
  values : Json

/-- The report of a gate with the results in its summary. -/
structure GateProbeReport where
  status : JobReportStatus
  errorCode : String
  results : List GateBenchmarkReportMetric

/-- What a trading agent reports of a target. -/
structure TradingProbeMetricSummary where
  status : String
  measuredAt : String
  values : Json

/-- A call of `reportGate` or of `reportTrading`. -/
inductive ProbeReport where
  | gate (sourceId : Uuid) (claimId : ClaimId) (report : GateProbeReport)
  | trading (nodeId : Uuid) (claimId : ClaimId) (attempt : Nat) (result : TradingProbeMetricSummary)

def BenchmarkTransport.ofName (name : String) : Option BenchmarkTransport :=
  if name = "public" then some .publicInternet
  else if name = "doublezero" then some .doublezero else none

namespace ProbeReport

def claimId : ProbeReport → ClaimId
  | gate _ claimId _ => claimId
  | trading _ claimId _ _ => claimId

/-- The filter of the first read. -/
def finds (report : ProbeReport) (task : ProbeTask) : Bool :=
  match report with
  | gate sourceId claimId _ =>
    task.claimId = some claimId && task.sourceId = sourceId && task.payload.kind ≠ .trading
  | trading nodeId claimId attempt _ =>
    task.claimId = some claimId && task.sourceId = nodeId && task.payload.kind = .trading &&
      task.attempts = attempt

def outcome : ProbeReport → String
  | gate _ _ report => statusText report.status
  | trading _ _ _ result => result.status

def retries : ProbeReport → Bool
  | gate _ _ report => report.status = .retryableFailed
  | trading _ _ _ _ => false

/-- Only `reportGate` looks at the lease before it calls `complete`. -/
def checksLease : ProbeReport → Bool
  | gate _ _ _ => true
  | trading _ _ _ _ => false

end ProbeReport

/-- The result that stands for one the gate did not send. -/
def missingResult (report : GateProbeReport) (transport : BenchmarkTransport) :
    GateBenchmarkReportMetric where
  transport := transport
  measuredAt := none
  values := .obj [("status", .str "failed"),
    ("errorCode", .str (if report.errorCode = "" then "probe_result_missing"
      else report.errorCode))]

def benchmarkEvent (dates : DateFunctions) (now : Milliseconds) (task : ProbeTask)
    (sourceId : Uuid) (report : GateProbeReport) (name : String) (transport : BenchmarkTransport) :
    Except DeliveryError ProbeEvent := do
  let result := (report.results.find? (·.transport = transport)).getD
    (missingResult report transport)
  let measuredAt ← validDate dates.parse now (result.measuredAt.getD (dates.toISOString now))
  return {
    id := "benchmark:" ++ toString task.id ++ ":" ++ name
    payload := .benchmark ⟨sourceId, task.targetId,
      ⟨transport, dates.toISOString measuredAt, result.values⟩⟩ }

/-- The events of a report; an error where a date of the report is refused. -/
def ProbeReport.events (dates : DateFunctions) (now : Milliseconds) (task : ProbeTask) :
    ProbeReport → Except DeliveryError (List ProbeEvent)
  | gate sourceId _ report =>
    match task.payload with
    | .benchmark transports =>
      (transports.filterMap fun name => (BenchmarkTransport.ofName name).map (name, ·)).mapM
        fun (name, transport) => benchmarkEvent dates now task sourceId report name transport
    | .trading _ _ | .ntp _ => .ok []
  | trading nodeId _ _ result => do
    let measuredAt ← validDate dates.parse now result.measuredAt
    return [{
      id := "trading:" ++ toString task.id
      payload := .trading {
        nodeId
        targetId := task.targetId
        networkProfile := "direct"
        targetRevision := some task.revision
        measuredAt := dates.toISOString measuredAt
        values := result.values } }]

/-! ### Updates of a task -/

/-- What a call has read from the catalog: the gates that are ready and schedulable, the gates and
nodes that are enabled, and the revisions of the enabled targets. -/
structure CatalogView where
  readyGates : List Uuid
  enabledGates : List Uuid
  enabledNodes : List Uuid
  targets : List (Uuid × Int)

/-- The node or the gate may claim a task. -/
def CatalogView.isEligible (view : CatalogView) (sourceId : Uuid) (trading : Bool) : Bool :=
  if trading then sourceId ∈ view.enabledNodes else sourceId ∈ view.readyGates

/-- The updates of a task, each by its own filter. -/
inductive TaskUpdate where
  | lease (now : Milliseconds) (claimId : ClaimId)
  | complete (now : Milliseconds) (claimId : Option ClaimId) (outcome : String)
      (events : List ProbeEvent) (requeue : Bool)
  | release (now : Milliseconds)
  | expireLease (now : Milliseconds) (claimId : Option ClaimId) (retry : Bool)
  | cancel (now : Milliseconds) (view : CatalogView)
  | supersede (now : Milliseconds) (targetId : Uuid) (revision : Int)
  | markDelivered (now completedAt intervalMs : Milliseconds)
  | postpone (deliveryAfter : Milliseconds)

namespace TaskUpdate

/-- The filter of the update. -/
def filter (t : ProbeTask) : TaskUpdate → Bool
  | lease now _ => t.phase = .queued && t.active && t.runAfter ≤ now
  | complete now claimId _ _ _ =>
    t.claimId = claimId && t.phase = .leased && t.leaseExpiresAt.any (now < ·)
  | release now =>
    t.phase = .completed && t.active && t.deliveryPending = some false &&
      t.releaseAfter.any (· ≤ now)
  | expireLease now claimId _ =>
    t.phase = .leased && t.claimId = claimId && t.leaseExpiresAt.any (· ≤ now)
  | cancel _ view =>
    t.phase = .queued &&
      if t.payload.kind = .trading then
        t.sourceId ∉ view.enabledNodes || t.targetId ∉ view.targets.map (·.1)
      else t.sourceId ∉ view.enabledGates || t.targetId ∉ view.enabledGates
  | supersede _ targetId revision =>
    t.phase = .queued && t.payload.kind = .trading && t.targetId = targetId &&
      t.revision ≠ revision
  | markDelivered _ _ _ => t.deliveryPending = some true && t.phase = .completed
  | postpone _ => t.deliveryPending = some true

/-- A queued task that is not wanted any more. -/
def withdraw (now : Milliseconds) (outcome : String) (t : ProbeTask) : ProbeTask :=
  { t with
    phase := .completed
    active := false
    outcome := some outcome
    completedAt := some now
    expiresAt := some (now + 2 * DAY) }

def set (t : ProbeTask) : TaskUpdate → ProbeTask
  | lease now claimId =>
    { t with
      phase := .leased
      claimId := some claimId
      attempts := t.attempts + 1
      leaseExpiresAt := some (now + t.payload.leaseDuration) }
  | complete now claimId outcome events requeue =>
    let reported := { t with
      outcome := some outcome
      lastReportedClaimId := claimId
      leaseExpiresAt := none }
    if requeue then { reported with phase := .queued, runAfter := now + 10000 }
    else { reported with
      phase := .completed
      completedAt := some now
      events := some events
      deliveryPending := some true
      deliveryAfter := some now
      deliveryAttempts := 0 }
  | release _ => { t with active := false }
  | expireLease now _ retry =>
    let expired := { t with leaseExpiresAt := none }
    if retry then { expired with phase := .queued, runAfter := now + 10000 }
    else { expired with
      phase := .completed
      outcome := some "dead"
      completedAt := some now
      events := some []
      deliveryPending := some true
      deliveryAfter := some now }
  | cancel now _ => withdraw now "cancelled" t
  | supersede now _ _ => withdraw now "superseded" t
  | markDelivered now completedAt intervalMs =>
    { t with
      deliveryPending := some false
      releaseAfter := some (completedAt + intervalMs)
      expiresAt := some (max (now + 2 * DAY) (completedAt + intervalMs + DAY))
      events := none }
  | postpone deliveryAfter =>
    { t with
      deliveryAttempts := t.deliveryAttempts + 1
      deliveryAfter := some deliveryAfter }

def apply (u : TaskUpdate) (t : ProbeTask) : ProbeTask := if u.filter t then u.set t else t

@[simp] theorem apply_id {u : TaskUpdate} {t : ProbeTask} : (u.apply t).id = t.id := by
  rw [apply]
  split
  · cases u <;> simp only [set, withdraw] <;> split <;> rfl
  · rfl

end TaskUpdate

/-! ### Calls in progress -/

/-- A document of `schedule`: when the tasks of a key were last completed. -/
structure ScheduleDocument where
  completedAt : Milliseconds
  revision : Int

/-- What a call that waits for its next request holds. -/
inductive ProbeCall where
  /-- The schedule document allows the task. -/
  | enqueue (task : NewTask) (now : Milliseconds)
  /-- The task was read with its lease. -/
  | report (report : ProbeReport) (task : ProbeTask)
  /-- The update of `complete` has matched nothing. -/
  | confirm (report : ProbeReport) (task : ProbeTask)
  | release (now : Milliseconds)
  | expire (now : Milliseconds) (tasks : List ProbeTask)
  | cancel (now : Milliseconds) (view : CatalogView)
  | deliverEvents (row : ProbeTask) (events : List ProbeEvent) (rows : List ProbeTask)
  | markDelivered (row : ProbeTask) (rows : List ProbeTask)
  | postpone (row : ProbeTask)
  | finished

/-! The history of what has happened. The code does not keep it. -/

/-- That a task of a key was inserted. -/
structure Insertion where
  taskId : TaskId
  key : String
  revision : Int
  insertedAt : Milliseconds

/-- A report that an update of `complete` has applied, with what the task held just before. -/
structure AppliedReport where
  taskId : TaskId
  claimId : ClaimId
  taskClaimId : Option ClaimId
  taskLeaseExpiresAt : Option Milliseconds
  appliedAt : Milliseconds
  completes : Bool
  events : List ProbeEvent

/-- A cycle whose last update of `deliver` has been applied, as the task held it just before. -/
structure DeliveredCycle where
  taskId : TaskId
  key : String
  revision : Int
  completedAt : Milliseconds
  intervalMs : Milliseconds

/-- What a report call has returned, and whether the report of its claim was recorded then. -/
structure Answer where
  report : ProbeReport
  acknowledged : Bool
  recorded : Bool

/-- The queue with its clock, its running calls and a record of what they did. -/
structure ProbeQueue where
  clock : Milliseconds
  tasks : SerialTable ProbeTask.id
  schedule : String → Option ScheduleDocument
  measurements : MeasurementStore
  nextClaimId : ClaimId
  calls : List ProbeCall
  insertions : List Insertion
  reports : List AppliedReport
  delivered : List DeliveredCycle
  passed : List (TaskId × ProbeEvent)
  answers : List Answer

def emptyQueue : ProbeQueue where
  clock := 0
  tasks := ∅
  schedule _ := none
  measurements := emptyStore 0
  nextClaimId := 0
  calls := []
  insertions := []
  reports := []
  delivered := []
  passed := []
  answers := []

/-- How `deliver` goes on to the next of its rows. -/
def deliverNext : List ProbeTask → ProbeCall
  | [] => .finished
  | row :: rows => .deliverEvents row (row.events.getD []) rows

/-- The operations on the queue; those of several steps run as calls. -/
inductive QueueEvent where
  | tick (elapsed : Nat)
  | enqueue (task : NewTask)
  | insert (call : Nat)
  | claim (sourceId : Uuid) (trading : Bool) (view : CatalogView)
  | report (report : ProbeReport)
  | complete (call : Nat)
  | confirm (call : Nat)
  | reapExpired
  | release (call : Nat) (task : TaskId)
  | findExpired (call : Nat)
  | expireLease (call : Nat)
  | readCatalog (call : Nat) (view : CatalogView)
  | cancel (call : Nat) (task : TaskId)
  | supersede (call : Nat) (task : TaskId) (targetId : Uuid)
  | deliver (limit : Nat)
  | deliverEvent (call : Nat)
  | recordCycle (call : Nat)
  | markDelivered (call : Nat)
  | failDelivery (call : Nat)
  | postpone (call : Nat)
  | removeDocument (task : TaskId)

namespace ProbeQueue

variable (dates : DateFunctions) (s : ProbeQueue)

def setCall (call : Nat) (next : ProbeCall) : ProbeQueue :=
  { s with calls := s.calls.set call next }

def addCall (call : ProbeCall) : ProbeQueue := { s with calls := s.calls ++ [call] }

def updateOne (task : TaskId) (u : TaskUpdate) : ProbeQueue :=
  { s with tasks := s.tasks.update task u.apply fun _ => TaskUpdate.apply_id }

/-- The report of this claim is recorded, and the task is not claimed again. -/
def hasRecorded (report : ProbeReport) : Bool :=
  s.tasks.rows.any fun t => report.finds t && s.reports.any (·.claimId = report.claimId)

def answer (report : ProbeReport) (acknowledged : Bool) : ProbeQueue :=
  { s with answers := s.answers ++ [⟨report, acknowledged, s.hasRecorded report⟩] }

/-- The read of `enqueue`. -/
def enqueue (task : NewTask) : ProbeQueue :=
  if (s.schedule task.key).any fun state =>
      state.revision = task.revision && s.clock < state.completedAt + task.intervalMs then s
  else s.addCall (.enqueue task s.clock)

/-- The `upsert` of `enqueue`; the unique index allows one active task of a key. -/
def insert (task : NewTask) (now : Milliseconds) : ProbeQueue :=
  if s.tasks.rows.any fun t => t.key = task.key && t.active then s
  else
    { s with
      tasks := s.tasks.insert (task.create now) fun _ => rfl
      insertions := s.insertions ++ [⟨s.tasks.next, task.key, task.revision, s.clock⟩] }

/-- The filter of `claim`. -/
def claimable (sourceId : Uuid) (trading : Bool) (view : CatalogView) (t : ProbeTask) : Bool :=
  t.sourceId = sourceId && decide (t.payload.kind = .trading) == trading &&
    (if trading then (t.targetId, t.revision) ∈ view.targets else t.targetId ∈ view.readyGates) &&
    (TaskUpdate.lease s.clock s.nextClaimId).filter t

def claim (sourceId : Uuid) (trading : Bool) (view : CatalogView) : ProbeQueue :=
  if view.isEligible sourceId trading then
    match (selectForUpdate ProbeTask.id (s.claimable sourceId trading view ·)
        (·.createdAt ≤ ·.createdAt) 1 [] s.tasks.rows).head? with
    | none => s
    | some t =>
      { s.updateOne t.id (.lease s.clock s.nextClaimId) with nextClaimId := s.nextClaimId + 1 }
  else s

/-- The read of `reportGate` or of `reportTrading`. -/
def readReported (report : ProbeReport) : ProbeQueue :=
  match s.tasks.rows.find? report.finds with
  | none => s.answer report false
  | some t =>
    if t.phase = .leased then s.addCall (.report report t)
    else s.answer report (t.lastReportedClaimId = some report.claimId)

/-- The update of `complete`, with the task as it was read. -/
def completion (report : ProbeReport) (task : ProbeTask) (events : List ProbeEvent) : TaskUpdate :=
  .complete s.clock task.claimId report.outcome events
    (report.retries && task.attempts < task.maxAttempts)

def applyReport (call : Nat) (report : ProbeReport) (task : ProbeTask)
    (events : List ProbeEvent) : ProbeQueue :=
  match s.tasks.rows.find? fun t =>
    t.id = task.id && (s.completion report task events).filter t with
  | none => s.setCall call (.confirm report task)
  | some t =>
    let requeue := report.retries && task.attempts < task.maxAttempts
    let applied : AppliedReport := {
      taskId := t.id
      claimId := report.claimId
      taskClaimId := t.claimId
      taskLeaseExpiresAt := t.leaseExpiresAt
      appliedAt := s.clock
      completes := !requeue
      events := if requeue then [] else events }
    let updated := (s.setCall call .finished).updateOne task.id (s.completion report task events)
    { updated with reports := s.reports ++ [applied] }.answer report true

/-- What follows the read: the check of the lease, the events, and the update of `complete`. -/
def complete (call : Nat) (report : ProbeReport) (task : ProbeTask) : ProbeQueue :=
  if report.checksLease && !task.leaseExpiresAt.any (s.clock < ·) then
    (s.setCall call .finished).answer report false
  else
    match report.events dates s.clock task with
    | .error _ => s.setCall call .finished
    | .ok events => s.applyReport call report task events

/-- The last read of `complete`. -/
def confirm (call : Nat) (report : ProbeReport) (task : ProbeTask) : ProbeQueue :=
  (s.setCall call .finished).answer report <| s.tasks.rows.any fun t =>
    t.id = task.id && t.claimId = task.claimId && t.lastReportedClaimId = task.claimId &&
      t.phase ≠ .leased

def findExpired (now : Milliseconds) : List ProbeTask :=
  (s.tasks.rows.filter fun t => t.phase = .leased && t.leaseExpiresAt.any (· ≤ now)).take 200

def findPending (limit : Nat) : List ProbeTask :=
  selectForUpdate ProbeTask.id
    (fun t => t.deliveryPending = some true ∧ t.deliveryAfter.any (· ≤ s.clock))
    (·.completedAt.getD 0 ≤ ·.completedAt.getD 0) limit [] s.tasks.rows

/-- The next event of a row goes to the measurement store, which may throw. -/
def deliverEvent (call : Nat) (row : ProbeTask) (event : ProbeEvent) (events : List ProbeEvent)
    (rows : List ProbeTask) : ProbeQueue :=
  match { s.measurements with now := s.clock }.deliver dates.parse event with
  | .error _ => s.setCall call (.postpone row)
  | .ok measurements =>
    { s.setCall call (.deliverEvents row events rows) with
      measurements
      passed := s.passed ++ [(row.id, event)] }

/-- The schedule document of a key keeps the latest completion. -/
def recordCycle (row : ProbeTask) (completedAt : Milliseconds) : ProbeQueue :=
  if (s.schedule row.key).all (·.completedAt ≤ completedAt) then
    { s with schedule := Function.update s.schedule row.key (some ⟨completedAt, row.revision⟩) }
  else s

def markDelivered (row : ProbeTask) (completedAt : Milliseconds) : ProbeQueue :=
  let u := TaskUpdate.markDelivered s.clock completedAt row.intervalMs
  match s.tasks.rows.find? fun t => t.id = row.id && u.filter t with
  | none => s
  | some t =>
    { s.updateOne row.id u with
      delivered := s.delivered ++ t.completedAt.toList.map fun completedAt =>
        ⟨t.id, t.key, t.revision, completedAt, t.intervalMs⟩ }

def postpone (row : ProbeTask) : ProbeQueue :=
  s.updateOne row.id
    (.postpone (s.clock + min 60000 (1000 * 2 ^ min row.deliveryAttempts 6)))

/-- The TTL index deletes a task some time after its expiry. -/
def removeDocument (task : TaskId) : ProbeQueue :=
  { s with tasks := s.tasks.filter fun t => t.id ≠ task || !t.expiresAt.any (· ≤ s.clock) }

def step (s : ProbeQueue) (e : QueueEvent) : Option ProbeQueue :=
  match e with
  | .tick elapsed => some { s with clock := s.clock + elapsed }
  | .enqueue task => some (s.enqueue task)
  | .claim sourceId trading view => some (s.claim sourceId trading view)
  | .report report => some (s.readReported report)
  | .reapExpired => some (s.addCall (.release s.clock))
  | .deliver limit => some (s.addCall (deliverNext (s.findPending limit)))
  | .removeDocument task => some (s.removeDocument task)
  | .insert call =>
    match s.calls[call]? with
    | some (.enqueue task now) => some ((s.setCall call .finished).insert task now)
    | _ => none
  | .complete call =>
    match s.calls[call]? with
    | some (.report report task) => some (s.complete dates call report task)
    | _ => none
  | .confirm call =>
    match s.calls[call]? with
    | some (.confirm report task) => some (s.confirm call report task)
    | _ => none
  | .release call task =>
    match s.calls[call]? with
    | some (.release now) => some (s.updateOne task (.release now))
    | _ => none
  | .findExpired call =>
    match s.calls[call]? with
    | some (.release now) => some (s.setCall call (.expire now (s.findExpired now)))
    | _ => none
  | .expireLease call =>
    match s.calls[call]? with
    | some (.expire now (t :: rest)) =>
      some ((s.setCall call (.expire now rest)).updateOne t.id
        (.expireLease now t.claimId (t.attempts < t.maxAttempts)))
    | _ => none
  | .readCatalog call view =>
    match s.calls[call]? with
    | some (.expire now []) => some (s.setCall call (.cancel now view))
    | _ => none
  | .cancel call task =>
    match s.calls[call]? with
    | some (.cancel now view) => some (s.updateOne task (.cancel now view))
    | _ => none
  | .supersede call task targetId =>
    match s.calls[call]? with
    | some (.cancel now view) =>
      (view.targets.find? (·.1 = targetId)).map fun target =>
        s.updateOne task (.supersede now targetId target.2)
    | _ => none
  | .deliverEvent call =>
    match s.calls[call]? with
    | some (.deliverEvents row (event :: events) rows) =>
      some (s.deliverEvent dates call row event events rows)
    | _ => none
  | .recordCycle call =>
    match s.calls[call]? with
    | some (.deliverEvents row [] rows) =>
      match row.completedAt with
      | none => some (s.setCall call (.postpone row))
      | some completedAt =>
        some ((s.setCall call (.markDelivered row rows)).recordCycle row completedAt)
    | _ => none
  | .markDelivered call =>
    match s.calls[call]? with
    | some (.markDelivered row rows) =>
      match row.completedAt with
      | none => some (s.setCall call (.postpone row))
      | some completedAt =>
        some ((s.setCall call (deliverNext rows)).markDelivered row completedAt)
    | _ => none
  | .failDelivery call =>
    match s.calls[call]? with
    | some (.deliverEvents row _ _) => some (s.setCall call (.postpone row))
    | some (.markDelivered row _) => some (s.setCall call (.postpone row))
    | _ => none
  | .postpone call =>
    match s.calls[call]? with
    | some (.postpone row) => some ((s.setCall call .finished).postpone row)
    | _ => none

end ProbeQueue

end Hyperspace.Probes
