import Mathlib.Data.List.MinMax
import Hyperspace.Foundations.Runs
import Hyperspace.Provisioning.Schema

/-!
# The counters that gates report

`recordGateAssignmentCounter` stores a sample of the cumulative counters of an assignment, the usage
since the latest earlier sample, and what this adds to the traffic of the session. It is one
statement: it reads the earlier samples when it starts and writes when it ends, and the statements
of other reports run in between.
-/

namespace Hyperspace.Metering

open Hyperspace.Billing (SessionId Timestamp)
open Hyperspace.ControlPlane Hyperspace.Foundations Hyperspace.Provisioning

abbrev BootId := Nat

/-- The counters of a sample. -/
inductive Counter where
  | wireGuardClientReceiveBytes
  | wireGuardClientTransmitBytes
  | wireGuardTransitReceiveBytes
  | wireGuardTransitTransmitBytes
  | forwardedToDestinationPackets
  | forwardedToDestinationBytes
  | forwardedFromDestinationPackets
  | forwardedFromDestinationBytes
  | droppedToDestinationPackets
  | droppedToDestinationBytes
  | droppedFromDestinationPackets
  | droppedFromDestinationBytes
  deriving DecidableEq, Repr

abbrev Counters := Counter → Nat

/-- What counts from zero together: one generation of an assignment on a gate between two boots. -/
structure CounterKey where
  gateId : GateId
  assignmentId : AssignmentId
  bootId : BootId
  generation : Nat
  deriving DecidableEq, Repr

/-- A row of `gate_assignment_counter_samples`. -/
structure CounterSample where
  key : CounterKey
  role : GateAssignmentRole
  sampledAt : Timestamp
  counters : Counters

/-- `UNIQUE (gate_id, assignment_id, boot_id, generation, sampled_at)`. -/
def CounterSample.id (s : CounterSample) : CounterKey × Timestamp := (s.key, s.sampledAt)

/-- A row of `gate_assignment_usage_deltas`; its sample ends the window. -/
structure UsageDelta where
  key : CounterKey
  role : GateAssignmentRole
  windowStart : Timestamp
  windowEnd : Timestamp
  counters : Counters

/-- The bytes that were forwarded in both directions. -/
def UsageDelta.payloadBytes (d : UsageDelta) : Nat :=
  d.counters .forwardedToDestinationBytes + d.counters .forwardedFromDestinationBytes

/-- A row of `gate_assignment_usage_totals`. -/
structure UsageTotals where
  bytesToDestination : Int
  bytesFromDestination : Int
  droppedBytes : Int
  firstTrafficAt : Timestamp
  lastTrafficAt : Timestamp
  deriving DecidableEq, Repr

/-- A counter of a report, as `updateGateActualState` gets it. -/
structure GateAssignmentCounterReport where
  assignmentId : AssignmentId
  role : GateAssignmentRole
  generation : Nat
  sampledAt : Timestamp
  counters : Counters

/-- A statement that has read what it needs and not yet written. -/
structure CounterStatement where
  sample : CounterSample
  /-- The assignment is on the gate. -/
  target : Bool
  previous : Option CounterSample
  /-- The session has a traffic entitlement. -/
  entitled : Bool

/-- Without an earlier sample the window is empty, and so is the usage. -/
def CounterStatement.usageDelta (st : CounterStatement) : UsageDelta where
  key := st.sample.key
  role := st.sample.role
  windowStart := st.previous.elim st.sample.sampledAt (·.sampledAt)
  windowEnd := st.sample.sampledAt
  counters c := st.sample.counters c - (st.previous.getD st.sample).counters c

/-- The tables of the usage meters. -/
structure MeteringDb where
  /-- `gate_id` of a row of `gate_assignments`. -/
  gateOf : AssignmentId → Option GateId
  samples : Table CounterSample.id
  deltas : List UsageDelta
  /-- `consumed_bytes` of a row of `session_traffic_entitlements`. -/
  consumedBytes : SessionId → Option Int
  usageTotals : AssignmentId → Option UsageTotals
  statements : List CounterStatement

namespace MeteringDb

variable (db : MeteringDb)

/-! ### The statement -/

/-- The order timestamps are compared by; the one a complete lattice has is not computable. -/
local instance : Preorder Timestamp := Int.instLinearOrder.toPreorder

/-- The latest earlier sample of the same counters. -/
def previousSample (s : CounterSample) : Option CounterSample :=
  (db.samples.rows.filter fun p => p.key = s.key && p.sampledAt < s.sampledAt).argmax (·.sampledAt)

/-- What the statement reads when it starts. -/
def readCounterStatement (s : CounterSample) : CounterStatement where
  sample := s
  target := db.gateOf s.key.assignmentId = some s.key.gateId
  previous := db.previousSample s
  entitled := (db.consumedBytes s.key.assignmentId.1).isSome

/-- `accumulate_gate_assignment_usage`, the totals after it. -/
def accumulate (d : UsageDelta) : Option UsageTotals → UsageTotals
  | none =>
    { bytesToDestination := d.counters .forwardedToDestinationBytes
      bytesFromDestination := d.counters .forwardedFromDestinationBytes
      droppedBytes :=
        d.counters .droppedToDestinationBytes + d.counters .droppedFromDestinationBytes
      firstTrafficAt := d.windowStart
      lastTrafficAt := d.windowEnd }
  | some t =>
    { bytesToDestination := t.bytesToDestination + d.counters .forwardedToDestinationBytes
      bytesFromDestination := t.bytesFromDestination + d.counters .forwardedFromDestinationBytes
      droppedBytes := t.droppedBytes +
        (d.counters .droppedToDestinationBytes + d.counters .droppedFromDestinationBytes)
      firstTrafficAt := min t.firstTrafficAt d.windowStart
      lastTrafficAt := max t.lastTrafficAt d.windowEnd }

def accumulateGateAssignmentUsage (d : UsageDelta) : MeteringDb :=
  if d.role = .egress then
    { db with
      usageTotals := Function.update db.usageTotals d.key.assignmentId
        (some (accumulate d (db.usageTotals d.key.assignmentId))) }
  else db

/-- The insert of a usage delta fires the trigger. -/
def insertUsageDelta (d : UsageDelta) : MeteringDb :=
  { db with deltas := db.deltas ++ [d] }.accumulateGateAssignmentUsage d

/-- `UPDATE session_traffic_entitlements` adds to the row as it stands when the statement writes. -/
def addSessionUsage (d : UsageDelta) (entitled : Bool) : MeteringDb :=
  if d.role = .egress ∧ entitled then
    { db with
      consumedBytes := Function.update db.consumedBytes d.key.assignmentId.1
        ((db.consumedBytes d.key.assignmentId.1).map (· + d.payloadBytes)) }
  else db

/-- What the statement writes; a sample that is there already is a conflict, and nothing is done. -/
def writeCounterStatement (st : CounterStatement) : MeteringDb :=
  if st.target then
    match db.samples.insert st.sample with
    | none => db
    | some samples =>
      ({ db with samples }.insertUsageDelta st.usageDelta).addSessionUsage st.usageDelta st.entitled
  else db

end MeteringDb

/-! ### Steps -/

/-- The statement for a counter reads its baseline when it starts and writes when it ends. -/
inductive MeteringEvent where
  /-- The statement for a counter of a report starts. -/
  | start (gateId : GateId) (bootId : Option BootId) (counter : GateAssignmentCounterReport)
  /-- One of the running statements writes and ends. -/
  | finish (n : Nat)
  /-- One of the running statements is rolled back. -/
  | abort (n : Nat)
  /-- The control plane puts an assignment on a gate. -/
  | assign (id : AssignmentId) (gateId : GateId)
  /-- A session gets its traffic entitlement. -/
  | entitle (id : SessionId)

/-- The sample of a counter of a report. -/
def GateAssignmentCounterReport.sample (counter : GateAssignmentCounterReport) (gateId : GateId)
    (bootId : BootId) : CounterSample where
  key := ⟨gateId, counter.assignmentId, bootId, counter.generation⟩
  role := counter.role
  sampledAt := counter.sampledAt
  counters := counter.counters

namespace MeteringDb

/-- A report without a boot id is passed over. -/
def step (db : MeteringDb) : MeteringEvent → Option MeteringDb
  | .start gateId bootId counter =>
    match bootId with
    | none => some db
    | some bootId => some { db with
        statements := db.statements ++ [db.readCounterStatement (counter.sample gateId bootId)] }
  | .finish n =>
    db.statements[n]?.map fun st =>
      { db with statements := db.statements.eraseIdx n }.writeCounterStatement st
  | .abort n =>
    if n < db.statements.length then some { db with statements := db.statements.eraseIdx n }
    else none
  | .assign id gateId => some { db with gateOf := Function.update db.gateOf id (some gateId) }
  | .entitle id => some { db with
      consumedBytes := Function.update db.consumedBytes id ((db.consumedBytes id).or (some 0)) }

end MeteringDb

end Hyperspace.Metering
