import Hyperspace.Foundations.Queries
import Hyperspace.Foundations.Runs
import Hyperspace.Provisioning.Schema

/-!
# Gates and their conditions

A heartbeat stores what the gate reports, renews its lease and rewrites three conditions. The worker
marks the conditions of gates whose heartbeat is stale: a statement reads the leases and then writes
row after row, and each row waits for the heartbeat that holds it. A path is planned over gates by
their rows, their conditions and their last report.
-/

namespace Hyperspace.Scheduling

open Hyperspace.Billing (Timestamp)
open Hyperspace.Foundations Hyperspace.Provisioning

/-! ### Texts -/

/-- What the database and JavaScript do with texts beyond ASCII, and the order of the database. -/
structure Locale where
  /-- `lower` of the database. -/
  lower : String → String
  /-- `String.prototype.toLowerCase`. -/
  toLowerCase : String → String
  /-- `->>` of a value that is no text. -/
  jsonText : Json → String
  /-- A text cast to `uuid`. -/
  uuid? : String → Option GateId
  collates : String → String → Prop
  decidableCollates : DecidableRel collates
  total : ∀ a b, collates a b ∨ collates b a
  trans : ∀ a b c, collates a b → collates b c → collates a c

instance {locale : Locale} : DecidableRel locale.collates := locale.decidableCollates

/-- The operator `->>`. -/
def Locale.text? (locale : Locale) (record : Json) (name : String) : Option String :=
  match record.field? name with
  | none | some .null => none
  | some (.str s) => some s
  | some value => some (locale.jsonText value)

/-! ### Rows -/

inductive GateDesiredState where
  | enabled
  | draining
  | disabled
  | maintenance
  deriving DecidableEq

def GateDesiredState.text : GateDesiredState → String
  | .enabled => "Enabled"
  | .draining => "Draining"
  | .disabled => "Disabled"
  | .maintenance => "Maintenance"

/-- A row of `gates`. -/
structure Gate where
  id : GateId
  name : String
  generation : Nat
  desiredState : GateDesiredState
  city : String
  country : String
  publicIpv4 : String
  schedulingWeight : Int
  spec : Json

/-- The part of `gate_status` that a path is planned by. -/
structure GateStatus where
  observedCapabilities : List String
  doubleZeroStatus : Json

/-- A row of `gate_leases`. -/
structure GateLease where
  leaseExpiresAt : Timestamp
  heartbeatAt : Timestamp

inductive GateConditionType where
  | agentConnected
  | ready
  | schedulable
  deriving DecidableEq

/-- A condition without its type. -/
structure GateCondition where
  status : Bool
  reason : String
  message : String
  deriving DecidableEq

/-- A row of `gate_conditions`. -/
structure GateLifecycleCondition extends GateCondition where
  type : GateConditionType
  deriving DecidableEq

/-! ### Readiness -/

/-- What a heartbeat says about a gate, as conditions. -/
structure GateReadiness where
  ready : Bool
  reason : String
  message : String
  doubleZeroReady : Bool
  doubleZeroReason : String
  doubleZeroMessage : String

/-- The host is ready, and DoubleZero is not. -/
def GateReadiness.blocked (doubleZeroReason doubleZeroMessage : String) : GateReadiness where
  ready := true
  reason := "HostReady"
  message := "Gate agent heartbeat is fresh and required host tools are present"
  doubleZeroReady := false
  doubleZeroReason
  doubleZeroMessage

/-- `value || other`. -/
def orElse (value other : String) : String := if value = "" then other else value

def evaluateGateReadiness (locale : Locale) (capabilities : List String) (doubleZero : Json)
    (publicIpv4 doubleZeroEnv : String) (hostReady : Bool) : GateReadiness :=
  let tunnelStatus := doubleZero.readString "tunnelStatus"
  let network := doubleZero.readString "network"
  let tunnelSrc := doubleZero.readString "tunnelSrc"
  if !hostReady then
    { ready := false
      reason := "HostToolsMissing"
      message := "Gate host is missing required WireGuard, iproute2, or nft tools"
      doubleZeroReady := false
      doubleZeroReason := "HostToolsMissing"
      doubleZeroMessage := "Gate host must be ready before DoubleZero can be used for scheduling" }
  else if "doublezero0:up" ∉ capabilities then
    .blocked "DoubleZeroInterfaceDown" "doublezero0 is not up"
  else if locale.toLowerCase (doubleZero.readString "currentDeviceStatus") = "drained" then
    .blocked "DoubleZeroDeviceDrained" "The current DoubleZero device is administratively drained"
  else if tunnelStatus ≠ "BGP Session Up" then
    .blocked "DoubleZeroTunnelDown" ("DoubleZero tunnel is not BGP Session Up" ++
      if tunnelStatus = "" then "" else ": " ++ tunnelStatus)
  else if network ≠ doubleZeroEnv then
    .blocked "DoubleZeroEnvMismatch" ("DoubleZero network " ++ orElse network "unknown" ++
      " does not match catalog environment " ++ doubleZeroEnv)
  else if tunnelSrc ≠ publicIpv4 then
    .blocked "DoubleZeroTunnelSourceMismatch" ("DoubleZero tunnel source " ++
      orElse tunnelSrc "unknown" ++ " does not match gate public IPv4 " ++ publicIpv4)
  else
    { GateReadiness.blocked "DoubleZeroReady"
        "DoubleZero tunnel is connected and matches the gate catalog" with
      doubleZeroReady := true }

def readGateDoubleZeroEnv (spec : Json) : String :=
  orElse (spec.readString "doubleZeroEnv") "testnet"

/-! ### Conditions -/

def resolveGateAgentConnectedCondition (connected : Bool) : GateLifecycleCondition where
  type := .agentConnected
  status := connected
  reason := if connected then "HeartbeatFresh" else "HeartbeatStale"
  message := if connected then "Gate agent heartbeat is fresh" else "Gate agent heartbeat is stale"

def isGateSchedulable (ready doubleZeroReady : Bool) (desiredState : GateDesiredState) : Bool :=
  ready && doubleZeroReady && desiredState = .enabled

def schedulableBlockedReason (r : GateReadiness) (desiredState : GateDesiredState) : String :=
  if !r.ready then r.reason
  else if !r.doubleZeroReady then r.doubleZeroReason
  else "DesiredState" ++ desiredState.text

def schedulableBlockedMessage (r : GateReadiness) (desiredState : GateDesiredState) : String :=
  if !r.ready then "Gate is not eligible for new sessions: " ++ r.message
  else if !r.doubleZeroReady then "Gate is not eligible for new sessions: " ++ r.doubleZeroMessage
  else "Gate desired state is " ++ desiredState.text ++
    ", so it is not eligible for new sessions"

def resolveGateHeartbeatConditions (r : GateReadiness) (desiredState : GateDesiredState) :
    List GateLifecycleCondition :=
  let schedulable := isGateSchedulable r.ready r.doubleZeroReady desiredState
  [{ type := .ready
     status := r.ready
     reason := r.reason
     message := r.message },
    { type := .schedulable
      status := schedulable
      reason := if schedulable then "Enabled" else schedulableBlockedReason r desiredState
      message :=
        if schedulable then "Gate is eligible for new sessions"
        else schedulableBlockedMessage r desiredState }]

def resolveGateStaleConditions : List GateLifecycleCondition :=
  resolveGateAgentConnectedCondition false ::
    resolveGateHeartbeatConditions
      { ready := false
        reason := "HeartbeatStale"
        message := "Gate agent heartbeat is stale"
        doubleZeroReady := false
        doubleZeroReason := "HeartbeatStale"
        doubleZeroMessage := "Gate agent heartbeat is stale" } .enabled

/-! ### Heartbeats -/

/-- The gate as it was read when its token was checked. -/
structure GateRuntimeIdentity where
  id : GateId
  desiredState : GateDesiredState
  publicIpv4 : String
  spec : Json

/-- The body of a heartbeat. -/
structure GateHeartbeatReport where
  capabilities : List String
  doubleZero : Json

def GateHeartbeatReport.hostReady (report : GateHeartbeatReport) : Bool :=
  "wireguard-tools:present" ∈ report.capabilities && "iproute2:present" ∈ report.capabilities &&
    "nft:present" ∈ report.capabilities

/-- A heartbeat that was recorded. -/
structure Heartbeat where
  heardAt : Timestamp
  gate : GateRuntimeIdentity
  report : GateHeartbeatReport

def Heartbeat.readiness (locale : Locale) (h : Heartbeat) : GateReadiness :=
  evaluateGateReadiness locale h.report.capabilities h.report.doubleZero h.gate.publicIpv4
    (readGateDoubleZeroEnv h.gate.spec) h.report.hostReady

def Heartbeat.conditions (locale : Locale) (h : Heartbeat) : List GateLifecycleCondition :=
  resolveGateAgentConnectedCondition true ::
    resolveGateHeartbeatConditions (h.readiness locale) h.gate.desiredState

def gateHeartbeatLeaseTtlSeconds (heartbeatIntervalSeconds : Nat) : Nat :=
  max 30 (heartbeatIntervalSeconds * 3)

/-! ### The tables -/

/-- The tables that a path is planned by. `deploying` are the gates with a row of
`gate_agent_deployments` that is under way; `heard` are the last heartbeats, which the code does not
keep as such; `marking` are the conditions that a statement of `markStaleGateConditions` has yet to
write. -/
structure GateDb where
  now : Timestamp
  gates : SerialTable Gate.id
  status : GateId → Option GateStatus
  leases : GateId → Option GateLease
  conditions : GateId → GateConditionType → Option GateCondition
  deploying : List GateId
  heard : GateId → Option Heartbeat
  marking : List (GateId × GateLifecycleCondition)

def emptyGateDb : GateDb :=
  ⟨0, ∅, fun _ => none, fun _ => none, fun _ _ => none, [], fun _ => none, []⟩

/-- A gate of the catalog. -/
structure GateSeed where
  name : String
  desiredState : GateDesiredState
  city : String
  country : String
  publicIpv4 : String
  spec : Json

namespace GateDb

variable (db : GateDb)

/-- A seed that names another gate's identity or address is refused and is no event here. -/
def seedGate (seed : GateSeed) : GateDb :=
  match db.gates.rows.find? fun g => g.name = seed.name with
  | some g =>
    { db with
      gates := db.gates.update g.id (fun g =>
        { g with
          city := seed.city
          country := seed.country
          publicIpv4 := seed.publicIpv4
          schedulingWeight := 100
          desiredState := seed.desiredState
          spec := seed.spec }) fun _ => rfl }
  | none =>
    { db with
      gates := db.gates.insert (fun id =>
        { id
          name := seed.name
          generation := 1
          desiredState := seed.desiredState
          city := seed.city
          country := seed.country
          publicIpv4 := seed.publicIpv4
          schedulingWeight := 100
          spec := seed.spec }) fun _ => rfl
      status := Function.update db.status db.gates.next (some ⟨[], .obj []⟩) }

def updateGateDesiredState (id : GateId) (desiredState : GateDesiredState) : GateDb :=
  { db with
    gates := db.gates.update id (fun g =>
      { g with
        desiredState
        generation := g.generation + 1 }) fun _ => rfl }

def upsertGateCondition (id : GateId) (c : GateLifecycleCondition) : GateDb :=
  { db with
    conditions := Function.update db.conditions id
      (Function.update (db.conditions id) c.type (some c.toGateCondition)) }

def saveGateHeartbeatStatus (id : GateId) (report : GateHeartbeatReport)
    (conditions : List GateLifecycleCondition) : GateDb :=
  conditions.foldl (fun db c => db.upsertGateCondition id c)
    { db with status :=
      Function.update db.status id (some ⟨report.capabilities, report.doubleZero⟩) }

def upsertGateLease (id : GateId) (ttlSeconds : Nat) : GateDb :=
  { db with
    leases := Function.update db.leases id (some ⟨db.now + ttlSeconds * second, db.now⟩) }

/-- The heartbeat names no interval, so that the lease is for ten seconds between heartbeats. -/
def recordGateHeartbeat (locale : Locale) (gate : GateRuntimeIdentity)
    (report : GateHeartbeatReport) :
    GateDb :=
  let heartbeat : Heartbeat := ⟨db.now, gate, report⟩
  let saved :=
    (db.saveGateHeartbeatStatus gate.id report (heartbeat.conditions locale)).upsertGateLease
    gate.id (gateHeartbeatLeaseTtlSeconds 10)
  { saved with heard := Function.update db.heard gate.id (some heartbeat) }

/-- `WHERE gate_leases.lease_expires_at IS NULL OR …`. -/
def IsStale (staleSeconds : Nat) (id : GateId) : Prop :=
  ∀ lease ∈ db.leases id,
    lease.leaseExpiresAt ≤ db.now ∨ lease.heartbeatAt < db.now - staleSeconds * second

instance (staleSeconds : Nat) : DecidablePred (db.IsStale staleSeconds) := fun id =>
  inferInstanceAs (Decidable (∀ lease ∈ db.leases id, _))

/-- The `SELECT` of a statement of `markStaleGateConditions`. -/
def readStaleGates (staleSeconds : Nat) (c : GateLifecycleCondition) : GateDb :=
  { db with
    marking := db.marking ++
      ((db.gates.rows.filter fun g => db.IsStale staleSeconds g.id).map fun g => (g.id, c)) }

/-- A row that the statement writes, by the leases as it has read them. -/
def markStaleGateCondition (id : GateId) (c : GateLifecycleCondition) : GateDb :=
  { db.upsertGateCondition id c with marking := db.marking.erase (id, c) }

end GateDb

/-! ### Steps -/

/-- The writes to gates. The pass over stale gates reads them and marks each condition later. -/
inductive GateAction where
  | seed (seed : GateSeed)
  | setDesiredState (id : GateId) (desiredState : GateDesiredState)
  | heartbeat (gate : GateRuntimeIdentity) (report : GateHeartbeatReport)
  | readStale (c : GateLifecycleCondition)
  | markStale (id : GateId) (c : GateLifecycleCondition)
  | deploy (id : GateId)
  | endDeployment (id : GateId)

structure GateEvent where
  now : Timestamp
  action : GateAction

namespace GateDb

def perform (locale : Locale) (staleSeconds : Nat) (db : GateDb) : GateAction → Option GateDb
  | .seed seed => some (db.seedGate seed)
  | .setDesiredState id desiredState => some (db.updateGateDesiredState id desiredState)
  | .heartbeat gate report =>
    if (db.gates.find? gate.id).isSome then some (db.recordGateHeartbeat locale gate report)
      else none
  | .readStale c =>
    if c ∈ resolveGateStaleConditions then some (db.readStaleGates staleSeconds c) else none
  | .markStale id c =>
    if (id, c) ∈ db.marking then some (db.markStaleGateCondition id c) else none
  | .deploy id => some { db with deploying := id :: db.deploying }
  | .endDeployment id => some { db with deploying := db.deploying.filter (· ≠ id) }

/-- A transaction is a step, but for the statements that mark stale gates. Time does not go back. -/
def step (locale : Locale) (staleSeconds : Nat) (db : GateDb) (e : GateEvent) : Option GateDb :=
  if db.now ≤ e.now then { db with now := e.now }.perform locale staleSeconds e.action else none

end GateDb

end Hyperspace.Scheduling
