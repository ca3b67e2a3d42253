import Hyperspace.Foundations.Json
import Hyperspace.Foundations.Maps
import Hyperspace.Foundations.Sha256
import Mathlib.Algebra.Order.Ring.Rat
import Mathlib.Data.List.Sort

/-!
# Trading pairs

`buildTradingPairsSnapshot`: what a pair of venues costs from a gate, and what it would cost over
the DoubleZero backbone and another gate. Latencies are rationals. A text time is kept as the
milliseconds that `new Date(value).getTime()` reads, and `localeCompare` is a parameter.
-/

namespace Hyperspace.Trading

open Hyperspace.Foundations

/-- The milliseconds of a time; `none` is `NaN`. -/
abbrev Instant := Option Int

/-! ### The responses -/

inductive VenueType where
  | cex
  | perpdex
  | prediction
  | infrastructure
  deriving DecidableEq, Repr

inductive AddressFamily where
  | ipv4
  | ipv6
  | unknown
  deriving DecidableEq, Repr

inductive ProbeStatus where
  | succeeded
  | failed
  deriving DecidableEq, Repr

/-- A node of the latency response. -/
structure LatencyNode where
  id : String
  gateId : Option String
  fresh : Bool
  deriving DecidableEq, Repr

/-- A target of the latency response. -/
structure Target where
  id : String
  key : String
  revision : Option Int
  intervalSeconds : Option Int
  venueKey : Option String
  venueType : Option VenueType
  deriving DecidableEq, Repr

/-- A measurement of a target from a node. -/
structure Measurement where
  addressFamily : Option AddressFamily
  nodeId : String
  targetId : String
  targetRevision : Option Int
  networkProfile : String
  status : ProbeStatus
  measuredAt : Instant
  tcpMs : Option ℚ
  totalP50Ms : Option ℚ
  totalP95Ms : Option ℚ
  sampleCount : Int
  failureCount : Int
  deriving DecidableEq, Repr

/-- The latency response. -/
structure TradingLatencyResponse where
  nodes : List LatencyNode
  targets : List Target
  measurements : List Measurement

/-- A gate of the matrix. -/
structure GateSummary where
  id : String
  name : String
  ready : Bool
  schedulable : Bool
  deriving DecidableEq, Repr

/-- A measurement of a route over one of the networks. -/
structure GateBenchmarkMetric where
  status : ProbeStatus
  measuredAt : Instant
  sourceInterface : Option String
  lossPercent : Option ℚ
  /-- `rttMs?.p50`. -/
  rttP50Ms : Option ℚ
  deriving DecidableEq, Repr

inductive Applicability where
  | notApplicable
  deriving DecidableEq, Repr

/-- A route between two gates, measured over both networks. -/
structure GateBenchmarkRoute where
  sourceGateId : String
  targetGateId : String
  publicMetric : Option GateBenchmarkMetric
  doublezero : Option GateBenchmarkMetric
  doublezeroApplicability : Option Applicability
  deriving DecidableEq, Repr

/-- The gates and the routes between them. -/
structure GateBenchmarkMatrix where
  gates : List GateSummary
  routes : List GateBenchmarkRoute

/-! ### The snapshot -/

/-- A node with what the matrix says about its gate. -/
structure TradingPairNode extends LatencyNode where
  gateName : Option String
  schedulable : Bool
  deriving DecidableEq, Repr

/-- How usable the measurement of a target is. -/
inductive MeasurementState where
  | fresh
  | stale
  | unavailable
  deriving DecidableEq, Repr

/-- `status` of a row. -/
inductive RowStatus where
  | estimated
  | noImprovement
  | regression
  | unavailable
  | stale
  deriving DecidableEq, Repr

/-- What a row says about one of its venues. -/
structure TradingPairLeg where
  directMs : Option ℚ := none
  directApiP50Ms : Option ℚ := none
  directApiP95Ms : Option ℚ := none
  sampleCount : Option Int := none
  failureCount : Option Int := none
  estimatedMs : Option ℚ := none
  savedMs : Option ℚ := none
  egressTcpMs : Option ℚ := none
  egressApiP50Ms : Option ℚ := none
  deriving DecidableEq, Repr

/-- A row of the snapshot: a source, two venues and the best egress for them. -/
structure TradingPairRow where
  id : String
  pairKey : String
  sourceNodeId : String
  egressNodeId : Option String := none
  venueAId : String
  venueBId : String
  ingressGateName : Option String := none
  egressGateName : Option String := none
  status : RowStatus
  reason : String
  measuredAt : Instant := none
  backboneMeasuredAt : Instant := none
  directIndexMs : Option ℚ := none
  estimatedIndexMs : Option ℚ := none
  savedMs : Option ℚ := none
  savedPercent : Option ℚ := none
  backboneRttMs : Option ℚ := none
  backboneLossPercent : Option ℚ := none
  publicBackboneRttMs : Option ℚ := none
  backboneSavedMs : Option ℚ := none
  legA : TradingPairLeg
  legB : TradingPairLeg
  configEligible : Bool
  deriving DecidableEq, Repr

/-- The counts of a snapshot. -/
structure SnapshotSummary where
  combinations : Nat
  estimatedImprovements : Nat
  verifiedRoutes : Nat
  freshNodes : Nat
  deriving DecidableEq, Repr

/-- What `buildTradingPairsSnapshot` returns. -/
structure TradingPairsSnapshot where
  generatedAt : Int
  methodology : String
  venues : List Target
  nodes : List TradingPairNode
  matrix : List Measurement
  rows : List TradingPairRow
  summary : SnapshotSummary

/-! ### Times and numbers -/

def isRecent (value : Instant) (ttl now : Int) : Bool :=
  value.any fun time => -5000 ≤ now - time && now - time ≤ ttl

def finiteNonnegative (value : Option ℚ) : Bool := value.any fun ms => 0 ≤ ms

/-- `Math.max(...times)`; `NaN` if one of them is. -/
def latest (times : List Int) : Int := times.tail.foldl max (times.headD 0)

/-- `Math.min(...times)`; `NaN` if one of them is. -/
def earliest (times : List Int) : Int := times.tail.foldl min (times.headD 0)

/-- The difference of the latest and the earliest is over the bound; with `NaN` it is not. -/
def spreadExceeds (times : List Instant) (bound : Int) : Bool :=
  (times.mapM id).any fun times => bound < latest times - earliest times

def intervalMs (target : Target) : Int := target.intervalSeconds.getD 30 * 1000

def tradingMeasurementState (nodeFresh : Bool) (target : Target)
    (measurement : Option Measurement) (now : Int) : MeasurementState :=
  if !nodeFresh then .stale
  else
    match measurement with
    | none => .unavailable
    | some m =>
      if !isRecent m.measuredAt (max 90 (3 * target.intervalSeconds.getD 30) * 1000) now then .stale
      else if m.targetRevision ≠ target.revision then .stale
      else if m.status ≠ .succeeded || m.addressFamily ≠ some .ipv4 || 0 < m.failureCount ||
          m.sampleCount < 2 || !finiteNonnegative m.tcpMs then .unavailable
      else .fresh

def directLeg (value : Option Measurement) : TradingPairLeg :=
  match value with
  | none => {}
  | some m =>
    if m.status ≠ .succeeded then {}
    else
      { directMs := m.tcpMs.filter (0 ≤ ·)
        directApiP50Ms := m.totalP50Ms.filter (0 ≤ ·)
        directApiP95Ms := m.totalP95Ms.filter (0 ≤ ·)
        sampleCount := some m.sampleCount
        failureCount := some m.failureCount }

def routeId (source egress : String) (a b : Target) : String :=
  let revision (target : Target) := (target.revision.map toString).getD "null"
  sha256Hex ("[" ++ ",".intercalate
    [Json.quote "tcp-connect-estimate-v1", Json.quote source, Json.quote egress, Json.quote a.id,
      revision a, Json.quote b.id, revision b] ++ "]")

def joinedKey (a b : String) : String := a ++ ":" ++ b

/-! ### The maps -/

section

variable (localeCompare : String → String → Ordering) (latency : TradingLatencyResponse)
  (matrix : GateBenchmarkMatrix) (now : Int)

/-- `gateId ? gates.get(gateId) : undefined`. -/
def gateOf (gateId : Option String) : Option GateSummary :=
  match gateId with
  | none => none
  | some gateId =>
    if gateId = "" then none else mapGet (matrix.gates.map fun gate => (gate.id, gate)) gateId

def pairNodes : List TradingPairNode :=
  latency.nodes.map fun node =>
    { node with
      gateName := (gateOf matrix node.gateId).map (·.name)
      schedulable := (gateOf matrix node.gateId).any fun gate => gate.ready && gate.schedulable }

/-- The targets that are venues, one for each venue key. -/
def curate (venueKeys : List String) : List Target → List Target
  | [] => []
  | target :: targets =>
    match target.venueKey with
    | none => curate venueKeys targets
    | some venueKey =>
      if venueKey = "" || target.venueType ∉ [some .cex, some .perpdex, some .prediction] ||
          venueKey ∈ venueKeys then curate venueKeys targets
      else target :: curate (venueKey :: venueKeys) targets

def venues : List Target :=
  (curate [] latency.targets).insertionSort fun a b =>
    localeCompare (a.venueKey.getD a.key) (b.venueKey.getD b.key) ≠ .gt

def directMeasurements : List Measurement :=
  latency.measurements.filter fun row => row.networkProfile = "direct"

def measurementOf (nodeId targetId : String) : Option Measurement :=
  mapGet ((directMeasurements latency).map fun row => (joinedKey row.nodeId row.targetId, row))
    (joinedKey nodeId targetId)

def measurementStateOf (nodeId targetId : String) : Option MeasurementState :=
  mapGet
    ((pairNodes latency matrix).flatMap fun node => (venues localeCompare latency).map fun venue =>
      (joinedKey node.id venue.id,
        tradingMeasurementState node.fresh venue (measurementOf latency node.id venue.id) now))
    (joinedKey nodeId targetId)

def routeOf (sourceGateId targetGateId : String) : Option GateBenchmarkRoute :=
  mapGet (matrix.routes.map fun route => (joinedKey route.sourceGateId route.targetGateId, route))
    (joinedKey sourceGateId targetGateId)

/-- The route is one of `usableBackbones`, by this metric. -/
def usableBackbone (route : GateBenchmarkRoute) (backbone : GateBenchmarkMetric) : Bool :=
  route.doublezeroApplicability ≠ some .notApplicable && backbone.status = .succeeded &&
    isRecent backbone.measuredAt (15 * 60000) now && finiteNonnegative backbone.rttP50Ms &&
    backbone.sourceInterface = some "doublezero0" && backbone.lossPercent = some 0

/-! ### The rows -/

/-- The pairs `(items[a], items[b])` with `a < b`. -/
def combinations {α : Type} : List α → List (α × α)
  | [] => []
  | a :: items => items.map (fun b => (a, b)) ++ combinations items

/-- One probe interval of the two venues. -/
def probeInterval (venueA venueB : Target) : Int := max (intervalMs venueA) (intervalMs venueB)

def baseRow (source : TradingPairNode) (venueA venueB : Target) : TradingPairRow where
  id := routeId source.id "none" venueA venueB
  pairKey := joinedKey (venueA.venueKey.getD "undefined") (venueB.venueKey.getD "undefined")
  sourceNodeId := source.id
  venueAId := venueA.id
  venueBId := venueB.id
  status :=
    if measurementStateOf localeCompare latency matrix now source.id venueA.id = some .stale ||
        measurementStateOf localeCompare latency matrix now source.id venueB.id = some .stale then
      .stale
    else .unavailable
  reason := "Both venue probes must be fresh, complete, successful and IPv4-compatible with the " ++
    "VPN config."
  legA := directLeg (measurementOf latency source.id venueA.id)
  legB := directLeg (measurementOf latency source.id venueB.id)
  configEligible := false

/-- What a candidate is computed from. -/
structure Estimate where
  directA : Measurement
  directB : Measurement
  exitA : Measurement
  exitB : Measurement
  route : GateBenchmarkRoute
  backbone : GateBenchmarkMetric

namespace Estimate

variable (e : Estimate)

def times : List Instant :=
  [e.directA.measuredAt, e.directB.measuredAt, e.exitA.measuredAt, e.exitB.measuredAt]

def directIndexMs : ℚ := e.directA.tcpMs.getD 0 + e.directB.tcpMs.getD 0
def backboneRttMs : ℚ := e.backbone.rttP50Ms.getD 0
def estimatedA : ℚ := e.backboneRttMs + e.exitA.tcpMs.getD 0
def estimatedB : ℚ := e.backboneRttMs + e.exitB.tcpMs.getD 0
def savedA : ℚ := e.directA.tcpMs.getD 0 - e.estimatedA
def savedB : ℚ := e.directB.tcpMs.getD 0 - e.estimatedB
def estimatedIndexMs : ℚ := e.estimatedA + e.estimatedB
def savedMs : ℚ := e.directIndexMs - e.estimatedIndexMs
def regression : Bool := e.savedA < 0 || e.savedB < 0

def publicRtt (now : Int) : Option ℚ :=
  e.route.publicMetric.bind fun metric =>
    if metric.status = .succeeded && isRecent metric.measuredAt (15 * 60000) now &&
        finiteNonnegative metric.rttP50Ms then metric.rttP50Ms
    else none

def candidate (now : Int) (base : TradingPairRow) (source egress : TradingPairNode) :
    TradingPairRow :=
  { base with
    egressNodeId := some egress.id
    ingressGateName := source.gateName
    egressGateName := egress.gateName
    status :=
      if e.savedMs ≤ 0 then .noImprovement else if e.regression then .regression else .estimated
    reason := "TCP connection estimate: DoubleZero gate RTT + egress-to-venue TCP RTT. Not a " ++
      "tunnel A/B measurement or execution latency."
    measuredAt := (e.times.mapM id).map earliest
    backboneMeasuredAt := e.backbone.measuredAt
    directIndexMs := some e.directIndexMs
    estimatedIndexMs := some e.estimatedIndexMs
    savedMs := some e.savedMs
    savedPercent := some (e.savedMs / e.directIndexMs * 100)
    backboneRttMs := some e.backboneRttMs
    backboneLossPercent := e.backbone.lossPercent
    publicBackboneRttMs := e.publicRtt now
    backboneSavedMs := (e.publicRtt now).map (· - e.backboneRttMs)
    legA :=
      { base.legA with
        estimatedMs := some e.estimatedA
        savedMs := some e.savedA
        egressTcpMs := e.exitA.tcpMs
        egressApiP50Ms := e.exitA.totalP50Ms }
    legB :=
      { base.legB with
        estimatedMs := some e.estimatedB
        savedMs := some e.savedB
        egressTcpMs := e.exitB.tcpMs
        egressApiP50Ms := e.exitB.totalP50Ms }
    configEligible := 0 < e.savedMs && !e.regression }

end Estimate

/-- The iteration of the loop over the egress nodes up to its candidate; `none` continues. -/
def estimateOf (source egress : TradingPairNode) (venueA venueB : Target)
    (directA directB : Measurement) : Option Estimate := do
  let sourceGateId ← source.gateId
  let egressGateId ← egress.gateId
  guard (egressGateId ≠ "" ∧ egressGateId ≠ sourceGateId ∧ egress.schedulable)
  let route ← routeOf matrix sourceGateId egressGateId
  let backbone ← route.doublezero
  guard (usableBackbone now route backbone)
  let exitA ← measurementOf latency egress.id venueA.id
  let exitB ← measurementOf latency egress.id venueB.id
  guard (measurementStateOf localeCompare latency matrix now egress.id venueA.id = some .fresh ∧
    measurementStateOf localeCompare latency matrix now egress.id venueB.id = some .fresh)
  let e : Estimate := ⟨directA, directB, exitA, exitB, route, backbone⟩
  guard (!spreadExceeds e.times (probeInterval venueA venueB))
  return e

/-- A route that improves both legs comes before one that does not. -/
def replaces (candidate : TradingPairRow) : Option TradingPairRow → Bool
  | none => true
  | some best =>
    (candidate.configEligible && !best.configEligible) ||
      (candidate.configEligible = best.configEligible &&
        candidate.estimatedIndexMs.getD 0 < best.estimatedIndexMs.getD 0)

def bestCandidate (source : TradingPairNode) (venueA venueB : Target)
    (directA directB : Measurement) : Option TradingPairRow :=
  (pairNodes latency matrix).foldl
    (fun best egress =>
      match estimateOf localeCompare latency matrix now source egress venueA venueB directA
          directB with
      | none => best
      | some e =>
        let candidate := e.candidate now
          (baseRow localeCompare latency matrix now source venueA venueB) source egress
        if replaces candidate best then some candidate else best)
    none

def pairRow (source : TradingPairNode) (venueA venueB : Target) : TradingPairRow :=
  let base := baseRow localeCompare latency matrix now source venueA venueB
  if measurementStateOf localeCompare latency matrix now source.id venueA.id = some .fresh ∧
      measurementStateOf localeCompare latency matrix now source.id venueB.id = some .fresh then
    match measurementOf latency source.id venueA.id, measurementOf latency source.id venueB.id with
    | some directA, some directB =>
      if spreadExceeds [directA.measuredAt, directB.measuredAt] (probeInterval venueA venueB) then
        { base with
          status := .stale
          reason := "The venue samples are from different measurement windows." }
      else
        let directIndexMs := directA.tcpMs.getD 0 + directB.tcpMs.getD 0
        if directIndexMs ≤ 0 ∨ source.gateId.getD "" = "" ∨ source.schedulable = false then
          { base with reason := "Source gate is not schedulable or the baseline is invalid." }
        else
          match bestCandidate localeCompare latency matrix now source venueA venueB directA
              directB with
          | some best =>
            { best with id := routeId source.id (best.egressNodeId.getD "") venueA venueB }
          | none =>
            { base with
              directIndexMs := some directIndexMs
              reason := "No compatible fresh, loss-free DoubleZero gate route and venue samples. "
                ++
                "Same-metro DZ routes are not applicable." }
    | _, _ => base
  else base

def snapshotRows : List TradingPairRow :=
  (pairNodes latency matrix).flatMap fun source =>
    (combinations (venues localeCompare latency)).map fun (venueA, venueB) =>
      pairRow localeCompare latency matrix now source venueA venueB

def buildTradingPairsSnapshot : TradingPairsSnapshot :=
  let rows := snapshotRows localeCompare latency matrix now
  let nodes := pairNodes latency matrix
  let venues := venues localeCompare latency
  { generatedAt := now
    methodology := "tcp-connect-estimate-v1"
    venues
    nodes
    matrix := (directMeasurements latency).filter fun row =>
      venues.any fun venue => venue.id = row.targetId
    rows
    summary :=
      { combinations := rows.length
        estimatedImprovements := (rows.filter fun row => row.status = .estimated).length
        verifiedRoutes := 0
        freshNodes := (nodes.filter (·.fresh)).length } }

end

end Hyperspace.Trading
