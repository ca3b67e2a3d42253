import Hyperspace.Foundations.Greatest
import Hyperspace.Foundations.Json
import Mathlib.Data.Prod.Lex
import Mathlib.Data.String.Basic

/-!
# The measurement store

The results of probes are delivered to a document store at least once and in any order. Each update
of a document is atomic, and there is no transaction around the updates of a delivery.
-/

namespace Hyperspace.Probes

open Hyperspace.Foundations

/-- The id of a gate, of a probe node or of a target. Its text has no colon, so a document id that
joins such ids with colons is modelled as their tuple. -/
abbrev Uuid := Nat

/-- The time value of a `Date`: milliseconds. -/
abbrev Milliseconds := Int

def DAY : Milliseconds := 86400000

/-- How a gate reaches another one: over the public internet or over DoubleZero. -/
inductive BenchmarkTransport where
  | publicInternet
  | doublezero
  deriving DecidableEq, Repr

/-- The fields besides the transport and the time are not looked at. -/
structure GateBenchmarkMetric where
  transport : BenchmarkTransport
  measuredAt : String
  values : Json

/-- A measured route between two gates. -/
structure BenchmarkMeasurement where
  sourceGateId : Uuid
  targetGateId : Uuid
  metric : GateBenchmarkMetric

/-- A measured target of a node. -/
structure TradingMeasurement where
  nodeId : Uuid
  targetId : Uuid
  networkProfile : String
  targetRevision : Option Int
  measuredAt : String
  values : Json

inductive Measurement where
  | benchmark (value : BenchmarkMeasurement)
  | trading (value : TradingMeasurement)

/-- A measurement on its way to the store; a repetition is known by its id. -/
structure ProbeEvent where
  id : String
  payload : Measurement

def ProbeEvent.measuredAt (event : ProbeEvent) : String :=
  match event.payload with
  | .benchmark value => value.metric.measuredAt
  | .trading value => value.measuredAt

/-! ### Documents -/

abbrev RouteId := Uuid × Uuid × BenchmarkTransport
abbrev TradingId := Uuid × Uuid × String

def BenchmarkMeasurement.routeId (value : BenchmarkMeasurement) : RouteId :=
  (value.sourceGateId, value.targetGateId, value.metric.transport)

/-- A document of `benchmark_results`. -/
structure BenchmarkResult where
  routeId : RouteId
  measuredAt : Milliseconds
  metric : GateBenchmarkMetric
  expiresAt : Milliseconds

/-- An element of `recent`. -/
structure RecentBenchmark where
  eventId : String
  measuredAt : Milliseconds
  metric : GateBenchmarkMetric

/-- `recent` is sorted by the time and then by the id, both descending. -/
def RecentBenchmark.rank (item : RecentBenchmark) : Milliseconds ×ₗ String :=
  toLex (item.measuredAt, item.eventId)

/-- The fields of a measurement with its time as a date. -/
structure TradingDocument where
  nodeId : Uuid
  targetId : Uuid
  networkProfile : String
  targetRevision : Option Int
  measuredAt : Milliseconds
  values : Json

def TradingDocument.latestId (document : TradingDocument) : TradingId :=
  (document.nodeId, document.targetId, document.networkProfile)

def TradingDocument.revision (document : TradingDocument) : Int := document.targetRevision.getD 0

def TradingDocument.rank (document : TradingDocument) : Milliseconds ×ₗ Int :=
  toLex (document.measuredAt, document.revision)

/-- A document of `trading_results`. -/
structure TradingResult extends TradingDocument where
  expiresAt : Milliseconds

/-- A document of `trading_rollups`: a bucket is five minutes. -/
structure TradingRollup extends TradingDocument where
  bucketStart : Milliseconds
  expiresAt : Milliseconds

def TradingDocument.rollup (document : TradingDocument) : TradingRollup :=
  let bucketStart := document.measuredAt / 300000 * 300000
  { document with bucketStart, expiresAt := bucketStart + 14 * DAY }

def TradingRollup.rollupId (rollup : TradingRollup) : TradingId × Milliseconds :=
  (rollup.latestId, rollup.bucketStart)

/-! ### Deliveries -/

inductive DeliveryError where
  | invalidMeasurementTimestamp
  | measurementTimestampInTheFuture
  deriving DecidableEq, Repr

/-- A date text is read by `parse`, which is `none` where the date is invalid. -/
def validDate (parse : String → Option Milliseconds) (now : Milliseconds) (value : String) :
    Except DeliveryError Milliseconds :=
  match parse value with
  | none => .error .invalidMeasurementTimestamp
  | some result =>
    if now + 300000 < result then .error .measurementTimestampInTheFuture else .ok result

/-- The collections of measurements, by their keys. -/
structure MeasurementStore where
  benchmarkResults : String → Option BenchmarkResult
  benchmarkLatest : RouteId → Option (List RecentBenchmark)
  tradingResults : String → Option TradingResult
  tradingLatest : TradingId → Option TradingDocument
  tradingRollups : TradingId × Milliseconds → Option TradingRollup
  now : Milliseconds

/-- `$setOnInsert` with `upsert`. -/
def setOnInsert {κ ρ : Type} [DecidableEq κ] (key : κ) (document : ρ)
    (collection : κ → Option ρ) : κ → Option ρ :=
  Function.update collection key (some ((collection key).getD document))

/-- The update of `MongoMeasurementStore.replaceIfNewer`, on the document that is stored. -/
def replaceTradingIfNewer {ρ : Type} (fields : ρ → TradingDocument) (document : ρ) :
    Option ρ → ρ
  | none => document
  | some stored =>
    if (fields stored).measuredAt < (fields document).measuredAt ∨
        (fields stored).measuredAt = (fields document).measuredAt ∧
          (fields stored).revision ≤ (fields document).revision then document
    else stored

namespace MeasurementStore

variable (store : MeasurementStore)

def recordBenchmark (id : String) (document : BenchmarkResult) : MeasurementStore :=
  if store.now < document.expiresAt then
    { store with benchmarkResults := setOnInsert id document store.benchmarkResults }
  else store

/-- The latest two of the list without the event itself, and of the event. -/
def updateRecent (routeId : RouteId) (item : RecentBenchmark) : MeasurementStore :=
  let kept := ((store.benchmarkLatest routeId).getD []).filter fun other =>
    other.eventId ≠ item.eventId
  { store with
    benchmarkLatest := Function.update store.benchmarkLatest routeId
      (some (greatest RecentBenchmark.rank 2 (kept ++ [item]))) }

def recordTrading (id : String) (document : TradingResult) : MeasurementStore :=
  if store.now < document.expiresAt then
    { store with tradingResults := setOnInsert id document store.tradingResults }
  else store

def replaceLatest (document : TradingDocument) : MeasurementStore :=
  { store with
    tradingLatest := Function.update store.tradingLatest document.latestId
      (some (replaceTradingIfNewer (fun d => d) document
        (store.tradingLatest document.latestId))) }

def replaceRollup (rollup : TradingRollup) : MeasurementStore :=
  if store.now < rollup.expiresAt then
    { store with
      tradingRollups := Function.update store.tradingRollups rollup.rollupId
        (some (replaceTradingIfNewer TradingRollup.toTradingDocument rollup
          (store.tradingRollups rollup.rollupId))) }
  else store

def deliver (parse : String → Option Milliseconds) (event : ProbeEvent) :
    Except DeliveryError MeasurementStore := do
  match event.payload with
  | .benchmark value =>
    let measuredAt ← validDate parse store.now value.metric.measuredAt
    let metric := value.metric
    let recorded := store.recordBenchmark event.id
      { routeId := value.routeId, measuredAt, metric, expiresAt := measuredAt + DAY }
    return recorded.updateRecent value.routeId ⟨event.id, measuredAt, metric⟩
  | .trading value =>
    let measuredAt ← validDate parse store.now value.measuredAt
    let document : TradingDocument := { value with measuredAt }
    let recorded := store.recordTrading event.id { document with expiresAt := measuredAt + DAY }
    return (recorded.replaceLatest document).replaceRollup document.rollup

/-- The TTL indexes on `expiresAt`. The latest documents have no expiry. -/
def removeExpired : MeasurementStore :=
  { store with
    benchmarkResults := fun id => (store.benchmarkResults id).filter (store.now < ·.expiresAt)
    tradingResults := fun id => (store.tradingResults id).filter (store.now < ·.expiresAt)
    tradingRollups := fun id => (store.tradingRollups id).filter (store.now < ·.expiresAt) }

end MeasurementStore

/-- A store without documents. -/
def emptyStore (now : Milliseconds) : MeasurementStore where
  benchmarkResults _ := none
  benchmarkLatest _ := none
  tradingResults _ := none
  tradingLatest _ := none
  tradingRollups _ := none
  now := now

inductive StoreAction where
  | deliver (event : ProbeEvent)
  | removeExpired

structure StoreEvent where
  now : Milliseconds
  action : StoreAction

namespace MeasurementStore

/-- A delivery that throws leaves the store as it is. -/
def perform (parse : String → Option Milliseconds) (store : MeasurementStore) :
    StoreAction → MeasurementStore
  | .deliver event => (store.deliver parse event).toOption.getD store
  | .removeExpired => store.removeExpired

def step (parse : String → Option Milliseconds) (store : MeasurementStore) (e : StoreEvent) :
    Option MeasurementStore :=
  if store.now ≤ e.now then some ({ store with now := e.now }.perform parse e.action) else none

end MeasurementStore

end Hyperspace.Probes
