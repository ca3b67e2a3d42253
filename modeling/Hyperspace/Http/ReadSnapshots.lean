import Hyperspace.Foundations.Json
import Hyperspace.Foundations.Runs
import Hyperspace.Foundations.Sha256
import Mathlib.Data.List.Sort

/-!
# The snapshots of the public measurements

`PublicReadSnapshot` keeps the last data that a load returned. Readers share one load, wait for it
only when there is nothing young enough to serve, and never see how it failed. Between two steps of
a promise anything else may run, and `Date.now()` may go back.
-/

namespace Hyperspace.Http

open Hyperspace.Foundations

/-! ### The snapshot -/

/-- Milliseconds. -/
structure SnapshotOptions where
  freshMs : Nat
  maxAgeMs : Nat
  retryMs : Nat
  maxBytes : Nat

def defaultOptions : SnapshotOptions := ⟨10000, 60000, 5000, 2097152⟩

/-- How fresh the snapshot is that a reader gets. -/
inductive PublicSnapshotState where
  | live
  | refreshing
  | stale
  deriving DecidableEq

/-- A loaded value with its time and tag. -/
structure StoredSnapshot (α : Type) where
  data : α
  loadedAt : Int
  etag : String

/-- What `read` resolves to. -/
structure SnapshotRead (α : Type) where
  data : α
  state : PublicSnapshotState
  ageSeconds : Int
  etag : String

/-- A promise of `refresh`: whether `then` or `catch` has run, and how it went. -/
structure SnapshotLoad where
  id : Nat
  settled : Option Bool

/-- How a load ended, and when. -/
inductive LoadOutcome (α : Type) where
  | loaded (data : α) (time : Int)
  | failed (time : Int)

abbrev ReaderId := Nat

/-- The fields of the class, the promises that are not done, the readers that wait for one, the
readers whose promise is done, and what has happened, last first. -/
structure PublicReadSnapshot (α : Type) where
  now : Int
  value : Option (StoredSnapshot α)
  pending : Option Nat
  retryAt : Int
  failed : Bool
  stopped : Bool
  loads : List SnapshotLoad
  nextLoad : Nat
  waiting : List (ReaderId × Nat)
  ready : List (ReaderId × Bool)
  outcomes : List (LoadOutcome α)
  answers : List (ReaderId × Option (SnapshotRead α))

def PublicReadSnapshot.new (α : Type) (now : Int) : PublicReadSnapshot α where
  now := now
  value := none
  pending := none
  retryAt := 0
  failed := false
  stopped := false
  loads := []
  nextLoad := 0
  waiting := []
  ready := []
  outcomes := []
  answers := []

def weakEtag (text : String) : String := "W/\"" ++ sha256Hex text ++ "\""

/-- What happens to a snapshot: timers, loads that return or end, readers. -/
inductive SnapshotEvent (α : Type) where
  | setClock (now : Int)
  /-- A timer of `start`. -/
  | refresh
  /-- The load returns, or throws. -/
  | settle (id : Nat) (result : Option α)
  /-- `finally`. -/
  | finish (id : Nat)
  | read (reader : ReaderId)
  /-- A reader goes on after its `await`. -/
  | resume (reader : ReaderId)
  | close
  /-- The end of `close`. -/
  | drop

namespace PublicReadSnapshot

variable {α : Type} (options : SnapshotOptions) (stringify : α → String) (s : PublicReadSnapshot α)

/-- The promise that `refresh` starts or shares; `none` where it rejects at once. -/
def refresh : PublicReadSnapshot α × Option Nat :=
  match s.pending with
  | some id => (s, some id)
  | none =>
    if s.now < s.retryAt then (s, none)
    else
      ({ s with
          pending := some s.nextLoad
          loads := s.loads ++ [⟨s.nextLoad, none⟩]
          nextLoad := s.nextLoad + 1 }, some s.nextLoad)

/-- What `then` and `catch` do. -/
def settleValue (result : Option α) : PublicReadSnapshot α × Bool :=
  match result.filter fun data => (stringify data).utf8ByteSize ≤ options.maxBytes with
  | some data =>
    ({ s with
        value := some ⟨data, s.now, weakEtag (stringify data)⟩
        failed := false
        retryAt := 0
        outcomes := .loaded data s.now :: s.outcomes }, true)
  | none =>
    ({ s with
        failed := true
        retryAt := s.now + options.retryMs
        outcomes := .failed s.now :: s.outcomes }, false)

def settle (id : Nat) (result : Option α) : Option (PublicReadSnapshot α) :=
  if s.loads.any fun load => load.id = id && load.settled.isNone then
    let settled := s.settleValue options stringify result
    some { settled.1 with
      loads := s.loads.map fun load =>
        if load.id = id then { load with settled := some settled.2 } else load }
  else none

/-- The readers of the promise go on later. -/
def finish (id : Nat) : Option (PublicReadSnapshot α) := do
  let load ← s.loads.find? fun load => load.id = id
  let ok ← load.settled
  return { s with
    pending := if s.pending = some id then none else s.pending
    loads := s.loads.filter fun load => load.id ≠ id
    waiting := s.waiting.filter fun (_, awaited) => awaited ≠ id
    ready := s.ready ++ (s.waiting.filter fun (_, awaited) => awaited = id).map fun (r, _) =>
      (r, ok) }

/-- The age of the value; `none` for `Infinity`. -/
def age? : Option Int := s.value.map fun value => s.now - value.loadedAt

/-- `!this.value || age < 0 || age > this.maxAgeMs` does not hold. -/
def usable? : Option (StoredSnapshot α) :=
  s.value.filter fun value =>
    0 ≤ s.now - value.loadedAt && s.now - value.loadedAt ≤ options.maxAgeMs

def serve (value : StoredSnapshot α) : SnapshotRead α where
  data := value.data
  state :=
    if s.failed then .stale
    else if options.freshMs ≤ s.now - value.loadedAt then .refreshing
    else .live
  ageSeconds := (s.now - value.loadedAt) / 1000
  etag := value.etag

def answer (reader : ReaderId) (result : Option (SnapshotRead α)) : PublicReadSnapshot α :=
  { s with answers := (reader, result) :: s.answers }

/-- The state in which `read` looks at the value: a load may have been started. -/
def readState : PublicReadSnapshot α :=
  let old := s.age?.all fun age => (options.freshMs : Int) ≤ age
  if old ∧ s.pending = none ∧ s.retryAt ≤ s.now then s.refresh.1 else s

/-- `read` up to its `await`. -/
def read (reader : ReaderId) : PublicReadSnapshot α :=
  let s' := s.readState options
  match s'.usable? options with
  | some value => s'.answer reader (some (s'.serve options value))
  | none =>
    match s'.pending with
    | some id => { s' with waiting := s'.waiting ++ [(reader, id)] }
    | none => s'.answer reader none

/-- `read` after its `await`, which throws where the load has failed. -/
def resume (reader : ReaderId) : Option (PublicReadSnapshot α) := do
  let (_, ok) ← s.ready.find? fun (r, _) => r = reader
  let s' := { s with ready := s.ready.eraseP fun (r, _) => r = reader }
  return s'.answer reader (if ok then (s'.usable? options).map (s'.serve options) else none)

def step : SnapshotEvent α → Option (PublicReadSnapshot α)
  | .setClock now => some { s with now }
  | .refresh => some s.refresh.1
  | .settle id result => s.settle options stringify id result
  | .finish id => s.finish id
  | .read reader => some (s.read options reader)
  | .resume reader => s.resume options reader
  | .close => some { s with stopped := true }
  | .drop => if s.stopped then some { s with value := none } else none

end PublicReadSnapshot

/-! ### Headers -/

/-- What a handler reads of a request. -/
structure SnapshotRequest where
  authorization : Option String
  cookie : Option String
  ifNoneMatch : Option String

/-- The headers of an answer. -/
structure SnapshotHeaders where
  snapshotState : PublicSnapshotState
  snapshotAge : Int
  etag : String
  cacheControl : String
  notModified : Bool

def isAbsent (header : Option String) : Bool := header.getD "" = ""

def publicSnapshotHeaders {α : Type} (request : SnapshotRequest) (snapshot : SnapshotRead α)
    (variant : String) : SnapshotHeaders :=
  let etag := if variant = "" then snapshot.etag else weakEtag (snapshot.etag ++ ":" ++ variant)
  let anonymous := isAbsent request.authorization && isAbsent request.cookie
  { snapshotState := snapshot.state
    snapshotAge := snapshot.ageSeconds
    etag
    cacheControl :=
      if snapshot.state = .live ∧ anonymous then "public, max-age=0, s-maxage=5, must-revalidate"
      else "no-store"
    notModified := snapshot.state = .live && request.ifNoneMatch = some etag }

/-! ### The latency of trading targets -/

/-- `fields` are the ones that the selection only passes on. -/
structure LatencyTarget where
  id : String
  key : String
  category : String
  sortOrder : Int
  fields : Json

structure LatencyMeasurement where
  targetId : String
  fields : Json

/-- The latency response; `fields` is what filters pass on. -/
structure TradingLatency where
  targets : List LatencyTarget
  measurements : List LatencyMeasurement
  fields : Json

/-- The filters of a latency request. -/
structure LatencyQuery where
  category : Option String
  target : Option String

/-- `value` as a condition. -/
def truthy (value : Option String) : Option String := value.filter (· ≠ "")

/-- The comparator of the selection: the target with the key first, then by the order and the key.
-/
def targetPrecedes (localeCompare : String → String → Ordering) (key : String)
    (a b : LatencyTarget) : Bool :=
  if a.key = key ∧ b.key ≠ key then true
  else if a.key ≠ key ∧ b.key = key then false
  else if a.sortOrder ≠ b.sortOrder then a.sortOrder < b.sortOrder
  else localeCompare a.key b.key ≠ .gt

def selectedTargets (data : TradingLatency) (query : LatencyQuery) : List LatencyTarget :=
  data.targets.filter fun target =>
    (truthy query.category).all fun category => target.category = category

/-- The target that the query asks for, or else the first one. -/
def selectedTarget? (localeCompare : String → String → Ordering) (data : TradingLatency)
    (query : LatencyQuery) : Option String :=
  (truthy query.target).bind fun key =>
    (((selectedTargets data query).insertionSort fun a b =>
      targetPrecedes localeCompare key a b = true).head?).map (·.id)

def selectPublicTradingLatency (localeCompare : String → String → Ordering) (data : TradingLatency)
    (query : LatencyQuery) : TradingLatency :=
  let targets := selectedTargets data query
  let ids := targets.map (·.id)
  { data with
    targets
    measurements := data.measurements.filter fun value =>
      value.targetId ∈ ids && ((truthy query.target).isNone ||
        some value.targetId = selectedTarget? localeCompare data query) }

/-- What tells two answers from one snapshot apart. -/
def latencyVariant (selected : TradingLatency) (query : LatencyQuery) : String :=
  String.ofList (List.intercalate [','] (selected.targets.map (·.id.toList)) ++
    ':' :: (((selected.measurements.head?).map (·.targetId)).getD "none").toList ++
    ':' :: (if (truthy query.target).isSome then "true" else "false").toList)

end Hyperspace.Http
