import Hyperspace.Foundations.Runs
import Hyperspace.Foundations.Tables
import Hyperspace.Probes.Measurements

/-!
# Syncing the catalog

A worker copies the rows that the probes need from the core database to the probes store, which is
either Mongo or Postgres. A sync reads the clock, takes a snapshot of the core and writes it, and
any number of syncs run at the same time.
-/

namespace Hyperspace.Probes

open Hyperspace.Foundations

inductive GateDesiredState where
  | enabled
  | draining
  | disabled
  | maintenance
  deriving DecidableEq, Repr

inductive NodeDesiredState where
  | enabled
  | maintenance
  | disabled
  deriving DecidableEq, Repr

inductive PlacementKind where
  | gateHost
  | testnode
  | dedicated
  deriving DecidableEq, Repr

/-- A gate as the catalog shows it. -/
structure CatalogGate where
  id : Uuid
  name : String
  identity : String
  desiredState : GateDesiredState
  deriving DecidableEq

/-- A row of `trading_probe_nodes`. -/
structure TradingProbeNode where
  id : Uuid
  name : String
  generation : Nat
  desiredState : NodeDesiredState
  placementKind : PlacementKind
  gateId : Option Uuid
  deriving DecidableEq

/-- A row of `trading_probe_auth_tokens`. -/
structure TradingProbeAuthToken where
  id : Uuid
  probeNodeId : Uuid
  tokenHash : String
  expiresAt : Option Milliseconds
  revokedAt : Option Milliseconds
  deriving DecidableEq

/-- The mirrored tables that authentication reads. -/
structure ProbeCatalog where
  gates : Table CatalogGate.id
  nodes : Table TradingProbeNode.id
  tokens : Table TradingProbeAuthToken.id

instance : EmptyCollection ProbeCatalog := ⟨⟨∅, ∅, ∅⟩⟩

/-- What authentication hands to the handlers. -/
structure AuthenticatedTradingProbeNode where
  id : Uuid
  name : String
  generation : Nat
  desiredState : NodeDesiredState
  deriving DecidableEq, Repr

def TradingProbeNode.authenticated (node : TradingProbeNode) : AuthenticatedTradingProbeNode :=
  ⟨node.id, node.name, node.generation, node.desiredState⟩

/-- Why a synchronisation or an authentication throws. -/
inductive CatalogError where
  | exceedsSnapshotSize
  | unavailableOrStale
  | uniqueViolation
  deriving DecidableEq, Repr

/-- The length of the snapshot as JSON, and the digest of a token. -/
structure CatalogFunctions where
  byteLength : ProbeCatalog → Nat
  sha256Hex : String → String

/-- The row is not revoked and not expired, and it is for the node and the hash. -/
def TradingProbeAuthToken.admits (row : TradingProbeAuthToken) (now : Milliseconds)
    (nodeId : Uuid) (tokenHash : String) : Bool :=
  row.probeNodeId = nodeId && row.tokenHash = tokenHash && row.revokedAt.isNone &&
    row.expiresAt.all (now < ·)

/-! ### The Mongo store -/

/-- The stored catalog: its rows and `captured_at`. -/
structure CatalogDocument where
  rows : ProbeCatalog
  capturedAt : Milliseconds

/-- A node on the host of a gate that is gone or disabled counts as disabled. -/
def catalogNodes (catalog : ProbeCatalog) : List TradingProbeNode :=
  catalog.nodes.rows.map fun node =>
    let gate := node.gateId.bind catalog.gates.find?
    if node.placementKind = .gateHost ∧ node.gateId.isSome ∧
        gate.all (·.desiredState = .disabled) then { node with desiredState := .disabled }
    else node

namespace MongoProbeStore

variable (functions : CatalogFunctions) (stored : Option CatalogDocument)

/-- The condition of the update in `replaceCatalog`. -/
def isOlder (capturedAt : Milliseconds) : Bool := stored.all (·.capturedAt < capturedAt)

def replaceCatalog (rows : ProbeCatalog) (capturedAt : Milliseconds) :
    Except CatalogError (Option CatalogDocument) :=
  if 8 * 1024 * 1024 < functions.byteLength rows then .error .exceedsSnapshotSize
  else if isOlder stored capturedAt then .ok (some ⟨rows, capturedAt⟩)
  else .ok stored

def catalog (now : Milliseconds) : Except CatalogError ProbeCatalog :=
  match stored with
  | none => .error .unavailableOrStale
  | some value =>
    if 60000 < now - value.capturedAt ∨ now + 5000 < value.capturedAt then
      .error .unavailableOrStale
    else .ok value.rows

def authenticate (now : Milliseconds) (nodeName nodeToken : String) :
    Except CatalogError (Option AuthenticatedTradingProbeNode) := do
  let catalog ← catalog stored now
  match (catalogNodes catalog).find? (·.name = nodeName) with
  | none => return none
  | some node =>
    if catalog.tokens.rows.any (·.admits now node.id (functions.sha256Hex nodeToken)) then
      return some node.authenticated
    else return none

end MongoProbeStore

/-! ### The Postgres store -/

section

variable {ρ : Type} {key : ρ → Uuid}

/-- One row after another, up to a row that has a unique column in common with another one. -/
def upsertAll (conflict : ρ → ρ → Bool) (table : Table key) (rows : List ρ) : Option (Table key) :=
  rows.foldlM (fun table row =>
    if table.rows.any (fun other => key other ≠ key row && conflict other row) then none
    else some (table.upsert row)) table

end

/-- The probes transaction of `syncProbesCatalog`. It is rolled back where it returns `none`. -/
def ProbeCatalog.mirror (probes snapshot : ProbeCatalog) : Option ProbeCatalog := do
  let retiredGates := probes.gates.modify
    (fun gate => if snapshot.gates.HasKey gate.id then gate
      else { gate with desiredState := .disabled })
    (fun _ => by split <;> rfl)
  let retiredNodes := probes.nodes.modify
    (fun node => if snapshot.nodes.HasKey node.id then node
      else { node with desiredState := .disabled })
    (fun _ => by split <;> rfl)
  let gates ← upsertAll (fun gate other => gate.name = other.name || gate.identity = other.identity)
    retiredGates snapshot.gates.rows
  let nodes ← upsertAll (fun node other => node.name = other.name)
    retiredNodes snapshot.nodes.rows
  let tokens ← upsertAll
    (fun token other => token.probeNodeId = other.probeNodeId && token.tokenHash = other.tokenHash)
    probes.tokens snapshot.tokens.rows
  return {
    gates
    nodes := nodes.modify
      (fun node => if node.placementKind = .gateHost ∧
          (node.gateId.bind gates.find?).any (·.desiredState = .disabled) then
          { node with desiredState := .disabled }
        else node)
      (fun _ => by split <;> rfl)
    tokens := tokens.filter fun token => snapshot.tokens.HasKey token.id }

def ProbeCatalog.authenticateTradingProbeToken (functions : CatalogFunctions)
    (probes : ProbeCatalog) (now : Milliseconds) (nodeName nodeToken : String) :
    Option AuthenticatedTradingProbeNode :=
  (probes.nodes.rows.find? fun node => node.name = nodeName &&
    probes.tokens.rows.any (·.admits now node.id (functions.sha256Hex nodeToken))).map
      (·.authenticated)

/-! ### Either store -/

/-- `probeStore` tells whether the context has a Mongo store. -/
inductive ProbesStore where
  | mongo (catalog : Option CatalogDocument)
  | postgres (probes : ProbeCatalog)

namespace ProbesStore

/-- A sync with this clock reading writes its snapshot unless the write fails. -/
def takesWrite (capturedAt : Milliseconds) : ProbesStore → Bool
  | mongo stored => MongoProbeStore.isOlder stored capturedAt
  | postgres _ => true

/-- The last step of `syncProbesCatalog`. -/
def write (functions : CatalogFunctions) (snapshot : ProbeCatalog) (capturedAt : Milliseconds) :
    ProbesStore → Except CatalogError ProbesStore
  | mongo stored => (MongoProbeStore.replaceCatalog functions stored snapshot capturedAt).map mongo
  | postgres probes =>
    match probes.mirror snapshot with
    | none => .error .uniqueViolation
    | some probes' => .ok (postgres probes')

def authenticate (functions : CatalogFunctions) (now : Milliseconds)
    (nodeName nodeToken : String) :
    ProbesStore → Except CatalogError (Option AuthenticatedTradingProbeNode)
  | mongo stored => MongoProbeStore.authenticate functions stored now nodeName nodeToken
  | postgres probes =>
    .ok (probes.authenticateTradingProbeToken functions now nodeName nodeToken)

end ProbesStore

/-! ### Concurrent syncs -/

/-- The mirrored tables of the core and, oldest first, what they were before each edit. -/
structure CoreDatabase where
  current : ProbeCatalog
  past : List ProbeCatalog

namespace CoreDatabase

variable (core : CoreDatabase)

/-- The number of edits so far. -/
def version : Nat := core.past.length

/-- The tables after the given number of edits. -/
def atVersion (version : Nat) : Option ProbeCatalog := (core.past ++ [core.current])[version]?

/-- The tables after each edit that followed the given number of them. -/
def after (version : Nat) : List ProbeCatalog :=
  (core.past ++ [core.current]).drop (version + 1)

def edit (rows : ProbeCatalog) : CoreDatabase := ⟨rows, core.past ++ [core.current]⟩

end CoreDatabase

/-- How far a call of `syncProbesCatalog` has got. The version tells which tables of the core the
snapshot shows. -/
inductive CatalogSync where
  | clockRead (capturedAt : Milliseconds)
  | captured (capturedAt : Milliseconds) (version : Nat) (snapshot : ProbeCatalog)
  | finished

/-- The core database, the synchronisations under way and the store they write to. -/
structure SyncSystem where
  clock : Milliseconds
  core : CoreDatabase
  syncs : List CatalogSync
  store : ProbesStore
  /-- Which version of the core the stored catalog shows. The code does not keep it. -/
  stored : Option Nat

/-- A synchronisation reads its clock, takes its snapshot and writes it, in three steps. -/
inductive SyncEvent where
  | tick (elapsed : Nat)
  | edit (rows : ProbeCatalog)
  | readClock
  | takeSnapshot (sync : Nat)
  | write (sync : Nat)

namespace SyncSystem

variable (functions : CatalogFunctions)

def writeSnapshot (s : SyncSystem) (capturedAt : Milliseconds) (version : Nat)
    (snapshot : ProbeCatalog) : SyncSystem :=
  match s.store.write functions snapshot capturedAt with
  | .error _ => s
  | .ok store' =>
    { s with
      store := store'
      stored := if s.store.takesWrite capturedAt then some version else s.stored }

def step (s : SyncSystem) : SyncEvent → Option SyncSystem
  | .tick elapsed => some { s with clock := s.clock + elapsed }
  | .edit rows => some { s with core := s.core.edit rows }
  | .readClock => some { s with syncs := s.syncs ++ [.clockRead s.clock] }
  | .takeSnapshot sync =>
    match s.syncs[sync]? with
    | some (.clockRead capturedAt) =>
      some { s with
        syncs := s.syncs.set sync (.captured capturedAt s.core.version s.core.current) }
    | _ => none
  | .write sync =>
    match s.syncs[sync]? with
    | some (.captured capturedAt version snapshot) =>
      some ({ s with syncs := s.syncs.set sync .finished }.writeSnapshot functions capturedAt
        version snapshot)
    | _ => none

end SyncSystem

/-- The core has the given tables, and nothing has been synced. -/
def startSync (rows : ProbeCatalog) (isMongo : Bool) : SyncSystem where
  clock := 0
  core := ⟨rows, []⟩
  syncs := []
  store := if isMongo then .mongo none else .postgres ∅
  stored := none

end Hyperspace.Probes
