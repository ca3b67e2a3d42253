import Hyperspace.Foundations.Scripts
import Hyperspace.Foundations.Sha256
import Hyperspace.Gate.Routing

/-!
# Ingress assignments on a gate

The agent prepares an assignment by choosing keys, interface names, a routing table and a rule
priority for it, and writes them to a file. A commit builds the two tunnels of the assignment and
routes the packets of its client into its transit tunnel; a revocation takes all of it away.

Names, tables and priorities are computed from the id of the assignment alone.
-/

namespace Hyperspace.Gate

open Hyperspace.Foundations

/-- The bytes of the id. -/
abbrev AssignmentId := List UInt8

def ascii (s : String) : List UInt8 := s.toList.map fun c => UInt8.ofNat c.toNat

/-- The first ten bytes without the dashes. -/
def shortAssignmentID (id : AssignmentId) : List UInt8 := (id.filter (· ≠ 0x2D)).take 10

def routingTable (id : AssignmentId) : Nat :=
  let sum := sha256 (id ++ ascii ":table")
  20000 + (((sum.getD 0 0).toNat <<< 8) + (sum.getD 1 0).toNat) % 20000

def rulePriority (id : AssignmentId) : Nat :=
  let sum := sha256 (id ++ ascii ":priority")
  10000 + (((sum.getD 0 0).toNat <<< 8) + (sum.getD 1 0).toNat) % 15000

theorem mainTable_lt_routingTable {id : AssignmentId} : mainTable < routingTable id :=
  Nat.lt_of_lt_of_le (by decide) (Nat.le_add_right 20000 _)

/-! ## Plans and prepared assignments -/

/-- `publicMaterial` of a plan. -/
structure PublicMaterial where
  clientPublicKey : String
  clientAddress : Address
  destinationCidrs : List Cidr
  deriving DecidableEq

/-- What an egress gate reports of itself for the ingress plan. -/
structure EgressMaterial where
  transitPublicKey : String
  transitListenPort : Nat
  publicIPv4 : String

/-- What the agent is told about an ingress assignment. -/
structure Plan where
  publicMaterial : PublicMaterial
  egress : EgressMaterial
  sourceCidr : String

/-- The keys and ports that `wg` and the kernel choose. -/
structure FreshMaterial where
  clientPrivateKey : String
  clientListenPort : Nat
  transitPrivateKey : String
  transitListenPort : Nat

/-- The file of an assignment. -/
structure AssignmentState where
  sourceCidr : String
  clientAddress : Option Address
  destinationCidrs : List Cidr
  routingTable : Nat
  rulePriority : Nat
  clientInterface : Device
  transitInterface : Device
  fresh : FreshMaterial
  revoked : Bool

def derivedAssignmentState (id : AssignmentId) : AssignmentState where
  sourceCidr := ""
  clientAddress := none
  destinationCidrs := []
  routingTable := Gate.routingTable id
  rulePriority := Gate.rulePriority id
  clientInterface := .client (shortAssignmentID id)
  transitInterface := .transit (shortAssignmentID id)
  fresh := ⟨"", 0, "", 0⟩
  revoked := false

def reusablePreparedAssignment (state : AssignmentState) : Bool :=
  !state.revoked && state.fresh.transitPrivateKey ≠ "" && state.fresh.clientPrivateKey ≠ ""

/-- The new file of the assignment; `none` when the plan is incomplete. -/
def prepareAssignment (existing : Option AssignmentState) (id : AssignmentId) (plan : Plan)
    (fresh : FreshMaterial) : Option AssignmentState :=
  match existing.filter reusablePreparedAssignment with
  | some state => some state
  | none =>
    if plan.publicMaterial.destinationCidrs = [] then none
    else
      some
        { derivedAssignmentState id with
          sourceCidr := plan.sourceCidr
          clientAddress := some plan.publicMaterial.clientAddress
          destinationCidrs := plan.publicMaterial.destinationCidrs
          fresh := fresh }

/-! ## Commits and revocations -/

/-- Why a preparation or a commit fails. -/
inductive AgentError where
  | wireguardInterfaceIncomplete
  | wireguardPeerIncomplete
  | clientPublicKeyRequired
  | egressTransitIncomplete
  | commandFailed
  deriving DecidableEq, Repr

/-- A script of the agent on its kernel. -/
abbrev AgentScript := Script AgentError Kernel Unit

def runAction (action : Action) : AgentScript := runCommand .commandFailed fun k => k.exec action

def configureWireGuardInterface (device : Device) (privateKey : String) (listenPort : Nat)
    (peerPublicKey : String) (allowedIPs : List Cidr) : AgentScript := do
  if privateKey = "" ∨ listenPort = 0 then throw .wireguardInterfaceIncomplete
  else
    runAction .validateClientTunnel
    if peerPublicKey = "" ∨ allowedIPs = [] then throw .wireguardPeerIncomplete
    else
      runIgnore (runAction (.linkDelete device))
      runAction (.linkAdd device)
      onError
        (do
          runAction (.setTunnel device)
          runAction (.linkSetMtu device)
          runAction (.linkSetUp device))
        (runIgnore (runAction (.linkDelete device)))

/-- Delete the rule until there is none; every round takes one away. -/
def deleteIPRule (rule : Rule) : AgentScript :=
  if rule.table = 0 ∨ rule.priority = 0 then pure ()
  else fun host =>
    repeatUntilError (host.state.rules.length + 1) (runAction (.ruleDel rule)) host

/-- The part of `commitIngress` between the two tunnels. -/
def restrictSource (state : AssignmentState) : AgentScript :=
  if state.sourceCidr ≠ "" then runAction .nftAddRule else pure ()

/-- The last part of `commitIngress`: the routes, the rule, and the forward rules, which are two for
each destination and two that drop the rest. -/
def installRouting (state : AssignmentState) (pm : PublicMaterial) : AgentScript := do
  let rule : Rule := ⟨pm.clientAddress, state.routingTable, state.rulePriority⟩
  runAction (.routeReplace ⟨.host pm.clientAddress, state.clientInterface, mainTable⟩)
  pm.destinationCidrs.forM fun cidr =>
    runAction (.routeReplace ⟨cidr, state.transitInterface, state.routingTable⟩)
  deleteIPRule rule
  runAction (.ruleAdd rule)
  (List.range (2 * pm.destinationCidrs.length + 2)).forM fun _ => runAction .nftAddRule

def commitIngress (state : AssignmentState) (plan : Plan) : AgentScript := do
  let pm := plan.publicMaterial
  runAction .validateClientTunnel
  if pm.clientPublicKey = "" then throw .clientPublicKeyRequired
  else if plan.egress.transitPublicKey = "" ∨ plan.egress.publicIPv4 = "" ∨
      plan.egress.transitListenPort = 0 then throw .egressTransitIncomplete
  else
    configureWireGuardInterface state.clientInterface state.fresh.clientPrivateKey
      state.fresh.clientListenPort pm.clientPublicKey [.host pm.clientAddress]
    restrictSource state
    configureWireGuardInterface state.transitInterface state.fresh.transitPrivateKey
      state.fresh.transitListenPort plan.egress.transitPublicKey pm.destinationCidrs
    installRouting state pm

def commitAssignment (state : AssignmentState) (plan : Plan) : AgentScript := do
  runAction .validateClientTunnel
  runAction .sysctlIpForward
  runAction .writeState
  commitIngress state plan
  runAction .writeState

/-- The part of `revokeAssignment` that needs the client address. -/
def removeRouting (state : AssignmentState) (clientAddress : Address) : AgentScript := do
  deleteIPRule ⟨clientAddress, state.routingTable, state.rulePriority⟩
  runIgnore (runAction (.routeDel ⟨.host clientAddress, state.clientInterface, mainTable⟩))
  runIgnore (runAction (.routeDel ⟨.host clientAddress, state.transitInterface, mainTable⟩))
  state.destinationCidrs.forM fun cidr =>
    runIgnore (runAction (.routeDel ⟨cidr, state.transitInterface, state.routingTable⟩))

def revokeAssignment (state : AssignmentState) : AgentScript := do
  state.clientAddress.elim (pure ()) (removeRouting state)
  runIgnore (runAction (.linkDelete state.clientInterface))
  runIgnore (runAction (.linkDelete state.transitInterface))
  runAction .writeState

/-- The file after a revocation. -/
def AssignmentState.revoke (state : AssignmentState) : AssignmentState :=
  { state with
    fresh :=
      { state.fresh with
        clientPrivateKey := ""
        transitPrivateKey := "" }
    revoked := true }

/-! ## Runs of the agent -/

/-- An assignment with the public material of the plan that it is committed under. -/
structure Ingress where
  id : AssignmentId
  publicMaterial : PublicMaterial
  deriving DecidableEq

/-- A gate, with a list that the code does not keep: the committed assignments. -/
structure GateHost where
  files : AssignmentId → Option AssignmentState
  kernel : Kernel
  committed : List Ingress

instance : EmptyCollection GateHost := ⟨⟨fun _ => none, ∅, []⟩⟩

/-- Every request brings its plan with it; an assignment can be prepared and committed again under
another one. -/
inductive AgentEvent where
  | prepare (id : AssignmentId) (plan : Plan) (fresh : FreshMaterial)
  | commit (id : AssignmentId) (plan : Plan) (outages : List Bool)
  | revoke (id : AssignmentId) (outages : List Bool)

namespace GateHost

def prepare (s : GateHost) (id : AssignmentId) (plan : Plan) (fresh : FreshMaterial) :
    Option GateHost :=
  match prepareAssignment (s.files id) id plan fresh with
  | some state => some { s with files := Function.update s.files id (some state) }
  | none => none

/-- A commit, also when the agent starts and finds the kernel empty. -/
def commit (s : GateHost) (id : AssignmentId) (plan : Plan) (outages : List Bool) :
    Option GateHost :=
  match s.files id with
  | none => none
  | some state =>
    let (result, host) := commitAssignment state plan ⟨s.kernel, outages⟩
    let others := s.committed.filter (·.id ≠ id)
    some
      { s with
        kernel := host.state
        committed := if result.isOk then ⟨id, plan.publicMaterial⟩ :: others else others }

/-- The file that a revocation reads. -/
def revokedFile (s : GateHost) (id : AssignmentId) : AssignmentState :=
  (s.files id).getD (derivedAssignmentState id)

def revoke (s : GateHost) (id : AssignmentId) (outages : List Bool) : GateHost :=
  let state := s.revokedFile id
  let (result, host) := revokeAssignment state ⟨s.kernel, outages⟩
  { files := if result.isOk then Function.update s.files id (some state.revoke) else s.files
    kernel := host.state
    committed := s.committed.filter (·.id ≠ id) }

def step (s : GateHost) : AgentEvent → Option GateHost
  | .prepare id plan fresh => s.prepare id plan fresh
  | .commit id plan outages => s.commit id plan outages
  | .revoke id outages => some (s.revoke id outages)

end GateHost

end Hyperspace.Gate
