import Hyperspace.Foundations.DecisionLists
import Hyperspace.Gate.Assignments

/-!
# The forward chain of a gate

All assignments of a gate put their rules into one chain of the packet filter. Each lets the packets
of its own client pass between its own two interfaces and drops the others; a packet between two
interfaces that no assignment connects meets no rule, and the policy of the chain lets it pass.
-/

namespace Hyperspace.Gate.ForwardChain

open Hyperspace.Foundations

/-! ## Interfaces -/

/-- The end of a session that an assignment is. -/
inductive Role where
  | ingress
  | egress
  deriving DecidableEq

/-- The bytes of the name. -/
abbrev InterfaceName := List UInt8

def roleSuffix : Role → List UInt8
  | .egress => ascii "e"
  | .ingress => ascii "i"

def clientName (id : AssignmentId) : InterfaceName := ascii "hsc" ++ shortAssignmentID id

def transitName (role : Role) (id : AssignmentId) : InterfaceName :=
  ascii "hst" ++ roleSuffix role ++ shortAssignmentID id

/-- The interface of the default route. The agent routes nothing but client addresses in the main
table, so that it is none of its tunnels. -/
structure DefaultRoute where
  device : InterfaceName
  client : ∀ id, device ≠ clientName id
  transit : ∀ role id, device ≠ transitName role id

theorem clientName_ne_transitName {a b : AssignmentId} {role : Role} :
    clientName a ≠ transitName role b := by
  intro hEq
  have hThird : (clientName a)[2]? = (transitName role b)[2]? := congrArg (·[2]?) hEq
  exact absurd hThird (show ¬(some (0x63 : UInt8) = some 0x74) by decide)

theorem clientName_inj {a b : AssignmentId} (h : clientName a = clientName b) :
    shortAssignmentID a = shortAssignmentID b :=
  List.append_cancel_left h

theorem transitName_inj {a b : AssignmentId} {role role' : Role}
    (h : transitName role a = transitName role' b) :
    role = role' ∧ shortAssignmentID a = shortAssignmentID b := by
  have hFourth : (transitName role a)[3]? = (transitName role' b)[3]? := congrArg (·[3]?) h
  cases role <;> cases role'
  · exact ⟨rfl, List.append_cancel_left h⟩
  · exact absurd hFourth (show ¬(some (0x69 : UInt8) = some 0x65) by decide)
  · exact absurd hFourth (show ¬(some (0x65 : UInt8) = some 0x69) by decide)
  · exact ⟨rfl, List.append_cancel_left h⟩

/-! ## Packets and rules -/

inductive Verdict where
  | accept
  | drop
  deriving DecidableEq

/-- What the counters of a rule count; with the verdict, the rest of its comment. -/
inductive Direction where
  | toDestination
  | fromDestination
  deriving DecidableEq

/-- What the forward chain sees of a packet. -/
structure Packet where
  iifname : InterfaceName
  oifname : InterfaceName
  /-- Whether the state of its connection is established or related. -/
  established : Bool
  /-- Source and destination; `none` when it is not an IPv4 packet. -/
  addresses : Option (Address × Address)

/-- A rule of the forward chain, with the assignment in its comment as handle. -/
structure ForwardRule where
  handle : AssignmentId
  direction : Direction
  iifname : InterfaceName
  oifname : InterfaceName
  established : Bool
  saddr : Option Cidr
  daddr : Option Cidr
  verdict : Verdict
  deriving DecidableEq

def ForwardRule.Matches (r : ForwardRule) (p : Packet) : Prop :=
  r.iifname = p.iifname ∧ r.oifname = p.oifname ∧ (r.established = true → p.established = true) ∧
    (∀ c ∈ r.saddr, ∃ a ∈ p.addresses, c.Contains a.1) ∧
    ∀ c ∈ r.daddr, ∃ a ∈ p.addresses, c.Contains a.2

instance {r : ForwardRule} {p : Packet} : Decidable (r.Matches p) :=
  inferInstanceAs (Decidable (_ ∧ _ ∧ _ ∧ _ ∧ _))

/-- `ensureNftBase` creates the chain with this policy. -/
def forwardPolicy : Verdict := .accept

/-- The first rule that matches decides. -/
def verdictOf : List ForwardRule → Packet → Verdict :=
  firstVerdict ForwardRule.Matches (·.verdict) forwardPolicy

/-- For each destination, what the client sends there and what is sent back. -/
def acceptRules (handle : AssignmentId) (material : PublicMaterial) (inner outer : InterfaceName) :
    List ForwardRule :=
  material.destinationCidrs.flatMap fun cidr =>
    [⟨handle, .toDestination, inner, outer, false, some (.host material.clientAddress), some cidr,
        .accept⟩,
      ⟨handle, .fromDestination, outer, inner, true, some cidr, some (.host material.clientAddress),
        .accept⟩]

/-- The rules between the interface towards the client and the one towards the destinations. -/
def pairForwardRules (handle : AssignmentId) (material : PublicMaterial)
    (inner outer : InterfaceName) : List ForwardRule :=
  acceptRules handle material inner outer ++
    [⟨handle, .toDestination, inner, outer, false, none, none, .drop⟩,
      ⟨handle, .fromDestination, outer, inner, false, none, none, .drop⟩]

def ingressForwardRules (id : AssignmentId) (material : PublicMaterial) : List ForwardRule :=
  pairForwardRules id material (clientName id) (transitName .ingress id)

def egressForwardRules (id : AssignmentId) (material : PublicMaterial)
    (physicalInterface : InterfaceName) : List ForwardRule :=
  pairForwardRules id material (transitName .egress id) physicalInterface

/-! ## Commits and revocations -/

/-- What both ends are told. -/
structure NetworkPlan where
  publicMaterial : PublicMaterial
  ingress : EgressMaterial
  egress : EgressMaterial

/-- What of the file of an assignment its commits read. -/
structure AssignmentFile where
  role : Role
  clientPrivateKey : String
  transitPrivateKey : String
  revoked : Bool

def reusablePreparedAssignment (file : AssignmentFile) (role : Role) : Bool :=
  !file.revoked && file.transitPrivateKey ≠ "" && (role ≠ .ingress || file.clientPrivateKey ≠ "")

/-- The new file of the assignment; `none` when the plan is incomplete. -/
def prepareAssignment (existing : Option AssignmentFile) (role : Role) (plan : NetworkPlan)
    (fresh : FreshMaterial) : Option AssignmentFile :=
  match existing.filter (reusablePreparedAssignment · role) with
  | some file => some file
  | none =>
    if plan.publicMaterial.destinationCidrs = [] then none
    else
      some
        { role
          clientPrivateKey := if role = .ingress then fresh.clientPrivateKey else ""
          transitPrivateKey := fresh.transitPrivateKey
          revoked := false }

/-- Why a commit fails. -/
inductive CommitError where
  | clientPublicKeyRequired
  | egressTransitIncomplete
  | ingressTransitIncomplete
  | wireguardInterfaceIncomplete
  | defaultRouteNotFound
  | commandFailed
  deriving DecidableEq

/-- A script of the agent on the forward chain. -/
abbrev ChainScript := Script CommitError (List ForwardRule) Unit

/-- Commands that leave the forward chain alone: on interfaces, routes, other chains and the file.
The script stops where one fails. -/
def otherCommands : ChainScript := runCommand .commandFailed some

def addForwardRule (r : ForwardRule) : ChainScript :=
  runCommand .commandFailed fun chain => some (chain ++ [r])

/-- Delete the rules of an assignment one after another; where a deletion is lost the rule stays. -/
def deleteListed (handle : AssignmentId) :
    List ForwardRule → List Bool → List ForwardRule × List Bool
  | [], outages => ([], outages)
  | r :: chain, outages =>
    if r.handle = handle then
      let (rest, outages') := deleteListed handle chain outages.tail
      (if outages.headD false then r :: rest else rest, outages')
    else
      let (rest, outages') := deleteListed handle chain outages
      (r :: rest, outages')

/-- The comment of a rule starts with its handle. Without a listing of the chain nothing is deleted,
and the script goes on in any case. -/
def deleteNftRules (handle : AssignmentId) : ChainScript := fun host =>
  if host.outages.headD false then (.ok (), { host with outages := host.outages.tail })
  else
    let (chain, outages) := deleteListed handle host.state host.outages.tail
    (.ok (), ⟨chain, outages⟩)

def Incomplete (m : EgressMaterial) : Prop :=
  m.transitPublicKey = "" ∨ m.publicIPv4 = "" ∨ m.transitListenPort = 0

instance {m : EgressMaterial} : Decidable (Incomplete m) := inferInstanceAs (Decidable (_ ∨ _ ∨ _))

def commitIngress (id : AssignmentId) (file : AssignmentFile) (plan : NetworkPlan) :
    ChainScript := do
  let pm := plan.publicMaterial
  if pm.clientPublicKey = "" then throw .clientPublicKeyRequired
  else if Incomplete plan.egress then throw .egressTransitIncomplete
  else if file.clientPrivateKey = "" ∨ file.transitPrivateKey = "" then
    throw .wireguardInterfaceIncomplete
  else
    otherCommands
    (ingressForwardRules id pm).forM addForwardRule

def commitEgress (id : AssignmentId) (file : AssignmentFile) (plan : NetworkPlan)
    (defaultRoute : Option DefaultRoute) : ChainScript := do
  let pm := plan.publicMaterial
  if Incomplete plan.ingress then throw .ingressTransitIncomplete
  else
    match defaultRoute with
    | none => throw .defaultRouteNotFound
    | some route =>
      if file.transitPrivateKey = "" then throw .wireguardInterfaceIncomplete
      else
        otherCommands
        (egressForwardRules id pm route.device).forM addForwardRule

/-- A commit from the deletion of the old rules on. -/
def commitAssignment (id : AssignmentId) (file : AssignmentFile) (plan : NetworkPlan)
    (defaultRoute : Option DefaultRoute) : ChainScript := do
  deleteNftRules id
  (match file.role with
    | .ingress => commitIngress id file plan
    | .egress => commitEgress id file plan defaultRoute : ChainScript)
  otherCommands

/-- What `revokeAssignment` does to the chain before it writes the file. -/
def revokeAssignment (id : AssignmentId) : ChainScript := do
  deleteNftRules id
  otherCommands

/-- A revocation erases the keys. -/
def AssignmentFile.revoke (file : AssignmentFile) : AssignmentFile :=
  { file with
    clientPrivateKey := ""
    transitPrivateKey := ""
    revoked := true }

/-! ## Runs of the agent -/

/-- What a commit has been started for. -/
structure Installation where
  role : Role
  material : PublicMaterial
  defaultRoute : Option DefaultRoute

/-- The installation of a commit. -/
def AssignmentFile.installation (file : AssignmentFile) (plan : NetworkPlan)
    (defaultRoute : Option DefaultRoute) : Installation :=
  ⟨file.role, plan.publicMaterial, defaultRoute⟩

/-- A gate, with two things that the code does not keep: what the rules of an assignment were made
for, and the assignments whose last commit went through. -/
structure ChainHost where
  files : AssignmentId → Option AssignmentFile
  chain : List ForwardRule
  installations : AssignmentId → Option Installation
  committed : List AssignmentId

instance : EmptyCollection ChainHost := ⟨⟨fun _ => none, [], fun _ => none, []⟩⟩

/-- A commit that stops before it deletes the old rules leaves the chain as it is, and is no event
here. -/
inductive ChainEvent where
  | prepare (id : AssignmentId) (role : Role) (plan : NetworkPlan) (fresh : FreshMaterial)
  | commit (id : AssignmentId) (plan : NetworkPlan) (defaultRoute : Option DefaultRoute)
      (outages : List Bool)
  | revoke (id : AssignmentId) (role : Role) (outages : List Bool)

namespace ChainHost

def prepare (s : ChainHost) (id : AssignmentId) (role : Role) (plan : NetworkPlan)
    (fresh : FreshMaterial) : Option ChainHost :=
  match ForwardChain.prepareAssignment (s.files id) role plan fresh with
  | some file => some { s with files := Function.update s.files id (some file) }
  | none => none

def commit (s : ChainHost) (id : AssignmentId) (plan : NetworkPlan)
    (defaultRoute : Option DefaultRoute) (outages : List Bool) : Option ChainHost :=
  match s.files id with
  | none => none
  | some file =>
    let (result, host) := ForwardChain.commitAssignment id file plan defaultRoute ⟨s.chain, outages⟩
    some
      { s with
        chain := host.state
        installations := Function.update s.installations id
          (some (file.installation plan defaultRoute))
        committed := if result.isOk then s.committed.insert id else s.committed.filter (· ≠ id) }

/-- After an outage the file still says what it said before. -/
def revoke (s : ChainHost) (id : AssignmentId) (role : Role) (outages : List Bool) : ChainHost :=
  let file := (s.files id).getD ⟨role, "", "", false⟩
  let (result, host) := ForwardChain.revokeAssignment id ⟨s.chain, outages⟩
  { files := if result.isOk then Function.update s.files id (some file.revoke) else s.files
    chain := host.state
    installations := Function.update s.installations id none
    committed := s.committed.filter (· ≠ id) }

def step (s : ChainHost) : ChainEvent → Option ChainHost
  | .prepare id role plan fresh => s.prepare id role plan fresh
  | .commit id plan defaultRoute outages => s.commit id plan defaultRoute outages
  | .revoke id role outages => some (s.revoke id role outages)

end ChainHost

end Hyperspace.Gate.ForwardChain
