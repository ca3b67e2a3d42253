import Hyperspace.Foundations.Runs
import Hyperspace.Gate.Assignments

/-!
# Sessions are routed apart

Every command of a commit or a revocation is about the interfaces, the routes or the rule of the one
assignment. As long as the committed assignments have different short ids and client addresses, and
different routing tables or no destination in common, none of these commands touches what another
one needs; and an assignment that finds no leftover in its way has its packets to itself.
-/

namespace Hyperspace.Gate

open Hyperspace.Foundations

/-! ## What belongs to an assignment -/

def clientInterface (id : AssignmentId) : Device := .client (shortAssignmentID id)

def transitInterface (id : AssignmentId) : Device := .transit (shortAssignmentID id)

def IsOwnInterface (id : AssignmentId) (device : Device) : Prop :=
  device = clientInterface id ∨ device = transitInterface id

def assignmentRule (id : AssignmentId) (clientAddress : Address) : Rule :=
  ⟨clientAddress, routingTable id, rulePriority id⟩

namespace Ingress

def clientRoute (a : Ingress) : Route :=
  ⟨.host a.publicMaterial.clientAddress, clientInterface a.id, mainTable⟩

def transitRoute (a : Ingress) (cidr : Cidr) : Route :=
  ⟨cidr, transitInterface a.id, routingTable a.id⟩

def ownRule (a : Ingress) : Rule := assignmentRule a.id a.publicMaterial.clientAddress

/-- The routes that a commit installs. -/
def IsOwnRoute (a : Ingress) (r : Route) : Prop :=
  r = a.clientRoute ∨ ∃ cidr ∈ a.publicMaterial.destinationCidrs, r = a.transitRoute cidr

/-- A route that takes packets of the assignment to somewhere else. -/
def Diverts (a : Ingress) (r : Route) : Prop :=
  r.table = routingTable a.id ∧ r.device ≠ transitInterface a.id ∧
    ∃ cidr ∈ a.publicMaterial.destinationCidrs, cidr.Overlaps r.destination

instance (a : Ingress) : DecidablePred a.Diverts :=
  fun _ => inferInstanceAs (Decidable (_ ∧ _ ∧ _))

/-- A rule of the client address that is not the one of the assignment. -/
def DivertsBy (a : Ingress) (rule : Rule) : Prop :=
  rule.source = a.publicMaterial.clientAddress ∧ rule ≠ a.ownRule

instance (a : Ingress) : DecidablePred a.DivertsBy :=
  fun _ => inferInstanceAs (Decidable (_ ∧ _))

/-- The two assignments can be on a gate at the same time. -/
structure Apart (a b : Ingress) : Prop where
  short : shortAssignmentID a.id ≠ shortAssignmentID b.id
  clientAddress : a.publicMaterial.clientAddress ≠ b.publicMaterial.clientAddress
  table : routingTable a.id = routingTable b.id →
    ∀ c ∈ a.publicMaterial.destinationCidrs, ∀ d ∈ b.publicMaterial.destinationCidrs, ¬c.Overlaps d

instance (a b : Ingress) : Decidable (Apart a b) :=
  decidable_of_iff
    (shortAssignmentID a.id ≠ shortAssignmentID b.id ∧
      a.publicMaterial.clientAddress ≠ b.publicMaterial.clientAddress ∧
      (routingTable a.id = routingTable b.id →
        ∀ c ∈ a.publicMaterial.destinationCidrs, ∀ d ∈ b.publicMaterial.destinationCidrs,
          ¬c.Overlaps d))
    ⟨fun h => ⟨h.1, h.2.1, h.2.2⟩, fun h => ⟨h.short, h.clientAddress, h.table⟩⟩

end Ingress

open Ingress (Apart)

/-! ## The commands of a script -/

/-- The commands of a commit. -/
def Action.IsOwn (a : Ingress) : Action → Prop
  | .sysctlIpForward | .validateClientTunnel | .writeState | .nftAddRule => True
  | .linkDelete device | .linkAdd device | .setTunnel device | .linkSetMtu device
  | .linkSetUp device => IsOwnInterface a.id device
  | .routeReplace route => a.IsOwnRoute route
  | .routeDel _ => False
  | .ruleAdd rule | .ruleDel rule => rule = a.ownRule

/-- The commands of a revocation, with the client address in the file. -/
def Action.Removes (id : AssignmentId) (clientAddress : Option Address) : Action → Prop
  | .writeState => True
  | .linkDelete device => IsOwnInterface id device
  | .routeDel route => IsOwnInterface id route.device
  | .ruleDel rule => ∃ address ∈ clientAddress, rule = assignmentRule id address
  | _ => False

/-- The commands that leave alone what the assignment has installed, and put nothing in its way. -/
def Action.Spares (a : Ingress) : Action → Prop
  | .linkDelete device => ¬IsOwnInterface a.id device
  | .routeReplace route => ¬a.Diverts route ∧
    ∀ r, a.IsOwnRoute r → ¬(r.destination = route.destination ∧ r.table = route.table)
  | .routeDel route => ¬IsOwnInterface a.id route.device
  | .ruleAdd rule => ¬a.DivertsBy rule
  | .ruleDel rule => rule ≠ a.ownRule
  | _ => True

section

variable {a b : Ingress} {r r' : Route} {action : Action} {id id' : AssignmentId}

theorem Ingress.IsOwnRoute.device (h : a.IsOwnRoute r) : IsOwnInterface a.id r.device := by
  rcases h with rfl | ⟨cidr, -, rfl⟩
  · exact .inl rfl
  · exact .inr rfl

theorem IsOwnInterface.short_eq {device : Device} (h : IsOwnInterface id device)
    (h' : IsOwnInterface id' device) : shortAssignmentID id = shortAssignmentID id' := by
  rcases h with rfl | rfl <;> rcases h' with h' | h'
  · exact Device.client.inj h'
  · cases h'
  · cases h'
  · exact Device.transit.inj h'

theorem Ingress.IsOwnRoute.eq_of_key (h : a.IsOwnRoute r) (h' : a.IsOwnRoute r')
    (hDestination : r.destination = r'.destination) (hTable : r.table = r'.table) : r = r' := by
  rcases h with rfl | ⟨c, -, rfl⟩ <;> rcases h' with rfl | ⟨c', -, rfl⟩
  · rfl
  · exact absurd hTable mainTable_lt_routingTable.ne
  · exact absurd hTable mainTable_lt_routingTable.ne'
  · cases hDestination
    rfl

/-- Assignments that are apart install no route to one destination in one table. -/
theorem Ingress.Apart.key_ne (h : Apart a b) (ha : a.IsOwnRoute r) (hb : b.IsOwnRoute r') :
    ¬(r.destination = r'.destination ∧ r.table = r'.table) := by
  rintro ⟨hDestination, hTable⟩
  rcases ha with rfl | ⟨c, hc, rfl⟩ <;> rcases hb with rfl | ⟨c', hc', rfl⟩
  · exact h.clientAddress (congrArg Cidr.address hDestination)
  · exact absurd hTable mainTable_lt_routingTable.ne
  · exact absurd hTable mainTable_lt_routingTable.ne'
  · cases hDestination
    exact h.table hTable _ hc _ hc' (Cidr.overlaps_self _)

theorem Ingress.IsOwnRoute.not_diverts (h : a.IsOwnRoute r) : ¬a.Diverts r := by
  rintro ⟨hTable, hDevice, -⟩
  rcases h with rfl | ⟨cidr, -, rfl⟩
  · exact mainTable_lt_routingTable.ne hTable
  · exact hDevice rfl

theorem Ingress.Apart.not_diverts (h : Apart a b) (hb : b.IsOwnRoute r) : ¬a.Diverts r := by
  rintro ⟨hTable, -, cidr, hCidr, hOverlaps⟩
  rcases hb with rfl | ⟨cidr', hCidr', rfl⟩
  · exact mainTable_lt_routingTable.ne hTable
  · exact h.table hTable.symm cidr hCidr cidr' hCidr' hOverlaps

/-- The commands of a commit leave the assignments alone that are apart from it. -/
theorem Action.IsOwn.spares (h : action.IsOwn b) (hApart : Apart a b) : action.Spares a := by
  cases action with
  | linkDelete device => exact fun hDevice => hApart.short (hDevice.short_eq h)
  | routeReplace route => exact ⟨hApart.not_diverts h, fun _ hr => hApart.key_ne hr h⟩
  | routeDel route => exact h.elim
  | ruleAdd rule =>
      cases h
      exact fun hDiverts => hApart.clientAddress hDiverts.1.symm
  | ruleDel rule =>
      cases h
      intro hEq
      exact hApart.clientAddress (congrArg Rule.source hEq).symm
  | sysctlIpForward | validateClientTunnel | writeState | nftAddRule | linkAdd device
  | setTunnel device | linkSetMtu device | linkSetUp device => trivial

/-- The commands of a revocation leave the assignments alone that have another short id and another
rule. -/
theorem Action.Removes.spares {clientAddress : Option Address}
    (h : action.Removes id clientAddress)
    (hShort : shortAssignmentID a.id ≠ shortAssignmentID id)
    (hRule : ∀ address ∈ clientAddress, a.ownRule ≠ assignmentRule id address) :
    action.Spares a := by
  cases action with
  | linkDelete device => exact fun hDevice => hShort (hDevice.short_eq h)
  | routeDel route => exact fun hDevice => hShort (hDevice.short_eq h)
  | ruleDel rule =>
      obtain ⟨address, hAddress, rfl⟩ := h
      exact (hRule address hAddress).symm
  | writeState => trivial
  | sysctlIpForward | validateClientTunnel | nftAddRule | linkAdd device | setTunnel device
  | linkSetMtu device | linkSetUp device | routeReplace route | ruleAdd rule => exact h.elim

end

/-! ## What the kernel holds -/

/-- All that the assignment has installed is in the kernel. -/
structure Installed (a : Ingress) (k : Kernel) : Prop where
  routes : ∀ r, a.IsOwnRoute r → r ∈ k.routes
  rule : a.ownRule ∈ k.rules

/-- No route and no rule takes packets of the assignment to somewhere else. -/
structure Unhindered (a : Ingress) (k : Kernel) : Prop where
  routes : ∀ r ∈ k.routes, ¬a.Diverts r
  rules : ∀ rule ∈ k.rules, ¬a.DivertsBy rule

instance (a : Ingress) (k : Kernel) : Decidable (Unhindered a k) :=
  decidable_of_iff ((∀ r ∈ k.routes, ¬a.Diverts r) ∧ ∀ rule ∈ k.rules, ¬a.DivertsBy rule)
    ⟨fun h => ⟨h.1, h.2⟩, fun h => ⟨h.routes, h.rules⟩⟩

section

variable {a : Ingress} {k k' : Kernel} {action : Action}

theorem mem_ruleAdd {rule rule' : Rule} :
    rule' ∈ (k.ruleAdd rule).rules ↔ rule' = rule ∨ rule' ∈ k.rules := by
  unfold Kernel.ruleAdd
  rw [List.mem_orderedInsert]

theorem Installed.exec (h : Installed a k) (hSpares : action.Spares a)
    (hExec : k.exec action = some k') : Installed a k' := by
  cases action with
  | sysctlIpForward | validateClientTunnel | writeState | nftAddRule =>
      cases hExec
      exact h
  | setTunnel device | linkSetMtu device | linkSetUp device =>
      obtain ⟨-, hEq⟩ := Option.ite_none_right_eq_some.1 hExec
      cases hEq
      exact h
  | linkDelete device =>
      obtain ⟨-, hEq⟩ := Option.ite_none_right_eq_some.1 hExec
      cases hEq
      refine ⟨?_, h.rule⟩
      intro r hr
      refine List.mem_filter.2 ⟨h.routes r hr, decide_eq_true ?_⟩
      rintro rfl
      exact hSpares hr.device
  | linkAdd device =>
      obtain ⟨-, hEq⟩ := Option.ite_none_left_eq_some.1 hExec
      cases hEq
      exact ⟨h.routes, h.rule⟩
  | routeReplace route =>
      obtain ⟨-, hEq⟩ := Option.ite_none_right_eq_some.1 hExec
      cases hEq
      refine ⟨?_, h.rule⟩
      intro r hr
      apply List.mem_cons_of_mem
      exact List.mem_filter.2 ⟨h.routes r hr, decide_eq_true (hSpares.2 r hr)⟩
  | routeDel route =>
      obtain ⟨-, hEq⟩ := Option.ite_none_right_eq_some.1 hExec
      cases hEq
      refine ⟨?_, h.rule⟩
      intro r hr
      refine List.mem_filter.2 ⟨h.routes r hr, decide_eq_true ?_⟩
      rintro rfl
      exact hSpares hr.device
  | ruleAdd rule =>
      obtain ⟨-, hEq⟩ := Option.ite_none_left_eq_some.1 hExec
      cases hEq
      exact ⟨h.routes, mem_ruleAdd.2 (.inr h.rule)⟩
  | ruleDel rule =>
      obtain ⟨-, hEq⟩ := Option.ite_none_right_eq_some.1 hExec
      cases hEq
      exact ⟨h.routes, (List.mem_erase_of_ne (Ne.symm hSpares)).2 h.rule⟩

theorem Unhindered.exec (h : Unhindered a k)
    (hRoute : ∀ route, action = .routeReplace route → ¬a.Diverts route)
    (hRule : ∀ rule, action = .ruleAdd rule → ¬a.DivertsBy rule)
    (hExec : k.exec action = some k') : Unhindered a k' := by
  cases action with
  | sysctlIpForward | validateClientTunnel | writeState | nftAddRule =>
      cases hExec
      exact h
  | setTunnel device | linkSetMtu device | linkSetUp device =>
      obtain ⟨-, hEq⟩ := Option.ite_none_right_eq_some.1 hExec
      cases hEq
      exact h
  | linkDelete device | routeDel route =>
      obtain ⟨-, hEq⟩ := Option.ite_none_right_eq_some.1 hExec
      cases hEq
      exact ⟨fun r hr => h.routes r (List.mem_of_mem_filter hr), h.rules⟩
  | linkAdd device =>
      obtain ⟨-, hEq⟩ := Option.ite_none_left_eq_some.1 hExec
      cases hEq
      exact ⟨h.routes, h.rules⟩
  | routeReplace route =>
      obtain ⟨-, hEq⟩ := Option.ite_none_right_eq_some.1 hExec
      cases hEq
      refine ⟨?_, h.rules⟩
      intro r hr
      rcases List.mem_cons.1 hr with rfl | hOld
      · exact hRoute r rfl
      · exact h.routes r (List.mem_of_mem_filter hOld)
  | ruleAdd rule =>
      obtain ⟨-, hEq⟩ := Option.ite_none_left_eq_some.1 hExec
      cases hEq
      refine ⟨h.routes, ?_⟩
      intro rule' hRule'
      rcases mem_ruleAdd.1 hRule' with rfl | hOld
      · exact hRule rule' rfl
      · exact h.rules rule' hOld
  | ruleDel rule =>
      obtain ⟨-, hEq⟩ := Option.ite_none_right_eq_some.1 hExec
      cases hEq
      exact ⟨h.routes, fun rule' hRule' => h.rules rule' (List.mem_of_mem_erase hRule')⟩

theorem Unhindered.exec_spares (h : Unhindered a k) (hSpares : action.Spares a)
    (hExec : k.exec action = some k') : Unhindered a k' := by
  apply h.exec _ _ hExec
  · rintro route rfl
    exact hSpares.1
  · rintro rule rfl
    exact hSpares

theorem Unhindered.exec_own (h : Unhindered a k) (hOwn : action.IsOwn a)
    (hExec : k.exec action = some k') : Unhindered a k' := by
  apply h.exec _ _ hExec
  · rintro route rfl
    exact hOwn.not_diverts
  · rintro rule rfl hDiverts
    exact hDiverts.2 hOwn

/-- The packets of an installed assignment that nothing diverts leave through its own interface. -/
theorem Installed.resolve (h : Installed a k) (hUnhindered : Unhindered a k) {cidr : Cidr}
    (hCidr : cidr ∈ a.publicMaterial.destinationCidrs) {destination : Address}
    (hContains : cidr.Contains destination) :
    k.resolve a.publicMaterial.clientAddress destination = some (transitInterface a.id) := by
  have hMem : a.transitRoute cidr ∈ k.routes := h.routes _ (.inr ⟨cidr, hCidr, rfl⟩)
  have hLookup : k.lookup (routingTable a.id) destination = some (transitInterface a.id) := by
    apply Kernel.lookup_eq_of_unique hMem hContains
    intro r hr hTable hDestination
    by_contra hDevice
    have hOverlaps : cidr.Overlaps r.destination := Cidr.overlaps_of_contains hContains hDestination
    exact hUnhindered.routes r hr ⟨hTable, hDevice, cidr, hCidr, hOverlaps⟩
  have hUnique : ∀ rule ∈ k.rules, rule.source = a.ownRule.source → rule = a.ownRule := by
    intro rule hRule hSource
    by_contra hNe
    exact hUnhindered.rules rule hRule ⟨hSource, hNe⟩
  exact Kernel.resolve_eq_of_unique h.rule hUnique hLookup

end

/-! ## The scripts -/

/-- The names and numbers in the file are those of the assignment. -/
structure Matches (id : AssignmentId) (state : AssignmentState) : Prop where
  clientInterface : state.clientInterface = clientInterface id
  transitInterface : state.transitInterface = transitInterface id
  routingTable : state.routingTable = routingTable id
  rulePriority : state.rulePriority = rulePriority id

section

variable {a : Ingress} {id : AssignmentId} {state : AssignmentState} {plan : Plan}
  {action : Action} {r : Route} {I : Kernel → Prop}

theorem Matches.rule (h : Matches id state) (address : Address) :
    (⟨address, state.routingTable, state.rulePriority⟩ : Rule) = assignmentRule id address := by
  rw [h.routingTable, h.rulePriority]
  rfl

theorem deleteIPRule_preserves {rule : Rule} (h : Preserves I (runAction (.ruleDel rule))) :
    Preserves I (deleteIPRule rule) := by
  unfold deleteIPRule
  apply Preserves.ite
  · exact Preserves.pure
  · intro host
    exact Preserves.repeatUntilError h (host.state.rules.length + 1) host

theorem configureWireGuardInterface_preserves {device : Device} {privateKey peerPublicKey : String}
    {listenPort : Nat} {allowedIPs : List Cidr} (hDevice : IsOwnInterface a.id device)
    (hOwn : ∀ action : Action, action.IsOwn a → Preserves I (runAction action)) :
    Preserves I
      (configureWireGuardInterface device privateKey listenPort peerPublicKey allowedIPs) := by
  unfold configureWireGuardInterface
  apply Preserves.ite
  · exact Preserves.throw
  apply Preserves.bind
  · exact hOwn _ trivial
  intro _
  apply Preserves.ite
  · exact Preserves.throw
  apply Preserves.bind
  · exact Preserves.runIgnore (hOwn _ hDevice)
  intro _
  apply Preserves.bind
  · exact hOwn _ hDevice
  intro _
  apply Preserves.onError
  · apply Preserves.bind
    · exact hOwn _ hDevice
    intro _
    apply Preserves.bind
    · exact hOwn _ hDevice
    intro _
    exact hOwn _ hDevice
  · exact Preserves.runIgnore (hOwn _ hDevice)

theorem restrictSource_preserves
    (hOwn : ∀ action : Action, action.IsOwn a → Preserves I (runAction action)) :
    Preserves I (restrictSource state) := by
  unfold restrictSource
  apply Preserves.ite
  · exact hOwn _ trivial
  · exact Preserves.pure

theorem installRouting_preserves (h : Matches a.id state)
    (hOwn : ∀ action : Action, action.IsOwn a → Preserves I (runAction action)) :
    Preserves I (installRouting state a.publicMaterial) := by
  unfold installRouting
  dsimp only
  rw [h.rule, h.clientInterface, h.transitInterface, h.routingTable]
  apply Preserves.bind
  · exact hOwn _ (.inl rfl)
  intro _
  apply Preserves.bind
  · apply Preserves.forM
    intro cidr hCidr
    exact hOwn _ (.inr ⟨cidr, hCidr, rfl⟩)
  intro _
  apply Preserves.bind
  · exact deleteIPRule_preserves (hOwn _ rfl)
  intro _
  apply Preserves.bind
  · exact hOwn _ rfl
  intro _
  apply Preserves.forM
  intro _ _
  exact hOwn _ trivial

theorem commitIngress_preserves (h : Matches id state)
    (hOwn : ∀ action : Action, action.IsOwn ⟨id, plan.publicMaterial⟩ →
      Preserves I (runAction action)) : Preserves I (commitIngress state plan) := by
  unfold commitIngress
  apply Preserves.bind
  · exact hOwn _ trivial
  intro _
  apply Preserves.ite
  · exact Preserves.throw
  apply Preserves.ite
  · exact Preserves.throw
  apply Preserves.bind
  · exact configureWireGuardInterface_preserves (.inl h.clientInterface) hOwn
  intro _
  apply Preserves.bind
  · exact restrictSource_preserves hOwn
  intro _
  apply Preserves.bind
  · exact configureWireGuardInterface_preserves (.inr h.transitInterface) hOwn
  intro _
  exact installRouting_preserves (a := ⟨id, plan.publicMaterial⟩) h hOwn

theorem commitAssignment_preserves (h : Matches id state)
    (hOwn : ∀ action : Action, action.IsOwn ⟨id, plan.publicMaterial⟩ →
      Preserves I (runAction action)) : Preserves I (commitAssignment state plan) := by
  unfold commitAssignment
  apply Preserves.bind
  · exact hOwn _ trivial
  intro _
  apply Preserves.bind
  · exact hOwn _ trivial
  intro _
  apply Preserves.bind
  · exact hOwn _ trivial
  intro _
  apply Preserves.bind
  · exact commitIngress_preserves h hOwn
  intro _
  exact hOwn _ trivial

theorem removeRouting_preserves (h : Matches id state) {address : Address}
    (hRemoves : ∀ action : Action, action.Removes id (some address) →
      Preserves I (runAction action)) : Preserves I (removeRouting state address) := by
  unfold removeRouting
  rw [h.rule, h.clientInterface, h.transitInterface]
  apply Preserves.bind
  · exact deleteIPRule_preserves (hRemoves _ ⟨address, rfl, rfl⟩)
  intro _
  apply Preserves.bind
  · exact Preserves.runIgnore (hRemoves _ (.inl rfl))
  intro _
  apply Preserves.bind
  · exact Preserves.runIgnore (hRemoves _ (.inr rfl))
  intro _
  apply Preserves.forM
  intro cidr _
  exact Preserves.runIgnore (hRemoves _ (.inr rfl))

theorem revokeAssignment_preserves (h : Matches id state)
    (hRemoves : ∀ action : Action, action.Removes id state.clientAddress →
      Preserves I (runAction action)) : Preserves I (revokeAssignment state) := by
  unfold revokeAssignment
  apply Preserves.bind
  · cases hAddress : state.clientAddress with
    | none => exact Preserves.pure
    | some address =>
        rw [hAddress] at hRemoves
        exact removeRouting_preserves h hRemoves
  intro _
  apply Preserves.bind
  · exact Preserves.runIgnore (hRemoves _ (.inl h.clientInterface))
  intro _
  apply Preserves.bind
  · exact Preserves.runIgnore (hRemoves _ (.inr h.transitInterface))
  intro _
  exact hRemoves _ trivial

theorem routeReplace_keeps {route : Route} (hr : a.IsOwnRoute r) (hRoute : a.IsOwnRoute route) :
    Preserves (fun k => r ∈ k.routes) (runAction (.routeReplace route)) := by
  apply Preserves.runCommand
  intro k k' hMem hExec
  obtain ⟨-, hEq⟩ := Option.ite_none_right_eq_some.1 hExec
  cases hEq
  by_cases hKey : r.destination = route.destination ∧ r.table = route.table
  · rw [hr.eq_of_key hRoute hKey.1 hKey.2]
    exact List.mem_cons_self
  · apply List.mem_cons_of_mem
    exact List.mem_filter.2 ⟨hMem, decide_eq_true hKey⟩

theorem routeReplace_installs {route : Route} :
    Establishes I (fun k => route ∈ k.routes) (runAction (.routeReplace route)) := by
  apply Establishes.runCommand
  intro k k' _ hExec
  obtain ⟨-, hEq⟩ := Option.ite_none_right_eq_some.1 hExec
  cases hEq
  exact List.mem_cons_self

theorem ruleAction_keeps {J : List Route → Prop} {rule : Rule}
    (hAction : action = .ruleDel rule ∨ action = .ruleAdd rule ∨ action = .nftAddRule) :
    Preserves (fun k => J k.routes) (runAction action) := by
  apply Preserves.runCommand
  intro k k' hBefore hExec
  rcases hAction with rfl | rfl | rfl
  · obtain ⟨-, hEq⟩ := Option.ite_none_right_eq_some.1 hExec
    cases hEq
    exact hBefore
  · obtain ⟨-, hEq⟩ := Option.ite_none_left_eq_some.1 hExec
    cases hEq
    exact hBefore
  · cases hExec
    exact hBefore

theorem installRouting_establishes (h : Matches a.id state) :
    Establishes I (Installed a) (installRouting state a.publicMaterial) := by
  have hClient : a.IsOwnRoute a.clientRoute := .inl rfl
  have hTransit : ∀ cidr ∈ a.publicMaterial.destinationCidrs, a.IsOwnRoute (a.transitRoute cidr) :=
    fun cidr hCidr => .inr ⟨cidr, hCidr, rfl⟩
  unfold installRouting
  dsimp only
  rw [h.rule, h.clientInterface, h.transitInterface, h.routingTable]
  refine Establishes.bind (J := fun k : Kernel => a.clientRoute ∈ k.routes)
    routeReplace_installs fun _ => ?_
  refine Establishes.bind (J := fun k : Kernel => ∀ r, a.IsOwnRoute r → r ∈ k.routes)
    ?_ fun _ => ?_
  · have hKept := Establishes.of_preserves (Preserves.forM fun cidr hCidr =>
      routeReplace_keeps hClient (hTransit cidr hCidr))
    have hEach := Establishes.forM (fun cidr hCidr => routeReplace_installs)
      (fun cidr hCidr => routeReplace_keeps hClient (hTransit cidr hCidr))
      (fun cidr hCidr cidr' hCidr' =>
        routeReplace_keeps (hTransit cidr' hCidr') (hTransit cidr hCidr))
    intro host _ host' hBefore hRun
    obtain ⟨hMain, hDestinations⟩ := hKept.and hEach host _ host' hBefore hRun
    rintro r (rfl | ⟨cidr, hCidr, rfl⟩)
    · exact hMain
    · exact hDestinations cidr hCidr
  refine Establishes.bind (J := fun k : Kernel => ∀ r, a.IsOwnRoute r → r ∈ k.routes)
    ?_ fun _ => ?_
  · apply Establishes.of_preserves
    apply deleteIPRule_preserves
    exact ruleAction_keeps (J := fun routes => ∀ r, a.IsOwnRoute r → r ∈ routes) (.inl rfl)
  refine Establishes.bind (J := Installed a) ?_ fun _ => ?_
  · apply Establishes.runCommand
    intro k k' hRoutes hExec
    obtain ⟨-, hEq⟩ := Option.ite_none_left_eq_some.1 hExec
    cases hEq
    exact ⟨hRoutes, mem_ruleAdd.2 (.inl rfl)⟩
  apply Establishes.of_preserves
  apply Preserves.forM
  intro _ _
  apply Preserves.runCommand
  intro k k' hBefore hExec
  cases hExec
  exact hBefore

theorem commitAssignment_establishes (h : Matches id state) :
    Establishes (fun _ => True) (Installed ⟨id, plan.publicMaterial⟩)
      (commitAssignment state plan) := by
  have hAny : ∀ script : AgentScript, Establishes (fun _ => True) (fun _ => True) script :=
    fun _ _ _ _ _ _ => trivial
  unfold commitAssignment
  refine Establishes.bind (hAny _) fun _ => ?_
  refine Establishes.bind (hAny _) fun _ => ?_
  refine Establishes.bind (hAny _) fun _ => ?_
  refine Establishes.bind (J := Installed ⟨id, plan.publicMaterial⟩) ?_ fun _ => ?_
  · unfold commitIngress
    refine Establishes.bind (hAny _) fun _ => ?_
    refine Establishes.ite Establishes.throw ?_
    refine Establishes.ite Establishes.throw ?_
    refine Establishes.bind (hAny _) fun _ => ?_
    refine Establishes.bind (hAny _) fun _ => ?_
    refine Establishes.bind (hAny _) fun _ => ?_
    exact installRouting_establishes (a := ⟨id, plan.publicMaterial⟩) h
  · apply Establishes.of_preserves
    apply Preserves.runCommand
    intro k k' hBefore hExec
    cases hExec
    exact hBefore

end

/-! ## Where the packets go -/

namespace GateHost

/-- Packets of every committed client leave through its own transit interface, and everything that
its commit installed is still there. -/
def Separates (s : GateHost) : Prop :=
  ∀ a ∈ s.committed,
    (∀ cidr ∈ a.publicMaterial.destinationCidrs, ∀ destination, cidr.Contains destination →
      s.kernel.resolve a.publicMaterial.clientAddress destination =
        some (transitInterface a.id)) ∧
    Installed a s.kernel

/-- What is committed is apart from all other committed assignments and finds nothing in its way;
what is revoked has another short id and another rule than they have. -/
def KeepsApart (s : GateHost) : AgentEvent → Prop
  | .prepare _ _ _ => True
  | .commit id plan _ =>
    Unhindered ⟨id, plan.publicMaterial⟩ s.kernel ∧
      ∀ a ∈ s.committed, a.id ≠ id → Apart a ⟨id, plan.publicMaterial⟩
  | .revoke id _ =>
    ∀ a ∈ s.committed, a.id ≠ id →
      shortAssignmentID a.id ≠ shortAssignmentID id ∧
      ∀ address ∈ (s.revokedFile id).clientAddress, a.ownRule ≠ assignmentRule id address

/-- The files describe the interfaces, and each committed assignment has its way for itself. -/
structure Routed (s : GateHost) : Prop where
  files : ∀ id, ∀ state ∈ s.files id, Matches id state
  installed : ∀ a ∈ s.committed, Installed a s.kernel
  unhindered : ∀ a ∈ s.committed, Unhindered a s.kernel

variable {s s' : GateHost} {id : AssignmentId} {plan : Plan}

theorem routed_empty : Routed ∅ where
  files := by
    intro id state hState
    cases hState
  installed := by
    intro a ha
    cases ha
  unhindered := by
    intro a ha
    cases ha

theorem Routed.separates (h : s.Routed) : s.Separates := by
  intro a ha
  refine ⟨?_, h.installed a ha⟩
  intro cidr hCidr destination hContains
  exact (h.installed a ha).resolve (h.unhindered a ha) hCidr hContains

theorem matches_derived : Matches id (derivedAssignmentState id) := ⟨rfl, rfl, rfl, rfl⟩

theorem Routed.revokedFile (h : s.Routed) : Matches id (s.revokedFile id) := by
  unfold GateHost.revokedFile
  cases hFile : s.files id with
  | none => exact matches_derived
  | some state => exact h.files id state hFile

theorem matches_prepared {existing : Option AssignmentState} {fresh : FreshMaterial}
    {state : AssignmentState} (hExisting : ∀ state ∈ existing, Matches id state)
    (h : prepareAssignment existing id plan fresh = some state) : Matches id state := by
  unfold prepareAssignment at h
  split at h
  · rename_i reused hReused
    cases h
    exact hExisting state (Option.filter_eq_some_iff.1 hReused).1
  · obtain ⟨-, hEq⟩ := Option.ite_none_left_eq_some.1 h
    cases hEq
    exact ⟨rfl, rfl, rfl, rfl⟩

theorem Routed.update (h : s.Routed) {state : AssignmentState} (hMatches : Matches id state) :
    ∀ id', ∀ state' ∈ Function.update s.files id (some state) id', Matches id' state' := by
  intro id' state' hState'
  by_cases hSame : id' = id
  · subst hSame
    rw [Function.update_self] at hState'
    cases hState'
    exact hMatches
  · rw [Function.update_of_ne hSame] at hState'
    exact h.files id' state' hState'

theorem Routed.prepare (h : s.Routed) {fresh : FreshMaterial}
    (hStep : s.prepare id plan fresh = some s') : s'.Routed := by
  unfold GateHost.prepare at hStep
  split at hStep
  · rename_i state hState
    cases hStep
    exact ⟨h.update (matches_prepared (h.files id) hState), h.installed, h.unhindered⟩
  · cases hStep

/-- A script whose commands spare the assignment keeps what it has, and keeps out of its way. -/
theorem spares_preserves {a : Ingress} {action : Action} (hSpares : action.Spares a) :
    Preserves (fun k => Installed a k ∧ Unhindered a k) (runAction action) := by
  apply Preserves.runCommand
  rintro k k' ⟨hInstalled, hUnhindered⟩ hExec
  exact ⟨hInstalled.exec hSpares hExec, hUnhindered.exec_spares hSpares hExec⟩

theorem Routed.commit (h : s.Routed) {outages : List Bool}
    (hApart : s.KeepsApart (.commit id plan outages))
    (hStep : s.commit id plan outages = some s') : s'.Routed := by
  obtain ⟨hNothing, hApart⟩ := hApart
  unfold GateHost.commit at hStep
  split at hStep
  · cases hStep
  rename_i state hState
  have hMatches := h.files id state hState
  have hOthers : ∀ a ∈ s.committed.filter (·.id ≠ id),
      Installed a (commitAssignment state plan ⟨s.kernel, outages⟩).2.state ∧
        Unhindered a (commitAssignment state plan ⟨s.kernel, outages⟩).2.state := by
    intro a ha
    obtain ⟨hMem, hOther⟩ := List.mem_filter.1 ha
    have hSpared := hApart a hMem (of_decide_eq_true hOther)
    have hKept := commitAssignment_preserves hMatches fun action hOwn =>
      spares_preserves (hOwn.spares hSpared)
    exact hKept ⟨s.kernel, outages⟩ ⟨h.installed a hMem, h.unhindered a hMem⟩
  have hOwnWay := commitAssignment_preserves hMatches
    (fun action hOwn => Preserves.runCommand fun k k' hBefore hExec =>
      Unhindered.exec_own hBefore hOwn hExec) ⟨s.kernel, outages⟩ hNothing
  have hNew := @commitAssignment_establishes id state plan hMatches ⟨s.kernel, outages⟩
  generalize commitAssignment state plan ⟨s.kernel, outages⟩ = after
    at hStep hOthers hOwnWay hNew
  obtain ⟨result, host⟩ := after
  cases hStep
  cases result with
  | ok _ =>
      refine ⟨h.files, ?_, ?_⟩
      · intro a ha
        rcases List.mem_cons.1 ha with rfl | hOld
        · exact hNew _ _ trivial rfl
        · exact (hOthers a hOld).1
      · intro a ha
        rcases List.mem_cons.1 ha with rfl | hOld
        · exact hOwnWay
        · exact (hOthers a hOld).2
  | error err => exact ⟨h.files, fun a ha => (hOthers a ha).1, fun a ha => (hOthers a ha).2⟩

theorem Routed.revoke (h : s.Routed) {outages : List Bool}
    (hApart : s.KeepsApart (.revoke id outages)) : (s.revoke id outages).Routed := by
  have hMatches : Matches id (s.revokedFile id) := h.revokedFile
  have hOthers : ∀ a ∈ s.committed.filter (·.id ≠ id),
      Installed a (revokeAssignment (s.revokedFile id) ⟨s.kernel, outages⟩).2.state ∧
        Unhindered a (revokeAssignment (s.revokedFile id) ⟨s.kernel, outages⟩).2.state := by
    intro a ha
    obtain ⟨hMem, hOther⟩ := List.mem_filter.1 ha
    obtain ⟨hShort, hRule⟩ := hApart a hMem (of_decide_eq_true hOther)
    have hKept := revokeAssignment_preserves hMatches fun action hRemoves =>
      spares_preserves (hRemoves.spares hShort hRule)
    exact hKept ⟨s.kernel, outages⟩ ⟨h.installed a hMem, h.unhindered a hMem⟩
  refine ⟨?_, fun a ha => (hOthers a ha).1, fun a ha => (hOthers a ha).2⟩
  unfold GateHost.revoke
  dsimp only
  generalize revokeAssignment (s.revokedFile id) ⟨s.kernel, outages⟩ = after
  obtain ⟨result, host⟩ := after
  dsimp only
  split
  · exact h.update ⟨hMatches.clientInterface, hMatches.transitInterface, hMatches.routingTable,
      hMatches.rulePriority⟩
  · exact h.files

theorem routed_step {e : AgentEvent} (h : s.Routed) (hApart : s.KeepsApart e)
    (hStep : s.step e = some s') : s'.Routed := by
  cases e with
  | prepare id plan fresh => exact h.prepare hStep
  | commit id plan outages => exact h.commit hApart hStep
  | revoke id outages =>
      cases hStep
      exact h.revoke hApart

/-- In every run that commits an assignment only apart from the other committed ones and with
nothing left in its way, the packets of every committed client go through its own transit interface,
and no other commit or revocation has taken a route from it. -/
theorem clients_separated {events : List AgentEvent} (hRun : run step ∅ events = some s)
    (hApart : StepsMeet step KeepsApart ∅ events) : s.Separates := by
  have hRouted : s.Routed :=
    run_invariant_of_stepsMeet (fun _ _ _ hRouted hCond hStep => routed_step hRouted hCond hStep)
      routed_empty hRun hApart
  exact hRouted.separates

instance KeepsApart.decidable : (e : AgentEvent) → Decidable (s.KeepsApart e)
  | .prepare _ _ _ => inferInstanceAs (Decidable True)
  | .commit _ _ _ => inferInstanceAs (Decidable (_ ∧ _))
  | .revoke _ _ => inferInstanceAs (Decidable (∀ a ∈ s.committed, _))

def firstId : AssignmentId := ascii "a268aa87-2607-479d-a050-914a9d33a01c"

/-- It has the routing table of `firstId`. -/
def sameTableId : AssignmentId := ascii "cca2a92b-03a5-4cc1-857a-40b22188287e"

def otherId : AssignmentId := ascii "0d7be3f2-5a19-4c86-9b1e-6f20c4d8a735"

/-- The full tunnel of a client. -/
def fullTunnel (clientAddress : Address) : Plan where
  publicMaterial :=
    { clientPublicKey := "client"
      clientAddress := clientAddress
      destinationCidrs := [⟨0, 0⟩] }
  egress :=
    { transitPublicKey := "egress"
      transitListenPort := 51820
      publicIPv4 := "192.0.2.1" }
  sourceCidr := ""

def freshKeys : FreshMaterial := ⟨"client private", 40000, "transit private", 40001⟩

def prepareAndCommit (id : AssignmentId) (clientAddress : Address) : List AgentEvent :=
  [.prepare id (fullTunnel clientAddress) freshKeys, .commit id (fullTunnel clientAddress) []]

/-- The address and the routing table of a revoked assignment are in use again. -/
def leasedAgain : List AgentEvent :=
  prepareAndCommit firstId 0x0A4D0002 ++ [.revoke firstId []] ++
    prepareAndCommit sameTableId 0x0A4D0002 ++ prepareAndCommit otherId 0x0A4D0003

theorem clients_separated_full_tunnels :
    ∃ s, run step ∅ leasedAgain = some s ∧
      s.committed.map (·.id) = [otherId, sameTableId] ∧ s.Separates := by
  have hExists : ∃ s ∈ run step ∅ leasedAgain, s.committed.map (·.id) = [otherId, sameTableId] := by
    decide +kernel
  obtain ⟨s, hRun, hCommitted⟩ := hExists
  exact ⟨s, hRun, hCommitted, clients_separated hRun (by decide +kernel)⟩

/-- Two clients with one routing table. -/
def oneTable : List AgentEvent :=
  prepareAndCommit firstId 0x0A4D0002 ++ prepareAndCommit sameTableId 0x0A4D0003

/-- The commit of the second client replaces the route of the first one: all packets of the first
leave through the tunnel of the second. -/
theorem not_clients_separated :
    ∃ s, run step ∅ oneTable = some s ∧
      ⟨firstId, (fullTunnel 0x0A4D0002).publicMaterial⟩ ∈ s.committed ∧
      s.kernel.resolve 0x0A4D0002 0xC6336401 = some (transitInterface sameTableId) ∧
      ¬s.Separates := by
  have hExists : ∃ s ∈ run step ∅ oneTable,
      ⟨firstId, (fullTunnel 0x0A4D0002).publicMaterial⟩ ∈ s.committed ∧
        s.kernel.resolve 0x0A4D0002 0xC6336401 = some (transitInterface sameTableId) := by
    decide +kernel
  obtain ⟨s, hRun, hCommitted, hResolve⟩ := hExists
  refine ⟨s, hRun, hCommitted, hResolve, ?_⟩
  intro hSeparates
  have hOwn := (hSeparates _ hCommitted).1 ⟨0, 0⟩ List.mem_cons_self 0xC6336401 (by decide)
  have hSame : transitInterface sameTableId = transitInterface firstId :=
    Option.some.inj (hResolve.symm.trans hOwn)
  exact absurd hSame (by decide +kernel)

end GateHost

end Hyperspace.Gate
