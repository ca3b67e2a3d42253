import Hyperspace.Foundations.Ipv4
import Mathlib.Data.List.MinMax
import Mathlib.Data.List.Sort

/-!
# Policy routing on a gate

What of the Linux kernel decides where a packet goes: the interfaces, the routes of all tables and
the rules in the order of their priorities. The local table is left out; it only takes packets to
the gate itself.
-/

namespace Hyperspace.Gate

/-- An IPv4 address. -/
abbrev Address := BitVec 32

/-- A block of addresses as routes and rules name it. -/
structure Cidr where
  address : Address
  prefixLength : Fin 33
  deriving DecidableEq

namespace Cidr

/-- How many bits are free. -/
def hostBits (c : Cidr) : Nat := 32 - c.prefixLength.val

def Contains (c : Cidr) (a : Address) : Prop := a >>> c.hostBits = c.address >>> c.hostBits

instance {c : Cidr} {a : Address} : Decidable (c.Contains a) :=
  inferInstanceAs (Decidable (_ = _))

/-- The free bits are zero; the kernel takes no other destinations. -/
def IsNetwork (c : Cidr) : Prop := c.address >>> c.hostBits <<< c.hostBits = c.address

instance {c : Cidr} : Decidable c.IsNetwork := inferInstanceAs (Decidable (_ = _))

/-- `a/32`. -/
def host (a : Address) : Cidr := ⟨a, 32⟩

/-- One of the two lies in the other. -/
def Overlaps (c d : Cidr) : Prop := c.Contains d.address ∨ d.Contains c.address

instance {c d : Cidr} : Decidable (c.Overlaps d) := inferInstanceAs (Decidable (_ ∨ _))

theorem contains_address (c : Cidr) : c.Contains c.address := rfl

theorem overlaps_self (c : Cidr) : c.Overlaps c := .inl c.contains_address

theorem shiftRight_eq_of_le {a b : Address} {m n : Nat} (hLe : m ≤ n) (h : a >>> m = b >>> m) :
    a >>> n = b >>> n := by
  obtain ⟨k, rfl⟩ := Nat.exists_eq_add_of_le hLe
  rw [BitVec.shiftRight_add, BitVec.shiftRight_add, h]

theorem overlaps_of_contains {c d : Cidr} {a : Address} (hc : c.Contains a) (hd : d.Contains a) :
    c.Overlaps d := by
  unfold Contains at hc hd
  rcases Nat.le_total d.hostBits c.hostBits with hLe | hLe
  · left
    unfold Contains
    rw [← hc]
    exact (shiftRight_eq_of_le hLe hd).symm
  · right
    unfold Contains
    rw [← hd]
    exact (shiftRight_eq_of_le hLe hc).symm

end Cidr

/-- The first bytes of the interface names say what they are for; the rest is the short id. -/
inductive Device where
  /-- `hsc…`, to the client. -/
  | client (short : List UInt8)
  /-- `hsti…`, from the ingress to the egress. -/
  | transit (short : List UInt8)
  deriving DecidableEq

structure Route where
  destination : Cidr
  device : Device
  table : Nat
  deriving DecidableEq

/-- Packets from `source` look into `table`. -/
structure Rule where
  source : Address
  table : Nat
  priority : Nat
  deriving DecidableEq

def mainTable : Nat := 254

/-- The part of the kernel's network state that the agent writes. -/
structure Kernel where
  links : List Device
  routes : List Route
  rules : List Rule

instance : EmptyCollection Kernel := ⟨⟨[], [], []⟩⟩

namespace Kernel

/-- The device of the longest matching prefix. -/
def lookup (k : Kernel) (table : Nat) (destination : Address) : Option Device :=
  ((k.routes.filter fun r => r.table = table ∧ r.destination.Contains destination).argmax
    fun r => r.destination.prefixLength).map (·.device)

/-- The interface that a packet leaves through. -/
def resolve (k : Kernel) (source destination : Address) : Option Device :=
  ((k.rules.filter fun rule => rule.source = source).findSome? fun rule =>
    k.lookup rule.table destination).or (k.lookup mainTable destination)

theorem lookup_eq_some {k : Kernel} {table : Nat} {destination : Address} {device : Device}
    (h : k.lookup table destination = some device) :
    ∃ r ∈ k.routes, r.table = table ∧ r.destination.Contains destination ∧ r.device = device := by
  obtain ⟨r, hMax, hDevice⟩ := Option.map_eq_some_iff.1 h
  have hMem := List.argmax_mem hMax
  rw [List.mem_filter, decide_eq_true_eq] at hMem
  exact ⟨r, hMem.1, hMem.2.1, hMem.2.2, hDevice⟩

theorem lookup_ne_none {k : Kernel} {r : Route} (hMem : r ∈ k.routes) {destination : Address}
    (hContains : r.destination.Contains destination) : k.lookup r.table destination ≠ none := by
  intro hNone
  have hEmpty := List.argmax_eq_none.1 (Option.map_eq_none_iff.1 hNone)
  have hFilter : r ∈ k.routes.filter fun r' =>
      r'.table = r.table ∧ r'.destination.Contains destination :=
    List.mem_filter.2 ⟨hMem, decide_eq_true ⟨rfl, hContains⟩⟩
  rw [hEmpty] at hFilter
  cases hFilter

/-- When all routes of a table to a destination leave through one device, and there is one, the
lookup finds that device. -/
theorem lookup_eq_of_unique {k : Kernel} {r : Route} (hMem : r ∈ k.routes) {destination : Address}
    (hContains : r.destination.Contains destination) {device : Device}
    (hUnique : ∀ r' ∈ k.routes, r'.table = r.table → r'.destination.Contains destination →
      r'.device = device) : k.lookup r.table destination = some device := by
  obtain ⟨found, hFound⟩ := Option.ne_none_iff_exists'.1 (lookup_ne_none hMem hContains)
  obtain ⟨r', hMem', hTable, hContains', rfl⟩ := lookup_eq_some hFound
  rw [hFound, hUnique r' hMem' hTable hContains']

/-- When all rules of a source are the same rule, and there is one, its table decides before the
main table does. -/
theorem resolve_eq_of_unique {k : Kernel} {rule : Rule} (hMem : rule ∈ k.rules)
    (hUnique : ∀ rule' ∈ k.rules, rule'.source = rule.source → rule' = rule)
    {destination : Address} {device : Device}
    (hLookup : k.lookup rule.table destination = some device) :
    k.resolve rule.source destination = some device := by
  have hFound : ((k.rules.filter fun rule' => rule'.source = rule.source).findSome? fun rule' =>
      k.lookup rule'.table destination) = some device := by
    have hAll : ∀ rule' ∈ k.rules.filter fun rule' => rule'.source = rule.source,
        k.lookup rule'.table destination = some device := by
      intro rule' hRule'
      rw [List.mem_filter, decide_eq_true_eq] at hRule'
      rw [hUnique rule' hRule'.1 hRule'.2]
      exact hLookup
    have hHas : rule ∈ k.rules.filter fun rule' => rule'.source = rule.source :=
      List.mem_filter.2 ⟨hMem, decide_eq_true rfl⟩
    cases hList : k.rules.filter fun rule' => rule'.source = rule.source with
    | nil =>
        rw [hList] at hHas
        cases hHas
    | cons first rest =>
        rw [List.findSome?_cons, hAll first (hList ▸ List.mem_cons_self)]
  rw [resolve, hFound]
  rfl

end Kernel

/-! ## What the agent does to its host -/

/-- The commands of the agent. The ones that do not speak about interfaces, routes or rules change
nothing here, but a script stops when they fail. -/
inductive Action where
  | sysctlIpForward
  | validateClientTunnel
  | writeState
  | nftAddRule
  | linkDelete (device : Device)
  | linkAdd (device : Device)
  | setTunnel (device : Device)
  | linkSetMtu (device : Device)
  | linkSetUp (device : Device)
  | routeReplace (route : Route)
  | routeDel (route : Route)
  | ruleAdd (rule : Rule)
  | ruleDel (rule : Rule)

namespace Kernel

/-- An interface takes its routes with it. -/
def linkDelete (k : Kernel) (device : Device) : Kernel :=
  { k with
    links := k.links.filter (· ≠ device)
    routes := k.routes.filter (·.device ≠ device) }

/-- At most one route of a table has a destination. -/
def routeReplace (k : Kernel) (route : Route) : Kernel :=
  { k with
    routes := route :: k.routes.filter fun r =>
      ¬(r.destination = route.destination ∧ r.table = route.table) }

/-- A new rule stands behind the ones with its priority. -/
def ruleAdd (k : Kernel) (rule : Rule) : Kernel :=
  { k with rules := k.rules.orderedInsert (fun a b => a.priority < b.priority) rule }

/-- What a command does; `none` when the kernel refuses it. -/
def exec (k : Kernel) : Action → Option Kernel
  | .sysctlIpForward | .validateClientTunnel | .writeState | .nftAddRule => some k
  | .linkDelete device => if device ∈ k.links then some (k.linkDelete device) else none
  | .linkAdd device =>
    if device ∈ k.links then none else some { k with links := device :: k.links }
  | .setTunnel device | .linkSetMtu device | .linkSetUp device =>
    if device ∈ k.links then some k else none
  | .routeReplace route =>
    if route.device ∈ k.links ∧ route.destination.IsNetwork then some (k.routeReplace route)
    else none
  | .routeDel route =>
    if route ∈ k.routes then some { k with routes := k.routes.filter (· ≠ route) } else none
  | .ruleAdd rule => if rule ∈ k.rules then none else some (k.ruleAdd rule)
  | .ruleDel rule => if rule ∈ k.rules then some { k with rules := k.rules.erase rule } else none

end Kernel

end Hyperspace.Gate
