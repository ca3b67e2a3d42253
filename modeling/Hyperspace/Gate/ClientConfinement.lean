import Hyperspace.Foundations.Runs
import Hyperspace.Gate.ForwardChain

/-!
# What the forward chain lets pass

Whatever is committed and revoked before, the chain decides about the packets between the two
interfaces of a committed assignment as if the rules of that assignment were all it had, as long as
no other assignment has the same interface names. Nothing else is decided: a packet between two
interfaces that no assignment connects is forwarded.
-/

namespace Hyperspace.Gate.ForwardChain

open Hyperspace.Foundations

/-! ## The rules of one assignment -/

namespace Installation

variable (c : Installation) (id : AssignmentId)

/-- The interface that the packets of the client come in through. -/
def inner : InterfaceName :=
  match c.role with
  | .ingress => clientName id
  | .egress => transitName .egress id

/-- The interface towards the destinations; an egress may find no default route. -/
def outer : Option InterfaceName :=
  match c.role with
  | .ingress => some (transitName .ingress id)
  | .egress => c.defaultRoute.map (·.device)

def forwardRules : List ForwardRule :=
  (c.outer id).elim [] (pairForwardRules id c.material (c.inner id))

def Leaves (p : Packet) : Prop := p.iifname = c.inner id ∧ c.outer id = some p.oifname

def Returns (p : Packet) : Prop := c.outer id = some p.iifname ∧ p.oifname = c.inner id

/-- The packet is from the client to one of its destinations. -/
def Admits (p : Packet) : Prop :=
  ∃ destination, p.addresses = some (c.material.clientAddress, destination) ∧
    ∃ cidr ∈ c.material.destinationCidrs, cidr.Contains destination

/-- The packet is from one of the destinations to the client, on a connection that is known. -/
def Answers (p : Packet) : Prop :=
  p.established = true ∧ ∃ source, p.addresses = some (source, c.material.clientAddress) ∧
    ∃ cidr ∈ c.material.destinationCidrs, cidr.Contains source

end Installation

variable {id owner : AssignmentId} {c c' : Installation} {r : ForwardRule} {p : Packet}
  {material : PublicMaterial} {inner outer : InterfaceName} {chain : List ForwardRule} {cidr : Cidr}

theorem mem_acceptRules :
    r ∈ acceptRules id material inner outer ↔
      ∃ cidr ∈ material.destinationCidrs,
        r = ⟨id, .toDestination, inner, outer, false, some (.host material.clientAddress),
          some cidr,
            .accept⟩ ∨
          r = ⟨id, .fromDestination, outer, inner, true, some cidr,
            some (.host material.clientAddress), .accept⟩ := by
  simp only [acceptRules, List.mem_flatMap, List.mem_pair]

theorem mem_pairForwardRules (h : r ∈ pairForwardRules id material inner outer) :
    r.handle = id ∧
      (r.iifname = inner ∧ r.oifname = outer ∨ r.iifname = outer ∧ r.oifname = inner) := by
  rcases List.mem_append.1 h with hAccept | hDrop
  · obtain ⟨cidr, -, rfl | rfl⟩ := mem_acceptRules.1 hAccept
    · exact ⟨rfl, .inl ⟨rfl, rfl⟩⟩
    · exact ⟨rfl, .inr ⟨rfl, rfl⟩⟩
  · rcases List.mem_pair.1 hDrop with rfl | rfl
    · exact ⟨rfl, .inl ⟨rfl, rfl⟩⟩
    · exact ⟨rfl, .inr ⟨rfl, rfl⟩⟩

theorem mem_acceptRules_of_verdict (h : r ∈ pairForwardRules id material inner outer)
    (hAccept : r.verdict = .accept) : r ∈ acceptRules id material inner outer := by
  rcases List.mem_append.1 h with hMem | hDrop
  · exact hMem
  · rcases List.mem_pair.1 hDrop with rfl | rfl
    · cases hAccept
    · cases hAccept

theorem host_contains_iff {a b : Address} : (Cidr.host a).Contains b ↔ b = a := by
  unfold Cidr.Contains
  simp [Cidr.host, Cidr.hostBits]

theorem matches_to_iff :
    ForwardRule.Matches ⟨id, .toDestination, inner, outer, false,
        some (.host material.clientAddress), some cidr, .accept⟩ p ↔
      inner = p.iifname ∧ outer = p.oifname ∧
        ∃ destination, p.addresses = some (material.clientAddress, destination) ∧
          cidr.Contains destination := by
  simp only [ForwardRule.Matches, Option.mem_def, Option.some.injEq, forall_eq', Bool.false_eq_true,
    false_implies, true_and, host_contains_iff]
  constructor
  · rintro ⟨hIn, hOut, ⟨⟨source, destination⟩, hAddresses, rfl⟩, addresses, hSame, hContains⟩
    cases hAddresses.symm.trans hSame
    exact ⟨hIn, hOut, destination, hAddresses, hContains⟩
  · rintro ⟨hIn, hOut, destination, hAddresses, hContains⟩
    exact ⟨hIn, hOut, ⟨_, hAddresses, rfl⟩, _, hAddresses, hContains⟩

theorem matches_from_iff :
    ForwardRule.Matches ⟨id, .fromDestination, outer, inner, true, some cidr,
        some (.host material.clientAddress), .accept⟩ p ↔
      outer = p.iifname ∧ inner = p.oifname ∧ p.established = true ∧
        ∃ source, p.addresses = some (source, material.clientAddress) ∧ cidr.Contains source := by
  simp only [ForwardRule.Matches, Option.mem_def, Option.some.injEq, forall_eq', true_implies,
    host_contains_iff]
  constructor
  · rintro ⟨hIn, hOut, hState, ⟨addresses, hSame, hContains⟩, ⟨source, destination⟩, hAddresses,
      rfl⟩
    cases hAddresses.symm.trans hSame
    exact ⟨hIn, hOut, hState, source, hAddresses, hContains⟩
  · rintro ⟨hIn, hOut, hState, source, hAddresses, hContains⟩
    exact ⟨hIn, hOut, hState, ⟨_, hAddresses, hContains⟩, _, hAddresses, rfl⟩

/-- The packets between the two interfaces that are accepted are the ones that an accepting rule is
for: behind these there is a rule that drops the rest. -/
theorem verdictOf_pairForwardRules
    (h : p.iifname = inner ∧ p.oifname = outer ∨ p.iifname = outer ∧ p.oifname = inner) :
    verdictOf (pairForwardRules id material inner outer) p = .accept ↔
      ∃ r ∈ acceptRules id material inner outer, r.Matches p := by
  apply firstVerdict_append_eq_iff
  · intro r hr
    obtain ⟨cidr, -, rfl | rfl⟩ := mem_acceptRules.1 hr
    · rfl
    · rfl
  · intro r hr
    rcases List.mem_pair.1 hr with rfl | rfl
    · simp
    · simp
  · rcases h with ⟨hIn, hOut⟩ | ⟨hIn, hOut⟩
    · exact ⟨_, List.mem_cons_self, hIn.symm, hOut.symm, by simp⟩
    · exact ⟨_, List.mem_cons_of_mem _ List.mem_cons_self, hIn.symm, hOut.symm, by simp⟩

namespace Installation

theorem forwardRules_of_outer (h : c.outer id = some outer) :
    c.forwardRules id = pairForwardRules id c.material (c.inner id) outer := by
  unfold forwardRules
  rw [h]
  rfl

theorem outer_ne_inner : c.outer id ≠ some (c.inner id) := by
  unfold outer inner
  cases hRole : c.role
  · exact fun hEq => clientName_ne_transitName (Option.some.inj hEq).symm
  · intro hEq
    obtain ⟨route, -, hDevice⟩ := Option.map_eq_some_iff.1 hEq
    exact route.transit _ _ hDevice

theorem outer_ne_clientName : c.outer id ≠ some (clientName owner) := by
  unfold outer
  cases hRole : c.role
  · exact fun hEq => clientName_ne_transitName (Option.some.inj hEq).symm
  · intro hEq
    obtain ⟨route, -, hDevice⟩ := Option.map_eq_some_iff.1 hEq
    exact route.client _ hDevice

theorem verdict_of_leaves (h : c.Leaves id p) :
    verdictOf (c.forwardRules id) p = .accept ↔ c.Admits p := by
  obtain ⟨hIn, hOut⟩ := h
  rw [forwardRules_of_outer hOut, verdictOf_pairForwardRules (.inl ⟨hIn, rfl⟩)]
  constructor
  · rintro ⟨r, hr, hMatches⟩
    obtain ⟨cidr, hCidr, rfl | rfl⟩ := mem_acceptRules.1 hr
    · obtain ⟨-, -, destination, hAddresses, hContains⟩ := matches_to_iff.1 hMatches
      exact ⟨destination, hAddresses, cidr, hCidr, hContains⟩
    · -- A rule for the way back has the interfaces the other way round.
      have hSame : p.oifname = c.inner id := (matches_from_iff.1 hMatches).1.trans hIn
      exact absurd (hOut.trans (congrArg some hSame)) outer_ne_inner
  · rintro ⟨destination, hAddresses, cidr, hCidr, hContains⟩
    exact ⟨_, mem_acceptRules.2 ⟨cidr, hCidr, .inl rfl⟩,
      matches_to_iff.2 ⟨hIn.symm, rfl, destination, hAddresses, hContains⟩⟩

theorem verdict_of_returns (h : c.Returns id p) :
    verdictOf (c.forwardRules id) p = .accept ↔ c.Answers p := by
  obtain ⟨hIn, hOut⟩ := h
  rw [forwardRules_of_outer hIn, verdictOf_pairForwardRules (.inr ⟨rfl, hOut⟩)]
  constructor
  · rintro ⟨r, hr, hMatches⟩
    obtain ⟨cidr, hCidr, rfl | rfl⟩ := mem_acceptRules.1 hr
    · have hSame : c.inner id = p.iifname := (matches_to_iff.1 hMatches).1
      exact absurd (hIn.trans (congrArg some hSame.symm)) outer_ne_inner
    · obtain ⟨-, -, hState, source, hAddresses, hContains⟩ := matches_from_iff.1 hMatches
      exact ⟨hState, source, hAddresses, cidr, hCidr, hContains⟩
  · rintro ⟨hState, source, hAddresses, cidr, hCidr, hContains⟩
    exact ⟨_, mem_acceptRules.2 ⟨cidr, hCidr, .inr rfl⟩,
      matches_from_iff.2 ⟨rfl, hOut.symm, hState, source, hAddresses, hContains⟩⟩

theorem not_reversed (hFront : c'.outer owner = some (c.inner id))
    (hBack : c.outer id = some (c'.inner owner)) : False := by
  unfold outer inner at hFront hBack
  cases hRole : c.role <;> cases hRole' : c'.role <;> rw [hRole, hRole'] at hFront hBack
  · exact clientName_ne_transitName (Option.some.inj hFront).symm
  · exact absurd (transitName_inj (Option.some.inj hBack)).1 (by decide)
  · exact absurd (transitName_inj (Option.some.inj hFront)).1 (by decide)
  · obtain ⟨route, -, hDevice⟩ := Option.map_eq_some_iff.1 hFront
    exact route.transit _ _ hDevice

theorem not_leaves_of_returns (hReturns : c'.Returns owner p) : ¬c.Leaves id p := by
  rintro ⟨hIn, hOut⟩
  exact not_reversed (hReturns.1.trans (congrArg some hIn)) (hOut.trans (congrArg some hReturns.2))

theorem role_of_inner_eq (h : c'.inner owner = c.inner id) :
    c'.role = c.role ∧ shortAssignmentID owner = shortAssignmentID id := by
  unfold inner at h
  cases hRole : c.role <;> cases hRole' : c'.role <;> rw [hRole, hRole'] at h
  · exact ⟨rfl, clientName_inj h⟩
  · exact absurd h.symm clientName_ne_transitName
  · exact absurd h clientName_ne_transitName
  · exact ⟨rfl, (transitName_inj h).2⟩

theorem handle_of_mem_forwardRules (h : r ∈ c.forwardRules id) : r.handle = id := by
  cases hOuter : c.outer id with
  | none =>
      rw [forwardRules, hOuter] at h
      cases h
  | some outer =>
      rw [forwardRules_of_outer hOuter] at h
      exact (mem_pairForwardRules h).1

theorem connects_of_matches (hMem : r ∈ c.forwardRules id) (hMatches : r.Matches p) :
    c.Leaves id p ∨ c.Returns id p := by
  cases hOuter : c.outer id with
  | none =>
      rw [forwardRules, hOuter] at hMem
      cases hMem
  | some outer =>
      rw [forwardRules_of_outer hOuter] at hMem
      obtain ⟨-, ⟨hFront, hBack⟩ | ⟨hFront, hBack⟩⟩ := mem_pairForwardRules hMem
      · exact .inl ⟨hMatches.1.symm.trans hFront,
          hOuter.trans (congrArg some (hBack.symm.trans hMatches.2.1))⟩
      · exact .inr ⟨hOuter.trans (congrArg some (hFront.symm.trans hMatches.1)),
          hMatches.2.1.symm.trans hBack⟩

/-- A rule that accepts what leaves through its interfaces is for a packet of its client. -/
theorem admits_of_matches (hMem : r ∈ c.forwardRules id) (hMatches : r.Matches p)
    (hAccept : r.verdict = .accept) (hLeaves : c.Leaves id p) : c.Admits p := by
  rw [← verdict_of_leaves hLeaves]
  rw [forwardRules_of_outer hLeaves.2] at hMem ⊢
  exact (verdictOf_pairForwardRules (.inl ⟨hLeaves.1, rfl⟩)).2
    ⟨r, mem_acceptRules_of_verdict hMem hAccept, hMatches⟩

/-- Assignments with a packet in common have the same role and the same short id. -/
theorem same_of_connects (h : c.Leaves id p ∨ c.Returns id p)
    (h' : c'.Leaves owner p ∨ c'.Returns owner p) :
    c'.role = c.role ∧ shortAssignmentID owner = shortAssignmentID id := by
  rcases h with hLeaves | hReturns <;> rcases h' with hLeaves' | hReturns'
  · exact role_of_inner_eq (hLeaves'.1.symm.trans hLeaves.1)
  · exact (not_leaves_of_returns hReturns' hLeaves).elim
  · exact (not_leaves_of_returns hReturns hLeaves').elim
  · exact role_of_inner_eq (hReturns'.2.symm.trans hReturns.2)

end Installation

/-! ## What a commit adds -/

/-- The part of a commit behind the deletion. -/
def installForward (id : AssignmentId) (file : AssignmentFile) (plan : NetworkPlan)
    (defaultRoute : Option DefaultRoute) : ChainScript := do
  (match file.role with
    | .ingress => commitIngress id file plan
    | .egress => commitEgress id file plan defaultRoute : ChainScript)
  otherCommands

/-- The rules of an assignment, in their order. -/
def rulesOf (id : AssignmentId) (chain : List ForwardRule) : List ForwardRule :=
  chain.filter fun r => r.handle = id

/-- The chain without the rules of an assignment. -/
def withoutRules (id : AssignmentId) (chain : List ForwardRule) : List ForwardRule :=
  chain.filter fun r => r.handle ≠ id

variable {file : AssignmentFile} {plan : NetworkPlan} {defaultRoute : Option DefaultRoute}
  {host : Host (List ForwardRule)} {base : List ForwardRule}

theorem commitAssignment_apply :
    commitAssignment id file plan defaultRoute host =
      installForward id file plan defaultRoute (deleteNftRules id host).2 := by
  have hOk : deleteNftRules id host = (.ok (), (deleteNftRules id host).2) := by
    unfold deleteNftRules
    split <;> rfl
  change (deleteNftRules id >>= fun _ => installForward id file plan defaultRoute) host = _
  rw [script_bind_apply, hOk]

theorem revokeAssignment_apply :
    revokeAssignment id host = otherCommands (deleteNftRules id host).2 := by
  have hOk : deleteNftRules id host = (.ok (), (deleteNftRules id host).2) := by
    unfold deleteNftRules
    split <;> rfl
  change (deleteNftRules id >>= fun _ => otherCommands) host = _
  rw [script_bind_apply, hOk]

theorem forwardRules_ingress (hRole : file.role = .ingress) :
    (file.installation plan defaultRoute).forwardRules id =
      ingressForwardRules id plan.publicMaterial := by
  simp only [Installation.forwardRules, Installation.outer, Installation.inner,
    AssignmentFile.installation, hRole, Option.elim_some, ingressForwardRules]

theorem forwardRules_egress {route : DefaultRoute} (hRole : file.role = .egress) :
    (file.installation plan (some route)).forwardRules id =
      egressForwardRules id plan.publicMaterial route.device := by
  simp only [Installation.forwardRules, Installation.outer, Installation.inner,
    AssignmentFile.installation, hRole, Option.map_some, Option.elim_some, egressForwardRules]

theorem otherCommands_preserves {I : List ForwardRule → Prop} : Preserves I otherCommands := by
  apply Preserves.runCommand
  intro chain chain' h hCommand
  cases hCommand
  exact h

theorem addForwardRule_preserves {I : List ForwardRule → Prop}
    (hAdd : ∀ chain, I chain → I (chain ++ [r])) : Preserves I (addForwardRule r) := by
  apply Preserves.runCommand
  intro chain chain' h hCommand
  cases hCommand
  exact hAdd chain h

theorem addForwardRules_establishes {rules : List ForwardRule} :
    Establishes (· = base) (· = base ++ rules) (rules.forM addForwardRule) := by
  induction rules generalizing base with
  | nil =>
      rw [List.append_nil]
      exact Establishes.of_preserves Preserves.pure
  | cons r rules ih =>
      have hFirst : Establishes (· = base) (· = base ++ [r]) (addForwardRule r) := by
        apply Establishes.runCommand
        rintro chain chain' rfl hCommand
        cases hCommand
        rfl
      rw [← List.singleton_append, ← List.append_assoc]
      exact Establishes.bind hFirst fun _ => ih

theorem installForward_preserves {I : List ForwardRule → Prop}
    (hAdd : ∀ r ∈ (file.installation plan defaultRoute).forwardRules id, ∀ chain, I chain →
      I (chain ++ [r])) :
    Preserves I (installForward id file plan defaultRoute) := by
  unfold installForward
  refine Preserves.bind ?_ fun _ => otherCommands_preserves
  cases hRole : file.role with
  | ingress =>
      rw [forwardRules_ingress hRole] at hAdd
      refine Preserves.ite Preserves.throw (Preserves.ite Preserves.throw
        (Preserves.ite Preserves.throw (Preserves.bind otherCommands_preserves fun _ => ?_)))
      exact Preserves.forM fun r hr => addForwardRule_preserves (hAdd r hr)
  | egress =>
      refine Preserves.ite Preserves.throw ?_
      cases defaultRoute with
      | none => exact Preserves.throw
      | some route =>
          rw [forwardRules_egress hRole] at hAdd
          refine Preserves.ite Preserves.throw (Preserves.bind otherCommands_preserves fun _ => ?_)
          exact Preserves.forM fun r hr => addForwardRule_preserves (hAdd r hr)

theorem installForward_establishes :
    Establishes (· = base) (· = base ++ (file.installation plan defaultRoute).forwardRules id)
      (installForward id file plan defaultRoute) := by
  have hOther : ∀ I : List ForwardRule → Prop, Establishes I I otherCommands :=
    fun _ => Establishes.of_preserves otherCommands_preserves
  unfold installForward
  refine Establishes.bind ?_ fun _ => hOther _
  cases hRole : file.role with
  | ingress =>
      rw [forwardRules_ingress hRole]
      exact Establishes.ite Establishes.throw (Establishes.ite Establishes.throw
        (Establishes.ite Establishes.throw
          (Establishes.bind (hOther _) fun _ => addForwardRules_establishes)))
  | egress =>
      refine Establishes.ite Establishes.throw ?_
      cases defaultRoute with
      | none => exact Establishes.throw
      | some route =>
          rw [forwardRules_egress hRole]
          exact Establishes.ite Establishes.throw
            (Establishes.bind (hOther _) fun _ => addForwardRules_establishes)

/-! ## Runs -/

theorem no_outage_succ {outages : List Bool} {n : Nat}
    (h : ∀ lost ∈ outages.take (n + 1), lost = false) :
    outages.headD false = false ∧ ∀ lost ∈ outages.tail.take n, lost = false := by
  cases outages with
  | nil => simp
  | cons first rest =>
      rw [List.take_succ_cons] at h
      exact ⟨h first List.mem_cons_self, fun lost hLost => h lost (List.mem_cons_of_mem _ hLost)⟩

theorem deleteListed_eq {outages : List Bool}
    (h : ∀ lost ∈ outages.take (rulesOf id chain).length, lost = false) :
    (deleteListed id chain outages).1 = withoutRules id chain := by
  induction chain generalizing outages with
  | nil => rfl
  | cons r chain ih =>
      by_cases hOwn : r.handle = id
      · have hRules : rulesOf id (r :: chain) = r :: rulesOf id chain :=
          List.filter_cons_of_pos (decide_eq_true hOwn)
        have hGone : withoutRules id (r :: chain) = withoutRules id chain :=
          List.filter_cons_of_neg (by simp [hOwn])
        rw [hRules, List.length_cons] at h
        obtain ⟨hDone, hRest⟩ := no_outage_succ h
        rw [hGone, ← ih hRest, deleteListed, if_pos hOwn]
        simp only [hDone, Bool.false_eq_true, if_false]
      · have hRules : rulesOf id (r :: chain) = rulesOf id chain :=
          List.filter_cons_of_neg (by simp [hOwn])
        have hKept : withoutRules id (r :: chain) = r :: withoutRules id chain :=
          List.filter_cons_of_pos (decide_eq_true hOwn)
        rw [hRules] at h
        rw [hKept, ← ih h, deleteListed, if_neg hOwn]

/-- When the chain is listed and no deletion is lost, the rules of the assignment are gone. -/
theorem deleteNftRules_eq {outages : List Bool}
    (h : ∀ lost ∈ outages.take (1 + (rulesOf id chain).length), lost = false) :
    ∃ rest, (deleteNftRules id ⟨chain, outages⟩).2 = ⟨withoutRules id chain, rest⟩ := by
  rw [Nat.add_comm] at h
  obtain ⟨hListed, hRest⟩ := no_outage_succ h
  refine ⟨(deleteListed id chain outages.tail).2, ?_⟩
  rw [← deleteListed_eq hRest]
  simp only [deleteNftRules, hListed, Bool.false_eq_true, if_false]

theorem rulesOf_withoutRules_self : rulesOf id (withoutRules id chain) = [] := by
  unfold rulesOf withoutRules
  rw [List.filter_filter, List.filter_eq_nil_iff]
  intro r _
  simp

theorem rulesOf_withoutRules_of_ne (h : owner ≠ id) :
    rulesOf owner (withoutRules id chain) = rulesOf owner chain := by
  unfold rulesOf withoutRules
  rw [List.filter_filter]
  apply List.filter_congr
  intro r _
  by_cases hOwner : r.handle = owner
  · simp [hOwner, h]
  · simp [hOwner]

theorem rulesOf_append_forwardRules_of_ne (h : owner ≠ id) (hMem : r ∈ c.forwardRules id) :
    rulesOf owner (chain ++ [r]) = rulesOf owner chain := by
  unfold rulesOf
  rw [List.filter_append, List.filter_singleton, Installation.handle_of_mem_forwardRules hMem]
  simp [h.symm]

theorem rulesOf_forwardRules : rulesOf id (c.forwardRules id) = c.forwardRules id :=
  List.filter_eq_self.2 fun _ hr =>
    decide_eq_true (Installation.handle_of_mem_forwardRules hr)

namespace ChainHost

/-- The chain is listed, and no deletion of a rule is lost. -/
def DeletesRules (s : ChainHost) : ChainEvent → Prop
  | .prepare _ _ _ _ => True
  | .commit id _ _ outages | .revoke id _ outages =>
    ∀ lost ∈ outages.take (1 + (rulesOf id s.chain).length), lost = false

instance {s : ChainHost} {e : ChainEvent} : Decidable (s.DeletesRules e) := by
  cases e <;> unfold DeletesRules <;> infer_instance

/-- Every rule belongs to an installation, and a committed assignment has its rules in order. -/
structure Tracked (s : ChainHost) : Prop where
  rules : ∀ r ∈ s.chain, ∃ c ∈ s.installations r.handle, r ∈ c.forwardRules r.handle
  complete : ∀ id ∈ s.committed, ∃ c ∈ s.installations id, rulesOf id s.chain = c.forwardRules id

variable {s s' : ChainHost}

theorem tracked_empty : Tracked ∅ where
  rules := by
    intro r hr
    cases hr
  complete := by
    intro id hId
    cases hId

namespace Tracked

theorem prepare {role : Role} {fresh : FreshMaterial} (h : s.Tracked)
    (hStep : s.prepare id role plan fresh = some s') : s'.Tracked := by
  unfold ChainHost.prepare at hStep
  split at hStep
  · cases hStep
    exact ⟨h.rules, h.complete⟩
  · cases hStep

theorem commit {outages : List Bool} (h : s.Tracked)
    (hDeletes : s.DeletesRules (.commit id plan defaultRoute outages))
    (hStep : s.commit id plan defaultRoute outages = some s') : s'.Tracked := by
  unfold ChainHost.commit at hStep
  split at hStep
  · cases hStep
  · rename_i file hFile
    obtain ⟨rest, hDeleted⟩ := deleteNftRules_eq hDeletes
    rw [commitAssignment_apply, hDeleted] at hStep
    -- Only its own rules come into the chain, and those of the others stay.
    have hRules : Preserves (fun chain => ∀ r ∈ chain,
        r ∈ (file.installation plan defaultRoute).forwardRules id ∨ r.handle ≠ id ∧ r ∈ s.chain)
        (installForward id file plan defaultRoute) := by
      apply installForward_preserves
      intro r hr chain hBefore r' hr'
      rcases List.mem_append.1 hr' with hOld | hNew
      · exact hBefore r' hOld
      · rw [List.mem_singleton.1 hNew]
        exact .inl hr
    have hOthers : ∀ a, a ≠ id → Preserves (fun chain => rulesOf a chain = rulesOf a s.chain)
        (installForward id file plan defaultRoute) := by
      intro a hOther
      apply installForward_preserves
      intro r hr chain hBefore
      rw [rulesOf_append_forwardRules_of_ne hOther hr, hBefore]
    have hRulesAfter := hRules ⟨withoutRules id s.chain, rest⟩ fun r hr =>
      .inr ((List.mem_filter.1 hr).symm.imp_left of_decide_eq_true)
    have hOthersAfter := fun a hOther =>
      hOthers a hOther ⟨withoutRules id s.chain, rest⟩ (rulesOf_withoutRules_of_ne hOther)
    have hNew := fun result host =>
      @installForward_establishes id file plan defaultRoute _
        ⟨withoutRules id s.chain, rest⟩ result host rfl
    generalize installForward id file plan defaultRoute ⟨withoutRules id s.chain, rest⟩ = after
      at hStep hRulesAfter hOthersAfter hNew
    obtain ⟨result, host⟩ := after
    cases hStep
    constructor
    · intro r hr
      rcases hRulesAfter r hr with hOwn | ⟨hOther, hOld⟩
      · rw [Installation.handle_of_mem_forwardRules hOwn]
        exact ⟨_, Function.update_self .., hOwn⟩
      · obtain ⟨c, hc, hMem⟩ := h.rules r hOld
        exact ⟨c, (Function.update_of_ne hOther ..).trans hc, hMem⟩
    · intro a ha
      by_cases hSame : a = id
      · subst hSame
        refine ⟨_, Function.update_self .., ?_⟩
        cases result with
        | ok _ =>
            dsimp only
            rw [hNew _ _ rfl, rulesOf, List.filter_append]
            change rulesOf a _ ++ rulesOf a _ = _
            rw [rulesOf_withoutRules_self, rulesOf_forwardRules, List.nil_append]
        | error err => exact absurd rfl (of_decide_eq_true (List.mem_filter.1 ha).2)
      · have haOld : a ∈ s.committed := by
          dsimp only at ha
          split at ha
          · exact (List.mem_insert_iff.1 ha).resolve_left hSame
          · exact List.mem_of_mem_filter ha
        obtain ⟨c, hc, hAll⟩ := h.complete a haOld
        exact ⟨c, (Function.update_of_ne hSame ..).trans hc, (hOthersAfter a hSame).trans hAll⟩

theorem revoke {role : Role} {outages : List Bool} (h : s.Tracked)
    (hDeletes : s.DeletesRules (.revoke id role outages)) : (s.revoke id role outages).Tracked := by
  obtain ⟨rest, hDeleted⟩ := deleteNftRules_eq hDeletes
  have hChain : (s.revoke id role outages).chain = withoutRules id s.chain := by
    have hKept := @otherCommands_preserves (· = withoutRules id s.chain)
      (deleteNftRules id ⟨s.chain, outages⟩).2 (by rw [hDeleted])
    rw [← hKept]
    exact congrArg (·.2.state) revokeAssignment_apply
  constructor
  · intro r hr
    rw [hChain] at hr
    obtain ⟨hMem, hOther⟩ := List.mem_filter.1 hr
    obtain ⟨c, hc, hRule⟩ := h.rules r hMem
    exact ⟨c, (Function.update_of_ne (of_decide_eq_true hOther) ..).trans hc, hRule⟩
  · intro a ha
    obtain ⟨hMem, hOther⟩ := List.mem_filter.1 ha
    rw [decide_eq_true_eq] at hOther
    obtain ⟨c, hc, hAll⟩ := h.complete a hMem
    refine ⟨c, (Function.update_of_ne hOther ..).trans hc, ?_⟩
    rw [hChain, rulesOf_withoutRules_of_ne hOther, hAll]

theorem step {e : ChainEvent} (h : s.Tracked) (hDeletes : s.DeletesRules e)
    (hStep : s.step e = some s') : s'.Tracked := by
  cases e with
  | prepare id role plan fresh => exact h.prepare hStep
  | commit id plan defaultRoute outages => exact h.commit hDeletes hStep
  | revoke id role outages =>
      cases hStep
      exact h.revoke hDeletes

end Tracked

/-! ## What is forwarded -/

/-- No other assignment on the gate has the same interface names. -/
def Unshared (s : ChainHost) (id : AssignmentId) (c : Installation) : Prop :=
  ∀ owner, ∀ c' ∈ s.installations owner, c'.role = c.role →
    shortAssignmentID owner = shortAssignmentID id → owner = id

/-- What a gate forwards, for every packet and whatever interface the kernel routes it to. -/
structure ForwardsAsPlanned (s : ChainHost) : Prop where
  /-- From the client to its destinations, and nothing else. -/
  outward : ∀ id ∈ s.committed, ∀ c ∈ s.installations id, s.Unshared id c → ∀ p, c.Leaves id p →
    (verdictOf s.chain p = .accept ↔ c.Admits p)
  /-- From the destinations to the client on known connections, and nothing else. -/
  inward : ∀ id ∈ s.committed, ∀ c ∈ s.installations id, s.Unshared id c → ∀ p, c.Returns id p →
    (verdictOf s.chain p = .accept ↔ c.Answers p)
  /-- Also with shared names, what leaves is a packet of a client with these names. -/
  shared : ∀ id ∈ s.committed, ∀ c ∈ s.installations id, ∀ p, c.Leaves id p →
    verdictOf s.chain p = .accept →
      ∃ owner, ∃ c' ∈ s.installations owner,
        c'.role = c.role ∧ shortAssignmentID owner = shortAssignmentID id ∧ c'.Admits p
  /-- Everything between interfaces that no assignment connects. -/
  elsewhere : ∀ p, (∀ owner, ∀ c ∈ s.installations owner, ¬(c.Leaves owner p ∨ c.Returns owner p)) →
    verdictOf s.chain p = .accept

namespace Tracked

theorem verdict_eq (h : s.Tracked) (hId : id ∈ s.committed) (hc : c ∈ s.installations id)
    (hAlone : s.Unshared id c) (hConnects : c.Leaves id p ∨ c.Returns id p) :
    verdictOf s.chain p = verdictOf (c.forwardRules id) p := by
  obtain ⟨c', hc', hRules⟩ := h.complete id hId
  cases hc.symm.trans hc'
  rw [← hRules]
  refine (firstVerdict_filter fun r hMem hMatches => decide_eq_true ?_).symm
  obtain ⟨c', hc', hRule⟩ := h.rules r hMem
  obtain ⟨hRole, hShort⟩ :=
    Installation.same_of_connects hConnects (Installation.connects_of_matches hRule hMatches)
  exact hAlone r.handle c' hc' hRole hShort

theorem shared (h : s.Tracked) (hId : id ∈ s.committed) (hc : c ∈ s.installations id)
    (hLeaves : c.Leaves id p) (hAccept : verdictOf s.chain p = .accept) :
    ∃ owner, ∃ c' ∈ s.installations owner,
      c'.role = c.role ∧ shortAssignmentID owner = shortAssignmentID id ∧ c'.Admits p := by
  obtain ⟨c', hc', hRules⟩ := h.complete id hId
  cases hc.symm.trans hc'
  have hMeets : ∃ r ∈ s.chain, r.Matches p := by
    have hDrop :
        (⟨id, .toDestination, p.iifname, p.oifname, false, none, none, .drop⟩ : ForwardRule) ∈
        c.forwardRules id := by
      rw [Installation.forwardRules_of_outer hLeaves.2, ← hLeaves.1]
      exact List.mem_append_right _ List.mem_cons_self
    rw [← hRules] at hDrop
    exact ⟨_, List.mem_of_mem_filter hDrop, rfl, rfl, by simp⟩
  obtain ⟨r, hMem, hMatches, hVerdict⟩ :
      ∃ r ∈ s.chain, r.Matches p ∧ r.verdict = verdictOf s.chain p :=
    exists_mem_of_firstVerdict hMeets
  obtain ⟨c', hc', hRule⟩ := h.rules r hMem
  have hConnects := Installation.connects_of_matches hRule hMatches
  obtain ⟨hRole, hShort⟩ := Installation.same_of_connects (.inl hLeaves) hConnects
  have hLeaves' := hConnects.resolve_right fun hReturns =>
    Installation.not_leaves_of_returns hReturns hLeaves
  exact ⟨r.handle, c', hc', hRole, hShort,
    Installation.admits_of_matches hRule hMatches (hVerdict.trans hAccept) hLeaves'⟩

theorem forwardsAsPlanned (h : s.Tracked) : s.ForwardsAsPlanned where
  outward := by
    intro id hId c hc hAlone p hLeaves
    rw [h.verdict_eq hId hc hAlone (.inl hLeaves)]
    exact Installation.verdict_of_leaves hLeaves
  inward := by
    intro id hId c hc hAlone p hReturns
    rw [h.verdict_eq hId hc hAlone (.inr hReturns)]
    exact Installation.verdict_of_returns hReturns
  shared := by
    intro id hId c hc p hLeaves hAccept
    exact h.shared hId hc hLeaves hAccept
  elsewhere := by
    intro p hNone
    refine firstVerdict_of_forall_not fun r hMem hMatches => ?_
    obtain ⟨c, hc, hRule⟩ := h.rules r hMem
    exact hNone r.handle c hc (Installation.connects_of_matches hRule hMatches)

end Tracked

theorem tracked_of_run {events : List ChainEvent} (hRun : run step ∅ events = some s)
    (hDeletes : StepsMeet step DeletesRules ∅ events) : s.Tracked :=
  run_invariant_of_stepsMeet (fun _ _ _ h hDeletes hStep => h.step hDeletes hStep) tracked_empty
    hRun
    hDeletes

/-- Prepare, commit and revoke assignments of both roles in any order, with commits that fail, but
not in the deletion of old rules. -/
theorem gate_forwards_as_planned {events : List ChainEvent} (hRun : run step ∅ events = some s)
    (hDeletes : StepsMeet step DeletesRules ∅ events) : s.ForwardsAsPlanned :=
  (tracked_of_run hRun hDeletes).forwardsAsPlanned

/-- The rules do not keep clients of one gate apart: what the kernel routes from one to the other is
forwarded. -/
theorem clients_reach_each_other {events : List ChainEvent} (hRun : run step ∅ events = some s)
    (hDeletes : StepsMeet step DeletesRules ∅ events) {a b : AssignmentId}
    (hIn : p.iifname = clientName a) (hOut : p.oifname = clientName b) :
    verdictOf s.chain p = .accept := by
  apply (tracked_of_run hRun hDeletes).forwardsAsPlanned.elsewhere
  rintro owner c - (⟨-, hOuter⟩ | ⟨hOuter, -⟩)
  · exact Installation.outer_ne_clientName (hOuter.trans (congrArg some hOut))
  · exact Installation.outer_ne_clientName (hOuter.trans (congrArg some hIn))

def firstId : AssignmentId := ascii "a268aa87-2607-479d-a050-914a9d33a01c"

def otherId : AssignmentId := ascii "0d7be3f2-5a19-4c86-9b1e-6f20c4d8a735"

def transitEnd : EgressMaterial := ⟨"transit public", 51820, "192.0.2.1"⟩

/-- The plan of a client that may send to 198.51.100.0/24. -/
def samplePlan (clientAddress : Address) : NetworkPlan where
  publicMaterial := ⟨"client public", clientAddress, [⟨0xC6336400, 24⟩]⟩
  ingress := transitEnd
  egress := transitEnd

/-- Its first byte is none of a tunnel. -/
def ens3 : DefaultRoute where
  device := ascii "ens3"
  client := by
    intro id hEq
    have hFirst : (ascii "ens3")[0]? = (clientName id)[0]? := congrArg (·[0]?) hEq
    exact absurd hFirst (show ¬(some (0x65 : UInt8) = some 0x68) by decide)
  transit := by
    intro role id hEq
    have hFirst : (ascii "ens3")[0]? = (transitName role id)[0]? := congrArg (·[0]?) hEq
    exact absurd hFirst (show ¬(some (0x65 : UInt8) = some 0x68) by decide)

def freshKeys : FreshMaterial := ⟨"client private", 40000, "transit private", 40001⟩

/-- Two assignments of one role are prepared and committed; the first commit of the second one fails
at its second rule. -/
def commitTwo (role : Role) : List ChainEvent :=
  [.prepare firstId role (samplePlan 0x0A4D0002) freshKeys,
    .prepare otherId role (samplePlan 0x0A4D0003) freshKeys,
    .commit firstId (samplePlan 0x0A4D0002) (some ens3) [],
    .commit otherId (samplePlan 0x0A4D0003) (some ens3) [false, false, false, true],
    .commit otherId (samplePlan 0x0A4D0003) (some ens3) []]

theorem two_egresses_forward_as_planned :
    ∃ s, run step ∅ (commitTwo .egress) = some s ∧ firstId ∈ s.committed ∧ otherId ∈ s.committed ∧
      s.ForwardsAsPlanned := by
  have hExists : ∃ s ∈ run step ∅ (commitTwo .egress),
      firstId ∈ s.committed ∧ otherId ∈ s.committed := by
    decide +kernel
  obtain ⟨s, hRun, hFirst, hOther⟩ := hExists
  exact ⟨s, hRun, hFirst, hOther, gate_forwards_as_planned hRun (by decide +kernel)⟩

/-- Another plan, for 203.0.113.0/24. -/
def otherPlan : NetworkPlan :=
  { samplePlan 0x0A4D0002 with
    publicMaterial := ⟨"client public", 0x0A4D0002, [⟨0xCB007100, 24⟩]⟩ }

/-- Where the chain cannot be listed, the rules of the old plan stay in front and decide. -/
example : ∃ s ∈ run step ∅
    [.prepare firstId .ingress otherPlan freshKeys, .commit firstId (samplePlan 0x0A4D0002) none [],
      .commit firstId otherPlan none [true]],
    firstId ∈ s.committed ∧
      verdictOf s.chain ⟨clientName firstId, transitName .ingress firstId, false,
        some (0x0A4D0002, 0xCB007101)⟩ = .drop := by
  decide +kernel

end ChainHost

end Hyperspace.Gate.ForwardChain
