import Mathlib.Data.List.Find

/-!
# Decision lists

A list of rules that a query goes through from the front. The first rule that the query meets
decides; a query that meets no rule gets the default.
-/

namespace Hyperspace.Foundations

section

variable {ρ π ν : Type} (Meets : ρ → π → Prop) [∀ r p, Decidable (Meets r p)] (verdict : ρ → ν)
  (policy : ν)

def firstVerdict (rules : List ρ) (p : π) : ν :=
  match rules.find? fun r => Meets r p with
  | some r => verdict r
  | none => policy

variable {Meets verdict policy} {rules rules' : List ρ} {p : π} {v : ν}

theorem firstVerdict_of_forall_not (h : ∀ r ∈ rules, ¬Meets r p) :
    firstVerdict Meets verdict policy rules p = policy := by
  have hNone : rules.find? (fun r => Meets r p) = none :=
    List.find?_eq_none.2 fun r hr hMeets => h r hr (of_decide_eq_true hMeets)
  rw [firstVerdict, hNone]

theorem exists_mem_of_firstVerdict (h : ∃ r ∈ rules, Meets r p) :
    ∃ r ∈ rules, Meets r p ∧ verdict r = firstVerdict Meets verdict policy rules p := by
  obtain ⟨r, hMem, hMeets⟩ := h
  have hFound : (rules.find? fun r => Meets r p).isSome :=
    List.find?_isSome.2 ⟨r, hMem, decide_eq_true hMeets⟩
  obtain ⟨first, hFirst⟩ := Option.isSome_iff_exists.1 hFound
  have hFirstMeets := List.find?_some hFirst
  rw [firstVerdict, hFirst]
  exact ⟨first, List.mem_of_find?_eq_some hFirst, of_decide_eq_true hFirstMeets, rfl⟩

theorem firstVerdict_filter {keep : ρ → Bool} (h : ∀ r ∈ rules, Meets r p → keep r = true) :
    firstVerdict Meets verdict policy (rules.filter keep) p =
      firstVerdict Meets verdict policy rules p := by
  have hSame : (rules.filter keep).find? (fun r => Meets r p) =
      rules.find? fun r => Meets r p := by
    rw [List.find?_filter]
    apply List.find?_congr
    intro r hr
    by_cases hMeets : Meets r p
    · simp [hMeets, h r hr hMeets]
    · simp [hMeets]
  rw [firstVerdict, firstVerdict, hSame]

/-- Rules with one verdict, before others that a query meets and that have another one. -/
theorem firstVerdict_append_eq_iff (hFirst : ∀ r ∈ rules, verdict r = v)
    (hRest : ∀ r ∈ rules', verdict r ≠ v) (hMeets : ∃ r ∈ rules', Meets r p) :
    firstVerdict Meets verdict policy (rules ++ rules') p = v ↔ ∃ r ∈ rules, Meets r p := by
  constructor
  · intro h
    by_contra hNot
    have hNone : rules.find? (fun r => Meets r p) = none :=
      List.find?_eq_none.2 fun r hr hTrue => hNot ⟨r, hr, of_decide_eq_true hTrue⟩
    rw [firstVerdict, List.find?_append, hNone, Option.none_or] at h
    obtain ⟨r, hr, -, hVerdict⟩ := @exists_mem_of_firstVerdict _ _ _ _ _ verdict policy _ _ hMeets
    exact hRest r hr (hVerdict.trans h)
  · rintro ⟨r, hr, hMeetsFirst⟩
    have hFound : (rules.find? fun r => Meets r p).isSome :=
      List.find?_isSome.2 ⟨r, hr, decide_eq_true hMeetsFirst⟩
    obtain ⟨first, hFirstRule⟩ := Option.isSome_iff_exists.1 hFound
    rw [firstVerdict, List.find?_append, hFirstRule]
    exact hFirst first (List.mem_of_find?_eq_some hFirstRule)

end

end Hyperspace.Foundations
