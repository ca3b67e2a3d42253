import Mathlib.Data.List.Basic

/-!
# Parts joined by a separator

Where no part has the separator in it, what is joined determines the parts.
-/

namespace Hyperspace.Foundations

variable {α : Type*} {c : α}

theorem append_cons_inj {a a' b b' : List α} (ha : c ∉ a) (ha' : c ∉ a')
    (h : a ++ c :: b = a' ++ c :: b') : a = a' ∧ b = b' := by
  induction a generalizing a' with
  | nil =>
      cases a' with
      | nil => exact ⟨rfl, (List.cons.inj h).2⟩
      | cons x a' => exact absurd ((List.cons.inj h).1 ▸ List.mem_cons_self) ha'
  | cons x a ih =>
      cases a' with
      | nil => exact absurd ((List.cons.inj h).1 ▸ List.mem_cons_self) ha
      | cons x' a' =>
          obtain ⟨hHead, hTail⟩ := List.cons.inj h
          obtain ⟨hInit, hRest⟩ :=
            ih (List.not_mem_of_not_mem_cons ha) (List.not_mem_of_not_mem_cons ha') hTail
          exact ⟨congrArg₂ List.cons hHead hInit, hRest⟩

theorem intercalate_inj [DecidableEq α] {l l' : List (List α)}
    (h : ∀ part ∈ l, part ≠ [] ∧ c ∉ part) (h' : ∀ part ∈ l', part ≠ [] ∧ c ∉ part)
    (hEq : List.intercalate [c] l = List.intercalate [c] l') : l = l' := by
  have hNil : ∀ part (rest : List (List α)), part ≠ [] →
      List.intercalate [c] (part :: rest) ≠ [] := by
    intro part rest hPart hNone
    cases rest with
    | nil => exact hPart (by simpa [List.intercalate] using hNone)
    | cons next rest => simp [List.intercalate] at hNone
  cases l with
  | nil =>
      cases l' with
      | nil => rfl
      | cons part rest => exact absurd hEq.symm (hNil part rest (h' part List.mem_cons_self).1)
  | cons part rest =>
      cases l' with
      | nil => exact absurd hEq (hNil part rest (h part List.mem_cons_self).1)
      | cons part' rest' =>
          rw [← List.splitOn_intercalate c (fun a ha => (h a ha).2) (List.cons_ne_nil part rest),
            hEq,
            List.splitOn_intercalate c (fun a ha => (h' a ha).2) (List.cons_ne_nil part' rest')]

end Hyperspace.Foundations
