import Mathlib.Data.List.Basic

/-!
# Loops

`List.foldlM` in `Except` is a loop whose body may throw. The error carries what the caller learns
of the rounds before. `List.foldl` is a loop whose body always goes on; of the part of the state
that only one round touches, the loop does what that round does.
-/

namespace Hyperspace.Foundations

variable {α β ε : Type*} {f : β → α → Except ε β} {l : List α} {b b' : β} {e : ε}

theorem foldlM_cons_eq_ok {a : α} :
    (a :: l).foldlM f b = .ok b' ↔ ∃ b₁, f b a = .ok b₁ ∧ l.foldlM f b₁ = .ok b' := by
  rw [List.foldlM_cons]
  cases hBody : f b a with
  | error e => simp [bind, Except.bind]
  | ok b₁ => simp [bind, Except.bind]

theorem foldlM_cons_eq_error {a : α} :
    (a :: l).foldlM f b = .error e ↔
      f b a = .error e ∨ ∃ b₁, f b a = .ok b₁ ∧ l.foldlM f b₁ = .error e := by
  rw [List.foldlM_cons]
  cases hBody : f b a with
  | error e' => simp [bind, Except.bind]
  | ok b₁ => simp [bind, Except.bind]

theorem foldlM_invariant {Inv : β → Prop}
    (preserved : ∀ b, ∀ a ∈ l, ∀ b', Inv b → f b a = .ok b' → Inv b')
    (initially : Inv b) (hLoop : l.foldlM f b = .ok b') : Inv b' := by
  induction l generalizing b with
  | nil =>
      cases hLoop
      exact initially
  | cons a l ih =>
      obtain ⟨b₁, hBody, hRest⟩ := foldlM_cons_eq_ok.1 hLoop
      have hInv : Inv b₁ := preserved b a List.mem_cons_self b₁ initially hBody
      exact ih (fun b a ha => preserved b a (List.mem_cons_of_mem _ ha)) hInv hRest

/-- What every round preserves, and every throwing round hands on, is known of the error. -/
theorem foldlM_error_invariant {Inv : β → Prop} {Thrown : ε → Prop}
    (preserved : ∀ b, ∀ a ∈ l, ∀ b', Inv b → f b a = .ok b' → Inv b')
    (thrown : ∀ b, ∀ a ∈ l, ∀ e, Inv b → f b a = .error e → Thrown e)
    (initially : Inv b) (hLoop : l.foldlM f b = .error e) : Thrown e := by
  induction l generalizing b with
  | nil => cases hLoop
  | cons a l ih =>
      rcases foldlM_cons_eq_error.1 hLoop with hBody | ⟨b₁, hBody, hRest⟩
      · exact thrown b a List.mem_cons_self e initially hBody
      · have hInv : Inv b₁ := preserved b a List.mem_cons_self b₁ initially hBody
        exact ih (fun b a ha => preserved b a (List.mem_cons_of_mem _ ha))
          (fun b a ha => thrown b a (List.mem_cons_of_mem _ ha)) hInv hRest

/-- What a round establishes for its element, and later rounds keep, holds for all of them. -/
theorem foldlM_each {Done : α → β → Prop}
    (done : ∀ b, ∀ a ∈ l, ∀ b', f b a = .ok b' → Done a b')
    (kept : ∀ b, ∀ a ∈ l, ∀ b', f b a = .ok b' → ∀ a₀, Done a₀ b → Done a₀ b')
    (hLoop : l.foldlM f b = .ok b') : ∀ a ∈ l, Done a b' := by
  induction l generalizing b with
  | nil => simp
  | cons a l ih =>
      obtain ⟨b₁, hBody, hRest⟩ := foldlM_cons_eq_ok.1 hLoop
      have hKept : ∀ b, ∀ c ∈ l, ∀ b', f b c = .ok b' → ∀ a₀, Done a₀ b → Done a₀ b' :=
        fun b c hc => kept b c (List.mem_cons_of_mem _ hc)
      intro c hc
      rcases List.mem_cons.1 hc with rfl | hc
      · have hDone : Done c b₁ := done b c List.mem_cons_self b₁ hBody
        exact foldlM_invariant (fun b a' ha' b' hInv hStep => hKept b a' ha' b' hStep c hInv)
          hDone hRest
      · exact ih (fun b a' ha' => done b a' (List.mem_cons_of_mem _ ha')) hKept hRest c hc

/-- Of a part of the state that at most one round touches, a loop that does not throw does what
this round does. -/
theorem foldlM_view {γ : Type*} {view : β → γ} {mine : α → Prop}
    (hOther : ∀ b, ∀ a ∈ l, ∀ b', f b a = .ok b' → ¬ mine a → view b' = view b)
    (hUnique : l.Pairwise fun a a' => ¬ (mine a ∧ mine a')) (hLoop : l.foldlM f b = .ok b') :
    ((∀ a ∈ l, ¬ mine a) ∧ view b' = view b) ∨
      ∃ a ∈ l, mine a ∧ ∃ b₁ b₂, view b₁ = view b ∧ f b₁ a = .ok b₂ ∧ view b' = view b₂ := by
  induction l generalizing b with
  | nil =>
      cases hLoop
      exact .inl ⟨by simp, rfl⟩
  | cons a l ih =>
      obtain ⟨b₁, hBody, hLoop'⟩ := foldlM_cons_eq_ok.1 hLoop
      rw [List.pairwise_cons] at hUnique
      have hRest : ∀ b, ∀ c ∈ l, ∀ b', f b c = .ok b' → ¬ mine c → view b' = view b :=
        fun b c hc => hOther b c (List.mem_cons_of_mem _ hc)
      by_cases hMine : mine a
      · refine .inr ⟨a, List.mem_cons_self, hMine, b, b₁, rfl, hBody, ?_⟩
        refine @foldlM_invariant _ _ _ f l b₁ b' (fun b => view b = view b₁)
          (fun b c hc b' hInv hStep => ?_) rfl hLoop'
        exact (hRest b c hc b' hStep fun hc' => hUnique.1 c hc ⟨hMine, hc'⟩).trans hInv
      · have hSame : view b₁ = view b := hOther b a List.mem_cons_self b₁ hBody hMine
        rcases ih hRest hUnique.2 hLoop' with
          ⟨hNone, hEq⟩ | ⟨c, hc, hMineC, b₂, b₃, hView, hStep, hEq⟩
        · exact .inl ⟨List.forall_mem_cons.2 ⟨hMine, hNone⟩, hEq.trans hSame⟩
        · exact .inr ⟨c, List.mem_cons_of_mem _ hc, hMineC, b₂, b₃, hView.trans hSame, hStep, hEq⟩

/-- Where no round changes what another one needs, the loop returns exactly when every round does
in the state the loop starts in. -/
theorem foldlM_isOk_iff {Ready : β → α → Prop}
    (hBody : ∀ b, ∀ a ∈ l, (∃ b', f b a = .ok b') ↔ Ready b a)
    (hKept : l.Pairwise fun a c => ∀ b b', f b a = .ok b' → (Ready b' c ↔ Ready b c)) :
    (∃ b', l.foldlM f b = .ok b') ↔ ∀ a ∈ l, Ready b a := by
  induction l generalizing b with
  | nil => exact ⟨fun _ => by simp, fun _ => ⟨b, rfl⟩⟩
  | cons a l ih =>
      rw [List.pairwise_cons] at hKept
      have hRest := fun b => @ih b (fun b c hc => hBody b c (List.mem_cons_of_mem _ hc)) hKept.2
      rw [List.forall_mem_cons]
      constructor
      · rintro ⟨b', hLoop⟩
        obtain ⟨b₁, hFirst, hLoop'⟩ := foldlM_cons_eq_ok.1 hLoop
        refine ⟨(hBody b a List.mem_cons_self).1 ⟨b₁, hFirst⟩, fun c hc => ?_⟩
        exact (hKept.1 c hc b b₁ hFirst).1 ((hRest b₁).1 ⟨b', hLoop'⟩ c hc)
      · rintro ⟨hReady, hReadyRest⟩
        obtain ⟨b₁, hFirst⟩ := (hBody b a List.mem_cons_self).2 hReady
        obtain ⟨b', hLoop'⟩ := (hRest b₁).2 fun c hc =>
          (hKept.1 c hc b b₁ hFirst).2 (hReadyRest c hc)
        exact ⟨b', foldlM_cons_eq_ok.2 ⟨b₁, hFirst, hLoop'⟩⟩

section

variable {γ : Type*} {body : β → α → β}

theorem foldl_invariant {Inv : β → Prop} (preserved : ∀ b, ∀ a ∈ l, Inv b → Inv (body b a))
    (initially : Inv b) : Inv (l.foldl body b) := by
  induction l generalizing b with
  | nil => exact initially
  | cons a l ih =>
      have hInv : Inv (body b a) := preserved b a List.mem_cons_self initially
      exact ih (fun b c hc => preserved b c (List.mem_cons_of_mem _ hc)) hInv

/-- Of a part of the state that at most one round touches, the loop does what this round does, and
the round finds it as the loop has found it. What the rounds do may depend on an invariant. -/
theorem foldl_view {view : β → γ} {mine : α → Prop} {Inv : β → Prop}
    (preserved : ∀ b, ∀ a ∈ l, Inv b → Inv (body b a))
    (hOther : ∀ b, Inv b → ∀ a ∈ l, ¬ mine a → view (body b a) = view b)
    (hUnique : l.Pairwise fun a a' => ¬ (mine a ∧ mine a')) (initially : Inv b) :
    ((∀ a ∈ l, ¬ mine a) ∧ view (l.foldl body b) = view b) ∨
      ∃ a ∈ l, mine a ∧ ∃ b', Inv b' ∧ view b' = view b ∧
        view (l.foldl body b) = view (body b' a) := by
  induction l generalizing b with
  | nil => exact .inl ⟨by simp, rfl⟩
  | cons a l ih =>
      rw [List.pairwise_cons] at hUnique
      have hKept : ∀ b, ∀ c ∈ l, Inv b → Inv (body b c) :=
        fun b c hc => preserved b c (List.mem_cons_of_mem _ hc)
      have hRest : ∀ b, Inv b → ∀ c ∈ l, ¬ mine c → view (body b c) = view b :=
        fun b hInv c hc => hOther b hInv c (List.mem_cons_of_mem _ hc)
      have hNext : Inv (body b a) := preserved b a List.mem_cons_self initially
      rw [List.foldl_cons]
      by_cases hMine : mine a
      · refine .inr ⟨a, List.mem_cons_self, hMine, b, initially, rfl, ?_⟩
        have hAfter : Inv (l.foldl body (body b a)) ∧
            view (l.foldl body (body b a)) = view (body b a) :=
          @foldl_invariant _ _ l (body b a) body (fun b' => Inv b' ∧ view b' = view (body b a))
            (fun b' c hc hInv => ⟨hKept b' c hc hInv.1,
              (hRest b' hInv.1 c hc fun hc' => hUnique.1 c hc ⟨hMine, hc'⟩).trans hInv.2⟩)
            ⟨hNext, rfl⟩
        exact hAfter.2
      · have hSame : view (body b a) = view b := hOther b initially a List.mem_cons_self hMine
        rcases ih hKept hRest hUnique.2 hNext with
          ⟨hNone, hEq⟩ | ⟨c, hc, hMineC, b', hInv, hView, hEq⟩
        · exact .inl ⟨List.forall_mem_cons.2 ⟨hMine, hNone⟩, hEq.trans hSame⟩
        · exact .inr ⟨c, List.mem_cons_of_mem _ hc, hMineC, b', hInv, hView.trans hSame, hEq⟩

end

end Hyperspace.Foundations
