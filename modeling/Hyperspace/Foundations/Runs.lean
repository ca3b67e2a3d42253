import Mathlib.Data.List.Infix

/-!
# Runs of a partial step function

A system is a function `step : σ → ε → Option σ`: the event `ε` is either impossible in the
state or leads to one next state. Everything that depends on the order of events is in the list
of events, so a statement about every list is a statement about every interleaving.
-/

namespace Hyperspace.Foundations

variable {σ ε : Type*}

/-- Take the events one after another; `none` as soon as one of them is impossible. -/
def run (step : σ → ε → Option σ) : σ → List ε → Option σ
  | s, [] => some s
  | s, e :: es =>
    match step s e with
    | some s' => run step s' es
    | none => none

/-- Every event of the run meets `cond` in the state it is taken in. -/
def StepsMeet (step : σ → ε → Option σ) (cond : σ → ε → Prop) : σ → List ε → Prop
  | _, [] => True
  | s, e :: es =>
    cond s e ∧
      match step s e with
      | some s' => StepsMeet step cond s' es
      | none => True

instance StepsMeet.decidable (step : σ → ε → Option σ) (cond : σ → ε → Prop)
    [∀ s e, Decidable (cond s e)] : (s : σ) → (es : List ε) → Decidable (StepsMeet step cond s es)
  | _, [] => inferInstanceAs (Decidable True)
  | s, e :: es =>
    match hStep : step s e with
    | some s' =>
      have := StepsMeet.decidable step cond s' es
      decidable_of_iff (cond s e ∧ StepsMeet step cond s' es) (by rw [StepsMeet, hStep])
    | none => decidable_of_iff (cond s e) (by rw [StepsMeet, hStep, and_true])

section

variable {step : σ → ε → Option σ} {cond : σ → ε → Prop}

@[simp] theorem run_nil {s : σ} : run step s [] = some s := rfl

theorem run_cons {s t : σ} {e : ε} {es : List ε} :
    run step s (e :: es) = some t ↔ ∃ s', step s e = some s' ∧ run step s' es = some t := by
  rw [run]
  cases hStep : step s e with
  | none => simp
  | some s' => simp

theorem run_append {s t : σ} {es fs : List ε} :
    run step s (es ++ fs) = some t ↔
      ∃ s', run step s es = some s' ∧ run step s' fs = some t := by
  induction es generalizing s with
  | nil => simp
  | cons e es ih =>
      constructor
      · intro hRun
        obtain ⟨s₁, hStep, hRest⟩ := run_cons.1 hRun
        obtain ⟨s', hes, hfs⟩ := ih.1 hRest
        exact ⟨s', run_cons.2 ⟨s₁, hStep, hes⟩, hfs⟩
      · rintro ⟨s', hes, hfs⟩
        obtain ⟨s₁, hStep, hRest⟩ := run_cons.1 hes
        exact run_cons.2 ⟨s₁, hStep, ih.2 ⟨s', hRest, hfs⟩⟩

theorem stepsMeet_cons {s s' : σ} {e : ε} {es : List ε} (hStep : step s e = some s') :
    StepsMeet step cond s (e :: es) ↔ cond s e ∧ StepsMeet step cond s' es := by
  rw [StepsMeet, hStep]

theorem stepsMeet_append {s s' : σ} {es fs : List ε} (hRun : run step s es = some s')
    (hMeet : StepsMeet step cond s (es ++ fs)) : StepsMeet step cond s' fs := by
  induction es generalizing s with
  | nil =>
      cases hRun
      exact hMeet
  | cons e es ih =>
      obtain ⟨s₁, hStep, hRest⟩ := run_cons.1 hRun
      exact ih hRest ((stepsMeet_cons hStep).1 hMeet).2

theorem stepsMeet_of_initial {s : σ} {es fs : List ε} (hPrefix : es <+: fs)
    (hMeet : StepsMeet step cond s fs) : StepsMeet step cond s es := by
  induction es generalizing s fs with
  | nil => trivial
  | cons e es ih =>
      cases fs with
      | nil => simp at hPrefix
      | cons f fs =>
          obtain ⟨rfl, hRest⟩ := List.cons_prefix_cons.1 hPrefix
          rw [StepsMeet] at hMeet ⊢
          refine ⟨hMeet.1, ?_⟩
          cases hStep : step s e with
          | none => trivial
          | some s' =>
              rw [hStep] at hMeet
              exact ih hRest hMeet.2

theorem stepsMeet_and {cond' : σ → ε → Prop} {s : σ} {es : List ε}
    (h : StepsMeet step cond s es) (h' : StepsMeet step cond' s es) :
    StepsMeet step (fun s e => cond s e ∧ cond' s e) s es := by
  induction es generalizing s with
  | nil => trivial
  | cons e es ih =>
      rw [StepsMeet] at h h' ⊢
      refine ⟨⟨h.1, h'.1⟩, ?_⟩
      cases hStep : step s e with
      | none => trivial
      | some s' =>
          rw [hStep] at h h'
          exact ih h.2 h'.2

theorem stepsMeet_of_forall {s : σ} {es : List ε} (h : ∀ e ∈ es, ∀ s, cond s e) :
    StepsMeet step cond s es := by
  induction es generalizing s with
  | nil => trivial
  | cons e es ih =>
      rw [StepsMeet]
      refine ⟨h e List.mem_cons_self s, ?_⟩
      cases step s e with
      | none => trivial
      | some s' => exact ih fun e' he' => h e' (List.mem_cons_of_mem _ he')

/-- What every step that meets the condition preserves holds at the end of every such run. -/
theorem run_invariant_of_stepsMeet {Inv : σ → Prop}
    (preserved : ∀ s e s', Inv s → cond s e → step s e = some s' → Inv s')
    {s t : σ} {es : List ε} (initially : Inv s) (hRun : run step s es = some t)
    (hMeet : StepsMeet step cond s es) : Inv t := by
  induction es generalizing s with
  | nil =>
      cases hRun
      exact initially
  | cons e es ih =>
      obtain ⟨s', hStep, hRest⟩ := run_cons.1 hRun
      obtain ⟨hCond, hMeet'⟩ := (stepsMeet_cons hStep).1 hMeet
      exact ih (preserved s e s' initially hCond hStep) hRest hMeet'

/-- What every step from a state with the invariant has under the condition, every step of a run
has. -/
theorem stepsMeet_of_invariant {Inv : σ → Prop} {cond' : σ → ε → Prop}
    (preserved : ∀ s e s', Inv s → cond s e → step s e = some s' → Inv s')
    (implied : ∀ s e, Inv s → cond s e → cond' s e) {s : σ} {es : List ε} (initially : Inv s)
    (hMeet : StepsMeet step cond s es) : StepsMeet step cond' s es := by
  induction es generalizing s with
  | nil => trivial
  | cons e es ih =>
      rw [StepsMeet] at hMeet ⊢
      refine ⟨implied s e initially hMeet.1, ?_⟩
      cases hStep : step s e with
      | none => trivial
      | some s' =>
          rw [hStep] at hMeet
          exact ih (preserved s e s' initially hMeet.1 hStep) hMeet.2

theorem run_invariant {Inv : σ → Prop}
    (preserved : ∀ s e s', Inv s → step s e = some s' → Inv s')
    {s t : σ} {es : List ε} (initially : Inv s) (hRun : run step s es = some t) : Inv t :=
  run_invariant_of_stepsMeet
    (fun s e s' hInv _ => preserved s e s' hInv) initially hRun
    (stepsMeet_of_forall fun _ _ _ => trivial)

/-- Where each step keeps the invariant exactly if it meets the condition, every state of a run
satisfies the invariant exactly if every step of it meets the condition. -/
theorem invariant_iff_stepsMeet {Inv Sound : σ → Prop}
    (sound : ∀ s e s', Sound s → step s e = some s' → Sound s')
    (exactly : ∀ s e s', Sound s → Inv s → step s e = some s' → (Inv s' ↔ cond s e))
    {s t : σ} {es : List ε} (hSound : Sound s) (initially : Inv s)
    (hRun : run step s es = some t) :
    (∀ fs, fs <+: es → ∀ s', run step s fs = some s' → Inv s') ↔ StepsMeet step cond s es := by
  induction es generalizing s with
  | nil =>
      refine ⟨fun _ => trivial, fun _ fs hPrefix s' hFs => ?_⟩
      rw [List.prefix_nil.1 hPrefix] at hFs
      cases hFs
      exact initially
  | cons e es ih =>
      obtain ⟨s₁, hStep, hRest⟩ := run_cons.1 hRun
      have hFirst := exactly s e s₁ hSound initially hStep
      have hSound₁ := sound s e s₁ hSound hStep
      rw [stepsMeet_cons hStep]
      constructor
      · intro hAll
        have hInv : Inv s₁ := hAll [e] ⟨es, rfl⟩ s₁ (run_cons.2 ⟨s₁, hStep, rfl⟩)
        refine ⟨hFirst.1 hInv, (ih hSound₁ hInv hRest).1 fun fs hPrefix s' hFs => ?_⟩
        exact hAll (e :: fs) (List.cons_prefix_cons.2 ⟨rfl, hPrefix⟩) s'
          (run_cons.2 ⟨s₁, hStep, hFs⟩)
      · rintro ⟨hCond, hMeet⟩ fs hPrefix s' hFs
        have hInv : Inv s₁ := hFirst.2 hCond
        cases fs with
        | nil =>
            cases hFs
            exact initially
        | cons f fs =>
            obtain ⟨rfl, hPrefix'⟩ := List.cons_prefix_cons.1 hPrefix
            obtain ⟨s₂, hStep₂, hFs'⟩ := run_cons.1 hFs
            rw [hStep] at hStep₂
            cases hStep₂
            exact (ih hSound₁ hInv hRest).2 hMeet fs hPrefix' s' hFs'

theorem stepsMeet_iff {Sound : σ → Prop} {cond' : σ → ε → Prop}
    (sound : ∀ s e s', Sound s → step s e = some s' → Sound s')
    (exactly : ∀ s e s', Sound s → step s e = some s' → (cond s e ↔ cond' s e))
    {s t : σ} {es : List ε} (hSound : Sound s) (hRun : run step s es = some t) :
    StepsMeet step cond s es ↔ StepsMeet step cond' s es := by
  induction es generalizing s with
  | nil => exact Iff.rfl
  | cons e es ih =>
      obtain ⟨s₁, hStep, hRest⟩ := run_cons.1 hRun
      rw [stepsMeet_cons hStep, stepsMeet_cons hStep, exactly s e s₁ hSound hStep,
        ih (sound s e s₁ hSound hStep) hRest]

end

end Hyperspace.Foundations
