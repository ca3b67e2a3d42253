import Mathlib.Order.Defs.Unbundled

/-!
# What the body of a transaction leaves alone, and what it throws

A frame is a preorder on states: `R s s'` says what of `s` is still there in `s'`. A body keeps a
frame if each of its commits does. Bodies are put together by `bind`, so a frame that every
statement keeps is kept by every body. In the same way, a body throws only what its statements
throw.
-/

namespace Hyperspace.Foundations

variable {σ ε α β : Type}

/-- Every commit of the body leads to a related state. -/
def Keeps (R : σ → σ → Prop) (body : StateT σ (Except ε) α) : Prop :=
  ∀ s a s', body s = .ok (a, s') → R s s'

namespace Keeps

variable {R : σ → σ → Prop}

theorem pure [Std.Refl R] {a : α} : Keeps R (Pure.pure a : StateT σ (Except ε) α) := by
  intro s b s' h
  cases h
  exact refl_of R s

theorem throw {e : ε} : Keeps R (MonadExcept.throw e : StateT σ (Except ε) α) := by
  intro s a s' h
  cases h

theorem get [Std.Refl R] : Keeps R (MonadState.get : StateT σ (Except ε) σ) := by
  intro s a s' h
  cases h
  exact refl_of R s

theorem lift [Std.Refl R] {x : Except ε α} : Keeps R (StateT.lift x : StateT σ (Except ε) α) := by
  intro s a s' h
  cases x with
  | error e => cases h
  | ok b =>
      cases h
      exact refl_of R s

theorem bind [IsTrans σ R] {x : StateT σ (Except ε) α} {f : α → StateT σ (Except ε) β}
    (hx : Keeps R x) (hf : ∀ a, Keeps R (f a)) : Keeps R (x >>= f) := by
  intro s b s'' h
  cases hRun : x s with
  | error e => simp [Bind.bind, StateT.bind, Except.bind, hRun] at h
  | ok r =>
      obtain ⟨a, s'⟩ := r
      simp only [Bind.bind, StateT.bind, Except.bind, hRun] at h
      exact trans_of R (hx s a s' hRun) (hf a s' b s'' h)

theorem ite {p : Prop} [Decidable p] {x y : StateT σ (Except ε) α} (hx : Keeps R x)
    (hy : Keeps R y) : Keeps R (if p then x else y) := by
  split
  · exact hx
  · exact hy

end Keeps

/-- Every error of the body satisfies `P`. -/
def Throws (P : ε → Prop) (body : StateT σ (Except ε) α) : Prop :=
  ∀ s e, body s = .error e → P e

namespace Throws

variable {P : ε → Prop}

theorem pure {a : α} : Throws P (Pure.pure a : StateT σ (Except ε) α) := by
  intro s e h
  cases h

theorem get : Throws P (MonadState.get : StateT σ (Except ε) σ) := by
  intro s e h
  cases h

theorem set {s' : σ} : Throws P (MonadStateOf.set s' : StateT σ (Except ε) PUnit) := by
  intro s e h
  cases h

theorem modifyGet {f : σ → α × σ} :
    Throws P (MonadStateOf.modifyGet f : StateT σ (Except ε) α) := by
  intro s e h
  cases h

theorem throw {e : ε} (h : P e) : Throws P (MonadExcept.throw e : StateT σ (Except ε) α) := by
  intro s e' hThrow
  cases hThrow
  exact h

theorem bind {x : StateT σ (Except ε) α} {f : α → StateT σ (Except ε) β} (hx : Throws P x)
    (hf : ∀ a, Throws P (f a)) : Throws P (x >>= f) := by
  intro s e h
  cases hRun : x s with
  | error e' =>
      simp only [Bind.bind, StateT.bind, Except.bind, hRun, Except.error.injEq] at h
      exact h ▸ hx s e' hRun
  | ok r =>
      obtain ⟨a, s'⟩ := r
      simp only [Bind.bind, StateT.bind, Except.bind, hRun] at h
      exact hf a s' e h

theorem ite {p : Prop} [Decidable p] {x y : StateT σ (Except ε) α} (hx : Throws P x)
    (hy : Throws P y) : Throws P (if p then x else y) := by
  split
  · exact hx
  · exact hy

end Throws

end Hyperspace.Foundations
