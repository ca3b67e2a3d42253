/-!
# Scripts of commands

A script runs commands on a machine one after another and stops at the first one that fails; what
the commands did so far stays. A command fails when the machine refuses it, or for a reason outside
of the model, an outage.
-/

namespace Hyperspace.Foundations

variable {σ ε α β : Type}

/-- A machine, and for the commands to come whether they are lost to an outage. -/
structure Host (σ : Type) where
  state : σ
  outages : List Bool

/-- A script on a machine with the errors `ε`. -/
abbrev Script (ε σ α : Type) := ExceptT ε (StateM (Host σ)) α

/-- A command, with its error and what it does to a machine that does not refuse it. -/
def runCommand (err : ε) (command : σ → Option σ) : Script ε σ Unit := fun host =>
  if host.outages.headD false then (.error err, ⟨host.state, host.outages.tail⟩)
  else
    match command host.state with
    | some state => (.ok (), ⟨state, host.outages.tail⟩)
    | none => (.error err, ⟨host.state, host.outages.tail⟩)

/-- Go on after an error. -/
def runIgnore (script : Script ε σ α) : Script ε σ Unit := fun host => (.ok (), (script host).2)

/-- Run `cleanup` after an error, and stop with the error. -/
def onError (script : Script ε σ α) (cleanup : Script ε σ Unit) : Script ε σ α := fun host =>
  match script host with
  | (.ok a, host) => (.ok a, host)
  | (.error err, host) => (.error err, (cleanup host).2)

/-- Repeat until an error, at most `count` times. -/
def repeatUntilError : Nat → Script ε σ Unit → Script ε σ Unit
  | 0, _ => pure ()
  | count + 1, script => fun host =>
    match script host with
    | (.ok (), host) => repeatUntilError count script host
    | (.error _, host) => (.ok (), host)

section

variable {host host'' : Host σ} {script : Script ε σ α} {next : α → Script ε σ β}

theorem script_bind_apply :
    (script >>= next) host =
      match script host with
      | (.ok a, host') => next a host'
      | (.error err, host') => (.error err, host') := by
  change (match script host with
    | (result, host') => ExceptT.bindCont next result host') = _
  rcases script host with ⟨result, host'⟩
  cases result <;> rfl

theorem script_bind_eq_ok {b : β} :
    (script >>= next) host = (.ok b, host'') ↔
      ∃ a host', script host = (.ok a, host') ∧ next a host' = (.ok b, host'') := by
  rw [script_bind_apply]
  rcases hScript : script host with ⟨result, host'⟩
  cases result with
  | ok a =>
      constructor
      · intro hNext
        exact ⟨a, host', rfl, hNext⟩
      · rintro ⟨_, _, hEq, hNext⟩
        cases hEq
        exact hNext
  | error err =>
      constructor
      · intro hNext
        cases hNext
      · rintro ⟨_, _, hEq, -⟩
        cases hEq

end

/-! ## What a script keeps, whether it fails or not -/

def Preserves (I : σ → Prop) (script : Script ε σ α) : Prop :=
  ∀ host, I host.state → I (script host).2.state

namespace Preserves

variable {I : σ → Prop} {script : Script ε σ α} {err : ε}

theorem pure {a : α} : Preserves I (Pure.pure a : Script ε σ α) :=
  fun _ h => h

theorem throw : Preserves I (MonadExcept.throw err : Script ε σ α) :=
  fun _ h => h

theorem bind {next : α → Script ε σ β} (hScript : Preserves I script)
    (hNext : ∀ a, Preserves I (next a)) : Preserves I (script >>= next) := by
  intro host h
  rw [script_bind_apply]
  have hAfter := hScript host h
  rcases hRun : script host with ⟨result, host'⟩
  rw [hRun] at hAfter
  cases result with
  | ok a => exact hNext a host' hAfter
  | error err => exact hAfter

theorem ite {p : Prop} [Decidable p] {script' : Script ε σ α} (hThen : Preserves I script)
    (hElse : Preserves I script') : Preserves I (if p then script else script') := by
  split
  · exact hThen
  · exact hElse

theorem runCommand {command : σ → Option σ}
    (h : ∀ s s', I s → command s = some s' → I s') : Preserves I (runCommand err command) := by
  intro host hBefore
  unfold Foundations.runCommand
  split
  · exact hBefore
  · split
    · rename_i state hCommand
      exact h host.state state hBefore hCommand
    · exact hBefore

theorem runIgnore (h : Preserves I script) : Preserves I (runIgnore script) :=
  h

theorem onError {cleanup : Script ε σ Unit} (h : Preserves I script)
    (hCleanup : Preserves I cleanup) : Preserves I (onError script cleanup) := by
  intro host hBefore
  unfold Foundations.onError
  have hAfter := h host hBefore
  rcases hRun : script host with ⟨result, host'⟩
  rw [hRun] at hAfter
  cases result with
  | ok a => exact hAfter
  | error err => exact hCleanup host' hAfter

theorem repeatUntilError {script : Script ε σ Unit} (h : Preserves I script) (count : Nat) :
    Preserves I (repeatUntilError count script) := by
  induction count with
  | zero => exact pure
  | succ count ih =>
      intro host hBefore
      unfold Foundations.repeatUntilError
      have hAfter := h host hBefore
      rcases hRun : script host with ⟨result, host'⟩
      rw [hRun] at hAfter
      cases result with
      | ok a => exact ih host' hAfter
      | error err => exact hAfter

theorem forM {xs : List β} {script : β → Script ε σ PUnit} (h : ∀ x ∈ xs, Preserves I (script x)) :
    Preserves I (xs.forM script) := by
  induction xs with
  | nil => exact pure
  | cons x xs ih =>
      apply bind (h x List.mem_cons_self)
      intro _
      exact ih fun y hy => h y (List.mem_cons_of_mem x hy)

end Preserves

/-! ## What a script has done when it succeeds -/

/-- From a state with `I` the script either fails or ends in a state with `J`. -/
def Establishes (I J : σ → Prop) (script : Script ε σ α) : Prop :=
  ∀ host a host', I host.state → script host = (.ok a, host') → J host'.state

namespace Establishes

variable {I J K : σ → Prop} {script : Script ε σ α} {err : ε}

theorem of_preserves (h : Preserves I script) : Establishes I I script := by
  intro host a host' hBefore hRun
  have hAfter := h host hBefore
  rw [hRun] at hAfter
  exact hAfter

theorem throw : Establishes I J (MonadExcept.throw err : Script ε σ α) := by
  intro host a host' _ hRun
  cases hRun

theorem bind {next : α → Script ε σ β} (hScript : Establishes I J script)
    (hNext : ∀ a, Establishes J K (next a)) : Establishes I K (script >>= next) := by
  intro host b host'' hBefore hRun
  obtain ⟨a, host', hFirst, hRest⟩ := script_bind_eq_ok.1 hRun
  exact hNext a host' b host'' (hScript host a host' hBefore hFirst) hRest

theorem ite {p : Prop} [Decidable p] {script' : Script ε σ α} (hThen : Establishes I J script)
    (hElse : Establishes I J script') : Establishes I J (if p then script else script') := by
  split
  · exact hThen
  · exact hElse

theorem runCommand {command : σ → Option σ}
    (h : ∀ s s', I s → command s = some s' → J s') :
    Establishes I J (runCommand err command) := by
  intro host a host' hBefore hRun
  unfold Foundations.runCommand at hRun
  split at hRun
  · cases hRun
  · split at hRun
    · rename_i state hCommand
      cases hRun
      exact h host.state state hBefore hCommand
    · cases hRun

theorem and (hJ : Establishes I J script) (hK : Establishes I K script) :
    Establishes I (fun s => J s ∧ K s) script :=
  fun host a host' hBefore hRun =>
    ⟨hJ host a host' hBefore hRun, hK host a host' hBefore hRun⟩

theorem weaken {I' : σ → Prop} (h : Establishes I J script) (hWeaker : ∀ s, I' s → I s) :
    Establishes I' J script :=
  fun host a host' hBefore hRun => h host a host' (hWeaker host.state hBefore) hRun

/-- Every round of the loop does its part, and no round undoes the part of another one. -/
theorem forM {P : β → σ → Prop} {xs : List β} {script : β → Script ε σ PUnit}
    (hEach : ∀ x ∈ xs, Establishes I (P x) (script x))
    (hKeep : ∀ x ∈ xs, Preserves I (script x))
    (hKeepEach : ∀ x ∈ xs, ∀ y ∈ xs, Preserves (P y) (script x)) :
    Establishes I (fun s => ∀ x ∈ xs, P x s) (xs.forM script) := by
  induction xs with
  | nil =>
      intro host a host' _ _ x hx
      cases hx
  | cons x xs ih =>
      have hFirst : Establishes I (fun s => I s ∧ P x s) (script x) :=
        and (of_preserves (hKeep x List.mem_cons_self)) (hEach x List.mem_cons_self)
      have hDone : Preserves (P x) (xs.forM script) := by
        apply Preserves.forM
        intro y hy
        exact hKeepEach y (List.mem_cons_of_mem x hy) x List.mem_cons_self
      have hOthers : Establishes I (fun s => ∀ y ∈ xs, P y s) (xs.forM script) := by
        apply ih
        · exact fun y hy => hEach y (List.mem_cons_of_mem x hy)
        · exact fun y hy => hKeep y (List.mem_cons_of_mem x hy)
        · exact fun y hy z hz =>
            hKeepEach y (List.mem_cons_of_mem x hy) z (List.mem_cons_of_mem x hz)
      have hRest : Establishes (fun s => I s ∧ P x s) (fun s => P x s ∧ ∀ y ∈ xs, P y s)
          (xs.forM script) :=
        and (weaken (of_preserves hDone) fun _ h => h.2) (weaken hOthers fun _ h => h.1)
      intro host a host' hBefore hRun
      rw [List.forall_mem_cons]
      exact bind hFirst (fun _ => hRest) host a host' hBefore hRun

end Establishes

end Hyperspace.Foundations
