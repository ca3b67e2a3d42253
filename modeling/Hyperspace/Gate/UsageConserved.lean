import Mathlib.Algebra.Order.Monoid.Prod
import Mathlib.Algebra.Order.Pi
import Hyperspace.Gate.UsageCounters

/-!
# Reported usage only grows

Rules are replaced and revoked while packets pass. Between the reading that goes into the file and
the deletion of the rules the two count the same packets, and a revocation has its reading in memory
only while the rules disappear. A gate that is not stopped in between, loses no deletion and can
list the chain reports values that never go back and never exceed what has passed.
-/

namespace Hyperspace.Gate.ForwardChain

open Hyperspace.Foundations

/-! ## Readings -/

variable {id owner : AssignmentId} {chain : List MeteredRule} {p : Packet} {size : ℕ}

theorem readAssignmentCounter_cons {m : MeteredRule} :
    readAssignmentCounter id (m :: chain) = readAssignmentCounter id [m] +
      readAssignmentCounter id chain := by
  funext verdict direction
  simp only [Pi.add_apply, readAssignmentCounter, List.filter_cons, List.filter_nil]
  split <;> simp

theorem readAssignmentCounter_of_forall_ne (h : ∀ m ∈ chain, m.rule.handle ≠ id) :
    readAssignmentCounter id chain = 0 := by
  funext verdict direction
  have hNone : (chain.filter fun m => m.rule.handle = id ∧ m.rule.verdict = verdict ∧
      m.rule.direction = direction) = [] := by
    rw [List.filter_eq_nil_iff]
    intro m hm hKept
    exact h m hm (of_decide_eq_true hKept).1
  simp only [readAssignmentCounter, hNone, List.map_nil, List.sum_nil, Pi.zero_apply]

theorem readAssignmentCounter_append {r : ForwardRule} :
    readAssignmentCounter id (chain ++ [⟨r, 0⟩]) = readAssignmentCounter id chain := by
  funext verdict direction
  simp only [readAssignmentCounter, List.filter_append, List.map_append, List.sum_append]
  rw [add_eq_left, List.filter_singleton]
  by_cases hCounts : r.handle = id ∧ r.verdict = verdict ∧ r.direction = direction
  · simp [hCounts]
  · simp [hCounts]

theorem readAssignmentCounter_eraseOwn {kept : ℕ} (h : owner ≠ id) :
    readAssignmentCounter id (eraseOwn owner chain kept) = readAssignmentCounter id chain := by
  induction chain generalizing kept with
  | nil => rfl
  | cons m chain ih =>
      unfold eraseOwn
      split
      · rw [readAssignmentCounter_cons, ih, ← readAssignmentCounter_cons]
      · rename_i hOwn
        split
        · have hOther : ∀ m' ∈ [m], m'.rule.handle ≠ id := by
            intro m' hm'
            rw [List.mem_singleton.1 hm', not_not.1 hOwn]
            exact h
          rw [readAssignmentCounter_cons, readAssignmentCounter_of_forall_ne hOther, zero_add]
        · rw [readAssignmentCounter_cons, ih, ← readAssignmentCounter_cons]

theorem mem_of_mem_eraseOwn {kept : ℕ} {m : MeteredRule} (h : m ∈ eraseOwn id chain kept) :
    m ∈ chain := by
  induction chain generalizing kept with
  | nil => exact h
  | cons m' chain ih =>
      have hRest : ∀ kept, m ∈ m' :: eraseOwn id chain kept → m ∈ m' :: chain := by
        intro kept hMem
        rcases List.mem_cons.1 hMem with rfl | hTail
        · exact List.mem_cons_self
        · exact List.mem_cons_of_mem _ (ih hTail)
      unfold eraseOwn at h
      split at h
      · exact hRest _ h
      · split at h
        · exact List.mem_cons_of_mem _ h
        · exact hRest _ h

theorem readAssignmentCounter_countPacket :
    readAssignmentCounter id (countPacket p size chain) =
      readAssignmentCounter id chain + chargeOf chain p size id := by
  induction chain with
  | nil =>
      funext verdict direction
      simp [countPacket, chargeOf]
  | cons m chain ih =>
      by_cases hMatches : m.rule.Matches p
      · funext verdict direction
        simp only [countPacket, hMatches, if_true, Pi.add_apply, chargeOf, List.find?_cons,
          decide_true, readAssignmentCounter, List.filter_cons]
        by_cases hCounts : m.rule.handle = id ∧ m.rule.verdict = verdict ∧
            m.rule.direction = direction
        · rw [if_pos hCounts, if_pos (decide_eq_true hCounts), if_pos (decide_eq_true hCounts),
            List.map_cons, List.map_cons, List.sum_cons, List.sum_cons, add_right_comm]
        · rw [if_neg hCounts, add_zero, if_neg (by simpa using hCounts),
            if_neg (by simpa using hCounts)]
      · have hCharge : chargeOf (m :: chain) p size id = chargeOf chain p size id := by
          unfold chargeOf
          rw [List.find?_cons_of_neg (by simpa using hMatches)]
        rw [countPacket, if_neg hMatches, readAssignmentCounter_cons, ih, hCharge, ← add_assoc,
          ← readAssignmentCounter_cons]

theorem handle_of_mem_countPacket {m : MeteredRule} (h : m ∈ countPacket p size chain) :
    ∃ m' ∈ chain, m'.rule = m.rule := by
  induction chain with
  | nil => cases h
  | cons m' chain ih =>
      rw [countPacket] at h
      split at h
      · rcases List.mem_cons.1 h with rfl | hRest
        · exact ⟨m', List.mem_cons_self, rfl⟩
        · exact ⟨m, List.mem_cons_of_mem _ hRest, rfl⟩
      · rcases List.mem_cons.1 h with rfl | hRest
        · exact ⟨m, List.mem_cons_self, rfl⟩
        · obtain ⟨m'', hMem, hRule⟩ := ih hRest
          exact ⟨m'', List.mem_cons_of_mem _ hMem, hRule⟩

/-! ## What a commit installs -/

variable {file : UsageFile} {plan : NetworkPlan} {defaultRoute : Option DefaultRoute}
  {rules : List ForwardRule}

theorem commitRules_eq {file : AssignmentFile}
    (h : commitRules id file plan defaultRoute = some rules) :
    file.transitPrivateKey ≠ "" ∧
      rules = (file.installation plan defaultRoute).forwardRules id := by
  unfold commitRules at h
  cases hRole : file.role with
  | ingress =>
      simp only [hRole] at h
      split at h
      · cases h
      · rename_i hComplete
        push Not at hComplete
        cases h
        exact ⟨hComplete.2.2.2, (forwardRules_ingress hRole).symm⟩
  | egress =>
      simp only [hRole] at h
      split at h
      · cases h
      · rename_i hComplete
        push Not at hComplete
        obtain ⟨route, rfl, rfl⟩ := Option.map_eq_some_iff.1 h
        exact ⟨hComplete.2, (forwardRules_egress hRole).symm⟩

/-! ## File and chain together -/

/-- The counters of an assignment with this file, when its rules say `reading`. -/
def totalOf (file : Option UsageFile) (reading : Counters) : Counters :=
  match file with
  | none => reading
  | some file => file.counterCheckpoint.getD (file.counterOffset + reading)

section totals

variable {existing : Option UsageFile} {reading charge : Counters}

@[simp] theorem totalOf_some :
    totalOf (some file) reading =
      file.counterCheckpoint.getD (file.counterOffset + reading) := rfl

@[simp] theorem resumedCounterOffset_some :
    resumedCounterOffset (some file) = file.counterCheckpoint.getD file.counterOffset := rfl

theorem totalOf_zero : totalOf existing 0 = resumedCounterOffset existing := by
  cases existing with
  | none => rfl
  | some file => rw [totalOf_some, resumedCounterOffset_some, add_zero]

theorem totalOf_le_add : totalOf existing reading ≤ totalOf existing (reading + charge) := by
  cases existing with
  | none => exact le_self_add
  | some file =>
      rw [totalOf_some, totalOf_some]
      cases file.counterCheckpoint with
      | none => exact (le_self_add).trans_eq (add_assoc ..)
      | some _ => exact le_rfl

theorem totalOf_add_le :
    totalOf existing (reading + charge) ≤ totalOf existing reading + charge := by
  cases existing with
  | none => exact le_rfl
  | some file =>
      rw [totalOf_some, totalOf_some]
      cases file.counterCheckpoint with
      | none => exact (add_assoc ..).ge
      | some _ => exact le_self_add

theorem totalOf_prepareUsage {role : Role} {fresh : FreshMaterial}
    (h : prepareUsage existing role plan fresh = some file)
    (hSilent : ∀ old ∈ existing, old.counterCheckpoint ≠ none → reading = 0) :
    totalOf (some file) reading = totalOf existing reading := by
  unfold prepareUsage at h
  split at h
  · rename_i hReused
    cases h
    rw [(Option.filter_eq_some_iff.1 hReused).1]
  · obtain ⟨_, -, rfl⟩ := Option.map_eq_some_iff.1 h
    cases existing with
    | none => exact zero_add _
    | some old =>
        rw [totalOf_some, totalOf_some, resumedCounterOffset_some]
        cases hCheckpoint : old.counterCheckpoint with
        | none => rfl
        | some v =>
            rw [hSilent old rfl (by simp [hCheckpoint])]
            exact add_zero v

theorem checkpoint_of_prepareUsage {role : Role} {fresh : FreshMaterial}
    (h : prepareUsage existing role plan fresh = some file)
    (hSome : file.counterCheckpoint ≠ none) :
    existing = some file := by
  unfold prepareUsage at h
  split at h
  · rename_i hReused
    cases h
    exact (Option.filter_eq_some_iff.1 hReused).1
  · obtain ⟨_, -, rfl⟩ := Option.map_eq_some_iff.1 h
    exact absurd rfl hSome

end totals

/-! ## Between a reading and the deletion of the rules -/

/-- A commit or a revocation has read the counters of the assignment, and the rules it has read are
not all deleted yet. -/
def AgentTask.Settles (id : AssignmentId) : AgentTask → Prop
  | .counting a _ _ _ | .replacing a _ _ _ _ | .revoking a _ _ => a = id
  | .idle | .installing _ _ _ => False

/-- The rules are being deleted. -/
def AgentTask.Deletes (id : AssignmentId) : AgentTask → Prop
  | .replacing a _ _ _ _ | .revoking a _ _ => a = id
  | .idle | .counting _ _ _ _ | .installing _ _ _ => False

instance {task : AgentTask} : Decidable (task.Settles id) := by
  cases task <;> unfold AgentTask.Settles <;> infer_instance

instance {task : AgentTask} : Decidable (task.Deletes id) := by
  cases task <;> unfold AgentTask.Deletes <;> infer_instance

namespace UsageHost

variable {s s' : UsageHost} {low : Counters} {a : AssignmentId}

/-- The agent is not stopped while it deletes rules of the assignment, loses none of these
deletions, lists the chain when it settles the counters of the assignment, and revokes it only
once. -/
def Orderly (id : AssignmentId) (s : UsageHost) : UsageEvent → Prop
  | .stop | .lose => ¬s.task.Deletes id
  | .commit a _ _ listed => a = id → listed = true
  | .revoke a _ listed =>
    a = id → listed = true ∧ ∀ file ∈ s.files id, file.counterCheckpoint = none
  | .prepare _ _ _ _ | .advance | .packet _ _ => True

instance {e : UsageEvent} : Decidable (s.Orderly id e) := by
  cases e <;> unfold Orderly <;> infer_instance

def total (id : AssignmentId) (s : UsageHost) : Counters :=
  totalOf (s.files id) (readAssignmentCounter id s.chain)

/-- What the thread has in memory about the assignment. -/
def TaskSound (id : AssignmentId) (low : Counters) (s : UsageHost) : AgentTask → Prop
  | .idle => True
  | .counting a file _ _ =>
    a = id → low ≤ resumedCounterOffset (some file) ∧
      resumedCounterOffset (some file) ≤ s.total id ∧
      ∃ old ∈ s.files id, old.counterCheckpoint = file.counterCheckpoint ∧
        old.transitPrivateKey = file.transitPrivateKey
  | .replacing a file _ _ kept =>
    a = id → kept = 0 ∧ s.files id = some file ∧ low ≤ resumedCounterOffset (some file) ∧
      resumedCounterOffset (some file) ≤ s.passed id
  | .installing a file rules =>
    (∀ r ∈ rules, r.handle = a) ∧
      (a = id → s.files id = some file ∧ file.counterCheckpoint = none)
  | .revoking a file kept =>
    a = id → kept = 0 ∧ file.counterCheckpoint ≠ none ∧ file.transitPrivateKey = "" ∧
      low ≤ resumedCounterOffset (some file) ∧ resumedCounterOffset (some file) ≤ s.passed id

/-- What the host has of an assignment is within what has passed it, whatever the task is at. -/
structure Sound (id : AssignmentId) (low : Counters) (s : UsageHost) : Prop where
  bounded : ¬s.task.Deletes id → low ≤ s.total id ∧ s.total id ≤ s.passed id
  /-- A revoked assignment has no rules. -/
  silent : ∀ file ∈ s.files id, file.counterCheckpoint ≠ none → ∀ m ∈ s.chain, m.rule.handle ≠ id
  keys : ∀ file ∈ s.files id, file.counterCheckpoint ≠ none → file.transitPrivateKey = ""
  task : s.TaskSound id low s.task

/-! ## What a step keeps -/

theorem files_write_self : (s.write id file).files id = some file := Function.update_self ..

theorem files_write_of_ne (h : a ≠ id) : (s.write a file).files id = s.files id :=
  Function.update_of_ne h.symm ..

theorem total_write_self : (s.write id file).total id =
    totalOf (some file) (readAssignmentCounter id s.chain) :=
  congrArg (totalOf · (readAssignmentCounter id s.chain)) files_write_self

theorem handle_ne_of_not_hasRules (h : s.hasRules id 0 = false) :
    ∀ m ∈ s.chain, m.rule.handle ≠ id := by
  intro m hm hHandle
  have hOwn : m ∈ s.chain.filter fun m => m.rule.handle = id :=
    List.mem_filter.2 ⟨hm, decide_eq_true hHandle⟩
  exact absurd (List.length_pos_of_mem hOwn) (of_decide_eq_false h)

theorem total_eq_of_not_hasRules (h : s.hasRules id 0 = false) :
    s.total id = resumedCounterOffset (s.files id) := by
  rw [total, readAssignmentCounter_of_forall_ne (handle_ne_of_not_hasRules h), totalOf_zero]

namespace Sound

theorem empty : Sound id 0 ∅ where
  bounded _ := ⟨le_rfl, le_rfl⟩
  silent := by
    intro file hFile
    cases hFile
  keys := by
    intro file hFile
    cases hFile
  task := trivial

theorem frame (h : s.Sound id low) (hFiles : s'.files id = s.files id)
    (hChain : ∀ m ∈ s'.chain, m.rule.handle = id → ∃ m' ∈ s.chain, m'.rule.handle = id)
    (hReading : readAssignmentCounter id s'.chain = readAssignmentCounter id s.chain)
    (hPassed : s'.passed id = s.passed id)
    (hDeletes : ¬s'.task.Deletes id → ¬s.task.Deletes id) (hTask : s'.TaskSound id low s'.task) :
    s'.Sound id low where
  bounded hDone := by
    rw [total, hFiles, hReading, hPassed]
    exact h.bounded (hDeletes hDone)
  silent := by
    intro file hFile hSome m hm hHandle
    obtain ⟨m', hm', hHandle'⟩ := hChain m hm hHandle
    exact h.silent file (hFiles.symm.trans hFile) hSome m' hm' hHandle'
  keys := by
    intro file hFile hSome
    exact h.keys file (hFiles.symm.trans hFile) hSome
  task := hTask

theorem prepare {role : Role} {fresh : FreshMaterial} (h : s.Sound id low)
    (hStep : s.prepare a role plan fresh = some s') : s'.Sound id low := by
  unfold UsageHost.prepare at hStep
  split at hStep
  · rename_i file hIdle hFile
    cases hStep
    have hTask : (s.write a file).TaskSound id low s.task := by
      rw [hIdle]
      trivial
    by_cases hSame : a = id
    · subst hSame
      have hOld : ∀ f ∈ (s.write a file).files a, f.counterCheckpoint ≠ none → f ∈ s.files a := by
        intro f hf hSome
        cases files_write_self.symm.trans hf
        exact checkpoint_of_prepareUsage hFile hSome
      constructor
      · intro hDone
        have hTotal : (s.write a file).total a = s.total a := by
          rw [total_write_self]
          exact totalOf_prepareUsage hFile fun old hOld hSome =>
            readAssignmentCounter_of_forall_ne (h.silent old hOld hSome)
        rw [hTotal]
        exact h.bounded hDone
      · intro f hf hSome
        exact h.silent f (hOld f hf hSome) hSome
      · intro f hf hSome
        exact h.keys f (hOld f hf hSome) hSome
      · exact hTask
    · exact h.frame (files_write_of_ne hSame) (fun m hm hHandle => ⟨m, hm, hHandle⟩) rfl rfl
        (fun hDone => hDone) hTask
  · cases hStep

theorem commit {listed : Bool} (h : s.Sound id low) (hListed : a = id → listed = true)
    (hStep : s.commit a plan defaultRoute listed = some s') : s'.Sound id low := by
  unfold UsageHost.commit at hStep
  split at hStep
  · rename_i file hIdle hFile
    cases hStep
    have hDeletes : ¬s.task.Deletes id := by
      rw [hIdle]
      exact not_false
    refine h.frame rfl (fun m hm hHandle => ⟨m, hm, hHandle⟩) rfl rfl (fun _ => hDeletes) ?_
    rintro rfl
    have hTotal : s.total a = totalOf (some file) (readAssignmentCounter a s.chain) := by
      rw [total, hFile]
    rw [reading, hListed rfl]
    refine ⟨(h.bounded hDeletes).1.trans_eq hTotal, hTotal.ge, file, hFile, rfl, rfl⟩
  · cases hStep

theorem revoke {role : Role} {listed : Bool} (h : s.Sound id low)
    (hOrderly : s.Orderly id (.revoke a role listed))
    (hStep : s.revoke a role listed = some s') : s'.Sound id low := by
  unfold UsageHost.revoke at hStep
  split at hStep
  · rename_i hIdle
    cases hStep
    have hDeletes : ¬s.task.Deletes id := by
      rw [hIdle]
      exact not_false
    refine h.frame rfl (fun m hm hHandle => ⟨m, hm, hHandle⟩) rfl rfl (fun _ => hDeletes) ?_
    rintro rfl
    obtain ⟨hListed, hFirst⟩ := hOrderly rfl
    have hTotal : s.total a = ((s.files a).getD (derivedUsageFile role)).counterOffset +
        readAssignmentCounter a s.chain := by
      unfold total
      cases hFile : s.files a with
      | none => exact (zero_add _).symm
      | some file =>
          rw [totalOf_some, hFirst file hFile]
          rfl
    obtain ⟨hLow, hHigh⟩ := h.bounded hDeletes
    rw [reading, hListed]
    exact ⟨rfl, Option.some_ne_none _, rfl, hLow.trans_eq hTotal, hTotal.ge.trans hHigh⟩
  · cases hStep

theorem advance_of_ne (h : s.Sound id low) (hOther : a ≠ id)
    (hFiles : s'.files id = s.files id)
    (hChain : s'.chain = s.chain ∨ (∃ kept, s'.chain = eraseOwn a s.chain kept) ∨
      ∃ r : ForwardRule, r.handle = a ∧ s'.chain = s.chain ++ [⟨r, 0⟩])
    (hPassed : s'.passed id = s.passed id)
    (hDeletes : ¬s'.task.Deletes id → ¬s.task.Deletes id) (hTask : s'.TaskSound id low s'.task) :
    s'.Sound id low := by
  refine h.frame hFiles ?_ ?_ hPassed hDeletes hTask
  · intro m hm hHandle
    rcases hChain with hEq | ⟨kept, hEq⟩ | ⟨r, hr, hEq⟩
    · exact ⟨m, hEq ▸ hm, hHandle⟩
    · rw [hEq] at hm
      exact ⟨m, mem_of_mem_eraseOwn hm, hHandle⟩
    · rw [hEq] at hm
      rcases List.mem_append.1 hm with hOld | hNew
      · exact ⟨m, hOld, hHandle⟩
      · rw [List.mem_singleton.1 hNew, hr] at hHandle
        exact absurd hHandle hOther
  · rcases hChain with hEq | ⟨kept, hEq⟩ | ⟨r, -, hEq⟩
    · rw [hEq]
    · rw [hEq, readAssignmentCounter_eraseOwn hOther]
    · rw [hEq, readAssignmentCounter_append]

theorem packet (h : s.Sound id low) : (s.packet p size).Sound id low := by
  have hTotal : (s.packet p size).total id =
      totalOf (s.files id) (readAssignmentCounter id s.chain + chargeOf s.chain p size id) := by
    unfold total UsageHost.packet
    rw [readAssignmentCounter_countPacket]
  have hGrows : s.total id ≤ (s.packet p size).total id := totalOf_le_add.trans_eq hTotal.symm
  have hPassed : s.passed id ≤ (s.packet p size).passed id := le_self_add
  constructor
  · intro hDone
    obtain ⟨hLow, hHigh⟩ := h.bounded hDone
    refine ⟨hLow.trans hGrows, ?_⟩
    calc (s.packet p size).total id
        ≤ s.total id + chargeOf s.chain p size id := hTotal.trans_le totalOf_add_le
      _ ≤ s.passed id + chargeOf s.chain p size id := add_le_add_left hHigh _
  · intro file hFile hSome m hm
    obtain ⟨m', hm', hRule⟩ := handle_of_mem_countPacket hm
    rw [← hRule]
    exact h.silent file hFile hSome m' hm'
  · exact h.keys
  · have hTask := h.task
    change (s.packet p size).TaskSound id low s.task
    cases hNow : s.task with
    | idle => trivial
    | counting a file plan defaultRoute =>
        intro hSame
        rw [hNow] at hTask
        obtain ⟨hLow, hHigh, hOld⟩ := hTask hSame
        exact ⟨hLow, hHigh.trans hGrows, hOld⟩
    | replacing a file plan defaultRoute kept =>
        intro hSame
        rw [hNow] at hTask
        obtain ⟨hKept, hFile, hLow, hHigh⟩ := hTask hSame
        exact ⟨hKept, hFile, hLow, hHigh.trans hPassed⟩
    | installing a file rules =>
        rw [hNow] at hTask
        exact hTask
    | revoking a file kept =>
        intro hSame
        rw [hNow] at hTask
        obtain ⟨hKept, hSome, hKey, hLow, hHigh⟩ := hTask hSame
        exact ⟨hKept, hSome, hKey, hLow, hHigh.trans hPassed⟩

theorem stop (h : s.Sound id low) (hOrderly : ¬s.task.Deletes id) :
    (s.become .idle).Sound id low :=
  h.frame rfl (fun m hm hHandle => ⟨m, hm, hHandle⟩) rfl rfl (fun _ => hOrderly) trivial

theorem advance_counting (h : s.Sound id low) (hNow : s.task = .counting a file plan defaultRoute) :
    ((s.write a file).become (.replacing a file plan defaultRoute 0)).Sound id low := by
  by_cases hSame : a = id
  · subst hSame
    have hTask := h.task
    rw [hNow] at hTask
    obtain ⟨hLow, hHigh, old, hOld, hCheckpoint, hKey⟩ := hTask rfl
    have hNew : ∀ f ∈ (s.write a file).files a, f = file := by
      intro f hf
      exact (Option.some.inj (files_write_self.symm.trans hf)).symm
    have hDone : ¬s.task.Deletes a := by
      rw [hNow]
      exact not_false
    constructor
    · intro hDeletes
      exact absurd rfl hDeletes
    · intro f hf hSome
      rw [hNew f hf, ← hCheckpoint] at hSome
      exact h.silent old hOld hSome
    · intro f hf hSome
      rw [hNew f hf] at hSome ⊢
      rw [← hCheckpoint] at hSome
      exact hKey.symm.trans (h.keys old hOld hSome)
    · intro _
      exact ⟨rfl, files_write_self, hLow, hHigh.trans (h.bounded hDone).2⟩
  · refine h.advance_of_ne hSame (files_write_of_ne hSame) (.inl rfl) rfl ?_ ?_
    · intro _
      rw [hNow]
      exact not_false
    · intro hEq
      exact absurd hEq hSame

theorem advance_delete {kept : ℕ} (h : s.Sound id low) (hDeletes : a = id → s.task.Deletes id) :
    (s.deleteRule a kept).Sound id low := by
  have hTask : (s.deleteRule a kept).TaskSound id low s.task := by
    cases hNow : s.task with
    | counting a' file plan defaultRoute =>
        rintro rfl
        have hTask := h.task
        rw [hNow] at hTask hDeletes
        have hSame : a ≠ a' := fun hEq => hDeletes hEq
        have hTotal : (s.deleteRule a kept).total a' = s.total a' := by
          unfold total deleteRule
          dsimp only
          rw [readAssignmentCounter_eraseOwn hSame]
        obtain ⟨hLow, hHigh, hOld⟩ := hTask rfl
        exact ⟨hLow, hHigh.trans_eq hTotal.symm, hOld⟩
    | idle => trivial
    | replacing | installing | revoking =>
        have hTask := h.task
        rw [hNow] at hTask
        exact hTask
  by_cases hSame : a = id
  · constructor
    · intro hDone
      exact absurd (hDeletes hSame) hDone
    · intro f hf hSome m hm
      exact h.silent f hf hSome m (mem_of_mem_eraseOwn hm)
    · exact h.keys
    · exact hTask
  · exact h.advance_of_ne hSame rfl (.inr (.inl ⟨kept, rfl⟩)) rfl (fun hDone => hDone) hTask

theorem advance_replaced {task : AgentTask} {kept : ℕ} (h : s.Sound id low)
    (hNow : s.task = .replacing a file plan defaultRoute kept) (hNone : s.hasRules a kept = false)
    (hDone : ¬task.Deletes id) (hTask : (s.become task).TaskSound id low task) :
    (s.become task).Sound id low := by
  by_cases hSame : a = id
  · subst hSame
    have hBefore := h.task
    rw [hNow] at hBefore
    obtain ⟨rfl, hFile, hLow, hHigh⟩ := hBefore rfl
    have hTotal : (s.become task).total a = resumedCounterOffset (some file) := by
      rw [← hFile]
      exact total_eq_of_not_hasRules hNone
    constructor
    · intro _
      rw [hTotal]
      exact ⟨hLow, hHigh⟩
    · exact h.silent
    · exact h.keys
    · exact hTask
  · refine h.advance_of_ne hSame rfl (.inl rfl) rfl ?_ hTask
    intro _
    rw [hNow]
    exact hSame

theorem advance_committed (h : s.Sound id low) (hNow : s.task = .installing a file []) :
    ((s.write a { file with committed := true }).become .idle).Sound id low := by
  have hInstalling : ¬s.task.Deletes id := by
    rw [hNow]
    exact not_false
  by_cases hSame : a = id
  · subst hSame
    have hTask := h.task
    rw [hNow] at hTask
    obtain ⟨hFile, hCheckpoint⟩ := hTask.2 rfl
    have hTotal : ((s.write a { file with committed := true }).become .idle).total a =
        s.total a := by
      refine total_write_self.trans ?_
      rw [total, hFile]
      rfl
    have hNew : ∀ f ∈ ((s.write a { file with committed := true }).become .idle).files a,
        f.counterCheckpoint = none := by
      intro f hf
      cases files_write_self.symm.trans hf
      exact hCheckpoint
    constructor
    · intro _
      rw [hTotal]
      exact h.bounded hInstalling
    · intro f hf hSome
      exact absurd (hNew f hf) hSome
    · intro f hf hSome
      exact absurd (hNew f hf) hSome
    · trivial
  · exact h.advance_of_ne hSame (files_write_of_ne hSame) (.inl rfl) rfl
      (fun _ => hInstalling) trivial

theorem advance_install {r : ForwardRule} (h : s.Sound id low)
    (hNow : s.task = .installing a file (r :: rules)) :
    ((s.addRule r).become (.installing a file rules)).Sound id low := by
  have hTask := h.task
  rw [hNow] at hTask
  obtain ⟨hHandles, hOwn⟩ := hTask
  have hInstalling : ¬s.task.Deletes id := by
    rw [hNow]
    exact not_false
  have hTask' : ((s.addRule r).become (.installing a file rules)).TaskSound id low
      (.installing a file rules) :=
    ⟨fun r' hr' => hHandles r' (List.mem_cons_of_mem _ hr'), hOwn⟩
  have hHandle : r.handle = a := hHandles r List.mem_cons_self
  by_cases hSame : a = id
  · obtain ⟨hFile, hCheckpoint⟩ := hOwn hSame
    have hTotal : ((s.addRule r).become (.installing a file rules)).total id = s.total id :=
      congrArg (totalOf (s.files id)) readAssignmentCounter_append
    constructor
    · intro _
      rw [hTotal]
      exact h.bounded hInstalling
    · intro f hf hSome
      cases hFile.symm.trans hf
      exact absurd hCheckpoint hSome
    · exact h.keys
    · exact hTask'
  · exact h.advance_of_ne hSame rfl (.inr (.inr ⟨r, hHandle, rfl⟩)) rfl (fun _ => hInstalling)
      hTask'

theorem advance_revoked {kept : ℕ} (h : s.Sound id low) (hNow : s.task = .revoking a file kept)
    (hNone : s.hasRules a kept = false) : ((s.write a file).become .idle).Sound id low := by
  by_cases hSame : a = id
  · subst hSame
    have hTask := h.task
    rw [hNow] at hTask
    obtain ⟨rfl, hSome, hKey, hLow, hHigh⟩ := hTask rfl
    have hReading : readAssignmentCounter a s.chain = 0 :=
      readAssignmentCounter_of_forall_ne (handle_ne_of_not_hasRules hNone)
    have hTotal : ((s.write a file).become .idle).total a = resumedCounterOffset (some file) := by
      refine total_write_self.trans ?_
      rw [hReading, totalOf_zero]
    constructor
    · intro _
      rw [hTotal]
      exact ⟨hLow, hHigh⟩
    · intro _ _ _
      exact handle_ne_of_not_hasRules hNone
    · intro f hf _
      cases files_write_self.symm.trans hf
      exact hKey
    · trivial
  · refine h.advance_of_ne hSame (files_write_of_ne hSame) (.inl rfl) rfl ?_ trivial
    intro _
    rw [hNow]
    exact hSame

theorem advance (h : s.Sound id low) (hStep : s.advance = some s') : s'.Sound id low := by
  unfold UsageHost.advance at hStep
  split at hStep
  · cases hStep
  · rename_i a file plan defaultRoute hNow
    cases hStep
    exact h.advance_counting hNow
  · rename_i a file plan defaultRoute kept hNow
    split at hStep
    · cases hStep
      refine h.advance_delete fun hSame => ?_
      rw [hNow]
      exact hSame
    · rename_i hNone
      rw [Bool.not_eq_true] at hNone
      split at hStep
      · rename_i rules hRules
        cases hStep
        obtain ⟨hKey, rfl⟩ := commitRules_eq hRules
        refine h.advance_replaced hNow hNone not_false ⟨?_, ?_⟩
        · intro r hr
          exact Installation.handle_of_mem_forwardRules hr
        · intro hSame
          have hTask := h.task
          rw [hNow] at hTask
          have hFile := (hTask hSame).2.1
          by_contra hBad
          exact hKey (h.keys file hFile fun hCheckpoint => hBad ⟨hFile, hCheckpoint⟩)
      · cases hStep
        exact h.advance_replaced hNow hNone not_false trivial
  · rename_i a file hNow
    cases hStep
    exact h.advance_committed hNow
  · rename_i a file r rules hNow
    cases hStep
    exact h.advance_install hNow
  · rename_i a file kept hNow
    split at hStep
    · cases hStep
      refine h.advance_delete fun hSame => ?_
      rw [hNow]
      exact hSame
    · rename_i hNone
      cases hStep
      exact h.advance_revoked hNow (Bool.not_eq_true _ ▸ hNone)

theorem lose (h : s.Sound id low) (hOther : ¬s.task.Deletes id) (hStep : s.lose = some s') :
    s'.Sound id low := by
  unfold UsageHost.lose at hStep
  split at hStep
  · rename_i a file plan defaultRoute kept hNow
    obtain ⟨-, hEq⟩ := Option.ite_none_right_eq_some.1 hStep
    cases hEq
    refine h.frame rfl (fun m hm hHandle => ⟨m, hm, hHandle⟩) rfl rfl (fun _ => hOther) ?_
    intro hSame
    rw [hNow] at hOther
    exact absurd hSame hOther
  · rename_i a file kept hNow
    obtain ⟨-, hEq⟩ := Option.ite_none_right_eq_some.1 hStep
    cases hEq
    refine h.frame rfl (fun m hm hHandle => ⟨m, hm, hHandle⟩) rfl rfl (fun _ => hOther) ?_
    intro hSame
    rw [hNow] at hOther
    exact absurd hSame hOther
  · cases hStep
  · cases hStep
  · cases hStep

theorem step {e : UsageEvent} (h : s.Sound id low) (hOrderly : s.Orderly id e)
    (hStep : s.step e = some s') : s'.Sound id low := by
  cases e with
  | prepare a role plan fresh => exact h.prepare hStep
  | commit a plan defaultRoute listed => exact h.commit hOrderly hStep
  | revoke a role listed => exact h.revoke hOrderly hStep
  | advance => exact h.advance hStep
  | lose => exact h.lose hOrderly hStep
  | stop =>
      cases hStep
      exact h.stop hOrderly
  | packet p size =>
      cases hStep
      exact h.packet

theorem raise (h : s.Sound id low) (hSettled : ¬s.task.Settles id) : s.Sound id (s.total id) := by
  have hDone : ¬s.task.Deletes id := by
    intro hDeletes
    cases hNow : s.task <;> rw [hNow] at hDeletes hSettled
    all_goals first | exact hSettled hDeletes | exact hDeletes
  refine ⟨fun _ => ⟨le_rfl, (h.bounded hDone).2⟩, h.silent, h.keys, ?_⟩
  have hTask := h.task
  cases hNow : s.task with
  | idle => trivial
  | counting | replacing | revoking =>
      rw [hNow] at hSettled
      exact fun hSame => absurd hSame hSettled
  | installing a file rules =>
      rw [hNow] at hTask
      exact hTask

end Sound

theorem total_eq_of_report {c : Counters} (h : c ∈ s.report id true) : c = s.total id := by
  unfold report at h
  unfold total
  split at h
  · cases h
  · rename_i file hFile
    rw [hFile, totalOf_some]
    split at h
    · rename_i hCheckpoint
      cases h
      rw [hCheckpoint]
      rfl
    · rename_i hCheckpoint
      split at h
      · cases h
        rw [hCheckpoint]
        rfl
      · cases h

/-- Two values that are reported for an assignment one after the other, from listings of the chain
that succeed: the second is no less than the first, and no more than what the rules of the
assignment have counted. -/
theorem reported_usage_grows {earlier later : List UsageEvent} {c c' : Counters}
    (hEarlier : run step ∅ earlier = some s) (hLater : run step s later = some s')
    (hOrderly : StepsMeet step (Orderly id) ∅ (earlier ++ later))
    (hSettled : ¬s.task.Settles id) (hSettled' : ¬s'.task.Settles id)
    (hReport : c ∈ s.report id true) (hReport' : c' ∈ s'.report id true) :
    c ≤ c' ∧ c' ≤ s'.passed id := by
  have hSteps : ∀ low (s : UsageHost) e s', s.Sound id low → s.Orderly id e → s.step e = some s' →
      s'.Sound id low := fun _ _ _ _ h hOrderly hStep => h.step hOrderly hStep
  have hSound : s.Sound id 0 :=
    run_invariant_of_stepsMeet (hSteps 0) Sound.empty hEarlier
      (stepsMeet_of_initial ⟨later, rfl⟩ hOrderly)
  have hSound' : s'.Sound id (s.total id) :=
    run_invariant_of_stepsMeet (hSteps _) (hSound.raise hSettled) hLater
      (stepsMeet_append hEarlier hOrderly)
  rw [total_eq_of_report hReport, total_eq_of_report hReport']
  apply hSound'.bounded
  intro hDeletes
  cases hNow : s'.task <;> rw [hNow] at hDeletes hSettled'
  all_goals first | exact hSettled' hDeletes | exact hDeletes

/-- From the client to a destination. -/
def outwardPacket : Packet where
  iifname := clientName ChainHost.firstId
  oifname := transitName .ingress ChainHost.firstId
  established := false
  addresses := some (0x0A4D0002, 0xC6336401)

/-- The assignment is committed with its four rules, and its client sends. -/
def commitAndSend : List UsageEvent :=
  [.prepare ChainHost.firstId .ingress (ChainHost.samplePlan 0x0A4D0002) ChainHost.freshKeys,
    .commit ChainHost.firstId (ChainHost.samplePlan 0x0A4D0002) none true] ++
    List.replicate 7 .advance ++ [.packet outwardPacket 1420]

/-- A commit that is stopped, one that goes through and a revocation, with packets in between. -/
def recommitAndRevoke : List UsageEvent :=
  [.commit ChainHost.firstId (ChainHost.samplePlan 0x0A4D0002) none true,
    .packet outwardPacket 80, .stop,
    .commit ChainHost.firstId (ChainHost.samplePlan 0x0A4D0002) none true,
    .packet outwardPacket 40] ++
    List.replicate 11 .advance ++
    [.packet outwardPacket 60, .revoke ChainHost.firstId .ingress true] ++ List.replicate 5 .advance

theorem recommitted_usage_grows :
    ∃ s ∈ run step ∅ commitAndSend, ∃ s' ∈ run step s recommitAndRevoke,
      ∃ c ∈ s.report ChainHost.firstId true, ∃ c' ∈ s'.report ChainHost.firstId true,
        c ≤ c' ∧ c' ≤ s'.passed ChainHost.firstId := by
  have hExists : ∃ s ∈ run step ∅ commitAndSend, ¬s.task.Settles ChainHost.firstId ∧
      (s.report ChainHost.firstId true).isSome ∧ ∃ s' ∈ run step s recommitAndRevoke,
        ¬s'.task.Settles ChainHost.firstId ∧ (s'.report ChainHost.firstId true).isSome := by
    decide +kernel
  have hOrderly : StepsMeet step (Orderly ChainHost.firstId) ∅
      (commitAndSend ++ recommitAndRevoke) := by
    decide +kernel
  obtain ⟨s, hRun, hSettled, hReport, s', hRun', hSettled', hReport'⟩ := hExists
  obtain ⟨c, hc⟩ := Option.isSome_iff_exists.1 hReport
  obtain ⟨c', hc'⟩ := Option.isSome_iff_exists.1 hReport'
  exact ⟨s, hRun, s', hRun', c, hc, c', hc',
    reported_usage_grows hRun hRun' hOrderly hSettled hSettled' hc hc'⟩

end UsageHost

end Hyperspace.Gate.ForwardChain
