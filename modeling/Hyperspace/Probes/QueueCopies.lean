import Hyperspace.Probes.ProbeQueue

/-!
# Copies of tasks

A call works with a task as it has read it, while other calls update the document. What it may
still rely on is that its copy is an earlier state of the document.
-/

namespace Hyperspace.Probes

open Hyperspace.Foundations

/-- Claims in the order they were made, after no claim. -/
def claimRank (claimId : Option ClaimId) : Nat := claimId.elim 0 (· + 1)

/-- A document can go from the one state to the other. -/
structure ProbeTask.Earlier (old new : ProbeTask) : Prop where
  fixed : new.toNewTask = old.toNewTask
  claim : new.claimId = old.claimId ∧ new.attempts = old.attempts ∨
    claimRank old.claimId < claimRank new.claimId
  completed : old.phase = .completed → new.phase = .completed ∧
    new.completedAt = old.completedAt ∧
      (new.deliveryPending = some true → old.deliveryPending = some true ∧ new.events = old.events)

namespace ProbeTask.Earlier

variable {t old mid new : ProbeTask}

theorem refl : t.Earlier t where
  fixed := rfl
  claim := .inl ⟨rfl, rfl⟩
  completed := fun hCompleted => ⟨hCompleted, rfl, fun hPending => ⟨hPending, rfl⟩⟩

theorem trans (h : old.Earlier mid) (h' : mid.Earlier new) : old.Earlier new where
  fixed := h'.fixed.trans h.fixed
  claim := by
    rcases h.claim with ⟨hClaim, hAttempts⟩ | hLess
    · rw [← hClaim, ← hAttempts]
      exact h'.claim
    · rcases h'.claim with ⟨hClaim, -⟩ | hLess'
      · exact .inr (hClaim ▸ hLess)
      · exact .inr (hLess.trans hLess')
  completed := by
    intro hOld
    obtain ⟨hMid, hAt, hEvents⟩ := h.completed hOld
    obtain ⟨hNew, hAt', hEvents'⟩ := h'.completed hMid
    refine ⟨hNew, hAt'.trans hAt, fun hPending => ?_⟩
    obtain ⟨hMidPending, hSame⟩ := hEvents' hPending
    obtain ⟨hOldPending, hSame'⟩ := hEvents hMidPending
    exact ⟨hOldPending, hSame.trans hSame'⟩

theorem attempts_eq (h : old.Earlier new) (hClaim : new.claimId = old.claimId) :
    new.attempts = old.attempts := by
  rcases h.claim with ⟨-, hAttempts⟩ | hLess
  · exact hAttempts
  · rw [hClaim] at hLess
    exact absurd hLess (lt_irrefl _)

theorem maxAttempts_eq (h : old.Earlier new) : new.maxAttempts = old.maxAttempts := by
  rw [h.fixed]

end ProbeTask.Earlier

theorem TaskUpdate.earlier_apply {u : TaskUpdate} {t : ProbeTask}
    (hFresh : ∀ now claimId, u = .lease now claimId → claimRank t.claimId ≤ claimId) :
    t.Earlier (u.apply t) := by
  rw [apply]
  split
  · rename_i hFilter
    cases u with
    | lease now claimId =>
        simp only [filter, Bool.and_eq_true, decide_eq_true_eq] at hFilter
        refine ⟨rfl, .inr (Nat.lt_succ_of_le (hFresh now claimId rfl)), fun hCompleted => ?_⟩
        rw [hFilter.1.1] at hCompleted
        cases hCompleted
    | complete now claimId outcome events requeue =>
        simp only [filter, Bool.and_eq_true, decide_eq_true_eq] at hFilter
        refine ⟨?_, ?_, fun hCompleted => ?_⟩
        · cases requeue <;> rfl
        · cases requeue <;> exact .inl ⟨rfl, rfl⟩
        · rw [hFilter.1.2] at hCompleted
          cases hCompleted
    | expireLease now claimId retry =>
        simp only [filter, Bool.and_eq_true, decide_eq_true_eq] at hFilter
        refine ⟨?_, ?_, fun hCompleted => ?_⟩
        · cases retry <;> rfl
        · cases retry <;> exact .inl ⟨rfl, rfl⟩
        · rw [hFilter.1.1] at hCompleted
          cases hCompleted
    | cancel now view =>
        simp only [filter, Bool.and_eq_true, decide_eq_true_eq] at hFilter
        refine ⟨rfl, .inl ⟨rfl, rfl⟩, fun hCompleted => ?_⟩
        rw [hFilter.1] at hCompleted
        cases hCompleted
    | supersede now targetId revision =>
        simp only [filter, Bool.and_eq_true, decide_eq_true_eq] at hFilter
        refine ⟨rfl, .inl ⟨rfl, rfl⟩, fun hCompleted => ?_⟩
        rw [hFilter.1.1.1] at hCompleted
        cases hCompleted
    | release _ | postpone _ =>
        exact ⟨rfl, .inl ⟨rfl, rfl⟩, fun hCompleted => ⟨hCompleted, rfl, fun h => ⟨h, rfl⟩⟩⟩
    | markDelivered _ _ _ =>
        exact ⟨rfl, .inl ⟨rfl, rfl⟩, fun hCompleted => ⟨hCompleted, rfl, fun h => by cases h⟩⟩
  · exact .refl

def ProbeCall.copies : ProbeCall → List ProbeTask
  | report _ task | confirm _ task => [task]
  | expire _ tasks => tasks
  | deliverEvents row _ rows | markDelivered row rows => row :: rows
  | postpone row => [row]
  | enqueue _ _ | release _ | cancel _ _ | finished => []

/-! ### What a step does to the tasks -/

namespace ProbeQueue

variable {dates : DateFunctions} {s s' : ProbeQueue} {e : QueueEvent}

/-- The effect of a step on the documents. -/
inductive TasksStep (s s' : ProbeQueue) : Prop where
  | same (h : s'.tasks = s.tasks) (hNext : s'.nextClaimId = s.nextClaimId)
  | inserted (task : NewTask) (now : Milliseconds)
      (h : s'.tasks = s.tasks.insert (task.create now) fun _ => rfl)
      (hNext : s'.nextClaimId = s.nextClaimId)
  | updated (task : TaskId) (u : TaskUpdate) (h : s'.tasks = (s.updateOne task u).tasks)
      (hNext : s'.nextClaimId = s.nextClaimId) (hQuiet : ∀ now claimId, u ≠ .lease now claimId)
  | leased (task : TaskId) (h : s'.tasks = (s.updateOne task (.lease s.clock s.nextClaimId)).tasks)
      (hNext : s'.nextClaimId = s.nextClaimId + 1)
  | removed (task : TaskId) (h : s'.tasks = (s.removeDocument task).tasks)
      (hNext : s'.nextClaimId = s.nextClaimId)

theorem tasksStep_enqueue {task : NewTask} : s.TasksStep (s.enqueue task) := by
  rw [enqueue]
  split <;> exact .same rfl rfl

theorem tasksStep_insert {task : NewTask} {now : Milliseconds} {call : Nat} :
    s.TasksStep ((s.setCall call .finished).insert task now) := by
  rw [insert]
  split
  · exact .same rfl rfl
  · exact .inserted task now rfl rfl

theorem tasksStep_claim {sourceId : Uuid} {trading : Bool} {view : CatalogView} :
    s.TasksStep (s.claim sourceId trading view) := by
  rw [claim]
  split
  · split
    · exact .same rfl rfl
    · exact .leased _ rfl rfl
  · exact .same rfl rfl

theorem tasksStep_readReported {report : ProbeReport} : s.TasksStep (s.readReported report) := by
  rw [readReported]
  split
  · exact .same rfl rfl
  · split <;> exact .same rfl rfl

theorem tasksStep_complete {call : Nat} {report : ProbeReport} {task : ProbeTask} :
    s.TasksStep (s.complete dates call report task) := by
  rw [complete]
  split
  · exact .same rfl rfl
  · split
    · exact .same rfl rfl
    · rw [applyReport]
      split
      · exact .same rfl rfl
      · exact .updated _ _ rfl rfl nofun

theorem tasksStep_deliverEvent {call : Nat} {row : ProbeTask} {event : ProbeEvent}
    {events : List ProbeEvent} {rows : List ProbeTask} :
    s.TasksStep (s.deliverEvent dates call row event events rows) := by
  rw [deliverEvent]
  split <;> exact .same rfl rfl

theorem tasksStep_recordCycle {call : ProbeCall} {k : Nat} {row : ProbeTask}
    {completedAt : Milliseconds} :
    s.TasksStep ((s.setCall k call).recordCycle row completedAt) := by
  rw [recordCycle]
  split <;> exact .same rfl rfl

theorem tasksStep_markDelivered {call : ProbeCall} {k : Nat} {row : ProbeTask}
    {completedAt : Milliseconds} :
    s.TasksStep ((s.setCall k call).markDelivered row completedAt) := by
  rw [markDelivered]
  dsimp only
  split
  · exact .same rfl rfl
  · exact .updated _ _ rfl rfl nofun

theorem tasksStep (hStep : s.step dates e = some s') : s.TasksStep s' := by
  cases e with
  | tick _ | reapExpired | deliver _ =>
      cases hStep
      exact .same rfl rfl
  | enqueue _ =>
      cases hStep
      exact tasksStep_enqueue
  | claim _ _ _ =>
      cases hStep
      exact tasksStep_claim
  | report _ =>
      cases hStep
      exact tasksStep_readReported
  | removeDocument task =>
      cases hStep
      exact .removed task rfl rfl
  | insert call =>
      simp only [step] at hStep
      split at hStep <;> cases hStep
      exact tasksStep_insert
  | complete call =>
      simp only [step] at hStep
      split at hStep <;> cases hStep
      exact tasksStep_complete
  | confirm call | findExpired call | readCatalog call view =>
      simp only [step] at hStep
      split at hStep <;> cases hStep
      exact .same rfl rfl
  | release call task | expireLease call | cancel call task =>
      simp only [step] at hStep
      split at hStep <;> cases hStep
      exact .updated _ _ rfl rfl nofun
  | supersede call task targetId =>
      simp only [step] at hStep
      split at hStep
      · obtain ⟨target, -, rfl⟩ := Option.map_eq_some_iff.1 hStep
        exact .updated _ _ rfl rfl nofun
      · cases hStep
  | deliverEvent call =>
      simp only [step] at hStep
      split at hStep <;> cases hStep
      exact tasksStep_deliverEvent
  | recordCycle call =>
      simp only [step] at hStep
      split at hStep
      · split at hStep <;> cases hStep
        · exact .same rfl rfl
        · exact tasksStep_recordCycle
      · cases hStep
  | markDelivered call =>
      simp only [step] at hStep
      split at hStep
      · split at hStep <;> cases hStep
        · exact .same rfl rfl
        · exact tasksStep_markDelivered
      · cases hStep
  | failDelivery call =>
      simp only [step] at hStep
      split at hStep <;> cases hStep <;> exact .same rfl rfl
  | postpone call =>
      simp only [step] at hStep
      split at hStep <;> cases hStep
      exact .updated _ _ rfl rfl nofun

/-! ### The copies that calls hold -/

/-- The copy is an earlier state of the document with its id, if that is still there. -/
def Shows (s : ProbeQueue) (copy : ProbeTask) : Prop :=
  copy.id < s.tasks.next ∧ ∀ t ∈ s.tasks.rows, t.id = copy.id → copy.Earlier t

theorem Shows.of_mem {t : ProbeTask} (h : t ∈ s.tasks.rows) : s.Shows t := by
  refine ⟨s.tasks.fresh t h, fun t' h' hId => ?_⟩
  rw [SerialTable.row_unique h' h hId]
  exact .refl

theorem mem_updateOne {task : TaskId} {u : TaskUpdate} {t : ProbeTask} :
    t ∈ (s.updateOne task u).tasks.rows ↔
      ∃ t' ∈ s.tasks.rows, (if t'.id = task then u.apply t' else t') = t := by
  rw [updateOne, SerialTable.mem_update]

theorem mem_removeDocument {task : TaskId} {t : ProbeTask} :
    t ∈ (s.removeDocument task).tasks.rows ↔
      t ∈ s.tasks.rows ∧ (t.id = task → ∀ expiresAt ∈ t.expiresAt, s.clock < expiresAt) := by
  rw [removeDocument, SerialTable.mem_filter]
  cases t.expiresAt with
  | none => simp
  | some expiresAt =>
      simp only [ne_eq, decide_not, Option.any_some, Bool.or_eq_true, Bool.not_eq_eq_eq_not,
        Bool.not_true, decide_eq_false_iff_not, not_le, Option.mem_def, Option.some.injEq,
        forall_eq']
      tauto

theorem Shows.update {copy : ProbeTask} (h : s.Shows copy) {task : TaskId} {u : TaskUpdate}
    (hFresh : ∀ t ∈ s.tasks.rows, ∀ now claimId, u = .lease now claimId →
      claimRank t.claimId ≤ claimId) : (s.updateOne task u).Shows copy := by
  refine ⟨h.1, fun t hMem hId => ?_⟩
  obtain ⟨t', hOld, rfl⟩ := mem_updateOne.1 hMem
  by_cases hTask : t'.id = task
  · rw [if_pos hTask, TaskUpdate.apply_id] at hId
    rw [if_pos hTask]
    exact (h.2 t' hOld hId).trans (TaskUpdate.earlier_apply (hFresh t' hOld))
  · rw [if_neg hTask] at hId ⊢
    exact h.2 t' hOld hId

theorem Shows.step {copy : ProbeTask} (h : s.Shows copy) (hTasks : s.TasksStep s')
    (hIssued : ∀ t ∈ s.tasks.rows, claimRank t.claimId ≤ s.nextClaimId) : s'.Shows copy := by
  cases hTasks with
  | same hSame _ =>
      rw [Shows, hSame]
      exact h
  | inserted task now hInsert _ =>
      rw [Shows, hInsert]
      refine ⟨Nat.lt_succ_of_lt h.1, fun t hMem hId => ?_⟩
      rcases SerialTable.mem_insert.1 hMem with hOld | rfl
      · exact h.2 t hOld hId
      · exact absurd hId h.1.ne'
  | updated task u hUpdate _ hQuiet =>
      rw [Shows, hUpdate]
      exact h.update fun t hMem now claimId hLease => absurd hLease (hQuiet now claimId)
  | leased task hLease _ =>
      rw [Shows, hLease]
      refine h.update fun t hMem now claimId hSame => ?_
      cases hSame
      exact hIssued t hMem
  | removed task hRemove _ =>
      rw [Shows, hRemove]
      exact ⟨h.1, fun t hMem hId => h.2 t (mem_removeDocument.1 hMem).1 hId⟩

/-- Claims come from the counter, and the copies of all calls are earlier states. -/
structure CopiesSound (s : ProbeQueue) : Prop where
  issued : ∀ t ∈ s.tasks.rows, claimRank t.claimId ≤ s.nextClaimId
  shows : ∀ call ∈ s.calls, ∀ copy ∈ call.copies, s.Shows copy

theorem claimId_apply {u : TaskUpdate} {t : ProbeTask}
    (h : ∀ now claimId, u ≠ .lease now claimId) : (u.apply t).claimId = t.claimId := by
  rw [TaskUpdate.apply]
  split
  · cases u with
    | lease now claimId => exact absurd rfl (h now claimId)
    | complete _ _ _ _ requeue => cases requeue <;> rfl
    | expireLease _ _ retry => cases retry <;> rfl
    | release _ | cancel _ _ | supersede _ _ _ | markDelivered _ _ _ | postpone _ => rfl
  · rfl

theorem issued_step (h : ∀ t ∈ s.tasks.rows, claimRank t.claimId ≤ s.nextClaimId)
    (hTasks : s.TasksStep s') : ∀ t ∈ s'.tasks.rows, claimRank t.claimId ≤ s'.nextClaimId := by
  cases hTasks with
  | same hSame hNext =>
      rw [hSame, hNext]
      exact h
  | inserted task now hInsert hNext =>
      rw [hInsert, hNext]
      intro t hMem
      rcases SerialTable.mem_insert.1 hMem with hOld | rfl
      · exact h t hOld
      · exact Nat.zero_le _
  | updated task u hUpdate hNext hQuiet =>
      rw [hUpdate, hNext]
      intro t hMem
      obtain ⟨t', hOld, rfl⟩ := mem_updateOne.1 hMem
      split
      · rw [claimId_apply hQuiet]
        exact h t' hOld
      · exact h t' hOld
  | leased task hLease hNext =>
      rw [hLease, hNext]
      intro t hMem
      obtain ⟨t', hOld, rfl⟩ := mem_updateOne.1 hMem
      have hBound := h t' hOld
      split
      · rw [TaskUpdate.apply]
        split
        · exact le_rfl
        · exact hBound.trans (Nat.le_succ _)
      · exact hBound.trans (Nat.le_succ _)
  | removed task hRemove hNext =>
      rw [hRemove, hNext]
      exact fun t hMem => h t (mem_removeDocument.1 hMem).1

/-! ### What a step does to the calls -/

/-- A call that a step starts or moves on. -/
inductive NewCall (s s' : ProbeQueue) : ProbeCall → Prop where
  | enqueue (task : NewTask) : NewCall s s' (.enqueue task s.clock)
  | report {report : ProbeReport} {t : ProbeTask} (hMem : t ∈ s.tasks.rows)
      (hFinds : report.finds t) (hLeased : t.phase = .leased) : NewCall s s' (.report report t)
  | confirm {report : ProbeReport} {task : ProbeTask} (hCall : .report report task ∈ s.calls) :
      NewCall s s' (.confirm report task)
  | release : NewCall s s' (.release s.clock)
  | findExpired {now : Milliseconds} (hCall : .release now ∈ s.calls) :
      NewCall s s' (.expire now (s.findExpired now))
  | expireNext {now : Milliseconds} {t : ProbeTask} {tasks : List ProbeTask}
      (hCall : .expire now (t :: tasks) ∈ s.calls) : NewCall s s' (.expire now tasks)
  | cancel {now : Milliseconds} (view : CatalogView) (hCall : .expire now [] ∈ s.calls) :
      NewCall s s' (.cancel now view)
  | deliver (limit : Nat) : NewCall s s' (deliverNext (s.findPending limit))
  | deliverEvents {row : ProbeTask} {event : ProbeEvent} {events : List ProbeEvent}
      {rows : List ProbeTask} (hCall : .deliverEvents row (event :: events) rows ∈ s.calls)
      (hPassed : (row.id, event) ∈ s'.passed) : NewCall s s' (.deliverEvents row events rows)
  | markDelivered {row : ProbeTask} {rows : List ProbeTask}
      (hCall : .deliverEvents row [] rows ∈ s.calls) : NewCall s s' (.markDelivered row rows)
  | nextRow {row : ProbeTask} {rows : List ProbeTask} (hCall : .markDelivered row rows ∈ s.calls) :
      NewCall s s' (deliverNext rows)
  | postpone {call : ProbeCall} {row : ProbeTask} (hCall : call ∈ s.calls)
      (hRow : row ∈ call.copies) : NewCall s s' (.postpone row)
  | finished : NewCall s s' .finished

section

variable {call : ProbeCall} {row : ProbeTask} {rows : List ProbeTask} {k : Nat}

theorem newCall_of_set {calls : List ProbeCall} {next : ProbeCall}
    (hCalls : calls = s.calls.set k next) (hNext : s.NewCall s' next) (hMem : call ∈ calls) :
    call ∈ s.calls ∨ s.NewCall s' call := by
  rw [hCalls] at hMem
  rcases List.mem_or_eq_of_mem_set hMem with hOld | rfl
  · exact .inl hOld
  · exact .inr hNext

theorem newCall_of_append {calls : List ProbeCall} {next : ProbeCall}
    (hCalls : calls = s.calls ++ [next]) (hNext : s.NewCall s' next) (hMem : call ∈ calls) :
    call ∈ s.calls ∨ s.NewCall s' call := by
  rw [hCalls] at hMem
  rcases List.mem_append.1 hMem with hOld | hNew
  · exact .inl hOld
  · rw [List.mem_singleton.1 hNew]
    exact .inr hNext

theorem newCall_enqueue {task : NewTask} (hMem : call ∈ (s.enqueue task).calls) :
    call ∈ s.calls ∨ s.NewCall (s.enqueue task) call := by
  rw [enqueue] at hMem
  split at hMem
  · exact .inl hMem
  · exact newCall_of_append rfl (.enqueue task) hMem

theorem newCall_insert {task : NewTask} {now : Milliseconds}
    (hMem : call ∈ ((s.setCall k .finished).insert task now).calls) :
    call ∈ s.calls ∨ s.NewCall s' call := by
  rw [insert] at hMem
  split at hMem <;> exact newCall_of_set rfl .finished hMem

theorem newCall_claim {sourceId : Uuid} {trading : Bool} {view : CatalogView}
    (hMem : call ∈ (s.claim sourceId trading view).calls) : call ∈ s.calls := by
  rw [claim] at hMem
  split at hMem
  · split at hMem <;> exact hMem
  · exact hMem

theorem newCall_readReported {report : ProbeReport}
    (hMem : call ∈ (s.readReported report).calls) : call ∈ s.calls ∨ s.NewCall s' call := by
  rw [readReported] at hMem
  split at hMem
  · exact .inl hMem
  · rename_i t hFind
    split at hMem
    · rename_i hLeased
      exact newCall_of_append rfl
        (.report (List.mem_of_find?_eq_some hFind) (List.find?_some hFind) hLeased) hMem
    · exact .inl hMem

theorem newCall_complete {report : ProbeReport} {task : ProbeTask}
    (hCall : .report report task ∈ s.calls)
    (hMem : call ∈ (s.complete dates k report task).calls) :
    call ∈ s.calls ∨ s.NewCall s' call := by
  rw [complete] at hMem
  split at hMem
  · exact newCall_of_set rfl .finished hMem
  · split at hMem
    · exact newCall_of_set rfl .finished hMem
    · rw [applyReport] at hMem
      split at hMem
      · exact newCall_of_set rfl (.confirm hCall) hMem
      · exact newCall_of_set rfl .finished hMem

theorem newCall_deliverEvent {event : ProbeEvent} {events : List ProbeEvent}
    (hCall : .deliverEvents row (event :: events) rows ∈ s.calls)
    (hMem : call ∈ (s.deliverEvent dates k row event events rows).calls) :
    call ∈ s.calls ∨ s.NewCall (s.deliverEvent dates k row event events rows) call := by
  rw [deliverEvent] at hMem ⊢
  split at hMem
  · exact newCall_of_set rfl (.postpone hCall List.mem_cons_self) hMem
  · refine newCall_of_set rfl (.deliverEvents hCall ?_) hMem
    exact List.mem_append_right _ (List.mem_singleton_self _)

theorem newCall_recordCycle {completedAt : Milliseconds}
    (hCall : .deliverEvents row [] rows ∈ s.calls)
    (hMem : call ∈ ((s.setCall k (.markDelivered row rows)).recordCycle row completedAt).calls) :
    call ∈ s.calls ∨ s.NewCall s' call := by
  rw [recordCycle] at hMem
  split at hMem <;> exact newCall_of_set rfl (.markDelivered hCall) hMem

theorem newCall_markDelivered {completedAt : Milliseconds}
    (hCall : .markDelivered row rows ∈ s.calls)
    (hMem : call ∈ ((s.setCall k (deliverNext rows)).markDelivered row completedAt).calls) :
    call ∈ s.calls ∨ s.NewCall s' call := by
  rw [markDelivered] at hMem
  dsimp only at hMem
  split at hMem <;> exact newCall_of_set rfl (.nextRow hCall) hMem

theorem newCall (hStep : s.step dates e = some s') (hMem : call ∈ s'.calls) :
    call ∈ s.calls ∨ s.NewCall s' call := by
  cases e with
  | tick _ | removeDocument _ =>
      cases hStep
      exact .inl hMem
  | enqueue task =>
      cases hStep
      exact newCall_enqueue hMem
  | claim sourceId trading view =>
      cases hStep
      exact .inl (newCall_claim hMem)
  | report report =>
      cases hStep
      exact newCall_readReported hMem
  | reapExpired =>
      cases hStep
      exact newCall_of_append rfl .release hMem
  | deliver limit =>
      cases hStep
      exact newCall_of_append rfl (.deliver limit) hMem
  | insert k =>
      simp only [step] at hStep
      split at hStep <;> cases hStep
      exact newCall_insert hMem
  | complete k =>
      simp only [step] at hStep
      split at hStep <;> cases hStep
      rename_i hCall
      exact newCall_complete (List.mem_of_getElem? hCall) hMem
  | confirm k =>
      simp only [step] at hStep
      split at hStep <;> cases hStep
      exact newCall_of_set rfl .finished hMem
  | release k task | cancel k task =>
      simp only [step] at hStep
      split at hStep <;> cases hStep
      exact .inl hMem
  | findExpired k =>
      simp only [step] at hStep
      split at hStep <;> cases hStep
      rename_i hCall
      exact newCall_of_set rfl (.findExpired (List.mem_of_getElem? hCall)) hMem
  | expireLease k =>
      simp only [step] at hStep
      split at hStep <;> cases hStep
      rename_i hCall
      exact newCall_of_set rfl (.expireNext (List.mem_of_getElem? hCall)) hMem
  | readCatalog k view =>
      simp only [step] at hStep
      split at hStep <;> cases hStep
      rename_i hCall
      exact newCall_of_set rfl (.cancel view (List.mem_of_getElem? hCall)) hMem
  | supersede k task targetId =>
      simp only [step] at hStep
      split at hStep
      · obtain ⟨target, -, rfl⟩ := Option.map_eq_some_iff.1 hStep
        exact .inl hMem
      · cases hStep
  | deliverEvent k =>
      simp only [step] at hStep
      split at hStep <;> cases hStep
      rename_i hCall
      exact newCall_deliverEvent (List.mem_of_getElem? hCall) hMem
  | recordCycle k =>
      simp only [step] at hStep
      split at hStep
      · rename_i hCall
        have hCalls := List.mem_of_getElem? hCall
        split at hStep <;> cases hStep
        · exact newCall_of_set rfl (.postpone hCalls List.mem_cons_self) hMem
        · exact newCall_recordCycle hCalls hMem
      · cases hStep
  | markDelivered k =>
      simp only [step] at hStep
      split at hStep
      · rename_i hCall
        have hCalls := List.mem_of_getElem? hCall
        split at hStep <;> cases hStep
        · exact newCall_of_set rfl (.postpone hCalls List.mem_cons_self) hMem
        · exact newCall_markDelivered hCalls hMem
      · cases hStep
  | failDelivery k =>
      simp only [step] at hStep
      split at hStep
      all_goals
        rename_i hCall
        cases hStep
      all_goals
        exact newCall_of_set rfl (.postpone (List.mem_of_getElem? hCall) List.mem_cons_self) hMem
  | postpone k =>
      simp only [step] at hStep
      split at hStep <;> cases hStep
      exact newCall_of_set rfl .finished hMem

theorem copies_deliverNext {copy : ProbeTask} (h : copy ∈ (deliverNext rows).copies) :
    copy ∈ rows := by
  cases rows with
  | nil => cases h
  | cons row rows => exact h

/-- The copies of a new call are documents as they are, or copies that a call held. -/
theorem NewCall.held (h : s.NewCall s' call) {copy : ProbeTask} (hCopy : copy ∈ call.copies) :
    copy ∈ s.tasks.rows ∨ ∃ old ∈ s.calls, copy ∈ old.copies := by
  cases h with
  | enqueue _ | release | cancel _ _ | finished => cases hCopy
  | report hMem _ _ =>
      rw [List.mem_singleton.1 hCopy]
      exact .inl hMem
  | confirm hCall | markDelivered hCall | deliverEvents hCall _ => exact .inr ⟨_, hCall, hCopy⟩
  | findExpired _ => exact .inl (List.mem_filter.1 (List.mem_of_mem_take hCopy)).1
  | expireNext hCall => exact .inr ⟨_, hCall, List.mem_cons_of_mem _ hCopy⟩
  | deliver limit => exact .inl (mem_of_mem_selectForUpdate (copies_deliverNext hCopy))
  | nextRow hCall => exact .inr ⟨_, hCall, List.mem_cons_of_mem _ (copies_deliverNext hCopy)⟩
  | postpone hCall hRow =>
      rw [List.mem_singleton.1 hCopy]
      exact .inr ⟨_, hCall, hRow⟩

end

theorem CopiesSound.empty : emptyQueue.CopiesSound where
  issued := by rintro t ⟨⟩
  shows := by rintro call ⟨⟩

theorem CopiesSound.step (h : s.CopiesSound) (hStep : s.step dates e = some s') :
    s'.CopiesSound where
  issued := issued_step h.issued (tasksStep hStep)
  shows := by
    intro call hMem copy hCopy
    have hShows : s.Shows copy := by
      rcases newCall hStep hMem with hOld | hNew
      · exact h.shows call hOld copy hCopy
      · rcases hNew.held hCopy with hRow | ⟨old, hOld, hHeld⟩
        · exact .of_mem hRow
        · exact h.shows old hOld copy hHeld
    exact hShows.step (tasksStep hStep) h.issued

end ProbeQueue

end Hyperspace.Probes
