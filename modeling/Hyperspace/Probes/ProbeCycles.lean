import Hyperspace.Probes.QueueCopies

/-!
# Cycles of probes

A task stays active from its insertion until its cooldown is over, and a key has one active task.
So no task is inserted before the cooldown of a delivered one is over, and an event stays in its
task until it has been passed on.
-/

namespace Hyperspace.Probes

open Hyperspace.Foundations

/-! ### One document -/

/-- Which fields go together in a document. -/
structure ProbeTask.Consistent (t : ProbeTask) : Prop where
  unfinished : t.phase ≠ .completed →
    t.active ∧ t.deliveryPending = none ∧ t.events = none ∧ t.expiresAt = none
  pending : t.deliveryPending = some true → t.active ∧ t.phase = .completed ∧ t.expiresAt = none
  expiring : t.expiresAt ≠ none → t.events = none

/-- The task is delivered and cools down until the given time. -/
structure ProbeTask.Resting (t : ProbeTask) (ends : Milliseconds) : Prop where
  completed : t.phase = .completed
  delivered : t.deliveryPending = some false
  release : t.releaseAfter = some ends
  expiry : ∀ expiresAt ∈ t.expiresAt, ends ≤ expiresAt

/-- What every update keeps of a document. -/
structure ProbeTask.Steady (clock : Milliseconds) (t t' : ProbeTask) : Prop where
  id : t'.id = t.id
  key : t'.key = t.key
  active : t'.active → t.active
  resting : ∀ ends, t.Resting ends → t'.active → t'.Resting ends
  released : ∀ ends, t.Resting ends → t.active → ¬ t'.active → ends ≤ clock
  consistent : t'.Consistent

variable {clock : Milliseconds} {t t' : ProbeTask} {u : TaskUpdate}

theorem ProbeTask.Consistent.create {task : NewTask} {now : Milliseconds} {id : TaskId} :
    (task.create now id).Consistent :=
  ⟨fun _ => ⟨rfl, rfl, rfl, rfl⟩, nofun, fun h => absurd rfl h⟩

theorem ProbeTask.Steady.refl (h : t.Consistent) : t.Steady clock t :=
  ⟨rfl, rfl, fun h => h, fun _ h _ => h, fun _ _ h h' => absurd h h', h⟩

/-- Of a task that is not completed, the id, the key and the active flag are what matters. -/
theorem ProbeTask.Steady.of_unfinished (hOpen : t.phase ≠ .completed) (hId : t'.id = t.id)
    (hKey : t'.key = t.key) (hActive : t'.active → t.active) (hConsistent : t'.Consistent) :
    t.Steady clock t' :=
  ⟨hId, hKey, hActive, fun _ h _ => absurd h.completed hOpen,
    fun _ h _ _ => absurd h.completed hOpen, hConsistent⟩

/-- A task that is withdrawn was queued, so it has nothing to deliver. -/
theorem TaskUpdate.steady_withdraw (h : t.Consistent) (hQueued : t.phase = .queued)
    {now : Milliseconds} {outcome : String} : t.Steady clock (withdraw now outcome t) := by
  have hOpen : t.phase ≠ .completed := by
    rw [hQueued]
    nofun
  obtain ⟨hActive, hPending, hEvents, -⟩ := h.unfinished hOpen
  refine .of_unfinished hOpen rfl rfl nofun ⟨fun hNot => absurd rfl hNot, ?_, fun _ => hEvents⟩
  intro hSome
  rw [withdraw, hPending] at hSome
  cases hSome

/-- An update keeps the document consistent, and the active flag is only taken from a task that is
withdrawn or whose cooldown is over. -/
theorem TaskUpdate.steady_set (h : t.Consistent) (hFilter : u.filter t)
    (hNow : ∀ now, u = .release now → now ≤ clock) : t.Steady clock (u.set t) := by
  cases u with
  | lease now claimId =>
      simp only [filter, Bool.and_eq_true, decide_eq_true_eq] at hFilter
      have hOpen : t.phase ≠ .completed := by
        rw [hFilter.1.1]
        simp
      obtain ⟨hActive, hPending, hEvents, hExpires⟩ := h.unfinished hOpen
      refine .of_unfinished hOpen rfl rfl (fun h => h) ⟨fun _ => ?_, fun hSome => ?_, fun _ => ?_⟩
      · exact ⟨hActive, hPending, hEvents, hExpires⟩
      · exact absurd (hPending ▸ hSome : (none : Option Bool) = some true) (by simp)
      · exact hEvents
  | complete now claimId outcome events requeue =>
      simp only [filter, Bool.and_eq_true, decide_eq_true_eq] at hFilter
      have hOpen : t.phase ≠ .completed := by
        rw [hFilter.1.2]
        simp
      obtain ⟨hActive, hPending, hEvents, hExpires⟩ := h.unfinished hOpen
      cases requeue with
      | true =>
          refine .of_unfinished hOpen rfl rfl (fun h => h)
            ⟨fun _ => ⟨hActive, hPending, hEvents, hExpires⟩, fun hSome => ?_, fun _ => hEvents⟩
          exact absurd (hPending ▸ hSome : (none : Option Bool) = some true) (by simp)
      | false =>
          exact .of_unfinished hOpen rfl rfl (fun h => h) ⟨fun hNot => absurd rfl hNot,
            fun _ => ⟨hActive, rfl, hExpires⟩, fun hSome => absurd hExpires hSome⟩
  | expireLease now claimId retry =>
      simp only [filter, Bool.and_eq_true, decide_eq_true_eq] at hFilter
      have hOpen : t.phase ≠ .completed := by
        rw [hFilter.1.1]
        simp
      obtain ⟨hActive, hPending, hEvents, hExpires⟩ := h.unfinished hOpen
      cases retry with
      | true =>
          refine .of_unfinished hOpen rfl rfl (fun h => h)
            ⟨fun _ => ⟨hActive, hPending, hEvents, hExpires⟩, fun hSome => ?_, fun _ => hEvents⟩
          exact absurd (hPending ▸ hSome : (none : Option Bool) = some true) (by simp)
      | false =>
          exact .of_unfinished hOpen rfl rfl (fun h => h) ⟨fun hNot => absurd rfl hNot,
            fun _ => ⟨hActive, rfl, hExpires⟩, fun hSome => absurd hExpires hSome⟩
  | release now =>
      simp only [filter, Bool.and_eq_true, decide_eq_true_eq, Option.any_eq_true] at hFilter
      obtain ⟨⟨⟨hCompleted, -⟩, hDelivered⟩, releaseAfter, hRelease, hOver⟩ := hFilter
      refine ⟨rfl, rfl, (fun h => by cases h), (fun _ _ h => by cases h),
        fun ends hRest _ _ => ?_, ?_⟩
      · rw [hRest.release] at hRelease
        cases hRelease
        exact hOver.trans (hNow now rfl)
      · refine ⟨fun hNot => absurd hCompleted hNot, fun hSome => ?_, h.expiring⟩
        exact absurd (hDelivered ▸ hSome : some false = some true) (by simp)
  | cancel now view =>
      simp only [filter, Bool.and_eq_true, decide_eq_true_eq] at hFilter
      exact steady_withdraw h hFilter.1
  | supersede now targetId revision =>
      simp only [filter, Bool.and_eq_true, decide_eq_true_eq] at hFilter
      exact steady_withdraw h hFilter.1.1.1
  | markDelivered now completedAt intervalMs =>
      simp only [filter, Bool.and_eq_true, decide_eq_true_eq] at hFilter
      have hBusy : ∀ ends, ¬ t.Resting ends := by
        intro ends hRest
        have hDelivered := hRest.delivered
        rw [hFilter.1] at hDelivered
        cases hDelivered
      exact ⟨rfl, rfl, fun h => h, fun ends hRest => absurd hRest (hBusy ends),
        fun ends hRest => absurd hRest (hBusy ends),
        ⟨fun hNot => absurd hFilter.2 hNot, (fun h => by cases h), fun _ => rfl⟩⟩
  | postpone deliveryAfter =>
      simp only [filter, decide_eq_true_eq] at hFilter
      have hBusy : ∀ ends, ¬ t.Resting ends := by
        intro ends hRest
        have hDelivered := hRest.delivered
        rw [hFilter] at hDelivered
        cases hDelivered
      exact ⟨rfl, rfl, fun h => h, fun ends hRest => absurd hRest (hBusy ends),
        fun ends hRest => absurd hRest (hBusy ends), ⟨h.unfinished, h.pending, h.expiring⟩⟩

theorem TaskUpdate.events_set (h : t.Consistent) (hFilter : u.filter t)
    (hKeeps : ∀ now completedAt intervalMs, u ≠ .markDelivered now completedAt intervalMs)
    {events : List ProbeEvent} (hEvents : t.events = some events) :
    (u.set t).events = some events := by
  cases u with
  | markDelivered now completedAt intervalMs => exact absurd rfl (hKeeps now completedAt intervalMs)
  | complete now claimId outcome events' requeue =>
      simp only [filter, Bool.and_eq_true, decide_eq_true_eq] at hFilter
      have hNone := (h.unfinished (by rw [hFilter.1.2]; simp)).2.2.1
      rw [hNone] at hEvents
      cases hEvents
  | expireLease now claimId retry =>
      simp only [filter, Bool.and_eq_true, decide_eq_true_eq] at hFilter
      have hNone := (h.unfinished (by rw [hFilter.1.1]; simp)).2.2.1
      rw [hNone] at hEvents
      cases hEvents
  | lease _ _ | release _ | cancel _ _ | supersede _ _ _ | postpone _ => exact hEvents

/-! ### The documents and the history -/

/-- The cooldown of a delivered cycle ends. -/
def DeliveredCycle.ends (d : DeliveredCycle) : Milliseconds := d.completedAt + d.intervalMs

/-- The event was passed on, or the task still has it. -/
def EventKept (tasks : SerialTable ProbeTask.id) (passed : List (TaskId × ProbeEvent))
    (task : TaskId) (event : ProbeEvent) : Prop :=
  (task, event) ∈ passed ∨ ∃ t ∈ tasks.rows, t.id = task ∧ ∃ events ∈ t.events, event ∈ events

/-- A task is inserted an interval after the last delivery of its key, and no reported event is
lost. -/
structure Cycles (clock : Milliseconds) (tasks : SerialTable ProbeTask.id)
    (insertions : List Insertion) (reports : List AppliedReport)
    (delivered : List DeliveredCycle) (passed : List (TaskId × ProbeEvent)) : Prop where
  unique : ∀ t ∈ tasks.rows, ∀ t' ∈ tasks.rows, t.active → t'.active → t.key = t'.key → t = t'
  newest : ∀ t ∈ tasks.rows, t.active → ∀ i ∈ insertions, i.key = t.key → i.taskId ≤ t.id
  known : ∀ i ∈ insertions, i.taskId < tasks.next
  consistent : ∀ t ∈ tasks.rows, t.Consistent
  cooling : ∀ d ∈ delivered, d.ends ≤ clock ∨
    ∃ t ∈ tasks.rows, t.id = d.taskId ∧ t.key = d.key ∧ t.active ∧ t.Resting d.ends
  spaced : ∀ d ∈ delivered, ∀ i ∈ insertions, i.key = d.key → d.taskId < i.taskId →
    d.ends ≤ i.insertedAt
  kept : ∀ r ∈ reports, ∀ e ∈ r.events, EventKept tasks passed r.taskId e

namespace Cycles

variable {tasks : SerialTable ProbeTask.id} {insertions : List Insertion}
variable {reports : List AppliedReport} {delivered : List DeliveredCycle}
variable {passed : List (TaskId × ProbeEvent)} {task : TaskId}

theorem empty : Cycles clock ∅ [] [] [] [] := by
  constructor <;> simp

theorem tick (h : Cycles clock tasks insertions reports delivered passed) {elapsed : Nat} :
    Cycles (clock + elapsed) tasks insertions reports delivered passed where
  unique := h.unique
  newest := h.newest
  known := h.known
  consistent := h.consistent
  cooling := fun d hMem => (h.cooling d hMem).imp_left fun hOver =>
    le_add_of_le_of_nonneg hOver (Int.natCast_nonneg elapsed)
  spaced := h.spaced
  kept := h.kept

theorem passes (h : Cycles clock tasks insertions reports delivered passed)
    {more : List (TaskId × ProbeEvent)} :
    Cycles clock tasks insertions reports delivered (passed ++ more) where
  unique := h.unique
  newest := h.newest
  known := h.known
  consistent := h.consistent
  cooling := h.cooling
  spaced := h.spaced
  kept := fun r hReport e hEvent => (h.kept r hReport e hEvent).imp_left (List.mem_append_left _)

theorem reports_append (h : Cycles clock tasks insertions reports delivered passed)
    {applied : AppliedReport}
    (hKept : ∀ e ∈ applied.events, EventKept tasks passed applied.taskId e) :
    Cycles clock tasks insertions (reports ++ [applied]) delivered passed where
  unique := h.unique
  newest := h.newest
  known := h.known
  consistent := h.consistent
  cooling := h.cooling
  spaced := h.spaced
  kept := by
    intro r hReport e hEvent
    rcases List.mem_append.1 hReport with hOld | hNew
    · exact h.kept r hOld e hEvent
    · rw [List.mem_singleton.1 hNew] at hEvent ⊢
      exact hKept e hEvent

/-- The documents go on steadily, and events that leave a document were passed on. -/
theorem rewritten (h : Cycles clock tasks insertions reports delivered passed)
    {f : ProbeTask → ProbeTask} (hf : ∀ t, (f t).id = t.id)
    (hSteady : ∀ t ∈ tasks.rows, t.Steady clock (f t))
    (hKept : ∀ t ∈ tasks.rows, ∀ events ∈ t.events, ∀ e ∈ events,
      (t.id, e) ∈ passed ∨ ∃ events ∈ (f t).events, e ∈ events) :
    Cycles clock (tasks.modify f hf) insertions reports delivered passed where
  unique := by
    intro t' hMem v' hMem' hActive hActive' hKey
    obtain ⟨t, hOld, rfl⟩ := SerialTable.mem_modify.1 hMem
    obtain ⟨v, hOld', rfl⟩ := SerialTable.mem_modify.1 hMem'
    rw [(hSteady t hOld).key, (hSteady v hOld').key] at hKey
    rw [h.unique t hOld v hOld' ((hSteady t hOld).active hActive)
      ((hSteady v hOld').active hActive') hKey]
  newest := by
    intro t' hMem hActive i hInsertion hKey
    obtain ⟨t, hOld, rfl⟩ := SerialTable.mem_modify.1 hMem
    rw [(hSteady t hOld).key] at hKey
    rw [hf]
    exact h.newest t hOld ((hSteady t hOld).active hActive) i hInsertion hKey
  known := h.known
  consistent := by
    intro t' hMem
    obtain ⟨t, hOld, rfl⟩ := SerialTable.mem_modify.1 hMem
    exact (hSteady t hOld).consistent
  cooling := by
    intro d hDelivered
    rcases h.cooling d hDelivered with hOver | ⟨t, hOld, hId, hKey, hActive, hRest⟩
    · exact .inl hOver
    · by_cases hStill : (f t).active
      · refine .inr ⟨f t, SerialTable.mem_modify.2 ⟨t, hOld, rfl⟩, (hf t).trans hId, ?_, hStill, ?_⟩
        · rw [(hSteady t hOld).key, hKey]
        · exact (hSteady t hOld).resting _ hRest hStill
      · exact .inl ((hSteady t hOld).released _ hRest hActive hStill)
  spaced := h.spaced
  kept := by
    intro r hReport e hEvent
    rcases h.kept r hReport e hEvent with hPassed | ⟨t, hOld, hId, events, hEvents, hMem⟩
    · exact .inl hPassed
    · rcases hKept t hOld events hEvents e hMem with hPassed | hStill
      · exact .inl (hId ▸ hPassed)
      · exact .inr ⟨f t, SerialTable.mem_modify.2 ⟨t, hOld, rfl⟩, (hf t).trans hId, hStill⟩

theorem updated (h : Cycles clock tasks insertions reports delivered passed) {u : TaskUpdate}
    (hNow : ∀ now, u = .release now → now ≤ clock)
    (hKept : ∀ t ∈ tasks.rows, t.id = task → u.filter t → ∀ events ∈ t.events, ∀ e ∈ events,
      (t.id, e) ∈ passed ∨ ∃ events ∈ (u.set t).events, e ∈ events) :
    Cycles clock (tasks.update task u.apply fun _ => TaskUpdate.apply_id) insertions reports
      delivered passed := by
  refine h.rewritten _ (fun t hMem => ?_) fun t hMem events hEvents e hEvent => ?_
  · have hConsistent := h.consistent t hMem
    rw [TaskUpdate.apply]
    split
    · split
      · rename_i hFilter
        exact TaskUpdate.steady_set hConsistent hFilter hNow
      · exact .refl hConsistent
    · exact .refl hConsistent
  · rw [TaskUpdate.apply]
    split
    · rename_i hId
      split
      · rename_i hFilter
        exact hKept t hMem hId hFilter events hEvents e hEvent
      · exact .inr ⟨events, hEvents, hEvent⟩
    · exact .inr ⟨events, hEvents, hEvent⟩

theorem updated_keeping (h : Cycles clock tasks insertions reports delivered passed)
    {u : TaskUpdate} (hNow : ∀ now, u = .release now → now ≤ clock)
    (hKeeps : ∀ now completedAt intervalMs, u ≠ .markDelivered now completedAt intervalMs) :
    Cycles clock (tasks.update task u.apply fun _ => TaskUpdate.apply_id) insertions reports
      delivered passed :=
  h.updated hNow fun t hMem _ hFilter events hEvents _ hEvent =>
    .inr ⟨events, TaskUpdate.events_set (h.consistent t hMem) hFilter hKeeps hEvents, hEvent⟩

/-- A task is inserted where no task of its key is active, so every cooldown of the key is over. -/
theorem inserted (h : Cycles clock tasks insertions reports delivered passed) {new : NewTask}
    {now : Milliseconds} (hFree : ∀ t ∈ tasks.rows, t.active → t.key ≠ new.key) :
    Cycles clock (tasks.insert (new.create now) fun _ => rfl)
      (insertions ++ [⟨tasks.next, new.key, new.revision, clock⟩]) reports delivered passed where
  unique := by
    intro t hMem t' hMem' hActive hActive' hKey
    rcases SerialTable.mem_insert.1 hMem with hOld | rfl
    · rcases SerialTable.mem_insert.1 hMem' with hOld' | rfl
      · exact h.unique t hOld t' hOld' hActive hActive' hKey
      · exact absurd hKey (hFree t hOld hActive)
    · rcases SerialTable.mem_insert.1 hMem' with hOld' | rfl
      · exact absurd hKey.symm (hFree t' hOld' hActive')
      · rfl
  newest := by
    intro t hMem hActive i hInsertion hKey
    rcases SerialTable.mem_insert.1 hMem with hOld | rfl
    · rcases List.mem_append.1 hInsertion with hBefore | hNew
      · exact h.newest t hOld hActive i hBefore hKey
      · rw [List.mem_singleton.1 hNew] at hKey
        exact absurd hKey.symm (hFree t hOld hActive)
    · rcases List.mem_append.1 hInsertion with hBefore | hNew
      · exact (h.known i hBefore).le
      · rw [List.mem_singleton.1 hNew]
        exact le_rfl
  known := by
    intro i hInsertion
    rcases List.mem_append.1 hInsertion with hBefore | hNew
    · exact Nat.lt_succ_of_lt (h.known i hBefore)
    · rw [List.mem_singleton.1 hNew]
      exact Nat.lt_succ_self _
  consistent := by
    intro t hMem
    rcases SerialTable.mem_insert.1 hMem with hOld | rfl
    · exact h.consistent t hOld
    · exact .create
  cooling := by
    intro d hDelivered
    rcases h.cooling d hDelivered with hOver | ⟨t, hOld, hRest⟩
    · exact .inl hOver
    · exact .inr ⟨t, SerialTable.mem_insert.2 (.inl hOld), hRest⟩
  spaced := by
    intro d hDelivered i hInsertion hKey hLater
    rcases List.mem_append.1 hInsertion with hBefore | hNew
    · exact h.spaced d hDelivered i hBefore hKey hLater
    · rw [List.mem_singleton.1 hNew] at hKey ⊢
      rcases h.cooling d hDelivered with hOver | ⟨t, hOld, -, hSame, hActive, -⟩
      · exact hOver
      · exact absurd (hSame.trans hKey.symm) (hFree t hOld hActive)
  kept := by
    intro r hReport e hEvent
    rcases h.kept r hReport e hEvent with hPassed | ⟨t, hOld, hHas⟩
    · exact .inl hPassed
    · exact .inr ⟨t, SerialTable.mem_insert.2 (.inl hOld), hHas⟩

theorem removed (h : Cycles clock tasks insertions reports delivered passed) :
    Cycles clock (tasks.filter fun t => t.id ≠ task || !t.expiresAt.any (· ≤ clock)) insertions
      reports delivered passed := by
  have old : ∀ {t}, t ∈ (tasks.filter fun t => t.id ≠ task ||
      !t.expiresAt.any (· ≤ clock)).rows → t ∈ tasks.rows :=
    fun hMem => (SerialTable.mem_filter.1 hMem).1
  -- what is not kept has an expiry that is over
  have gone : ∀ {t}, t ∈ tasks.rows → t ∈ (tasks.filter fun t => t.id ≠ task ||
      !t.expiresAt.any (· ≤ clock)).rows ∨ ∃ expiresAt ∈ t.expiresAt, expiresAt ≤ clock := by
    intro t hMem
    cases hExpired : t.expiresAt.any (· ≤ clock) with
    | false => exact .inl (SerialTable.mem_filter.2 ⟨hMem, by rw [hExpired]; simp⟩)
    | true =>
        rw [Option.any_eq_true] at hExpired
        obtain ⟨expiresAt, hAt, hOver⟩ := hExpired
        exact .inr ⟨expiresAt, hAt, of_decide_eq_true hOver⟩
  constructor
  · exact fun t hMem t' hMem' => h.unique t (old hMem) t' (old hMem')
  · exact fun t hMem => h.newest t (old hMem)
  · exact h.known
  · exact fun t hMem => h.consistent t (old hMem)
  · intro d hDelivered
    rcases h.cooling d hDelivered with hOver | ⟨t, hMem, hId, hKey, hActive, hRest⟩
    · exact .inl hOver
    · rcases gone hMem with hStill | ⟨expiresAt, hAt, hOver⟩
      · exact .inr ⟨t, hStill, hId, hKey, hActive, hRest⟩
      · exact .inl ((hRest.expiry expiresAt hAt).trans hOver)
  · exact h.spaced
  · intro r hReport e hEvent
    rcases h.kept r hReport e hEvent with hPassed | ⟨t, hMem, hId, events, hEvents, hHas⟩
    · exact .inl hPassed
    · rcases gone hMem with hStill | ⟨expiresAt, hAt, -⟩
      · exact .inr ⟨t, hStill, hId, events, hEvents, hHas⟩
      · have hNone := (h.consistent t hMem).expiring (by rw [hAt]; nofun)
        rw [hNone] at hEvents
        cases hEvents

theorem delivers (h : Cycles clock tasks insertions reports delivered passed) {d : DeliveredCycle}
    {t : ProbeTask} (hMem : t ∈ tasks.rows) (hId : t.id = d.taskId) (hKey : t.key = d.key)
    (hActive : t.active) (hRest : t.Resting d.ends) :
    Cycles clock tasks insertions reports (delivered ++ [d]) passed where
  unique := h.unique
  newest := h.newest
  known := h.known
  consistent := h.consistent
  cooling := by
    intro d' hDelivered
    rcases List.mem_append.1 hDelivered with hOld | hNew
    · exact h.cooling d' hOld
    · rw [List.mem_singleton.1 hNew]
      exact .inr ⟨t, hMem, hId, hKey, hActive, hRest⟩
  spaced := by
    intro d' hDelivered i hInsertion hSame hLater
    rcases List.mem_append.1 hDelivered with hOld | hNew
    · exact h.spaced d' hOld i hInsertion hSame hLater
    · rw [List.mem_singleton.1 hNew] at hSame hLater
      have hNewest := h.newest t hMem hActive i hInsertion (hSame.trans hKey.symm)
      rw [hId] at hNewest
      exact absurd hNewest hLater.not_ge
  kept := h.kept

end Cycles

/-! ### One step -/

namespace ProbeQueue

variable {dates : DateFunctions} {s s' : ProbeQueue} {e : QueueEvent}

/-- The clock readings of a reaper are not ahead of the clock, the rows of a delivery are completed
tasks, and what a delivery does not hold any more was passed on. -/
def CallCycles (s : ProbeQueue) : ProbeCall → Prop
  | .release now => now ≤ s.clock
  | .deliverEvents row events rows => row.phase = .completed ∧
      (∀ e ∈ row.events.getD [], e ∈ events ∨ (row.id, e) ∈ s.passed) ∧
      ∀ row ∈ rows, row.phase = .completed
  | .markDelivered row rows => row.phase = .completed ∧
      (∀ e ∈ row.events.getD [], (row.id, e) ∈ s.passed) ∧ ∀ row ∈ rows, row.phase = .completed
  | .enqueue _ _ | .report _ _ | .confirm _ _ | .expire _ _ | .cancel _ _ | .postpone _
  | .finished => True

theorem callCycles_deliverNext {rows : List ProbeTask} (h : ∀ row ∈ rows, row.phase = .completed) :
    s.CallCycles (deliverNext rows) := by
  cases rows with
  | nil => trivial
  | cons row rows =>
      exact ⟨h row List.mem_cons_self, fun e hMem => .inl hMem,
        fun row' hMem => h row' (List.mem_cons_of_mem _ hMem)⟩

theorem CallCycles.later {call : ProbeCall} (h : s.CallCycles call) (hClock : s.clock ≤ s'.clock)
    (hPassed : s.passed ⊆ s'.passed) : s'.CallCycles call := by
  cases call with
  | release now => exact h.trans hClock
  | deliverEvents row events rows =>
      exact ⟨h.1, fun e hMem => (h.2.1 e hMem).imp_right fun hIn => hPassed hIn, h.2.2⟩
  | markDelivered row rows => exact ⟨h.1, fun e hMem => hPassed (h.2.1 e hMem), h.2.2⟩
  | enqueue _ _ | report _ _ | confirm _ _ | expire _ _ | cancel _ _ | postpone _
  | finished => trivial

def InCycles (s : ProbeQueue) : Prop :=
  Cycles s.clock s.tasks s.insertions s.reports s.delivered s.passed

/-- Time goes on, and what was passed on stays passed on. -/
theorem clock_passed_step (hStep : s.step dates e = some s') :
    s.clock ≤ s'.clock ∧ s.passed ⊆ s'.passed := by
  have hSame : s.clock ≤ s.clock ∧ s.passed ⊆ s.passed := ⟨le_rfl, fun _ hMem => hMem⟩
  cases e with
  | tick elapsed =>
      cases hStep
      exact ⟨le_add_of_nonneg_right (Int.natCast_nonneg elapsed), fun _ hMem => hMem⟩
  | reapExpired | deliver _ | removeDocument _ =>
      cases hStep
      exact hSame
  | enqueue task =>
      cases hStep
      rw [enqueue]
      split <;> exact hSame
  | claim sourceId trading view =>
      cases hStep
      rw [claim]
      split
      · split <;> exact hSame
      · exact hSame
  | report report =>
      cases hStep
      rw [readReported]
      split
      · exact hSame
      · split <;> exact hSame
  | insert k =>
      simp only [step] at hStep
      split at hStep <;> cases hStep
      rw [insert]
      split <;> exact hSame
  | complete k =>
      simp only [step] at hStep
      split at hStep <;> cases hStep
      rw [complete]
      split
      · exact hSame
      · split
        · exact hSame
        · rw [applyReport]
          split <;> exact hSame
  | confirm k | findExpired k | readCatalog k view | release k task | cancel k task | postpone k
  | expireLease k =>
      simp only [step] at hStep
      split at hStep <;> cases hStep
      exact hSame
  | supersede k task targetId =>
      simp only [step] at hStep
      split at hStep
      · obtain ⟨target, -, rfl⟩ := Option.map_eq_some_iff.1 hStep
        exact hSame
      · cases hStep
  | deliverEvent k =>
      simp only [step] at hStep
      split at hStep <;> cases hStep
      rw [deliverEvent]
      split
      · exact hSame
      · exact ⟨le_rfl, fun _ hMem => List.mem_append_left _ hMem⟩
  | recordCycle k =>
      simp only [step] at hStep
      split at hStep
      · split at hStep <;> cases hStep
        · exact hSame
        · rw [recordCycle]
          split <;> exact hSame
      · cases hStep
  | markDelivered k =>
      simp only [step] at hStep
      split at hStep
      · split at hStep <;> cases hStep
        · exact hSame
        · rw [markDelivered]
          dsimp only
          split <;> exact hSame
      · cases hStep
  | failDelivery k =>
      simp only [step] at hStep
      split at hStep <;> cases hStep <;> exact hSame

/-- The copies that calls hold are no newer than the tasks, and the cycles are in order. -/
structure CyclesSound (s : ProbeQueue) : Prop where
  copies : s.CopiesSound
  cycles : s.InCycles
  calls : ∀ call ∈ s.calls, s.CallCycles call

namespace CyclesSound

theorem empty : emptyQueue.CyclesSound where
  copies := .empty
  cycles := .empty
  calls := by rintro call ⟨⟩

theorem newCall (h : s.CyclesSound) {call : ProbeCall} (hNew : s.NewCall s' call)
    (hClock : s.clock ≤ s'.clock) (hPassed : s.passed ⊆ s'.passed) : s'.CallCycles call := by
  cases hNew with
  | release => exact hClock
  | deliver limit =>
      refine callCycles_deliverNext fun row hMem => ?_
      have hRow := mem_of_mem_selectForUpdate hMem
      have hWanted := wanted_of_mem_selectForUpdate hMem
      exact ((h.cycles.consistent row hRow).pending hWanted.1).2.1
  | deliverEvents hCall hNow =>
      obtain ⟨hRow, hEvents, hRows⟩ := (h.calls _ hCall).later hClock hPassed
      refine ⟨hRow, fun e hMem => ?_, hRows⟩
      rcases hEvents e hMem with hIn | hDone
      · rcases List.mem_cons.1 hIn with rfl | hRest
        · exact .inr hNow
        · exact .inl hRest
      · exact .inr hDone
  | markDelivered hCall =>
      obtain ⟨hRow, hEvents, hRows⟩ := (h.calls _ hCall).later hClock hPassed
      exact ⟨hRow, fun e hMem => (hEvents e hMem).resolve_left List.not_mem_nil, hRows⟩
  | nextRow hCall => exact callCycles_deliverNext (h.calls _ hCall).2.2
  | enqueue _ | report _ _ _ | confirm _ | findExpired _ | expireNext _ | cancel _ _
  | postpone _ _ | finished => trivial

theorem cycles_claim (h : s.CyclesSound) {sourceId : Uuid} {trading : Bool}
    {view : CatalogView} :
    (s.claim sourceId trading view).InCycles := by
  rw [claim]
  split
  · split
    · exact h.cycles
    · exact h.cycles.updated_keeping (by simp) (by simp)
  · exact h.cycles

theorem cycles_insert (h : s.CyclesSound) {k : Nat} {task : NewTask} {now : Milliseconds} :
    ((s.setCall k .finished).insert task now).InCycles := by
  rw [insert]
  split
  · exact h.cycles
  · rename_i hNone
    refine h.cycles.inserted fun t hMem hActive hKey => hNone ?_
    rw [List.any_eq_true]
    exact ⟨t, hMem, by simp [hKey, hActive]⟩

theorem cycles_applyReport (h : s.CyclesSound) {k : Nat} {report : ProbeReport}
    {task : ProbeTask} {events : List ProbeEvent} :
    (s.applyReport k report task events).InCycles := by
  rw [applyReport]
  split
  · exact h.cycles
  · rename_i t hFind
    have hMem := List.mem_of_find?_eq_some hFind
    have hSelected := List.find?_some hFind
    simp only [Bool.and_eq_true, decide_eq_true_eq] at hSelected
    obtain ⟨hId, hFilter⟩ := hSelected
    have hCycles : (s.updateOne task.id (s.completion report task events)).InCycles :=
      h.cycles.updated_keeping (fun _ h => by cases h) (fun _ _ _ h => by cases h)
    refine hCycles.reports_append fun e hEvent => .inr ?_
    refine ⟨(s.completion report task events).apply t, mem_updateOne.2 ⟨t, hMem, if_pos hId⟩,
      TaskUpdate.apply_id, ?_⟩
    rw [TaskUpdate.apply, if_pos hFilter, completion]
    dsimp only at hEvent
    split at hEvent
    · cases hEvent
    · rename_i hCompletes
      rw [Bool.not_eq_true] at hCompletes
      exact ⟨events, by rw [hCompletes]; rfl, hEvent⟩

theorem cycles_complete (h : s.CyclesSound) {k : Nat} {report : ProbeReport}
    {task : ProbeTask} :
    (s.complete dates k report task).InCycles := by
  rw [complete]
  split
  · exact h.cycles
  · split
    · exact h.cycles
    · exact h.cycles_applyReport

theorem cycles_markDelivered (h : s.CyclesSound) {k : Nat} {row : ProbeTask}
    {rows : List ProbeTask} {call : ProbeCall} {completedAt : Milliseconds}
    (hCall : .markDelivered row rows ∈ s.calls) (hAt : row.completedAt = some completedAt) :
    ((s.setCall k call).markDelivered row completedAt).InCycles := by
  obtain ⟨hRow, hPassed, -⟩ := h.calls _ hCall
  have hShows := h.copies.shows _ hCall row List.mem_cons_self
  let u := TaskUpdate.markDelivered s.clock completedAt row.intervalMs
  have hUpdated : (s.updateOne row.id u).InCycles := by
    refine h.cycles.updated nofun fun t hMem hId hFilter events hEvents e hEvent => .inl ?_
    simp only [u, TaskUpdate.filter, Bool.and_eq_true, decide_eq_true_eq] at hFilter
    have hSame := (((hShows.2 t hMem hId).completed hRow).2.2 hFilter.1).2
    rw [hId]
    apply hPassed
    rw [← hSame, hEvents]
    exact hEvent
  rw [markDelivered]
  dsimp only
  split
  · exact h.cycles
  · rename_i t hFind
    have hMem : t ∈ s.tasks.rows := List.mem_of_find?_eq_some hFind
    have hSelected := List.find?_some hFind
    simp only [Bool.and_eq_true, decide_eq_true_eq] at hSelected
    obtain ⟨hId, hFilter⟩ := hSelected
    have hApplies : u.filter t := hFilter
    simp only [TaskUpdate.filter, Bool.and_eq_true, decide_eq_true_eq] at hFilter
    have hEarlier := hShows.2 t hMem hId
    have hActive := ((h.cycles.consistent t hMem).pending hFilter.1).1
    have hSameAt : t.completedAt = some completedAt := (hEarlier.completed hRow).2.1.trans hAt
    have hInterval : t.intervalMs = row.intervalMs := by rw [hEarlier.fixed]
    rw [hSameAt]
    refine hUpdated.delivers (mem_updateOne.2 ⟨t, hMem, if_pos hId⟩) TaskUpdate.apply_id ?_ ?_ ?_
    all_goals rw [TaskUpdate.apply, if_pos hApplies]
    · rfl
    · exact hActive
    · refine ⟨hFilter.2, rfl, ?_, fun expiresAt hExpires => ?_⟩
      · rw [DeliveredCycle.ends, hInterval]
        rfl
      · cases hExpires
        have hDay : (0 : Int) ≤ DAY := by decide
        rw [DeliveredCycle.ends, hInterval]
        exact (le_add_of_nonneg_right hDay).trans (le_max_right _ _)

theorem cycles_step (h : s.CyclesSound) (hStep : s.step dates e = some s') :
    s'.InCycles := by
  cases e with
  | tick elapsed =>
      cases hStep
      exact h.cycles.tick
  | reapExpired | deliver _ =>
      cases hStep
      exact h.cycles
  | enqueue task =>
      cases hStep
      rw [enqueue]
      split <;> exact h.cycles
  | claim sourceId trading view =>
      cases hStep
      exact h.cycles_claim
  | report report =>
      cases hStep
      rw [readReported]
      split
      · exact h.cycles
      · split <;> exact h.cycles
  | removeDocument task =>
      cases hStep
      exact h.cycles.removed
  | insert k =>
      simp only [step] at hStep
      split at hStep <;> cases hStep
      exact h.cycles_insert
  | complete k =>
      simp only [step] at hStep
      split at hStep <;> cases hStep
      exact h.cycles_complete
  | confirm k | findExpired k | readCatalog k view =>
      simp only [step] at hStep
      split at hStep <;> cases hStep
      exact h.cycles
  | release k task =>
      simp only [step] at hStep
      split at hStep <;> cases hStep
      rename_i now hCall
      refine h.cycles.updated_keeping (fun now' hSame => ?_) (by simp)
      cases hSame
      exact h.calls _ (List.mem_of_getElem? hCall)
  | cancel k task | postpone k | expireLease k =>
      simp only [step] at hStep
      split at hStep <;> cases hStep
      exact h.cycles.updated_keeping (by simp) (by simp)
  | supersede k task targetId =>
      simp only [step] at hStep
      split at hStep
      · obtain ⟨target, -, rfl⟩ := Option.map_eq_some_iff.1 hStep
        exact h.cycles.updated_keeping (by simp) (by simp)
      · cases hStep
  | deliverEvent k =>
      simp only [step] at hStep
      split at hStep <;> cases hStep
      rw [deliverEvent]
      split
      · exact h.cycles
      · exact h.cycles.passes
  | recordCycle k =>
      simp only [step] at hStep
      split at hStep
      · split at hStep <;> cases hStep
        · exact h.cycles
        · rw [recordCycle]
          split <;> exact h.cycles
      · cases hStep
  | markDelivered k =>
      simp only [step] at hStep
      split at hStep
      · rename_i hCall
        split at hStep <;> cases hStep
        · exact h.cycles
        · rename_i hAt
          exact h.cycles_markDelivered (List.mem_of_getElem? hCall) hAt
      · cases hStep
  | failDelivery k =>
      simp only [step] at hStep
      split at hStep <;> cases hStep <;> exact h.cycles

theorem step (h : s.CyclesSound) (hStep : s.step dates e = some s') : s'.CyclesSound where
  copies := h.copies.step hStep
  cycles := h.cycles_step hStep
  calls := by
    obtain ⟨hClock, hPassed⟩ := clock_passed_step hStep
    intro call hMem
    rcases ProbeQueue.newCall hStep hMem with hOld | hNew
    · exact (h.calls call hOld).later hClock hPassed
    · exact h.newCall hNew hClock hPassed

end CyclesSound

/-! ### Every run -/

/-- What the active flag and the order of the updates of a delivery are for: a key has one active
task; no task is inserted before the interval since an earlier task of its key and revision, if
delivered, is over; and what an applied report has recorded is in its task until it was passed
on. -/
structure CyclesKept (s : ProbeQueue) : Prop where
  unique : ∀ t ∈ s.tasks.rows, ∀ t' ∈ s.tasks.rows, t.active → t'.active → t.key = t'.key → t = t'
  spaced : ∀ d ∈ s.delivered, ∀ i ∈ s.insertions, i.key = d.key → i.revision = d.revision →
    d.taskId < i.taskId → d.completedAt + d.intervalMs ≤ i.insertedAt
  kept : ∀ r ∈ s.reports, ∀ e ∈ r.events, EventKept s.tasks s.passed r.taskId e

def tradingTask : NewTask := ⟨"trading:7:8:direct", 7, 8, 1, 30000, .trading 3 1000, 3, by decide⟩

def oneNode : CatalogView := ⟨[], [], [7], [(8, 1)]⟩

/-- Two cycles of a task at a clock that every date is taken from at its start. -/
def twoCycles : List QueueEvent :=
  [.enqueue tradingTask, .insert 0, .claim 7 true oneNode,
    .report (.trading 7 0 1 ⟨"succeeded", "1970-01-01T00:00:00.000Z", .null⟩), .complete 1,
    .deliver 200, .deliverEvent 2, .recordCycle 2, .markDelivered 2, .enqueue tradingTask,
    .tick 30000, .reapExpired, .release 3 0, .enqueue tradingTask, .insert 4]

end ProbeQueue

end Hyperspace.Probes
