import Hyperspace.Probes.QueueCopies

/-!
# Claims of tasks

A claim is made once, for one task, and a report is recorded for the claim that its task has, before
its lease expires. Updates that leave claims and reports alone keep this, whatever their order.
-/

namespace Hyperspace.Probes

open Hyperspace.ControlPlane Hyperspace.Foundations

theorem ProbeReport.claimId_of_finds {report : ProbeReport} {t : ProbeTask}
    (h : report.finds t) : t.claimId = some report.claimId := by
  cases report <;> simp_all [finds, claimId]

theorem ProbeReport.finds_of_earlier {report : ProbeReport} {copy t : ProbeTask}
    (h : report.finds copy) (hEarlier : copy.Earlier t) (hClaim : t.claimId = copy.claimId) :
    report.finds t := by
  have hAttempts : t.attempts = copy.attempts := hEarlier.attempts_eq hClaim
  have hSource : t.sourceId = copy.sourceId := by rw [hEarlier.fixed]
  have hPayload : t.payload = copy.payload := by rw [hEarlier.fixed]
  cases report <;> simpa only [finds, hClaim, hAttempts, hSource, hPayload] using h

/-! ### Claims and recorded reports -/

abbrev ProbeTasks := SerialTable ProbeTask.id

/-- What the claims of the tasks and the reports that were applied have to do with each other. -/
structure FencingSound (tasks : ProbeTasks) (nextClaimId : ClaimId)
    (reports : List AppliedReport) : Prop where
  attempts : ∀ t ∈ tasks.rows, t.attempts ≤ t.maxAttempts
  queued : ∀ t ∈ tasks.rows, t.phase = .queued → t.attempts < t.maxAttempts
  distinct : ∀ t ∈ tasks.rows, ∀ t' ∈ tasks.rows, ∀ c, t.claimId = some c →
    t'.claimId = some c → t = t'
  recorded : ∀ t ∈ tasks.rows, ∀ c, t.claimId = some c →
    (t.lastReportedClaimId = some c ↔ ∃ r ∈ reports, r.claimId = c)
  leased : ∀ t ∈ tasks.rows, t.phase = .leased → ∀ c, t.claimId = some c →
    t.lastReportedClaimId ≠ some c
  last : ∀ t ∈ tasks.rows, ∀ c, t.lastReportedClaimId = some c → c < nextClaimId
  known : ∀ r ∈ reports, r.claimId < nextClaimId
  closed : ∀ r ∈ reports, r.completes → r.taskId < tasks.next ∧
    ∀ t ∈ tasks.rows, t.id = r.taskId → t.phase = .completed
  once : ((reports.filter (·.completes)).map (·.taskId)).Nodup
  fenced : ∀ r ∈ reports, r.taskClaimId = some r.claimId ∧
    ∃ expiresAt ∈ r.taskLeaseExpiresAt, r.appliedAt < expiresAt

/-- The state differs in nothing that a claim or a report has to do with, except that a lease or
a queued task can come to its end. -/
structure ProbeTask.Quiet (t t' : ProbeTask) : Prop where
  id : t'.id = t.id
  fixed : t'.toNewTask = t.toNewTask
  claim : t'.claimId = t.claimId
  attempts : t'.attempts = t.attempts
  last : t'.lastReportedClaimId = t.lastReportedClaimId
  leased : t'.phase = .leased → t.phase = .leased
  queued : t'.phase = .queued → t.phase = .queued ∨ t.attempts < t.maxAttempts
  completed : t.phase = .completed → t'.phase = .completed

theorem ProbeTask.Quiet.refl {t : ProbeTask} : t.Quiet t :=
  ⟨rfl, rfl, rfl, rfl, rfl, fun h => h, .inl, fun h => h⟩

namespace FencingSound

variable {tasks : ProbeTasks} {nextClaimId : ClaimId} {reports : List AppliedReport}
variable {task : TaskId} {t : ProbeTask}

theorem empty : FencingSound ∅ 0 [] := by
  constructor <;> simp

theorem quiet (h : FencingSound tasks nextClaimId reports) {f : ProbeTask → ProbeTask}
    (hf : ∀ t, (f t).id = t.id) (hQuiet : ∀ t ∈ tasks.rows, t.Quiet (f t)) :
    FencingSound (tasks.modify f hf) nextClaimId reports where
  attempts := by
    intro t' hMem
    obtain ⟨t, hOld, rfl⟩ := SerialTable.mem_modify.1 hMem
    have hFixed := (hQuiet t hOld).fixed
    rw [(hQuiet t hOld).attempts, hFixed]
    exact h.attempts t hOld
  queued := by
    intro t' hMem hQueued
    obtain ⟨t, hOld, rfl⟩ := SerialTable.mem_modify.1 hMem
    have hFixed := (hQuiet t hOld).fixed
    rw [(hQuiet t hOld).attempts, hFixed]
    exact ((hQuiet t hOld).queued hQueued).elim (h.queued t hOld) id
  distinct := by
    intro t' hMem u' hMem' c hClaim hClaim'
    obtain ⟨t, hOld, rfl⟩ := SerialTable.mem_modify.1 hMem
    obtain ⟨u, hOld', rfl⟩ := SerialTable.mem_modify.1 hMem'
    rw [(hQuiet t hOld).claim] at hClaim
    rw [(hQuiet u hOld').claim] at hClaim'
    rw [h.distinct t hOld u hOld' c hClaim hClaim']
  recorded := by
    intro t' hMem c hClaim
    obtain ⟨t, hOld, rfl⟩ := SerialTable.mem_modify.1 hMem
    rw [(hQuiet t hOld).claim] at hClaim
    rw [(hQuiet t hOld).last]
    exact h.recorded t hOld c hClaim
  leased := by
    intro t' hMem hLeased c hClaim
    obtain ⟨t, hOld, rfl⟩ := SerialTable.mem_modify.1 hMem
    rw [(hQuiet t hOld).claim] at hClaim
    rw [(hQuiet t hOld).last]
    exact h.leased t hOld ((hQuiet t hOld).leased hLeased) c hClaim
  last := by
    intro t' hMem c hLast
    obtain ⟨t, hOld, rfl⟩ := SerialTable.mem_modify.1 hMem
    rw [(hQuiet t hOld).last] at hLast
    exact h.last t hOld c hLast
  known := h.known
  closed := by
    intro r hReport hCompletes
    obtain ⟨hBelow, hClosed⟩ := h.closed r hReport hCompletes
    refine ⟨hBelow, fun t' hMem hId => ?_⟩
    obtain ⟨t, hOld, rfl⟩ := SerialTable.mem_modify.1 hMem
    rw [hf] at hId
    exact (hQuiet t hOld).completed (hClosed t hOld hId)
  once := h.once
  fenced := h.fenced

theorem updated (h : FencingSound tasks nextClaimId reports) {u : TaskUpdate}
    (hQuiet : ∀ t ∈ tasks.rows, t.id = task → u.filter t → t.Quiet (u.set t)) :
    FencingSound (tasks.update task u.apply fun _ => TaskUpdate.apply_id) nextClaimId reports := by
  refine h.quiet _ fun t hMem => ?_
  split
  · rename_i hId
    rw [TaskUpdate.apply]
    split
    · rename_i hFilter
      exact hQuiet t hMem hId hFilter
    · exact .refl
  · exact .refl

theorem removed (h : FencingSound tasks nextClaimId reports) {p : ProbeTask → Bool} :
    FencingSound (tasks.filter p) nextClaimId reports := by
  have old : ∀ {t}, t ∈ (tasks.filter p).rows → t ∈ tasks.rows :=
    fun hMem => (SerialTable.mem_filter.1 hMem).1
  exact ⟨fun t hMem => h.attempts t (old hMem), fun t hMem => h.queued t (old hMem),
    fun t hMem t' hMem' => h.distinct t (old hMem) t' (old hMem'),
    fun t hMem => h.recorded t (old hMem), fun t hMem => h.leased t (old hMem),
    fun t hMem => h.last t (old hMem), h.known,
    fun r hReport hCompletes => ⟨(h.closed r hReport hCompletes).1,
      fun t hMem => (h.closed r hReport hCompletes).2 t (old hMem)⟩, h.once, h.fenced⟩

theorem inserted (h : FencingSound tasks nextClaimId reports) {new : NewTask}
    {now : Milliseconds} :
    FencingSound (tasks.insert (new.create now) fun _ => rfl) nextClaimId reports where
  attempts := by
    intro t hMem
    rcases SerialTable.mem_insert.1 hMem with hOld | rfl
    · exact h.attempts t hOld
    · exact Nat.zero_le _
  queued := by
    intro t hMem hQueued
    rcases SerialTable.mem_insert.1 hMem with hOld | rfl
    · exact h.queued t hOld hQueued
    · exact new.maxAttempts_pos
  distinct := by
    intro t hMem t' hMem' c hClaim hClaim'
    rcases SerialTable.mem_insert.1 hMem with hOld | rfl
    · rcases SerialTable.mem_insert.1 hMem' with hOld' | rfl
      · exact h.distinct t hOld t' hOld' c hClaim hClaim'
      · cases hClaim'
    · cases hClaim
  recorded := by
    intro t hMem c hClaim
    rcases SerialTable.mem_insert.1 hMem with hOld | rfl
    · exact h.recorded t hOld c hClaim
    · cases hClaim
  leased := by
    intro t hMem hLeased c hClaim
    rcases SerialTable.mem_insert.1 hMem with hOld | rfl
    · exact h.leased t hOld hLeased c hClaim
    · cases hClaim
  last := by
    intro t hMem c hLast
    rcases SerialTable.mem_insert.1 hMem with hOld | rfl
    · exact h.last t hOld c hLast
    · cases hLast
  known := h.known
  closed := by
    intro r hReport hCompletes
    obtain ⟨hBelow, hClosed⟩ := h.closed r hReport hCompletes
    refine ⟨Nat.lt_succ_of_lt hBelow, fun t hMem hId => ?_⟩
    rcases SerialTable.mem_insert.1 hMem with hOld | rfl
    · exact hClosed t hOld hId
    · exact absurd hId hBelow.ne'
  once := h.once
  fenced := h.fenced

theorem claimed (h : FencingSound tasks nextClaimId reports)
    (hIssued : ∀ t ∈ tasks.rows, claimRank t.claimId ≤ nextClaimId) {now : Milliseconds} :
    FencingSound
      (tasks.update task (TaskUpdate.lease now nextClaimId).apply fun _ => TaskUpdate.apply_id)
      (nextClaimId + 1) reports := by
  let u := TaskUpdate.lease now nextClaimId
  have cases' : ∀ {t'}, t' ∈ (tasks.update task u.apply fun _ => TaskUpdate.apply_id).rows →
      t' ∈ tasks.rows ∨ ∃ t ∈ tasks.rows, t.id = task ∧ t.phase = .queued ∧ t' = u.set t := by
    intro t' hMem
    rw [SerialTable.mem_update] at hMem
    obtain ⟨t, hOld, rfl⟩ := hMem
    split
    · rename_i hId
      rw [TaskUpdate.apply]
      split
      · rename_i hFilter
        simp only [u, TaskUpdate.filter, Bool.and_eq_true, decide_eq_true_eq] at hFilter
        exact .inr ⟨t, hOld, hId, hFilter.1.1, rfl⟩
      · exact .inl hOld
    · exact .inl hOld
  have old : ∀ {t}, t ∈ tasks.rows → ∀ c, t.claimId = some c → c < nextClaimId := by
    intro t hMem c hClaim
    have hRank := hIssued t hMem
    rw [hClaim] at hRank
    exact hRank
  constructor
  · intro t' hMem
    rcases cases' hMem with hOld | ⟨t, hOld, -, hQueued, rfl⟩
    · exact h.attempts t' hOld
    · exact h.queued t hOld hQueued
  · intro t' hMem hQueued'
    rcases cases' hMem with hOld | ⟨t, -, -, -, rfl⟩
    · exact h.queued t' hOld hQueued'
    · cases hQueued'
  · intro t' hMem v' hMem' c hClaim hClaim'
    rcases cases' hMem with hOld | ⟨t, hOld, hId, -, rfl⟩
    · rcases cases' hMem' with hOld' | ⟨v, hOld', -, -, rfl⟩
      · exact h.distinct t' hOld v' hOld' c hClaim hClaim'
      · cases hClaim'
        exact absurd (old hOld _ hClaim) (lt_irrefl _)
    · rcases cases' hMem' with hOld' | ⟨v, hOld', hId', -, rfl⟩
      · cases hClaim
        exact absurd (old hOld' _ hClaim') (lt_irrefl _)
      · rw [SerialTable.row_unique hOld hOld' (hId.trans hId'.symm)]
  · intro t' hMem c hClaim
    rcases cases' hMem with hOld | ⟨t, hOld, -, -, rfl⟩
    · exact h.recorded t' hOld c hClaim
    · cases hClaim
      constructor
      · intro hLast
        exact absurd (h.last t hOld _ hLast) (lt_irrefl _)
      · rintro ⟨r, hReport, hClaim⟩
        exact absurd (hClaim ▸ h.known r hReport) (lt_irrefl _)
  · intro t' hMem hLeased c hClaim
    rcases cases' hMem with hOld | ⟨t, hOld, -, -, rfl⟩
    · exact h.leased t' hOld hLeased c hClaim
    · cases hClaim
      intro hLast
      exact absurd (h.last t hOld _ hLast) (lt_irrefl _)
  · intro t' hMem c hLast
    rcases cases' hMem with hOld | ⟨t, hOld, -, -, rfl⟩
    · exact Nat.lt_succ_of_lt (h.last t' hOld c hLast)
    · exact Nat.lt_succ_of_lt (h.last t hOld c hLast)
  · exact fun r hReport => Nat.lt_succ_of_lt (h.known r hReport)
  · intro r hReport hCompletes
    obtain ⟨hBelow, hClosed⟩ := h.closed r hReport hCompletes
    refine ⟨hBelow, fun t' hMem hId => ?_⟩
    rcases cases' hMem with hOld | ⟨t, hOld, -, hQueued, rfl⟩
    · exact hClosed t' hOld hId
    · have hCompleted := hClosed t hOld hId
      rw [hQueued] at hCompleted
      cases hCompleted
  · exact h.once
  · exact h.fenced

/-- A report that is applied is the first one of the claim, and none of the task comes after it
if it completes the task. -/
theorem reported (h : FencingSound tasks nextClaimId reports) (hMem : t ∈ tasks.rows)
    {now : Milliseconds} {c : ClaimId} {outcome : String} {events : List ProbeEvent}
    {requeue : Bool} (hFilter : (TaskUpdate.complete now (some c) outcome events requeue).filter t)
    (hIssued : c < nextClaimId) (hRequeue : requeue → t.attempts < t.maxAttempts)
    {applied : AppliedReport} (hTask : applied.taskId = t.id) (hClaimId : applied.claimId = c)
    (hTaskClaim : applied.taskClaimId = t.claimId)
    (hLease : applied.taskLeaseExpiresAt = t.leaseExpiresAt) (hNow : applied.appliedAt = now)
    (hCompletes : applied.completes = !requeue) :
    FencingSound
      (tasks.update t.id (TaskUpdate.complete now (some c) outcome events requeue).apply
        fun _ => TaskUpdate.apply_id)
      nextClaimId (reports ++ [applied]) := by
  let u := TaskUpdate.complete now (some c) outcome events requeue
  have hParts := hFilter
  simp only [TaskUpdate.filter, Bool.and_eq_true, decide_eq_true_eq, Option.any_eq_true] at hParts
  obtain ⟨⟨hClaim, hLeased⟩, hValid⟩ := hParts
  have cases' : ∀ {t'}, t' ∈ (tasks.update t.id u.apply fun _ => TaskUpdate.apply_id).rows →
      t' ∈ tasks.rows ∧ t'.id ≠ t.id ∨ t' = u.set t := by
    intro t' hMem'
    rw [SerialTable.mem_update] at hMem'
    obtain ⟨v, hOld, rfl⟩ := hMem'
    split
    · rename_i hId
      rw [SerialTable.row_unique hOld hMem hId, TaskUpdate.apply, if_pos hFilter]
      exact .inr rfl
    · rename_i hId
      exact .inl ⟨hOld, hId⟩
  have setClaim : (u.set t).claimId = some c := by cases requeue <;> exact hClaim
  have setLast : (u.set t).lastReportedClaimId = some c := by cases requeue <;> rfl
  have setId : (u.set t).id = t.id := by cases requeue <;> rfl
  have setAttempts : (u.set t).attempts = t.attempts := by cases requeue <;> rfl
  have setMax : (u.set t).maxAttempts = t.maxAttempts := by cases requeue <;> rfl
  -- no other task has the claim
  have other : ∀ {v}, v ∈ tasks.rows → v.id ≠ t.id → v.claimId ≠ some c := by
    intro v hOld hId hSame
    exact hId (congrArg ProbeTask.id (h.distinct v hOld t hMem c hSame hClaim))
  -- no report has completed the task
  have notClosed : ∀ r ∈ reports, r.completes → r.taskId ≠ t.id := by
    intro r hReport hDone hSame
    have hCompleted := (h.closed r hReport hDone).2 t hMem hSame.symm
    rw [hLeased] at hCompleted
    cases hCompleted
  constructor
  · intro t' hMem'
    rcases cases' hMem' with ⟨hOld, -⟩ | rfl
    · exact h.attempts t' hOld
    · rw [setAttempts, setMax]
      exact h.attempts t hMem
  · intro t' hMem' hQueued
    rcases cases' hMem' with ⟨hOld, -⟩ | rfl
    · exact h.queued t' hOld hQueued
    · rw [setAttempts, setMax]
      cases requeue with
      | true => exact hRequeue rfl
      | false => cases hQueued
  · intro t' hMem' v' hMemV c' hClaim' hClaimV
    rcases cases' hMem' with ⟨hOld, hId⟩ | rfl
    · rcases cases' hMemV with ⟨hOldV, -⟩ | rfl
      · exact h.distinct t' hOld v' hOldV c' hClaim' hClaimV
      · rw [setClaim] at hClaimV
        cases hClaimV
        exact absurd hClaim' (other hOld hId)
    · rcases cases' hMemV with ⟨hOldV, hIdV⟩ | rfl
      · rw [setClaim] at hClaim'
        cases hClaim'
        exact absurd hClaimV (other hOldV hIdV)
      · rfl
  · intro t' hMem' c' hClaim'
    rcases cases' hMem' with ⟨hOld, hId⟩ | rfl
    · rw [h.recorded t' hOld c' hClaim']
      have hOther : applied.claimId ≠ c' := by
        rintro rfl
        rw [hClaimId] at hClaim'
        exact other hOld hId hClaim'
      simp [hOther]
    · rw [setClaim] at hClaim'
      cases hClaim'
      simp [setLast, hClaimId]
  · intro t' hMem' hLeased' c' hClaim'
    rcases cases' hMem' with ⟨hOld, -⟩ | rfl
    · exact h.leased t' hOld hLeased' c' hClaim'
    · cases requeue <;> cases hLeased'
  · intro t' hMem' c' hLast
    rcases cases' hMem' with ⟨hOld, -⟩ | rfl
    · exact h.last t' hOld c' hLast
    · rw [setLast] at hLast
      cases hLast
      exact hIssued
  · intro r hReport
    rcases List.mem_append.1 hReport with hOld | hNew
    · exact h.known r hOld
    · rw [List.mem_singleton.1 hNew, hClaimId]
      exact hIssued
  · intro r hReport hDone
    rcases List.mem_append.1 hReport with hOld | hNew
    · obtain ⟨hBelow, hClosed⟩ := h.closed r hOld hDone
      refine ⟨hBelow, fun t' hMem' hId => ?_⟩
      rcases cases' hMem' with ⟨hOld', -⟩ | rfl
      · exact hClosed t' hOld' hId
      · rw [setId] at hId
        exact absurd hId.symm (notClosed r hOld hDone)
    · rw [List.mem_singleton.1 hNew] at hDone ⊢
      rw [hTask]
      refine ⟨tasks.fresh t hMem, fun t' hMem' hId => ?_⟩
      rcases cases' hMem' with ⟨-, hOther⟩ | rfl
      · exact absurd hId hOther
      · rw [hCompletes] at hDone
        cases requeue with
        | true => cases hDone
        | false => rfl
  · rw [List.filter_append, List.map_append, List.nodup_append]
    refine ⟨h.once, ?_, ?_⟩
    · cases hDone : applied.completes <;> simp [hDone]
    · rintro id hId id' hId' rfl
      obtain ⟨r, hReport, rfl⟩ := List.mem_map.1 hId
      obtain ⟨r', hNew, hSame⟩ := List.mem_map.1 hId'
      obtain ⟨hOld, hDone⟩ := List.mem_filter.1 hReport
      rw [List.mem_singleton.1 (List.mem_filter.1 hNew).1, hTask] at hSame
      exact notClosed r hOld hDone hSame.symm
  · intro r hReport
    rcases List.mem_append.1 hReport with hOld | hNew
    · exact h.fenced r hOld
    · rw [List.mem_singleton.1 hNew, hTaskClaim, hClaimId, hLease, hNow]
      obtain ⟨expiresAt, hAt, hLess⟩ := hValid
      exact ⟨hClaim, expiresAt, hAt, hLess⟩

end FencingSound

end Hyperspace.Probes
