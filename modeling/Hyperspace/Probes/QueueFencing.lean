import Hyperspace.Probes.QueueClaims

/-!
# Fencing of reports

A report is applied only for the current claim of a task and before its lease expires. A call of
`reportGate` gives up without another look at the task when the lease that it has read is over, so
it says whether its report is recorded only if no other call records that report meanwhile.
-/

namespace Hyperspace.Probes

open Hyperspace.ControlPlane Hyperspace.Foundations

/-! ### One step -/

/-- The update leaves claims and reports alone and requeues only what has attempts left. -/
def TaskUpdate.LeavesClaims (t : ProbeTask) : TaskUpdate → Prop
  | lease _ _ | complete _ _ _ _ _ => False
  | expireLease _ _ retry => retry → t.attempts < t.maxAttempts
  | release _ | cancel _ _ | supersede _ _ _ | markDelivered _ _ _ | postpone _ => True

theorem TaskUpdate.quiet_set {u : TaskUpdate} {t : ProbeTask} (h : u.LeavesClaims t)
    (hFilter : u.filter t) : t.Quiet (u.set t) := by
  cases u with
  | lease _ _ | complete _ _ _ _ _ => exact h.elim
  | release _ | markDelivered _ _ _ | postpone _ =>
      exact ⟨rfl, rfl, rfl, rfl, rfl, fun h => h, .inl, fun h => h⟩
  | cancel _ _ | supersede _ _ _ =>
      exact ⟨rfl, rfl, rfl, rfl, rfl, (fun h => by cases h), (fun h => by cases h), fun _ => rfl⟩
  | expireLease now claimId retry =>
      simp only [filter, Bool.and_eq_true, decide_eq_true_eq] at hFilter
      have hOpen : t.phase ≠ .completed := by
        rw [hFilter.1.1]
        simp
      cases retry with
      | true => exact ⟨rfl, rfl, rfl, rfl, rfl, (fun h => by cases h), fun _ => .inr (h rfl),
          fun hCompleted => absurd hCompleted hOpen⟩
      | false =>
          exact ⟨rfl, rfl, rfl, rfl, rfl, (fun h => by cases h), (fun h => by cases h),
            fun _ => rfl⟩

namespace ProbeQueue

variable {dates : DateFunctions} {s s' : ProbeQueue} {e : QueueEvent} {report : ProbeReport}

/-- The claim was made, and only of this task. -/
def Owns (s : ProbeQueue) (c : ClaimId) (task : TaskId) : Prop :=
  c < s.nextClaimId ∧ ∀ t ∈ s.tasks.rows, t.claimId = some c → t.id = task

theorem Owns.step {c : ClaimId} {task : TaskId} (h : s.Owns c task) (hTasks : s.TasksStep s') :
    s'.Owns c task := by
  cases hTasks with
  | same hSame hNext =>
      rw [Owns, hSame, hNext]
      exact h
  | inserted new now hInsert hNext =>
      rw [Owns, hInsert, hNext]
      refine ⟨h.1, fun t hMem hClaim => ?_⟩
      rcases SerialTable.mem_insert.1 hMem with hOld | rfl
      · exact h.2 t hOld hClaim
      · cases hClaim
  | updated id u hUpdate hNext hQuiet =>
      rw [Owns, hUpdate, hNext]
      refine ⟨h.1, fun t hMem hClaim => ?_⟩
      obtain ⟨t', hOld, rfl⟩ := mem_updateOne.1 hMem
      split at hClaim
      · rename_i hId
        rw [if_pos hId, TaskUpdate.apply_id]
        exact h.2 t' hOld (claimId_apply hQuiet ▸ hClaim)
      · rename_i hId
        rw [if_neg hId]
        exact h.2 t' hOld hClaim
  | leased id hLease hNext =>
      rw [Owns, hLease, hNext]
      refine ⟨Nat.lt_succ_of_lt h.1, fun t hMem hClaim => ?_⟩
      obtain ⟨t', hOld, rfl⟩ := mem_updateOne.1 hMem
      split at hClaim
      · rename_i hId
        rw [if_pos hId, TaskUpdate.apply_id]
        rw [TaskUpdate.apply] at hClaim
        split at hClaim
        · cases hClaim
          exact absurd h.1 (lt_irrefl _)
        · exact h.2 t' hOld hClaim
      · rename_i hId
        rw [if_neg hId]
        exact h.2 t' hOld hClaim
  | removed id hRemove hNext =>
      rw [Owns, hRemove, hNext]
      exact ⟨h.1, fun t hMem hClaim => h.2 t (mem_removeDocument.1 hMem).1 hClaim⟩

/-- The report of a call in progress is of the claim that the copy had. -/
def CallFinds (s : ProbeQueue) : ProbeCall → Prop
  | .report report task | .confirm report task => report.finds task ∧ s.Owns report.claimId task.id
  | .enqueue _ _ | .release _ | .expire _ _ | .cancel _ _ | .deliverEvents _ _ _
  | .markDelivered _ _ | .postpone _ | .finished => True

theorem callFinds_deliverNext {rows : List ProbeTask} : s.CallFinds (deliverNext rows) := by
  cases rows <;> trivial

theorem CallFinds.step {call : ProbeCall} (h : s.CallFinds call) (hTasks : s.TasksStep s') :
    s'.CallFinds call := by
  cases call with
  | report report task | confirm report task => exact ⟨h.1, h.2.step hTasks⟩
  | enqueue _ _ | release _ | expire _ _ | cancel _ _ | deliverEvents _ _ _ | markDelivered _ _
  | postpone _ | finished => trivial

/-- The invariant of runs in which no answer is late. -/
structure QueueSound (s : ProbeQueue) : Prop where
  copies : s.CopiesSound
  fencing : FencingSound s.tasks s.nextClaimId s.reports
  finds : ∀ call ∈ s.calls, s.CallFinds call
  answers : ∀ a ∈ s.answers, a.acknowledged = a.recorded

namespace QueueSound

theorem empty : emptyQueue.QueueSound where
  copies := .empty
  fencing := .empty
  finds := by rintro call ⟨⟩
  answers := by rintro a ⟨⟩

theorem owns (h : s.QueueSound) {t : ProbeTask} (hMem : t ∈ s.tasks.rows)
    (hFinds : report.finds t) : s.Owns report.claimId t.id := by
  have hClaim := ProbeReport.claimId_of_finds hFinds
  have hRank := h.copies.issued t hMem
  rw [hClaim] at hRank
  refine ⟨hRank, fun t' hMem' hClaim' => ?_⟩
  rw [h.fencing.distinct t' hMem' t hMem _ hClaim' hClaim]

theorem finds_step (h : s.QueueSound) (hStep : s.step dates e = some s') :
    ∀ call ∈ s'.calls, s'.CallFinds call := by
  intro call hMem
  apply CallFinds.step _ (tasksStep hStep)
  rcases newCall hStep hMem with hOld | hNew
  · exact h.finds call hOld
  · cases hNew with
    | report hRow hFinds _ => exact ⟨hFinds, h.owns hRow hFinds⟩
    | @confirm report task hCall => exact h.finds (.report report task) hCall
    | deliver _ | nextRow _ => exact callFinds_deliverNext
    | enqueue _ | release | findExpired _ | expireNext _ | cancel _ _ | deliverEvents _ _
    | markDelivered _ | postpone _ _ | finished => trivial

theorem hasRecorded_iff (h : s.QueueSound) {t : ProbeTask} (hMem : t ∈ s.tasks.rows)
    (hFinds : report.finds t) :
    s.hasRecorded report ↔ t.lastReportedClaimId = some report.claimId := by
  rw [h.fencing.recorded t hMem _ (ProbeReport.claimId_of_finds hFinds), hasRecorded,
    List.any_eq_true]
  simp only [Bool.and_eq_true, List.any_eq_true, decide_eq_true_eq]
  constructor
  · rintro ⟨-, -, -, r, hReport, hClaim⟩
    exact ⟨r, hReport, hClaim⟩
  · rintro ⟨r, hReport, hClaim⟩
    exact ⟨t, hMem, hFinds, r, hReport, hClaim⟩

/-- An update that leaves the claims alone, with the filter that decides where it applies. -/
theorem fencing_updateOne (h : s.QueueSound) {task : TaskId} {u : TaskUpdate}
    (hLeaves : ∀ t ∈ s.tasks.rows, t.id = task → u.filter t → u.LeavesClaims t) :
    FencingSound (s.updateOne task u).tasks s.nextClaimId s.reports :=
  h.fencing.updated fun t hMem hId hFilter =>
    TaskUpdate.quiet_set (hLeaves t hMem hId hFilter) hFilter

theorem fencing_claim (h : s.QueueSound) {sourceId : Uuid} {trading : Bool}
    {view : CatalogView} :
    FencingSound (s.claim sourceId trading view).tasks (s.claim sourceId trading view).nextClaimId
      (s.claim sourceId trading view).reports := by
  rw [claim]
  split
  · split
    · exact h.fencing
    · exact h.fencing.claimed h.copies.issued
  · exact h.fencing

theorem fencing_readReported (h : s.QueueSound) :
    FencingSound (s.readReported report).tasks (s.readReported report).nextClaimId
      (s.readReported report).reports := by
  rw [readReported]
  split
  · exact h.fencing
  · split <;> exact h.fencing

/-- The copy with which `complete` makes its update is of the claim that the report has. -/
theorem fencing_complete (h : s.QueueSound) {k : Nat} {task : ProbeTask}
    (hCall : .report report task ∈ s.calls) :
    FencingSound (s.complete dates k report task).tasks
      (s.complete dates k report task).nextClaimId (s.complete dates k report task).reports := by
  obtain ⟨hFinds, hOwns⟩ := h.finds _ hCall
  have hCopyClaim := ProbeReport.claimId_of_finds hFinds
  rw [complete]
  split
  · exact h.fencing
  · split
    · exact h.fencing
    · rename_i events _
      rw [applyReport]
      split
      · exact h.fencing
      · rename_i t hFind
        have hMem := List.mem_of_find?_eq_some hFind
        have hSelected := List.find?_some hFind
        simp only [Bool.and_eq_true, decide_eq_true_eq] at hSelected
        obtain ⟨hId, hFilter⟩ := hSelected
        have hEarlier : task.Earlier t :=
          (h.copies.shows _ hCall task List.mem_cons_self).2 t hMem hId
        have hClaim : t.claimId = task.claimId := by
          have hParts := hFilter
          simp only [completion, TaskUpdate.filter, Bool.and_eq_true, decide_eq_true_eq] at hParts
          exact hParts.1.1
        have hRequeue : (report.retries && decide (task.attempts < task.maxAttempts)) = true →
            t.attempts < t.maxAttempts := by
          rw [Bool.and_eq_true, decide_eq_true_eq, hEarlier.attempts_eq hClaim,
            hEarlier.maxAttempts_eq]
          exact And.right
        rw [completion, hCopyClaim] at hFilter
        have hReported : FencingSound _ s.nextClaimId (s.reports ++ [{
            taskId := t.id
            claimId := report.claimId
            taskClaimId := t.claimId
            taskLeaseExpiresAt := t.leaseExpiresAt
            appliedAt := s.clock
            completes := !(report.retries && decide (task.attempts < task.maxAttempts))
            events :=
              if report.retries && task.attempts < task.maxAttempts then [] else events }]) :=
          h.fencing.reported hMem hFilter hOwns.1 hRequeue rfl rfl rfl rfl rfl rfl
        rw [← hCopyClaim] at hReported
        rw [← hId]
        exact hReported

theorem fencing_step (h : s.QueueSound) (hStep : s.step dates e = some s') :
    FencingSound s'.tasks s'.nextClaimId s'.reports := by
  cases e with
  | tick _ | reapExpired | deliver _ =>
      cases hStep
      exact h.fencing
  | enqueue task =>
      cases hStep
      rw [enqueue]
      split <;> exact h.fencing
  | claim sourceId trading view =>
      cases hStep
      exact h.fencing_claim
  | report report =>
      cases hStep
      exact h.fencing_readReported
  | removeDocument task =>
      cases hStep
      exact h.fencing.removed
  | insert k =>
      simp only [step] at hStep
      split at hStep <;> cases hStep
      rw [insert]
      split
      · exact h.fencing
      · exact h.fencing.inserted
  | complete k =>
      simp only [step] at hStep
      split at hStep <;> cases hStep
      rename_i hCall
      exact h.fencing_complete (List.mem_of_getElem? hCall)
  | confirm k | findExpired k | readCatalog k view =>
      simp only [step] at hStep
      split at hStep <;> cases hStep
      exact h.fencing
  | release k task | cancel k task | postpone k =>
      simp only [step] at hStep
      split at hStep <;> cases hStep
      exact h.fencing_updateOne fun _ _ _ _ => trivial
  | expireLease k =>
      simp only [step] at hStep
      split at hStep <;> cases hStep
      rename_i now copy rest hCall
      refine h.fencing_updateOne fun t hMem hId hFilter hRetry => ?_
      have hShows := h.copies.shows _ (List.mem_of_getElem? hCall) copy List.mem_cons_self
      have hEarlier : copy.Earlier t := hShows.2 t hMem hId
      simp only [TaskUpdate.filter, Bool.and_eq_true, decide_eq_true_eq] at hFilter
      rw [hEarlier.attempts_eq hFilter.1.2, hEarlier.maxAttempts_eq]
      exact of_decide_eq_true hRetry
  | supersede k task targetId =>
      simp only [step] at hStep
      split at hStep
      · obtain ⟨target, -, rfl⟩ := Option.map_eq_some_iff.1 hStep
        exact h.fencing_updateOne fun _ _ _ _ => trivial
      · cases hStep
  | deliverEvent k =>
      simp only [step] at hStep
      split at hStep <;> cases hStep
      rw [deliverEvent]
      split <;> exact h.fencing
  | recordCycle k =>
      simp only [step] at hStep
      split at hStep
      · split at hStep <;> cases hStep
        · exact h.fencing
        · rw [recordCycle]
          split <;> exact h.fencing
      · cases hStep
  | markDelivered k =>
      simp only [step] at hStep
      split at hStep
      · split at hStep <;> cases hStep
        · exact h.fencing
        · rw [markDelivered]
          dsimp only
          split
          · exact h.fencing
          · exact h.fencing_updateOne fun _ _ _ _ => trivial
      · cases hStep
  | failDelivery k =>
      simp only [step] at hStep
      split at hStep <;> cases hStep <;> exact h.fencing

end QueueSound

/-! ### Answers -/

/-- The call is one of `reportGate` whose lease, as it has read it, is over. -/
def isLate (s : ProbeQueue) (report : ProbeReport) (task : ProbeTask) : Bool :=
  report.checksLease && !task.leaseExpiresAt.any (s.clock < ·)

/-- A call of `reportGate` that goes on after the lease it has read is over finds no report of its
claim recorded. -/
def noLateReplay (s : ProbeQueue) : QueueEvent → Bool
  | .complete call =>
    match s.calls[call]? with
    | some (.report report task) => !s.isLate report task || !s.hasRecorded report
    | _ => true
  | _ => true

/-- Every answer so far tells whether the report of its claim was recorded. -/
def AnswersTrue (s : ProbeQueue) : Prop := ∀ a ∈ s.answers, a.acknowledged = a.recorded

theorem AnswersTrue.answer (h : s.AnswersTrue) {acknowledged : Bool}
    (hTrue : acknowledged = s.hasRecorded report) : (s.answer report acknowledged).AnswersTrue := by
  intro a hMem
  rcases List.mem_append.1 hMem with hOld | hNew
  · exact h a hOld
  · rw [List.mem_singleton.1 hNew]
    exact hTrue

namespace QueueSound

theorem answers_readReported (h : s.QueueSound) : (s.readReported report).AnswersTrue := by
  have hAnswers : s.AnswersTrue := h.answers
  rw [readReported]
  split
  · rename_i hNone
    refine hAnswers.answer (Bool.eq_false_iff.2 fun hRecorded => ?_).symm
    obtain ⟨t, hMem, hBoth⟩ := List.any_eq_true.1 hRecorded
    rw [Bool.and_eq_true] at hBoth
    exact List.find?_eq_none.1 hNone t hMem hBoth.1
  · rename_i t hFind
    split
    · exact hAnswers
    · refine hAnswers.answer (Bool.eq_iff_iff.2 ?_)
      rw [decide_eq_true_eq]
      exact (h.hasRecorded_iff (List.mem_of_find?_eq_some hFind) (List.find?_some hFind)).symm

theorem answers_applyReport (h : s.QueueSound) {k : Nat} {task : ProbeTask}
    {events : List ProbeEvent} (hCall : .report report task ∈ s.calls) :
    (s.applyReport k report task events).AnswersTrue := by
  have hAnswers : s.AnswersTrue := h.answers
  obtain ⟨hFinds, -⟩ := h.finds _ hCall
  rw [applyReport]
  split
  · exact hAnswers
  · rename_i t hFind
    have hMem := List.mem_of_find?_eq_some hFind
    have hSelected := List.find?_some hFind
    simp only [Bool.and_eq_true, decide_eq_true_eq] at hSelected
    obtain ⟨hId, hFilter⟩ := hSelected
    have hEarlier : task.Earlier t := (h.copies.shows _ hCall task List.mem_cons_self).2 t hMem hId
    have hClaim : t.claimId = task.claimId := by
      simp only [completion, TaskUpdate.filter, Bool.and_eq_true, decide_eq_true_eq] at hFilter
      exact hFilter.1.1
    refine AnswersTrue.answer ?_ (Eq.symm ?_)
    · exact hAnswers
    rw [hasRecorded, List.any_eq_true]
    refine ⟨(s.completion report task events).apply t, ?_, ?_⟩
    · exact mem_updateOne.2 ⟨t, hMem, if_pos hId⟩
    · rw [Bool.and_eq_true]
      refine ⟨?_, by simp⟩
      have hLater : t.Earlier ((s.completion report task events).apply t) :=
        TaskUpdate.earlier_apply fun _ _ h => by cases h
      have hSame : ((s.completion report task events).apply t).claimId = t.claimId :=
        claimId_apply fun _ _ h => by cases h
      exact ProbeReport.finds_of_earlier hFinds (hEarlier.trans hLater) (hSame.trans hClaim)

theorem answers_complete (h : s.QueueSound) {k : Nat} {task : ProbeTask}
    (hCall : .report report task ∈ s.calls)
    (hLate : s.isLate report task → s.hasRecorded report = false) :
    (s.complete dates k report task).AnswersTrue := by
  have hAnswers : s.AnswersTrue := h.answers
  rw [complete]
  split
  · rename_i hOver
    exact AnswersTrue.answer hAnswers (hLate hOver).symm
  · split
    · exact hAnswers
    · exact h.answers_applyReport hCall

theorem answers_confirm (h : s.QueueSound) {k : Nat} {task : ProbeTask}
    (hCall : .confirm report task ∈ s.calls) : (s.confirm k report task).AnswersTrue := by
  have hAnswers : s.AnswersTrue := h.answers
  obtain ⟨hFinds, hOwns⟩ := h.finds _ hCall
  have hCopyClaim := ProbeReport.claimId_of_finds hFinds
  refine AnswersTrue.answer hAnswers (Bool.eq_iff_iff.2 ?_)
  rw [List.any_eq_true]
  constructor
  · rintro ⟨t, hMem, hMatches⟩
    simp only [Bool.and_eq_true, decide_eq_true_eq] at hMatches
    obtain ⟨⟨⟨hId, hClaim⟩, hLast⟩, -⟩ := hMatches
    have hEarlier := (h.copies.shows _ hCall task List.mem_cons_self).2 t hMem hId
    have hFinds' := ProbeReport.finds_of_earlier hFinds hEarlier hClaim
    exact (h.hasRecorded_iff hMem hFinds').2 (hLast.trans hCopyClaim)
  · intro hRecorded
    obtain ⟨t, hMem, hBoth⟩ := List.any_eq_true.1 hRecorded
    rw [Bool.and_eq_true] at hBoth
    have hClaim := ProbeReport.claimId_of_finds hBoth.1
    have hLast := (h.hasRecorded_iff hMem hBoth.1).1 hRecorded
    refine ⟨t, hMem, ?_⟩
    simp only [Bool.and_eq_true, decide_eq_true_eq, hCopyClaim]
    exact ⟨⟨⟨hOwns.2 t hMem hClaim, hClaim⟩, hLast⟩,
      fun hLeased => h.fencing.leased t hMem hLeased _ hClaim hLast⟩

theorem answers_step (h : s.QueueSound) (hLate : s.noLateReplay e)
    (hStep : s.step dates e = some s') : s'.AnswersTrue := by
  have hAnswers : s.AnswersTrue := h.answers
  cases e with
  | report report =>
      cases hStep
      exact h.answers_readReported
  | complete k =>
      simp only [step] at hStep
      split at hStep <;> cases hStep
      rename_i report task hCall
      simp only [noLateReplay, hCall, Bool.or_eq_true, Bool.not_eq_true'] at hLate
      refine h.answers_complete (List.mem_of_getElem? hCall) fun hOver => ?_
      rw [hOver] at hLate
      exact hLate.resolve_left (by simp)
  | confirm k =>
      simp only [step] at hStep
      split at hStep <;> cases hStep
      rename_i hCall
      exact h.answers_confirm (List.mem_of_getElem? hCall)
  | tick _ | reapExpired | deliver _ | removeDocument _ =>
      cases hStep
      exact hAnswers
  | enqueue task =>
      cases hStep
      rw [enqueue]
      split <;> exact hAnswers
  | claim sourceId trading view =>
      cases hStep
      rw [claim]
      split
      · split <;> exact hAnswers
      · exact hAnswers
  | insert k =>
      simp only [step] at hStep
      split at hStep <;> cases hStep
      rw [insert]
      split <;> exact hAnswers
  | findExpired k | readCatalog k view | release k task | cancel k task | postpone k
  | expireLease k =>
      simp only [step] at hStep
      split at hStep <;> cases hStep
      exact hAnswers
  | supersede k task targetId =>
      simp only [step] at hStep
      split at hStep
      · obtain ⟨target, -, rfl⟩ := Option.map_eq_some_iff.1 hStep
        exact hAnswers
      · cases hStep
  | deliverEvent k =>
      simp only [step] at hStep
      split at hStep <;> cases hStep
      rw [deliverEvent]
      split <;> exact hAnswers
  | recordCycle k =>
      simp only [step] at hStep
      split at hStep
      · split at hStep <;> cases hStep
        · exact hAnswers
        · rw [recordCycle]
          split <;> exact hAnswers
      · cases hStep
  | markDelivered k =>
      simp only [step] at hStep
      split at hStep
      · split at hStep <;> cases hStep
        · exact hAnswers
        · rw [markDelivered]
          dsimp only
          split <;> exact hAnswers
      · cases hStep
  | failDelivery k =>
      simp only [step] at hStep
      split at hStep <;> cases hStep <;> exact hAnswers

theorem step (h : s.QueueSound) (hLate : s.noLateReplay e) (hStep : s.step dates e = some s') :
    s'.QueueSound where
  copies := h.copies.step hStep
  fencing := h.fencing_step hStep
  finds := h.finds_step hStep
  answers := h.answers_step hLate hStep

end QueueSound

/-! ### Every run -/

/-- What fencing is for: a task is completed by at most one report; a report is applied for the
claim that the task has and before its lease expires; a call says that the report of its claim is
recorded exactly if it is; and a task is not tried more often than it may be. -/
structure ReportsFenced (s : ProbeQueue) : Prop where
  once : ((s.reports.filter (·.completes)).map (·.taskId)).Nodup
  current : ∀ r ∈ s.reports, r.taskClaimId = some r.claimId ∧
    ∃ expiresAt ∈ r.taskLeaseExpiresAt, r.appliedAt < expiresAt
  answered : ∀ a ∈ s.answers, a.acknowledged = a.recorded
  bounded : ∀ t ∈ s.tasks.rows, t.attempts ≤ t.maxAttempts

theorem reports_fenced {es : List QueueEvent} (hRun : run (step dates) emptyQueue es = some s)
    (hLate : StepsMeet (step dates) (fun s e => s.noLateReplay e) emptyQueue es) :
    s.ReportsFenced := by
  have hSound : s.QueueSound :=
    run_invariant_of_stepsMeet (fun _ _ _ h hLate hStep => h.step hLate hStep) .empty hRun hLate
  exact ⟨hSound.fencing.once, hSound.fencing.fenced, hSound.answers, hSound.fencing.attempts⟩

/-- The dates of a clock that stands at the epoch. -/
def epochDates : DateFunctions := ⟨fun _ => some 0, fun _ => "1970-01-01T00:00:00.000Z"⟩

def ntpTask : NewTask := ⟨"ntp:1", 1, 1, 0, 600000, .ntp 0, 1, by decide⟩

def oneGate : CatalogView := ⟨[1], [1], [], []⟩

/-- The gate has done the task of its first claim. -/
def ntpReport : ProbeReport := .gate 1 0 ⟨.succeeded, "", []⟩

/-- The task is claimed, and two calls with its report have read it. -/
def twoReports : List QueueEvent :=
  [.enqueue ntpTask, .insert 0, .claim 1 false oneGate, .report ntpReport, .report ntpReport]

theorem reports_fenced_sample : ∃ s,
    run (step epochDates) emptyQueue (twoReports ++ [.complete 1, .complete 2, .confirm 2]) =
      some s ∧ s.ReportsFenced := by
  obtain ⟨s, hRun⟩ := Option.isSome_iff_exists.1 (show (run (step epochDates) emptyQueue
    (twoReports ++ [.complete 1, .complete 2, .confirm 2])).isSome by decide +kernel)
  exact ⟨s, hRun, reports_fenced hRun (by decide +kernel)⟩

/-- The first report is recorded in time. The other call goes on when the lease it has read is over,
and says that the report is not recorded. -/
theorem not_reports_fenced : ∃ es s, run (step epochDates) emptyQueue es = some s ∧
    (∃ a ∈ s.answers, a.acknowledged = false ∧ a.recorded = true) ∧ ¬ s.ReportsFenced := by
  have hRun : ∃ s ∈ run (step epochDates) emptyQueue
      (twoReports ++ [.complete 1, .tick 130000, .complete 2]),
      ∃ a ∈ s.answers, a.acknowledged = false ∧ a.recorded = true := by
    decide +kernel
  obtain ⟨s, hRun, a, hMem, hDenied, hRecorded⟩ := hRun
  refine ⟨_, s, hRun, ⟨a, hMem, hDenied, hRecorded⟩, fun hFenced => ?_⟩
  have hTrue := hFenced.answered a hMem
  rw [hDenied, hRecorded] at hTrue
  cases hTrue

end ProbeQueue

end Hyperspace.Probes
