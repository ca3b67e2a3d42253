import Hyperspace.Probes.TradingJobs

/-!
# Reports of the relational queue

The attempt row of an expired lease stays open when its job is leased again, so a report that comes
after the lease of its attempt is taken for the attempt that has the lease now. Nothing else goes
wrong: a job takes one report, it is not tried too often, and the latest measurements go forward.
-/

namespace Hyperspace.Probes

open Hyperspace.Foundations

abbrev TradingProbeJobs := SerialTable TradingProbeJob.id

variable {clock : Milliseconds} {jobs : TradingProbeJobs} {attempts : List TradingProbeJobAttempt}

/-! ### Jobs and attempts -/

/-- The attempts of a job are numbered by its claims, and all leases but that of the last claim of a
leased job are over. -/
structure JobsSound (clock : Milliseconds) (jobs : TradingProbeJobs)
    (attempts : List TradingProbeJobAttempt) : Prop where
  bounded : ∀ j ∈ jobs.rows, j.retryCount ≤ j.maxRetries
  queued : ∀ j ∈ jobs.rows, j.phase = .queued → j.retryCount < j.maxRetries
  single : ∀ j ∈ jobs.rows, ∀ j' ∈ jobs.rows, j.phase.isActive → j'.phase.isActive →
    j.latestId = j'.latestId → j = j'
  known : ∀ a ∈ attempts, a.jobId < jobs.next
  numbers : ∀ a ∈ attempts, ∀ j ∈ jobs.rows, j.id = a.jobId → a.attemptNumber ≤ j.retryCount
  leased : ∀ a ∈ attempts, ∀ j ∈ jobs.rows, j.id = a.jobId → j.phase = .leased →
    a.attemptNumber = j.retryCount → j.leaseExpiresAt = some a.leaseExpiresAt
  ended : ∀ a ∈ attempts, ∀ j ∈ jobs.rows, j.id = a.jobId →
    a.attemptNumber < j.retryCount ∨ j.phase = .queued → a.leaseExpiresAt ≤ clock

namespace JobsSound

theorem empty : JobsSound clock ∅ [] := by
  constructor <;> simp

theorem later (h : JobsSound clock jobs attempts) {clock' : Milliseconds} (hLe : clock ≤ clock') :
    JobsSound clock' jobs attempts where
  bounded := h.bounded
  queued := h.queued
  single := h.single
  known := h.known
  numbers := h.numbers
  leased := h.leased
  ended := fun a ha j hj hId hEnded => (h.ended a ha j hj hId hEnded).trans hLe

theorem inserted (h : JobsSound clock jobs attempts) {now : Milliseconds} {nodeId : Uuid}
    {target : TradingProbeTarget}
    (hFree : ∀ j ∈ jobs.rows, j.phase.isActive → j.latestId ≠ (nodeId, target.id, "direct")) :
    JobsSound clock (jobs.insert (.create now nodeId target) fun _ => rfl) attempts := by
  -- an attempt is of a job that was there before
  have notNew : ∀ a ∈ attempts, jobs.next ≠ a.jobId := fun a ha => (h.known a ha).ne'
  constructor
  · intro j hj
    rcases SerialTable.mem_insert.1 hj with hOld | rfl
    · exact h.bounded j hOld
    · exact Nat.zero_le _
  · intro j hj hQueued
    rcases SerialTable.mem_insert.1 hj with hOld | rfl
    · exact h.queued j hOld hQueued
    · exact Nat.succ_pos 2
  · intro j hj j' hj' hActive hActive' hSame
    rcases SerialTable.mem_insert.1 hj with hOld | rfl
    · rcases SerialTable.mem_insert.1 hj' with hOld' | rfl
      · exact h.single j hOld j' hOld' hActive hActive' hSame
      · exact absurd hSame (hFree j hOld hActive)
    · rcases SerialTable.mem_insert.1 hj' with hOld' | rfl
      · exact absurd hSame.symm (hFree j' hOld' hActive')
      · rfl
  · exact fun a ha => Nat.lt_succ_of_lt (h.known a ha)
  · intro a ha j hj hId
    rcases SerialTable.mem_insert.1 hj with hOld | rfl
    · exact h.numbers a ha j hOld hId
    · exact absurd hId (notNew a ha)
  · intro a ha j hj hId
    rcases SerialTable.mem_insert.1 hj with hOld | rfl
    · exact h.leased a ha j hOld hId
    · exact absurd hId (notNew a ha)
  · intro a ha j hj hId
    rcases SerialTable.mem_insert.1 hj with hOld | rfl
    · exact h.ended a ha j hOld hId
    · exact absurd hId (notNew a ha)

theorem requeued (h : JobsSound clock jobs attempts) :
    JobsSound clock (jobs.modify (·.requeue clock) fun _ => TradingProbeJob.requeue_id)
      attempts := by
  have count : ∀ j : TradingProbeJob, (j.requeue clock).retryCount = j.retryCount := by
    intro j
    rw [TradingProbeJob.requeue]
    split <;> rfl
  have limit : ∀ j : TradingProbeJob, (j.requeue clock).maxRetries = j.maxRetries := by
    intro j
    rw [TradingProbeJob.requeue]
    split <;> rfl
  have latest : ∀ j : TradingProbeJob, (j.requeue clock).latestId = j.latestId := by
    intro j
    rw [TradingProbeJob.requeue]
    split <;> rfl
  have active : ∀ j : TradingProbeJob, (j.requeue clock).phase.isActive → j.phase.isActive := by
    intro j hActive
    rw [TradingProbeJob.requeue] at hActive
    split at hActive
    · rename_i hExpired
      rw [hExpired.1]
      rfl
    · exact hActive
  constructor
  · intro j' hj
    obtain ⟨j, hOld, rfl⟩ := SerialTable.mem_modify.1 hj
    rw [count, limit]
    exact h.bounded j hOld
  · intro j' hj hQueued
    obtain ⟨j, hOld, rfl⟩ := SerialTable.mem_modify.1 hj
    rw [count, limit]
    rw [TradingProbeJob.requeue] at hQueued
    split at hQueued
    · dsimp only at hQueued
      split at hQueued
      · cases hQueued
      · rename_i hLeft
        exact not_le.1 hLeft
    · exact h.queued j hOld hQueued
  · intro j₁ hj₁ j₂ hj₂ hActive₁ hActive₂ hSame
    obtain ⟨j, hOld, rfl⟩ := SerialTable.mem_modify.1 hj₁
    obtain ⟨j', hOld', rfl⟩ := SerialTable.mem_modify.1 hj₂
    rw [latest, latest] at hSame
    rw [h.single j hOld j' hOld' (active j hActive₁) (active j' hActive₂) hSame]
  · exact h.known
  · intro a ha j' hj hId
    obtain ⟨j, hOld, rfl⟩ := SerialTable.mem_modify.1 hj
    rw [count]
    exact h.numbers a ha j hOld (TradingProbeJob.requeue_id ▸ hId)
  · intro a ha j' hj hId hLeased hLast
    obtain ⟨j, hOld, rfl⟩ := SerialTable.mem_modify.1 hj
    rw [TradingProbeJob.requeue] at hId hLeased hLast ⊢
    split at hLeased
    · dsimp only at hLeased
      split at hLeased <;> cases hLeased
    · rename_i hKept
      rw [if_neg hKept] at hId hLast ⊢
      exact h.leased a ha j hOld hId hLeased hLast
  · intro a ha j' hj hId hEnded
    obtain ⟨j, hOld, rfl⟩ := SerialTable.mem_modify.1 hj
    rw [TradingProbeJob.requeue_id] at hId
    rw [count] at hEnded
    rcases hEnded with hEarlier | hQueued
    · exact h.ended a ha j hOld hId (.inl hEarlier)
    · rw [TradingProbeJob.requeue] at hQueued
      split at hQueued
      · -- the lease that has expired is that of the last attempt
        rename_i hExpired
        rcases (h.numbers a ha j hOld hId).lt_or_eq with hEarlier | hLast
        · exact h.ended a ha j hOld hId (.inl hEarlier)
        · have hLease := h.leased a ha j hOld hId hExpired.1 hLast
          rw [hLease, Option.any_some, decide_eq_true_eq] at hExpired
          exact hExpired.2.le
      · exact h.ended a ha j hOld hId (.inr hQueued)

/-- A claim leases a queued job, so the leases of all attempts before are over. -/
theorem claimed (h : JobsSound clock jobs attempts) {job : TradingProbeJob}
    (hMem : job ∈ jobs.rows) (hQueued : job.phase = .queued) {leaseExpiresAt : Milliseconds} :
    JobsSound clock
      (jobs.update job.id (fun j => { j with
          phase := .leased
          leaseExpiresAt := some leaseExpiresAt
          retryCount := j.retryCount + 1 }) fun _ => rfl)
      (attempts ++ [⟨job.id, job.retryCount + 1, leaseExpiresAt, none⟩]) := by
  let leased : TradingProbeJob := { job with
    phase := .leased
    leaseExpiresAt := some leaseExpiresAt
    retryCount := job.retryCount + 1 }
  have cases' : ∀ {j'}, j' ∈ (jobs.update job.id (fun j => { j with
      phase := .leased
      leaseExpiresAt := some leaseExpiresAt
      retryCount := j.retryCount + 1 }) fun _ => rfl).rows →
      j' ∈ jobs.rows ∧ j'.id ≠ job.id ∨ j' = leased := by
    intro j' hj
    rw [SerialTable.mem_update] at hj
    obtain ⟨j, hOld, rfl⟩ := hj
    split
    · rename_i hId
      rw [SerialTable.row_unique hOld hMem hId]
      exact .inr rfl
    · rename_i hId
      exact .inl ⟨hOld, hId⟩
  have wasActive : job.phase.isActive := by
    rw [hQueued]
    rfl
  constructor
  · intro j hj
    rcases cases' hj with ⟨hOld, -⟩ | rfl
    · exact h.bounded j hOld
    · exact h.queued job hMem hQueued
  · intro j hj hStill
    rcases cases' hj with ⟨hOld, -⟩ | rfl
    · exact h.queued j hOld hStill
    · cases hStill
  · intro j hj j' hj' hActive hActive' hSame
    rcases cases' hj with ⟨hOld, hOther⟩ | rfl
    · rcases cases' hj' with ⟨hOld', -⟩ | rfl
      · exact h.single j hOld j' hOld' hActive hActive' hSame
      · exact absurd (congrArg TradingProbeJob.id
          (h.single j hOld job hMem hActive wasActive hSame)) hOther
    · rcases cases' hj' with ⟨hOld', hOther⟩ | rfl
      · exact absurd (congrArg TradingProbeJob.id
          (h.single j' hOld' job hMem hActive' wasActive hSame.symm)) hOther
      · rfl
  · intro a ha
    rcases List.mem_append.1 ha with hOld | hNew
    · exact h.known a hOld
    · rw [List.mem_singleton.1 hNew]
      exact jobs.fresh job hMem
  · intro a ha j hj hId
    rcases List.mem_append.1 ha with hOld | hNew
    · rcases cases' hj with ⟨hOldJ, -⟩ | rfl
      · exact h.numbers a hOld j hOldJ hId
      · exact (h.numbers a hOld job hMem hId).trans (Nat.le_succ _)
    · rw [List.mem_singleton.1 hNew] at hId ⊢
      rcases cases' hj with ⟨-, hOther⟩ | rfl
      · exact absurd hId hOther
      · exact le_rfl
  · intro a ha j hj hId hLeased hLast
    rcases List.mem_append.1 ha with hOld | hNew
    · rcases cases' hj with ⟨hOldJ, -⟩ | rfl
      · exact h.leased a hOld j hOldJ hId hLeased hLast
      · have hBefore : a.attemptNumber ≤ job.retryCount := h.numbers a hOld job hMem hId
        rw [hLast] at hBefore
        exact absurd hBefore (Nat.not_succ_le_self _)
    · rw [List.mem_singleton.1 hNew] at hId ⊢
      rcases cases' hj with ⟨-, hOther⟩ | rfl
      · exact absurd hId hOther
      · rfl
  · intro a ha j hj hId hEnded
    rcases List.mem_append.1 ha with hOld | hNew
    · rcases cases' hj with ⟨hOldJ, -⟩ | rfl
      · exact h.ended a hOld j hOldJ hId hEnded
      · exact h.ended a hOld job hMem hId (.inr hQueued)
    · rw [List.mem_singleton.1 hNew] at hId hEnded
      rcases cases' hj with ⟨-, hOther⟩ | rfl
      · exact absurd hId hOther
      · rcases hEnded with hLess | hQueued'
        · exact absurd hLess (lt_irrefl _)
        · cases hQueued'

theorem finished (h : JobsSound clock jobs attempts) {jobId : TradingJobId}
    {phase : TradingJobPhase} (hEnds : ¬ phase.isActive)
    {f : TradingProbeJobAttempt → TradingProbeJobAttempt} (hJob : ∀ a, (f a).jobId = a.jobId)
    (hNumber : ∀ a, (f a).attemptNumber = a.attemptNumber)
    (hLease : ∀ a, (f a).leaseExpiresAt = a.leaseExpiresAt) :
    JobsSound clock
      (jobs.update jobId (fun j => { j with phase, leaseExpiresAt := none }) fun _ => rfl)
      (attempts.map f) := by
  have notQueued : phase ≠ .queued := by
    rintro rfl
    exact hEnds rfl
  have notLeased : phase ≠ .leased := by
    rintro rfl
    exact hEnds rfl
  have cases' : ∀ {j'}, j' ∈ (jobs.update jobId (fun j =>
      { j with phase, leaseExpiresAt := none }) fun _ => rfl).rows →
      j' ∈ jobs.rows ∨ ∃ j ∈ jobs.rows, j' = { j with phase, leaseExpiresAt := none } := by
    intro j' hj
    rw [SerialTable.mem_update] at hj
    obtain ⟨j, hOld, rfl⟩ := hj
    split
    · exact .inr ⟨j, hOld, rfl⟩
    · exact .inl hOld
  constructor
  · intro j' hj
    rcases cases' hj with hOld | ⟨j, hOld, rfl⟩
    · exact h.bounded j' hOld
    · exact h.bounded j hOld
  · intro j' hj hQueued
    rcases cases' hj with hOld | ⟨j, hOld, rfl⟩
    · exact h.queued j' hOld hQueued
    · exact absurd hQueued notQueued
  · intro j₁ hj₁ j₂ hj₂ hActive₁ hActive₂ hSame
    rcases cases' hj₁ with hOld | ⟨j, hOld, rfl⟩
    · rcases cases' hj₂ with hOld' | ⟨j', hOld', rfl⟩
      · exact h.single j₁ hOld j₂ hOld' hActive₁ hActive₂ hSame
      · exact absurd hActive₂ hEnds
    · exact absurd hActive₁ hEnds
  · intro a' ha
    obtain ⟨a, hOld, rfl⟩ := List.mem_map.1 ha
    rw [hJob]
    exact h.known a hOld
  · intro a' ha j' hj hId
    obtain ⟨a, hOld, rfl⟩ := List.mem_map.1 ha
    rw [hJob] at hId
    rw [hNumber]
    rcases cases' hj with hOldJ | ⟨j, hOldJ, rfl⟩
    · exact h.numbers a hOld j' hOldJ hId
    · exact h.numbers a hOld j hOldJ hId
  · intro a' ha j' hj hId hLeased hLast
    obtain ⟨a, hOld, rfl⟩ := List.mem_map.1 ha
    rw [hJob] at hId
    rw [hNumber] at hLast
    rw [hLease]
    rcases cases' hj with hOldJ | ⟨j, hOldJ, rfl⟩
    · exact h.leased a hOld j' hOldJ hId hLeased hLast
    · exact absurd hLeased notLeased
  · intro a' ha j' hj hId hEnded
    obtain ⟨a, hOld, rfl⟩ := List.mem_map.1 ha
    rw [hJob] at hId
    rw [hNumber] at hEnded
    rw [hLease]
    rcases cases' hj with hOldJ | ⟨j, hOldJ, rfl⟩
    · exact h.ended a hOld j' hOldJ hId hEnded
    · exact h.ended a hOld j hOldJ hId (hEnded.imp_right fun hQueued => absurd hQueued notQueued)

/-- While the lease of an attempt of a leased job runs, no later attempt has been claimed. -/
theorem holds_lease (h : JobsSound clock jobs attempts) {a : TradingProbeJobAttempt}
    {j : TradingProbeJob} (ha : a ∈ attempts) (hj : j ∈ jobs.rows) (hId : j.id = a.jobId)
    (hLeased : j.phase = .leased) (hRuns : clock < a.leaseExpiresAt) :
    a.attemptNumber = j.retryCount ∧ j.leaseExpiresAt = some a.leaseExpiresAt := by
  have hLast : a.attemptNumber = j.retryCount := by
    rcases (h.numbers a ha j hj hId).lt_or_eq with hEarlier | hLast
    · exact absurd (h.ended a ha j hj hId (.inl hEarlier)) hRuns.not_ge
    · exact hLast
  exact ⟨hLast, h.leased a ha j hj hId hLeased hLast⟩

end JobsSound

/-! ### Measurements and reports -/

/-- Every measurement of an active job is at least as late as what is stored for its target, and no
job of an accepted report is active. -/
structure ReportsSound (jobs : TradingProbeJobs) (latest : TradingId → Option TradingLatencyLatest)
    (taken : List TakenMeasurement) (accepted : List AcceptedReport)
    (written : List (TradingId × Milliseconds)) : Prop where
  stored : ∀ k, ∀ r ∈ latest k, ∃ m ∈ taken, r.measuredAt ≤ m.measuredAt
  known : ∀ m ∈ taken, m.jobId < jobs.next
  fresh : ∀ m ∈ taken, ∀ j ∈ jobs.rows, j.id = m.jobId → j.phase.isActive →
    ∀ r ∈ latest j.latestId, r.measuredAt ≤ m.measuredAt
  ordered : written.Pairwise fun w w' => w.1 = w'.1 → w.2 ≤ w'.2
  last : ∀ w ∈ written, ∃ r ∈ latest w.1, w.2 ≤ r.measuredAt
  once : (accepted.map (·.jobId)).Nodup
  ended : ∀ x ∈ accepted, x.jobId < jobs.next ∧
    ∀ j ∈ jobs.rows, j.id = x.jobId → ¬ j.phase.isActive

namespace ReportsSound

variable {latest : TradingId → Option TradingLatencyLatest} {taken : List TakenMeasurement}
variable {accepted : List AcceptedReport} {written : List (TradingId × Milliseconds)}

theorem empty : ReportsSound ∅ (fun _ => none) [] [] [] := by
  constructor <;> simp

theorem rewritten (h : ReportsSound jobs latest taken accepted written)
    {f : TradingProbeJob → TradingProbeJob} (hf : ∀ j, (f j).id = j.id)
    (hLatest : ∀ j, (f j).latestId = j.latestId)
    (hActive : ∀ j ∈ jobs.rows, (f j).phase.isActive → j.phase.isActive) :
    ReportsSound (jobs.modify f hf) latest taken accepted written where
  stored := h.stored
  known := h.known
  fresh := by
    intro m hm j' hj hId hStill
    obtain ⟨j, hOld, rfl⟩ := SerialTable.mem_modify.1 hj
    rw [hLatest]
    exact h.fresh m hm j hOld ((hf j).symm.trans hId) (hActive j hOld hStill)
  ordered := h.ordered
  last := h.last
  once := h.once
  ended := by
    intro x hx
    refine ⟨(h.ended x hx).1, fun j' hj hId hStill => ?_⟩
    obtain ⟨j, hOld, rfl⟩ := SerialTable.mem_modify.1 hj
    exact (h.ended x hx).2 j hOld ((hf j).symm.trans hId) (hActive j hOld hStill)

theorem inserted (h : ReportsSound jobs latest taken accepted written) {now : Milliseconds}
    {nodeId : Uuid} {target : TradingProbeTarget} :
    ReportsSound (jobs.insert (.create now nodeId target) fun _ => rfl) latest taken accepted
      written where
  stored := h.stored
  known := fun m hm => Nat.lt_succ_of_lt (h.known m hm)
  fresh := by
    intro m hm j hj hId hActive
    rcases SerialTable.mem_insert.1 hj with hOld | rfl
    · exact h.fresh m hm j hOld hId hActive
    · exact absurd hId (h.known m hm).ne'
  ordered := h.ordered
  last := h.last
  once := h.once
  ended := by
    intro x hx
    refine ⟨Nat.lt_succ_of_lt (h.ended x hx).1, fun j hj hId => ?_⟩
    rcases SerialTable.mem_insert.1 hj with hOld | rfl
    · exact (h.ended x hx).2 j hOld hId
    · exact absurd hId (h.ended x hx).1.ne'

/-- A measurement is as late as all before it, so as late as all that is stored. -/
theorem measured (h : ReportsSound jobs latest taken accepted written) {m : TakenMeasurement}
    (hLater : ∀ m' ∈ taken, m'.measuredAt ≤ m.measuredAt) (hKnown : m.jobId < jobs.next) :
    ReportsSound jobs latest (taken ++ [m]) accepted written where
  stored := by
    intro k r hr
    obtain ⟨m', hm', hLe⟩ := h.stored k r hr
    exact ⟨m', List.mem_append_left _ hm', hLe⟩
  known := by
    intro m' hm'
    rcases List.mem_append.1 hm' with hOld | hNew
    · exact h.known m' hOld
    · rw [List.mem_singleton.1 hNew]
      exact hKnown
  fresh := by
    intro m' hm' j hj hId hActive r hr
    rcases List.mem_append.1 hm' with hOld | hNew
    · exact h.fresh m' hOld j hj hId hActive r hr
    · rw [List.mem_singleton.1 hNew]
      obtain ⟨earlier, hEarlier, hLe⟩ := h.stored _ r hr
      exact hLe.trans (hLater earlier hEarlier)
  ordered := h.ordered
  last := h.last
  once := h.once
  ended := h.ended

theorem accepts (h : ReportsSound jobs latest taken accepted written) {x : AcceptedReport}
    {job : TradingProbeJob} (hMem : job ∈ jobs.rows) (hId : job.id = x.jobId)
    (hActive : job.phase.isActive) {f : TradingProbeJob → TradingProbeJob}
    (hf : ∀ j, (f j).id = j.id) (hLatest : ∀ j, (f j).latestId = j.latestId)
    (hStill : ∀ j, (f j).phase.isActive → j.phase.isActive) (hEnds : ¬ (f job).phase.isActive) :
    ReportsSound (jobs.modify f hf) latest taken (accepted ++ [x]) written := by
  have hRewritten := h.rewritten hf hLatest fun j _ => hStill j
  refine { hRewritten with once := ?_, ended := ?_ }
  · rw [List.map_append, List.nodup_append]
    refine ⟨h.once, by simp, ?_⟩
    rintro id hOld id' hNew rfl
    obtain ⟨x', hx', hSame⟩ := List.mem_map.1 hOld
    have hJob : id = x.jobId := by simpa using hNew
    exact (h.ended x' hx').2 job hMem (hId.trans (hJob.symm.trans hSame.symm)) hActive
  · intro x' hx'
    rcases List.mem_append.1 hx' with hOld | hNew
    · exact hRewritten.ended x' hOld
    · rw [List.mem_singleton.1 hNew, ← hId]
      refine ⟨jobs.fresh job hMem, fun j' hj hSame => ?_⟩
      obtain ⟨j, hOldJ, rfl⟩ := SerialTable.mem_modify.1 hj
      rw [SerialTable.row_unique hOldJ hMem ((hf j).symm.trans hSame)]
      exact hEnds

/-- Only one active job writes to its target, and it writes one of its own measurements. -/
theorem writes (h : ReportsSound jobs latest taken accepted written) {k : TradingId}
    {row : TradingLatencyLatest} (hFree : ∀ j ∈ jobs.rows, j.phase.isActive → j.latestId ≠ k)
    (hTaken : ∃ m ∈ taken, row.measuredAt ≤ m.measuredAt)
    (hLater : ∀ r ∈ latest k, r.measuredAt ≤ row.measuredAt) :
    ReportsSound jobs (Function.update latest k (some row)) taken accepted
      (written ++ [(k, row.measuredAt)]) where
  stored := by
    intro k' r hr
    by_cases hKey : k' = k
    · rw [hKey, Function.update_self] at hr
      cases hr
      exact hTaken
    · rw [Function.update_of_ne hKey] at hr
      exact h.stored k' r hr
  known := h.known
  fresh := by
    intro m hm j hj hId hActive r hr
    rw [Function.update_of_ne (hFree j hj hActive)] at hr
    exact h.fresh m hm j hj hId hActive r hr
  ordered := by
    rw [List.pairwise_append]
    refine ⟨h.ordered, List.pairwise_singleton _ _, ?_⟩
    intro w hw w' hw' hSame
    rw [List.mem_singleton.1 hw'] at hSame ⊢
    obtain ⟨r, hr, hLe⟩ := h.last w hw
    rw [hSame] at hr
    exact hLe.trans (hLater r hr)
  last := by
    intro w hw
    rcases List.mem_append.1 hw with hOld | hNew
    · obtain ⟨r, hr, hLe⟩ := h.last w hOld
      by_cases hKey : w.1 = k
      · rw [hKey] at hr ⊢
        exact ⟨row, Function.update_self .., hLe.trans (hLater r hr)⟩
      · exact ⟨r, by rwa [Function.update_of_ne hKey], hLe⟩
    · rw [List.mem_singleton.1 hNew]
      exact ⟨row, Function.update_self .., le_rfl⟩
  once := h.once
  ended := h.ended

end ReportsSound

/-! ### One step -/

theorem TradingProbeResult.not_isActive_phase {result : TradingProbeResult} :
    ¬ result.phase.isActive := by
  rw [TradingProbeResult.phase]
  split <;> nofun

namespace TradingSystem

variable {s s' : TradingSystem} {e : TradingEvent} {node : AuthenticatedTradingProbeNode}
variable {jobId : TradingJobId} {attemptNumber : Nat} {result : TradingProbeResult}

/-- Attempts and leases fit together, and the latest results are those of taken measurements. -/
structure TradingSound (s : TradingSystem) : Prop where
  jobs : JobsSound s.clock s.db.jobs s.db.attempts
  reports : ReportsSound s.db.jobs s.db.latest s.taken s.accepted s.written

theorem report_eq (s : TradingSystem) (node : AuthenticatedTradingProbeNode) (jobId : TradingJobId)
    (attemptNumber : Nat) (result : TradingProbeResult) :
    s.report node jobId attemptNumber result = s ∨
      ∃ job ∈ s.db.jobs.rows, job.id = jobId ∧ job.probeNodeId = node.id ∧ job.phase = .leased ∧
        s.db.reportedJob? node.id jobId = some job ∧
        (∃ a ∈ s.db.attempts, a.isOpen jobId attemptNumber) ∧
        s.report node jobId attemptNumber result =
          { s with
            db := s.db.applyReport s.clock node job attemptNumber result
            accepted := s.accepted ++
              [⟨jobId, attemptNumber, job.retryCount, job.leaseExpiresAt, s.clock⟩]
            written := if node.id ∈ s.db.nodeStatus then
                s.written ++ [(job.latestId, result.measuredAt)]
              else s.written } := by
  cases hJob : s.db.reportedJob? node.id jobId with
  | none =>
      left
      rw [report, TradingDb.recordReport, hJob]
      rfl
  | some job =>
      have hMem : job ∈ s.db.jobs.rows := List.mem_of_find?_eq_some hJob
      have hFound := List.find?_some hJob
      simp only [Bool.and_eq_true, decide_eq_true_eq] at hFound
      cases hOpen : s.db.attempts.any (·.isOpen jobId attemptNumber) with
      | false =>
          left
          simp [report, TradingDb.recordReport, hJob, hOpen]
      | true =>
          right
          refine ⟨job, hMem, hFound.1.1, hFound.1.2, hFound.2, rfl, List.any_eq_true.1 hOpen, ?_⟩
          simp [report, TradingDb.recordReport, hJob, hOpen]

namespace TradingSound

theorem empty : emptyTradingSystem.TradingSound := ⟨.empty, .empty⟩

theorem requeueExpired (h : s.TradingSound) :
    TradingSound { s with db := s.db.requeueExpired s.clock } where
  jobs := h.jobs.requeued
  reports := by
    refine h.reports.rewritten _ (fun j => ?_) fun j _ hActive => ?_
    · rw [TradingProbeJob.requeue]
      split <;> rfl
    · rw [TradingProbeJob.requeue] at hActive
      split at hActive
      · rename_i hExpired
        rw [hExpired.1]
        rfl
      · exact hActive

theorem insertJob (h : s.TradingSound) {nodeId : Uuid} {target : TradingProbeTarget} :
    TradingSound { s with db := s.db.insertJob s.clock nodeId target } := by
  rw [TradingDb.insertJob]
  split
  · exact h
  · rename_i hNone
    refine ⟨h.jobs.inserted fun j hj hActive hSame => hNone ?_, h.reports.inserted⟩
    rw [List.any_eq_true]
    exact ⟨j, hj, by simp [hSame, hActive]⟩

theorem insertDue (h : s.TradingSound) {nodes : List Uuid} {targets : List TradingProbeTarget} :
    TradingSound { s with db := s.db.insertDue s.clock nodes targets } := by
  rw [TradingDb.insertDue]
  generalize (nodes.product targets).filter _ = due
  have rows : ∀ db, TradingSound { s with db := db } → TradingSound { s with
      db := due.foldl (fun db pair => db.insertJob s.clock pair.1 pair.2) db } := by
    induction due with
    | nil => exact fun _ h => h
    | cons first rest ih => exact fun db h => ih _ h.insertJob
  exact rows s.db h

theorem claim (h : s.TradingSound) {targets : List TradingProbeTarget}
    {locked : List TradingJobId} :
    TradingSound { s with db := s.db.claim s.clock node targets locked } := by
  rw [TradingDb.claim]
  split
  · split
    · exact h
    · rename_i job hHead
      have hFound := mem_of_mem_selectForUpdate (List.mem_of_head? hHead)
      obtain ⟨hMem, hClaimable⟩ := List.mem_filter.1 hFound
      simp only [Bool.and_eq_true, decide_eq_true_eq] at hClaimable
      have hQueued : job.phase = .queued := hClaimable.1.1.2
      refine ⟨h.jobs.claimed hMem hQueued, h.reports.rewritten _ (fun j => ?_) ?_⟩
      · split <;> rfl
      · intro j hj hActive
        split at hActive
        · rename_i hId
          rw [SerialTable.row_unique hj hMem hId, hQueued]
          rfl
        · exact hActive
  · exact h

theorem measure (h : s.TradingSound) {measuredAt : Milliseconds}
    (hCan : s.canMeasure jobId attemptNumber measuredAt) :
    TradingSound { s with taken := s.taken ++ [⟨jobId, attemptNumber, measuredAt⟩] } where
  jobs := h.jobs
  reports := by
    rw [canMeasure, Bool.and_eq_true, List.any_eq_true, List.all_eq_true] at hCan
    obtain ⟨⟨a, ha, hAttempt⟩, hLater⟩ := hCan
    rw [Bool.and_eq_true, decide_eq_true_eq] at hAttempt
    refine h.reports.measured (fun m hm => of_decide_eq_true (hLater m hm)) ?_
    rw [← hAttempt.1]
    exact h.jobs.known a ha

theorem report (h : s.TradingSound)
    (hTaken : ⟨jobId, attemptNumber, result.measuredAt⟩ ∈ s.taken) :
    (s.report node jobId attemptNumber result).TradingSound := by
  rcases report_eq s node jobId attemptNumber result with
    hSame | ⟨job, hMem, rfl, hNode, hLeased, -, -, hReport⟩
  · rw [hSame]
    exact h
  · rw [hReport]
    have hActive : job.phase.isActive := by
      rw [hLeased]
      rfl
    have hEnds : ¬ result.phase.isActive := TradingProbeResult.not_isActive_phase
    have hJobs : JobsSound s.clock (s.db.applyReport s.clock node job attemptNumber result).jobs
        (s.db.applyReport s.clock node job attemptNumber result).attempts := by
      refine h.jobs.finished hEnds (fun a => ?_) (fun a => ?_) fun a => ?_
      all_goals split <;> rfl
    have hAccepted := h.reports.accepts (x := ⟨job.id, attemptNumber, job.retryCount,
      job.leaseExpiresAt, s.clock⟩) hMem rfl hActive
      (f := fun j => if j.id = job.id then
        { j with phase := result.phase, leaseExpiresAt := none } else j)
      (fun j => by split <;> rfl) (fun j => by split <;> rfl)
      (fun j hStill => by
        split at hStill
        · exact absurd hStill hEnds
        · exact hStill)
      (by rw [if_pos rfl]; exact hEnds)
    refine ⟨hJobs, ?_⟩
    simp only [TradingDb.applyReport, ← hNode]
    by_cases hStatus : job.probeNodeId ∈ s.db.nodeStatus
    · simp only [if_pos hStatus]
      refine hAccepted.writes (fun j hj hStill hSame => ?_) ⟨_, hTaken, le_rfl⟩ fun r hr =>
        h.reports.fresh _ hTaken job hMem rfl hActive r hr
      obtain ⟨j', hOld, rfl⟩ := SerialTable.mem_modify.1 hj
      split at hStill
      · exact absurd hStill hEnds
      · rename_i hOther
        rw [if_neg hOther] at hSame
        exact hOther (congrArg TradingProbeJob.id
          (h.jobs.single j' hOld job hMem hStill hActive hSame))
    · simp only [if_neg hStatus]
      exact hAccepted

theorem step (h : s.TradingSound) (hStep : s.step e = some s') : s'.TradingSound := by
  cases e with
  | tick elapsed =>
      cases hStep
      exact ⟨h.jobs.later (le_add_of_nonneg_right (Int.natCast_nonneg elapsed)), h.reports⟩
  | heartbeat nodeId =>
      cases hStep
      exact ⟨h.jobs, h.reports⟩
  | requeueExpired =>
      cases hStep
      exact h.requeueExpired
  | insertDue nodes targets =>
      cases hStep
      exact h.insertDue
  | claim node targets locked =>
      cases hStep
      exact h.claim
  | measure jobId attemptNumber measuredAt =>
      simp only [TradingSystem.step] at hStep
      split at hStep <;> cases hStep
      rename_i hCan
      exact h.measure hCan
  | report node jobId attemptNumber result =>
      simp only [TradingSystem.step] at hStep
      split at hStep <;> cases hStep
      rename_i hTaken
      exact h.report hTaken

end TradingSound

/-! ### Every run -/

/-- A report that finds its job leased and the row of its attempt open comes before the lease of
that attempt is over. -/
def inTime (s : TradingSystem) : TradingEvent → Bool
  | .report node jobId attemptNumber _ =>
    (s.db.reportedJob? node.id jobId).isNone ||
      s.db.attempts.all fun a => !a.isOpen jobId attemptNumber || s.clock < a.leaseExpiresAt
  | _ => true

/-- Every accepted report is of the attempt that holds the lease. -/
def HoldersAccepted (s : TradingSystem) : Prop :=
  ∀ x ∈ s.accepted, x.attemptNumber = x.retryCount ∧
    ∃ expiresAt ∈ x.leaseExpiresAt, x.acceptedAt < expiresAt

theorem HoldersAccepted.step (h : s.HoldersAccepted) (hSound : s.TradingSound)
    (hTime : s.inTime e) (hStep : s.step e = some s') : s'.HoldersAccepted := by
  cases e with
  | tick _ | heartbeat _ | requeueExpired | insertDue _ _ | claim _ _ _ =>
      cases hStep
      exact h
  | measure jobId attemptNumber measuredAt =>
      simp only [TradingSystem.step] at hStep
      split at hStep <;> cases hStep
      exact h
  | report node jobId attemptNumber result =>
      simp only [TradingSystem.step] at hStep
      split at hStep <;> cases hStep
      rcases report_eq s node jobId attemptNumber result with
        hSame | ⟨job, hMem, rfl, -, hLeased, hJob, ⟨a, ha, hOpen⟩, hReport⟩
      · rw [hSame]
        exact h
      · rw [hReport]
        intro x hx
        rcases List.mem_append.1 hx with hOld | hNew
        · exact h x hOld
        · simp only [inTime, hJob, Option.isNone_some, Bool.false_or, List.all_eq_true] at hTime
          have hRuns := hTime a ha
          rw [hOpen, Bool.not_true, Bool.false_or, decide_eq_true_eq] at hRuns
          simp only [TradingProbeJobAttempt.isOpen, Bool.and_eq_true, decide_eq_true_eq] at hOpen
          obtain ⟨hLast, hLease⟩ :=
            hSound.jobs.holds_lease ha hMem hOpen.1.1.symm hLeased hRuns
          rw [List.mem_singleton.1 hNew, ← hOpen.1.2]
          exact ⟨hLast, _, hLease, hRuns⟩

/-- What the guards of the queue are for: a report is accepted only from the attempt that holds the
lease; a job takes one report; it is not tried more often than it may be; and the time of the latest
measurement of a target goes forward. -/
structure ReportsGuarded (s : TradingSystem) : Prop where
  holders : s.HoldersAccepted
  once : (s.accepted.map (·.jobId)).Nodup
  bounded : ∀ j ∈ s.db.jobs.rows, j.retryCount ≤ j.maxRetries
  forward : s.written.Pairwise fun w w' => w.1 = w'.1 → w.2 ≤ w'.2

theorem reports_guarded {es : List TradingEvent}
    (hRun : run TradingSystem.step emptyTradingSystem es = some s)
    (hTime : StepsMeet TradingSystem.step (fun s e => s.inTime e) emptyTradingSystem es) :
    s.ReportsGuarded := by
  have hStart : emptyTradingSystem.TradingSound ∧ emptyTradingSystem.HoldersAccepted :=
    ⟨.empty, by rintro x ⟨⟩⟩
  have hBoth : s.TradingSound ∧ s.HoldersAccepted :=
    @run_invariant_of_stepsMeet _ _ _ _ (fun s => s.TradingSound ∧ s.HoldersAccepted)
      (fun _ _ _ h hTime hStep => ⟨h.1.step hStep, h.2.step h.1 hTime hStep⟩) _ _ _ hStart hRun
      hTime
  obtain ⟨hSound, hHolders⟩ := hBoth
  exact ⟨hHolders, hSound.reports.once, hSound.jobs.bounded, hSound.reports.ordered⟩

def sampleNode : AuthenticatedTradingProbeNode := ⟨1, "probe", 1, .enabled⟩

def sampleTarget : TradingProbeTarget := ⟨2, 1, 30, 0, true⟩

/-- The first attempt measures and says nothing until its lease is over; the job is leased again. -/
def silentAttempt : List TradingEvent :=
  [.heartbeat 1, .insertDue [1] [sampleTarget], .claim sampleNode [sampleTarget] [],
    .measure 0 1 10, .tick 46000, .requeueExpired, .tick 2000,
    .claim sampleNode [sampleTarget] []]

/-- The report of the second attempt comes in time, and then that of the first. -/
theorem reports_guarded_sample : ∃ s,
    run TradingSystem.step emptyTradingSystem (silentAttempt ++
      [.measure 0 2 47000, .report sampleNode 0 2 ⟨"succeeded", 47000, .null⟩,
        .report sampleNode 0 1 ⟨"succeeded", 10, .null⟩]) = some s ∧
    s.accepted.length = 1 ∧ s.ReportsGuarded := by
  have hRun : ∃ s ∈ run TradingSystem.step emptyTradingSystem (silentAttempt ++
      [.measure 0 2 47000, .report sampleNode 0 2 ⟨"succeeded", 47000, .null⟩,
        .report sampleNode 0 1 ⟨"succeeded", 10, .null⟩]), s.accepted.length = 1 := by
    decide +kernel
  obtain ⟨s, hRun, hOne⟩ := hRun
  exact ⟨s, hRun, hOne, reports_guarded hRun (by decide +kernel)⟩

/-- The report of the first attempt comes while the second one has the lease, and is accepted. -/
theorem not_reports_guarded : ∃ es s,
    run TradingSystem.step emptyTradingSystem es = some s ∧
    s.accepted = [⟨0, 1, 2, some 93000, 48000⟩] ∧ ¬ s.ReportsGuarded := by
  have hRun : ∃ s ∈ run TradingSystem.step emptyTradingSystem (silentAttempt ++
      [.report sampleNode 0 1 ⟨"succeeded", 10, .null⟩]),
      s.accepted = [⟨0, 1, 2, some 93000, 48000⟩] := by
    decide +kernel
  obtain ⟨s, hRun, hAccepted⟩ := hRun
  refine ⟨_, s, hRun, hAccepted, fun hGuarded => ?_⟩
  have hHolder := hGuarded.holders ⟨0, 1, 2, some 93000, 48000⟩ (by rw [hAccepted]; simp)
  exact absurd hHolder.1 (by decide)

end TradingSystem

end Hyperspace.Probes
