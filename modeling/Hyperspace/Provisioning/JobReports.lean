import Hyperspace.Foundations.Runs
import Hyperspace.Provisioning.JobAttempts
import Hyperspace.Provisioning.TransactionFrames

/-!
# Reports and the leases of their jobs

Claims, expired leases, failed sessions and the archive leave finished jobs alone, and no job is
retried more often than it may be. A report is recorded whatever the lease of its job: it finds the
job by its id and the gate. So reports take effect once exactly as long as every report that is
recorded answers the attempt that holds the lease.
-/

namespace Hyperspace.Provisioning

open Hyperspace.Billing (AccountId SessionId Timestamp)
open Hyperspace.ControlPlane Hyperspace.Foundations

variable {config : SessionReconcileConfig} {storable : Json → Bool}

/-- The job has succeeded or is dead. -/
def Job.IsFinished (j : Job) : Prop := j.phase = .succeeded ∨ j.phase = .dead

instance : DecidablePred Job.IsFinished := fun _ => inferInstanceAs (Decidable (_ ∨ _))

/-! ### Jobs that stay -/

/-- What a transaction makes of a job, reports apart. -/
structure Job.Rests (now : Timestamp) (j j' : Job) : Prop where
  id : j'.id = j.id
  retryCount : j'.retryCount = j.retryCount
  maxRetries : j'.maxRetries = j.maxRetries
  finished : j.IsFinished → j'.phase = j.phase
  updatedAt : j'.updatedAt = j.updatedAt ∨ j'.updatedAt = now

namespace Job.Rests

variable {now : Timestamp} {j j' j'' : Job}

theorem refl : j.Rests now j := ⟨rfl, rfl, rfl, fun _ => rfl, .inl rfl⟩

theorem isFinished (h : j.Rests now j') (hFinished : j.IsFinished) : j'.IsFinished := by
  rw [IsFinished, h.finished hFinished]
  exact hFinished

theorem trans (h : j.Rests now j') (h' : j'.Rests now j'') : j.Rests now j'' where
  id := h'.id.trans h.id
  retryCount := h'.retryCount.trans h.retryCount
  maxRetries := h'.maxRetries.trans h.maxRetries
  finished hFinished := (h'.finished (h.isFinished hFinished)).trans (h.finished hFinished)
  updatedAt := h'.updatedAt.elim (fun hEq => hEq ▸ h.updatedAt) .inr

theorem requeueExpired : j.Rests now (j.requeueExpired now) := by
  rw [Job.requeueExpired]
  split
  · rename_i hExpired
    refine ⟨rfl, rfl, rfl, fun hFinished => ?_, .inr rfl⟩
    rcases hFinished with hPhase | hPhase <;> simp [hPhase, JobPhase.isLeased] at hExpired
  · exact refl

theorem failApply : j.Rests now (j.failApply now) := by
  rw [Job.failApply]
  split
  · rename_i hLive
    refine ⟨rfl, rfl, rfl, fun hFinished => ?_, .inr rfl⟩
    rcases hFinished with hPhase | hPhase <;> simp [hPhase, JobPhase.isLive] at hLive
  · exact refl

theorem lease (hClaimable : j.phase = .queued ∨ j.phase = .retryableFailed) :
    j.Rests now (j.lease now) := by
  refine ⟨rfl, rfl, rfl, fun hFinished => ?_, .inr rfl⟩
  rcases hFinished with hPhase | hPhase <;> simp [hPhase] at hClaimable

end Job.Rests

namespace ProvisioningDb

/-- Every job was there before and rests, or is new. -/
structure JobsRest (db db' : ProvisioningDb) : Prop where
  now : db'.now = db.now
  next : db.jobs.next ≤ db'.jobs.next
  rows : ∀ j' ∈ db'.jobs.rows, (∃ j ∈ db.jobs.rows, j.Rests db.now j') ∨
    (db.jobs.next ≤ j'.id ∧ j'.retryCount = 0 ∧ j'.updatedAt = db.now)

namespace JobsRest

variable {db db' : ProvisioningDb}

theorem of_jobs (hJobs : db'.jobs = db.jobs) (hNow : db'.now = db.now) : db.JobsRest db' where
  now := hNow
  next := hJobs ▸ le_rfl
  rows j hj := .inl ⟨j, hJobs ▸ hj, .refl⟩

theorem modifyJobs {f : Job → Job} {hf : ∀ j, (f j).id = j.id}
    (hRests : ∀ j ∈ db.jobs.rows, j.Rests db.now (f j)) : db.JobsRest (db.modifyJobs f hf) where
  now := rfl
  next := le_rfl
  rows j' hj' := by
    obtain ⟨j, hj, rfl⟩ := SerialTable.mem_modify.1 hj'
    exact .inl ⟨j, hj, hRests j hj⟩

theorem insert {make : JobId → Job} {hKey : ∀ n, (make n).id = n}
    (hNew : ∀ n, (make n).retryCount = 0 ∧ (make n).updatedAt = db.now) :
    db.JobsRest { db with jobs := db.jobs.insert make hKey } where
  now := rfl
  next := Nat.le_succ _
  rows j' hj' := by
    have hRow : j' ∈ (db.jobs.insert make hKey).rows := hj'
    rcases SerialTable.mem_insert.1 hRow with hOld | rfl
    · exact .inl ⟨j', hOld, .refl⟩
    · exact .inr ⟨(hKey _).ge, hNew _⟩

instance : IsPreorder ProvisioningDb JobsRest where
  refl _ := .of_jobs rfl rfl
  trans db db' db'' h h' := by
    refine ⟨h'.now.trans h.now, h.next.trans h'.next, fun j'' hj'' => ?_⟩
    rcases h'.rows j'' hj'' with ⟨j', hj', hRests⟩ | ⟨hId, hNew⟩
    · rw [h.now] at hRests
      rcases h.rows j' hj' with ⟨j, hj, hRests'⟩ | ⟨hId, hRetry, hUpdated⟩
      · exact .inl ⟨j, hj, hRests'.trans hRests⟩
      · refine .inr ⟨hRests.id ▸ hId, hRests.retryCount.trans hRetry, ?_⟩
        exact hRests.updatedAt.elim (·.trans hUpdated) id
    · rw [h.now] at hNew
      exact .inr ⟨h.next.trans hId, hNew⟩

theorem absorbing (h : db.JobsRest db') {j j' : Job} (hj : j ∈ db.jobs.rows)
    (hFinished : j.IsFinished) (hj' : j' ∈ db'.jobs.rows) (hId : j'.id = j.id) :
    j'.phase = j.phase := by
  rcases h.rows j' hj' with ⟨k, hk, hRests⟩ | ⟨hNext, -⟩
  · have hSame : k = j := SerialTable.row_unique hk hj (hRests.id.symm.trans hId)
    subst hSame
    exact hRests.finished hFinished
  · rw [hId] at hNext
    exact absurd (db.jobs.fresh j hj) hNext.not_gt

end JobsRest

theorem statementsKeep_jobsRest : StatementsKeep JobsRest where
  insertRequestedSession db id accountId clientProtocol phase includedBytes := by
    rw [insertRequestedSession]
    split <;> exact .of_jobs rfl rfl
  updateSession _ _ _ _ _ := .of_jobs rfl rfl
  deleteSession db id := by
    refine ⟨rfl, le_rfl, fun j hj => ?_⟩
    exact .inl ⟨j, (SerialTable.mem_filter.1 hj).1, .refl⟩
  insertRevokeRequest _ _ _ := .of_jobs rfl rfl
  beginHidingSession db accountId id := by
    rw [beginHidingSession]
    split
    · split <;> exact .of_jobs rfl rfl
    · exact .of_jobs rfl rfl
  upsertRenderedPlan db plan := by
    rw [upsertRenderedPlan]
    split <;> exact .of_jobs rfl rfl
  insertClientAddressLease _ _ _ := .of_jobs rfl rfl
  releaseClientAddressLease _ _ := .of_jobs rfl rfl
  insertClientConfigArtifact _ _ := .of_jobs rfl rfl
  invalidateSessionArtifacts _ _ := .of_jobs rfl rfl
  createAssignment db id gateId role planId := by
    rw [createAssignment]
    split <;> exact .of_jobs rfl rfl
  modifyAssignments _ _ _ := .of_jobs rfl rfl
  insertApplyAssignmentJob db input := by
    rw [insertApplyAssignmentJob]
    split
    · exact .of_jobs rfl rfl
    · exact .insert fun _ => ⟨rfl, rfl⟩
  insertRevokeAssignmentJob db a := by
    rw [insertRevokeAssignmentJob]
    split
    · exact .of_jobs rfl rfl
    · exact .insert fun _ => ⟨rfl, rfl⟩
  insertOtherJob db job := .insert fun _ => by cases job <;> exact ⟨rfl, rfl⟩
  markApplyJobsDeadForSession db id := by
    refine .modifyJobs fun j _ => ?_
    split
    · exact .failApply
    · exact .refl
  requeueExpiredJobLeases db := .modifyJobs fun _ _ => .requeueExpired
  archiveJobs db ids := by
    refine ⟨rfl, le_rfl, fun j hj => ?_⟩
    exact .inl ⟨j, (SerialTable.mem_filter.1 hj).1, .refl⟩
  updateGateActualState _ _ _ _ := .of_jobs rfl rfl
  deleteSnapshots _ _ := .of_jobs rfl rfl

variable {db : ProvisioningDb}

theorem jobsRest_leaseJob {job : Job} (hMem : job ∈ db.jobs.rows)
    (hClaimable : job.phase = .queued ∨ job.phase = .retryableFailed) :
    db.JobsRest (db.leaseJob job.id) := by
  refine .modifyJobs fun j hj => ?_
  split
  · rename_i hId
    rw [SerialTable.row_unique hj hMem hId]
    exact .lease hClaimable
  · exact .refl

theorem jobsRest_claimGateJob {gateId : GateId} {lane : Option GateJobLane}
    {locked : List JobId} : db.JobsRest (db.claimGateJob gateId lane locked) := by
  rw [claimGateJob]
  split
  · exact refl_of _ db
  · rename_i job hFound
    have hMem : job ∈ db.jobs.rows := mem_of_mem_selectForUpdate (List.mem_of_head? hFound)
    have hClaimable : db.Claimable gateId lane job :=
      wanted_of_mem_selectForUpdate (List.mem_of_head? hFound)
    have hLeased := jobsRest_leaseJob hMem hClaimable.2.1
    split
    · exact hLeased
    · split
      · refine trans_of JobsRest hLeased ?_
        exact .of_jobs rfl rfl
      · exact refl_of _ db

theorem jobsRest_perform {action : Action} (hAction : ∀ g j r, action ≠ .report g j r) :
    db.JobsRest (db.perform config action) := by
  cases action with
  | report g j r => exact absurd rfl (hAction g j r)
  | claim => exact jobsRest_claimGateJob
  | finishHide id =>
      rw [perform, finishHidingSession]
      split <;> exact .of_jobs rfl rfl
  | _ => exact statementsKeep_jobsRest.perform trivial

/-! ### Jobs that are reported -/

/-- No job is retried too often or updated in the future. -/
def JobsSound (db : ProvisioningDb) : Prop :=
  ∀ j ∈ db.jobs.rows, j.retryCount ≤ j.maxRetries ∧ j.updatedAt ≤ db.now

theorem JobsRest.jobsSound {db' : ProvisioningDb} (h : db.JobsRest db') (hSound : db.JobsSound) :
    db'.JobsSound := by
  intro j' hj'
  rw [h.now]
  rcases h.rows j' hj' with ⟨j, hj, hRests⟩ | ⟨-, hRetry, hUpdated⟩
  · obtain ⟨hRetry, hUpdated⟩ := hSound j hj
    rw [hRests.retryCount, hRests.maxRetries]
    exact ⟨hRetry, hRests.updatedAt.elim (fun hEq => hEq ▸ hUpdated) Eq.le⟩
  · exact ⟨hRetry ▸ Nat.zero_le _, hUpdated.le⟩

theorem retryCount_recordOutcome {j : Job} {now : Timestamp} {status : JobReportStatus}
    {delay : Option Nat} (hSound : j.retryCount ≤ j.maxRetries) :
    (j.recordOutcome now
      (resolveReportedJobTransition status j.retryCount j.maxRetries).nextPhase delay).retryCount ≤
      j.maxRetries := by
  simp only [Job.recordOutcome]
  split
  · rename_i hRetry
    cases status with
    | succeeded => simp [resolveReportedJobTransition] at hRetry
    | failed => simp [resolveReportedJobTransition] at hRetry
    | retryableFailed =>
        simp only [resolveReportedJobTransition] at hRetry
        by_cases hLast : j.maxRetries ≤ j.retryCount + 1
        · simp [hLast] at hRetry
        · omega
  · exact hSound

section

variable {gateId : GateId} {jobId : JobId} {report : GateJobReport} {job : Job}

/-- What a report makes of its job. -/
def reportedJob (db : ProvisioningDb) (report : GateJobReport) (job : Job) : Job :=
  let transition := resolveReportedJobTransition report.status job.retryCount job.maxRetries
  job.recordOutcome db.now transition.nextPhase transition.retryDelaySeconds

theorem jobs_recordAssignmentProgress {id : AssignmentId} {jobType : JobType} {terminal : Bool} :
    (db.recordAssignmentProgress id jobType report terminal).jobs = db.jobs := by
  rw [recordAssignmentProgress_eq]
  rfl

theorem now_recordAssignmentProgress {id : AssignmentId} {jobType : JobType} {terminal : Bool} :
    (db.recordAssignmentProgress id jobType report terminal).now = db.now := by
  rw [recordAssignmentProgress_eq]
  rfl

theorem jobs_recordGateJobReport (hFind : db.jobs.find? jobId = some job)
    (hGate : job.gateId = some gateId) :
    (db.recordGateJobReport gateId jobId report).jobs.rows =
      db.jobs.rows.map fun j => if j.id = job.id then db.reportedJob report job else j := by
  have hRecorded : ∀ transition : ReportedJobTransition, (db.recordJobReportOutcome job.id
      transition.nextPhase transition.retryDelaySeconds).jobs.rows =
      db.jobs.rows.map fun j => if j.id = job.id then
        job.recordOutcome db.now transition.nextPhase transition.retryDelaySeconds else j := by
    intro transition
    refine List.map_congr_left fun j hj => ?_
    by_cases hId : j.id = job.id
    · rw [SerialTable.row_unique hj (SerialTable.find?_eq_some hFind).1 hId]
    · simp [hId]
  rw [recordGateJobReport, hFind]
  dsimp only
  rw [if_pos hGate]
  cases job.assignmentId with
  | none => exact hRecorded _
  | some id => exact (congrArg SerialTable.rows jobs_recordAssignmentProgress).trans (hRecorded _)

theorem now_recordGateJobReport : (db.recordGateJobReport gateId jobId report).now = db.now := by
  rw [recordGateJobReport]
  split
  · rfl
  · split
    · dsimp only
      split
      · rfl
      · exact now_recordAssignmentProgress
    · rfl

theorem mem_jobs_recordGateJobReport {j' : Job} (hFind : db.jobs.find? jobId = some job)
    (hGate : job.gateId = some gateId) :
    j' ∈ (db.recordGateJobReport gateId jobId report).jobs.rows ↔
      j' = db.reportedJob report job ∨ (j' ∈ db.jobs.rows ∧ j'.id ≠ job.id) := by
  rw [jobs_recordGateJobReport hFind hGate, List.mem_map]
  obtain ⟨hMem, -⟩ := SerialTable.find?_eq_some hFind
  constructor
  · rintro ⟨j, hj, rfl⟩
    by_cases hId : j.id = job.id
    · exact .inl (if_pos hId)
    · rw [if_neg hId]
      exact .inr ⟨hj, hId⟩
  · rintro (rfl | ⟨hj, hId⟩)
    · exact ⟨job, hMem, if_pos rfl⟩
    · exact ⟨j', hj, if_neg hId⟩

theorem jobsSound_recordGateJobReport (hSound : db.JobsSound)
    (hFind : db.jobs.find? jobId = some job) (hGate : job.gateId = some gateId) :
    (db.recordGateJobReport gateId jobId report).JobsSound := by
  intro j' hj'
  rw [now_recordGateJobReport]
  rcases (mem_jobs_recordGateJobReport hFind hGate).1 hj' with rfl | ⟨hOld, -⟩
  · obtain ⟨hMem, -⟩ := SerialTable.find?_eq_some hFind
    exact ⟨retryCount_recordOutcome (hSound job hMem).1, le_rfl⟩
  · exact hSound j' hOld

end

end ProvisioningDb

namespace ReportDb

/-! ### Reports that are recorded -/

/-- The attempt is the last one of a job of the gate that is leased, and the lease goes on. -/
def HoldsLease (db : ReportDb) (gateId : GateId) (jobId : JobId) (attempt : AttemptId) : Prop :=
  (∃ job ∈ db.control.jobs.find? jobId, job.gateId = some gateId ∧ job.phase.isLeased ∧
      ∀ t ∈ job.leaseExpiresAt, ¬ t < db.control.now) ∧
    ∃ a ∈ db.attempts.rows, a.id = attempt ∧ a.jobId = jobId ∧
      ∀ b ∈ db.attempts.rows, b.jobId = jobId → b.id ≤ attempt

/-- The table of benchmark results can hold what a report says about this job. -/
def StoresResults (storable : Json → Bool) (job : Job) (report : GateJobReport) : Prop :=
  job.type = .probe → job.benchmarkTarget.isSome →
    ∀ r ∈ readBenchmarkResults report.resultSummary, storable r.record

/-- The deployment of a deployment job is there. -/
def KnowsDeployment (db : ReportDb) (job : Job) : Prop :=
  job.type = .deployAgent ∨ job.type = .rollbackAgent →
    ∀ id ∈ job.deploymentId, (db.deployments.find? id).isSome

/-- The report is about a job of the gate, and all its rows can be written. -/
def Accepts (storable : Json → Bool) (db : ReportDb) (gateId : GateId) (jobId : JobId)
    (report : GateJobReport) : Prop :=
  ∃ job ∈ db.control.jobs.find? jobId, job.gateId = some gateId ∧
    StoresResults storable job report ∧ db.KnowsDeployment job

instance (db : ReportDb) (gateId : GateId) (jobId : JobId) (attempt : AttemptId) :
    Decidable (db.HoldsLease gateId jobId attempt) :=
  inferInstanceAs (Decidable (_ ∧ _))

instance (job : Job) (report : GateJobReport) : Decidable (StoresResults storable job report) :=
  inferInstanceAs (Decidable (_ → _ → ∀ r ∈ readBenchmarkResults _, _))

instance (db : ReportDb) (job : Job) : Decidable (db.KnowsDeployment job) :=
  inferInstanceAs (Decidable (_ → ∀ id ∈ job.deploymentId, _))

instance (db : ReportDb) (gateId : GateId) (jobId : JobId) (report : GateJobReport) :
    Decidable (db.Accepts storable gateId jobId report) :=
  inferInstanceAs (Decidable (∃ job ∈ db.control.jobs.find? jobId, _))

section

variable {db db' : ReportDb} {gateId : GateId} {jobId : JobId} {report : GateJobReport} {job : Job}

theorem recordGateBenchmarkJobReport_eq_some {target : Option GateId} {summary : Json}
    (h : db.recordGateBenchmarkJobReport storable jobId gateId target summary = some db') :
    db'.control = db.control ∧ db'.deployments = db.deployments ∧
      (target.isSome → ∀ r ∈ readBenchmarkResults summary, storable r.record) := by
  cases target with
  | none =>
      cases h
      exact ⟨rfl, rfl, nofun⟩
  | some targetGateId =>
      simp only [recordGateBenchmarkJobReport] at h
      split at h
      · rename_i hAll
        cases h
        exact ⟨rfl, rfl, fun _ => List.all_eq_true.1 hAll⟩
      · cases h

theorem recordGateBenchmarkJobReport_isSome {target : Option GateId} {summary : Json}
    (h : target.isSome → ∀ r ∈ readBenchmarkResults summary, storable r.record) :
    ∃ db', db.recordGateBenchmarkJobReport storable jobId gateId target summary = some db' := by
  cases target with
  | none => exact ⟨db, rfl⟩
  | some targetGateId =>
      simp only [recordGateBenchmarkJobReport]
      rw [if_pos (List.all_eq_true.2 (h rfl))]
      exact ⟨_, rfl⟩

theorem markDeploymentJobReported_eq_some {id : DeploymentId} {type : JobType}
    {succeeded terminal : Bool}
    (h : db.markDeploymentJobReported id type succeeded terminal = some db') :
    db'.control = db.control ∧ (db.deployments.find? id).isSome := by
  rw [markDeploymentJobReported] at h
  split at h
  · cases h
  · rename_i hKnown
    refine ⟨?_, by simpa [Option.isSome_iff_ne_none] using hKnown⟩
    split at h <;> cases h <;> rfl

theorem markDeploymentJobReported_isSome {id : DeploymentId} {type : JobType}
    {succeeded terminal : Bool} (h : (db.deployments.find? id).isSome) :
    ∃ db', db.markDeploymentJobReported id type succeeded terminal = some db' := by
  rw [markDeploymentJobReported, if_neg (by simpa [Option.isSome_iff_ne_none] using h)]
  split <;> exact ⟨_, rfl⟩

theorem recordProbeReport_eq_some
    (h : db.recordProbeReport storable gateId job report = some db') :
    db'.control = db.control ∧ db'.deployments = db.deployments ∧
      StoresResults storable job report := by
  rw [recordProbeReport] at h
  split at h
  · obtain ⟨hControl, hDeployments, hStored⟩ := recordGateBenchmarkJobReport_eq_some h
    exact ⟨hControl, hDeployments, fun _ => hStored⟩
  · rename_i hType
    cases h
    exact ⟨rfl, rfl, fun hProbe => absurd hProbe hType⟩

theorem recordProbeReport_isSome (h : StoresResults storable job report) :
    ∃ db', db.recordProbeReport storable gateId job report = some db' := by
  rw [recordProbeReport]
  split
  · rename_i hType
    exact recordGateBenchmarkJobReport_isSome (h hType)
  · exact ⟨db, rfl⟩

theorem recordDeploymentReport_eq_some (h : db.recordDeploymentReport job report = some db') :
    db'.control = db.control ∧ db.KnowsDeployment job := by
  rw [recordDeploymentReport] at h
  rw [KnowsDeployment]
  cases hId : job.deploymentId with
  | none =>
      rw [hId] at h
      cases h
      exact ⟨rfl, by simp⟩
  | some id =>
      rw [hId] at h
      dsimp only at h
      split at h
      · obtain ⟨hControl, hKnown⟩ := markDeploymentJobReported_eq_some h
        exact ⟨hControl, by simpa using fun _ => hKnown⟩
      · rename_i hType
        cases h
        exact ⟨rfl, fun hDeploys => absurd hDeploys hType⟩

theorem recordDeploymentReport_isSome (h : db.KnowsDeployment job) :
    ∃ db', db.recordDeploymentReport job report = some db' := by
  rw [recordDeploymentReport]
  split
  · rename_i id hId
    split
    · rename_i hType
      exact markDeploymentJobReported_isSome (h hType id hId)
    · exact ⟨db, rfl⟩
  · exact ⟨db, rfl⟩

theorem recordGateJobReport_eq_some
    (h : db.recordGateJobReport storable gateId jobId report = some db') :
    db.Accepts storable gateId jobId report ∧
      db'.control = db.control.recordGateJobReport gateId jobId report := by
  rw [recordGateJobReport] at h
  cases hFind : db.control.jobs.find? jobId with
  | none => simp [hFind] at h
  | some job =>
      rw [hFind] at h
      dsimp only at h
      split at h
      · rename_i hGate
        obtain ⟨measured, hMeasured, hDeployed⟩ := Option.bind_eq_some_iff.1 h
        obtain ⟨hControl, hDeployments, hStores⟩ := recordProbeReport_eq_some hMeasured
        obtain ⟨hControl', hKnown⟩ := recordDeploymentReport_eq_some hDeployed
        rw [KnowsDeployment, hDeployments] at hKnown
        exact ⟨⟨job, hFind, hGate, hStores, hKnown⟩, hControl'.trans hControl⟩
      · cases h

theorem recordGateJobReport_isSome (h : db.Accepts storable gateId jobId report) :
    ∃ db', db.recordGateJobReport storable gateId jobId report = some db' := by
  obtain ⟨job, hFind, hGate, hStores, hKnown⟩ := h
  rw [recordGateJobReport, hFind]
  dsimp only
  rw [if_pos hGate]
  obtain ⟨measured, hMeasured⟩ := recordProbeReport_isSome hStores
  rw [hMeasured, Option.bind_some]
  refine recordDeploymentReport_isSome ?_
  rw [KnowsDeployment, (recordProbeReport_eq_some hMeasured).2.1]
  exact hKnown

end

/-! ### Reports take effect once -/

/-- A transaction leaves finished jobs alone and retries no job too often, and a report of an
attempt that does not hold the lease changes neither jobs nor what is derived from them. -/
structure TakesEffectOnce (db : ReportDb) (action : ReportAction) (db' : ReportDb) : Prop where
  absorbing : ∀ j ∈ db.control.jobs.rows, j.IsFinished →
    ∀ j' ∈ db'.control.jobs.rows, j'.id = j.id → j'.phase = j.phase
  retries : ∀ j' ∈ db'.control.jobs.rows, j'.retryCount ≤ j'.maxRetries
  fenced : ∀ gateId jobId attempt report, action = .report gateId jobId attempt report →
    ¬ db.HoldsLease gateId jobId attempt →
      db'.control.jobs = db.control.jobs ∧ db'.control.assignments = db.control.assignments ∧
        db'.deployments = db.deployments ∧ db'.benchmarkResults = db.benchmarkResults

/-- A report that is recorded answers the attempt that holds the lease. -/
def FencesReport (storable : Json → Bool) (db : ReportDb) : ReportAction → Prop
  | .report gateId jobId attempt report =>
    db.Accepts storable gateId jobId report → db.HoldsLease gateId jobId attempt
  | .control .. | .claim .. | .deployment .. | .archiveAttempts .. => True

instance (db : ReportDb) : DecidablePred (db.FencesReport storable) := fun action => by
  apply ReportAction.casesOn (motive := fun action => Decidable (db.FencesReport storable action))
    action
  all_goals
    intros
    dsimp only [FencesReport]
    infer_instance

section

variable {db : ReportDb} {action : ReportAction}

theorem jobsRest_performDeployment {move : DeploymentAction} :
    db.control.JobsRest (db.performDeployment move).control := by
  have hInsert : ∀ (db : ReportDb) job, db.control.JobsRest (db.control.insertOtherJob job) :=
    fun db job => ProvisioningDb.statementsKeep_jobsRest.insertOtherJob db.control job
  have hRollback : ∀ (db : ReportDb) gateId id,
      db.control.JobsRest (db.insertRollbackJob gateId id).control := by
    intro db gateId id
    rw [insertRollbackJob]
    split
    · exact refl_of _ db.control
    · exact hInsert db _
  cases move with
  | request gateId previous =>
      rw [performDeployment, insertGateAgentDeployment]
      split
      · exact refl_of _ db.control
      · exact hInsert db _
  | succeed | rollBack | fail => exact refl_of _ db.control
  | requestRollback id =>
      rw [performDeployment, requestDeploymentRollback]
      split
      · exact refl_of _ db.control
      · split
        · exact hRollback (db.updateDeployment _ _ _) _ _
        · exact refl_of _ db.control
  | retryRollback id =>
      rw [performDeployment, retryDeploymentRollback]
      split
      · exact refl_of _ db.control
      · split
        · exact hRollback (db.updateDeployment _ _ _) _ _
        · exact refl_of _ db.control

theorem jobsRest_perform (hAction : ∀ g j n r, action ≠ .report g j n r) :
    db.control.JobsRest (db.perform config storable action).control := by
  cases action with
  | report g j n r => exact absurd rfl (hAction g j n r)
  | control action other =>
      refine ProvisioningDb.jobsRest_perform fun g j r hReport => ?_
      rw [hReport] at other
      cases other
  | claim gateId lane locked =>
      rw [perform, claimGateJob]
      split
      · exact refl_of _ db.control
      · split
        · exact refl_of _ db.control
        · exact ProvisioningDb.jobsRest_claimGateJob
  | deployment => exact jobsRest_performDeployment
  | archiveAttempts => exact refl_of _ db.control

theorem jobsSound_perform (hSound : db.control.JobsSound) :
    (db.perform config storable action).control.JobsSound := by
  cases action with
  | report gateId jobId attempt report =>
      rw [perform]
      cases hRecord : db.recordGateJobReport storable gateId jobId report with
      | none => exact hSound
      | some db' =>
          obtain ⟨⟨job, hFind, hGate, -⟩, hControl⟩ := recordGateJobReport_eq_some hRecord
          rw [Option.getD_some, hControl]
          exact ProvisioningDb.jobsSound_recordGateJobReport hSound hFind hGate
  | _ => exact (jobsRest_perform fun _ _ _ _ => by simp).jobsSound hSound

theorem jobs_ne_of_recorded {gateId : GateId} {jobId : JobId} {report : GateJobReport}
    {db' : ReportDb} (hOld : ∀ j ∈ db.control.jobs.rows, j.updatedAt < db.control.now)
    (hRecord : db.recordGateJobReport storable gateId jobId report = some db') :
    db'.control.jobs ≠ db.control.jobs := by
  obtain ⟨⟨job, hFind, hGate, -⟩, hControl⟩ := recordGateJobReport_eq_some hRecord
  intro hSame
  have hReported : db.control.reportedJob report job ∈ db'.control.jobs.rows := by
    rw [hControl]
    exact (ProvisioningDb.mem_jobs_recordGateJobReport hFind hGate).2 (.inl rfl)
  rw [hSame] at hReported
  have hUpdated := hOld _ hReported
  exact lt_irrefl _ hUpdated

/-- A transaction takes effect once exactly if it is not a recorded report of a stale attempt. -/
theorem takesEffectOnce_perform (hSound : db.control.JobsSound)
    (hOld : ∀ j ∈ db.control.jobs.rows, j.updatedAt < db.control.now) :
    db.TakesEffectOnce action (db.perform config storable action) ↔
      db.FencesReport storable action := by
  have hRetries : ∀ j ∈ (db.perform config storable action).control.jobs.rows,
      j.retryCount ≤ j.maxRetries := fun j hj => (jobsSound_perform hSound j hj).1
  cases action with
  | report gateId jobId attempt report =>
      rw [FencesReport, perform]
      rw [perform] at hRetries
      cases hRecord : db.recordGateJobReport storable gateId jobId report with
      | none =>
          -- nothing is written
          rw [hRecord] at hRetries
          have hRefused : ¬ db.Accepts storable gateId jobId report := by
            intro hAccepts
            obtain ⟨db', hSome⟩ := recordGateJobReport_isSome hAccepts
            rw [hRecord] at hSome
            cases hSome
          refine ⟨fun _ hAccepts => absurd hAccepts hRefused, fun _ => ?_⟩
          refine ⟨fun j hj _ j' hj' hId => ?_, hRetries, fun _ _ _ _ _ _ => ⟨rfl, rfl, rfl, rfl⟩⟩
          rw [SerialTable.row_unique hj' hj hId]
      | some db' =>
          rw [hRecord, Option.getD_some] at hRetries
          obtain ⟨hAccepts, hControl⟩ := recordGateJobReport_eq_some hRecord
          constructor
          · intro hOnce _
            by_contra hStale
            exact jobs_ne_of_recorded hOld hRecord (hOnce.fenced _ _ _ _ rfl hStale).1
          · intro hFenced
            have hHolds := hFenced hAccepts
            refine ⟨?_, hRetries, ?_⟩
            · obtain ⟨job, hFind, hGate, -⟩ := hAccepts
              obtain ⟨⟨leased, hFind', -, hLeased, -⟩, -⟩ := hHolds
              rw [Option.mem_def.1 hFind] at hFind'
              cases hFind'
              intro j hj hFinished j' hj' hId
              rw [Option.getD_some, hControl] at hj'
              rcases (ProvisioningDb.mem_jobs_recordGateJobReport hFind hGate).1 hj' with
                rfl | ⟨hOther, -⟩
              · -- the job of the report is leased, so it is not the finished one
                have hSame : job = j := SerialTable.row_unique
                  (SerialTable.find?_eq_some hFind).1 hj hId
                subst hSame
                rcases hFinished with hPhase | hPhase <;> rw [hPhase] at hLeased <;> cases hLeased
              · rw [SerialTable.row_unique hOther hj hId]
            · intro _ _ _ _ hAction hStale
              cases hAction
              exact absurd hHolds hStale
  | _ =>
      refine ⟨fun _ => trivial, fun _ => ⟨?_, hRetries, by simp⟩⟩
      intro j hj hFinished j' hj' hId
      exact (jobsRest_perform fun _ _ _ _ => by simp).absorbing hj hFinished hj' hId

end

theorem step_eq_some {db db' : ReportDb} {e : ReportEvent}
    (h : db.step config storable e = some db') :
    db.control.now < e.now ∧ db' = (db.atTime e.now).perform config storable e.action := by
  rw [step] at h
  split at h
  · rename_i hNow
    exact ⟨hNow, (Option.some.inj h).symm⟩
  · cases h

/-- In a run, reports take effect once exactly if every report that is recorded answers the attempt
that holds the lease of its job. -/
theorem reports_takeEffectOnce {es : List ReportEvent} {db : ReportDb}
    (hRun : run (step config storable) emptyReportDb es = some db) :
    StepsMeet (step config storable) (fun db e => ∀ db', db.step config storable e = some db' →
        (db.atTime e.now).TakesEffectOnce e.action db') emptyReportDb es ↔
      StepsMeet (step config storable)
        (fun db e => (db.atTime e.now).FencesReport storable e.action) emptyReportDb es := by
  have hTicked : ∀ {db : ReportDb} {now : Timestamp}, db.control.JobsSound →
      db.control.now < now → (db.atTime now).control.JobsSound :=
    fun hSound hNow j hj => ⟨(hSound j hj).1, (hSound j hj).2.trans hNow.le⟩
  refine @stepsMeet_iff _ _ _ _ (fun db => db.control.JobsSound) _ ?_ ?_ _ _ _ ?_ hRun
  · intro db e db' hSound hStep
    obtain ⟨hNow, rfl⟩ := step_eq_some hStep
    exact jobsSound_perform (hTicked hSound hNow)
  · intro db e db' hSound hStep
    obtain ⟨hNow, rfl⟩ := step_eq_some hStep
    have hExact := @takesEffectOnce_perform config storable (db.atTime e.now) e.action
      (hTicked hSound hNow) fun j hj => (hSound j hj).2.trans_lt hNow
    rw [← hExact]
    refine ⟨fun hAll => hAll _ hStep, fun hOnce db' hStep' => ?_⟩
    rw [hStep] at hStep'
    cases hStep'
    exact hOnce
  · simp [ProvisioningDb.JobsSound, emptyReportDb, emptyDb]

/-- The lease of a job expires, and its second attempt succeeds. -/
def secondAttemptRun : List ReportEvent :=
  [⟨1, .control (.createSession 1 7 .wireguard false (some 100)) rfl⟩,
    ⟨2, .control (.beginProbing []) rfl⟩, ⟨3, .control (.advanceProbed []) rfl⟩,
    ⟨4, .control (.schedule samplePath []) rfl⟩, ⟨5, .claim 1 none []⟩,
    ⟨60000006, .control .requeueExpired rfl⟩, ⟨60000007, .claim 1 none []⟩,
    ⟨60000008, .report 1 0 1 prepares⟩]

theorem reports_takeEffectOnce_sample :
    StepsMeet (step sampleConfig fun _ => true) (fun db e =>
      ∀ db', db.step sampleConfig (fun _ => true) e = some db' →
        (db.atTime e.now).TakesEffectOnce e.action db') emptyReportDb secondAttemptRun := by
  obtain ⟨db, hRun⟩ := Option.isSome_iff_exists.1 (show (run (step sampleConfig fun _ => true)
    emptyReportDb secondAttemptRun).isSome by decide +kernel)
  exact (reports_takeEffectOnce hRun).2 (by decide +kernel)

/-- The first attempt reports its failure after the second attempt has succeeded: the job that has
succeeded is dead, and so is the assignment that was prepared. -/
theorem stale_report_takes_effect :
    (∃ db ∈ run (step sampleConfig fun _ => true) emptyReportDb secondAttemptRun,
      ∃ db' ∈ db.step sampleConfig (fun _ => true) ⟨60000009, .report 1 0 0 failsForGood⟩,
        ¬ (db.atTime 60000009).HoldsLease 1 0 0 ∧
        ((∃ j ∈ db.control.jobs.find? 0, j.phase = .succeeded) ∧
          ∃ j ∈ db'.control.jobs.find? 0, j.phase = .dead) ∧
        (∃ a ∈ db.control.assignment? (1, .ingress), a.phase = .prepared) ∧
          ∃ a ∈ db'.control.assignment? (1, .ingress), a.phase = .dead) ∧
      ¬ StepsMeet (step sampleConfig fun _ => true) (fun db e =>
        ∀ db', db.step sampleConfig (fun _ => true) e = some db' →
          (db.atTime e.now).TakesEffectOnce e.action db') emptyReportDb
        (secondAttemptRun ++ [⟨60000009, .report 1 0 0 failsForGood⟩]) := by
  have hReports : ∃ db ∈ run (step sampleConfig fun _ => true) emptyReportDb secondAttemptRun,
      ∃ db' ∈ db.step sampleConfig (fun _ => true) ⟨60000009, .report 1 0 0 failsForGood⟩,
        ¬ (db.atTime 60000009).HoldsLease 1 0 0 ∧
        ((∃ j ∈ db.control.jobs.find? 0, j.phase = .succeeded) ∧
          ∃ j ∈ db'.control.jobs.find? 0, j.phase = .dead) ∧
        (∃ a ∈ db.control.assignment? (1, .ingress), a.phase = .prepared) ∧
          ∃ a ∈ db'.control.assignment? (1, .ingress), a.phase = .dead := by
    decide +kernel
  refine ⟨hReports, fun hOnce => ?_⟩
  obtain ⟨db, hRun, db', hStep, hStale, ⟨⟨j, hj, hSucceeded⟩, j', hj', hDead⟩, -⟩ := hReports
  obtain ⟨hLast, -⟩ := (stepsMeet_cons hStep).1 (stepsMeet_append hRun hOnce)
  obtain ⟨hMem, hId⟩ := SerialTable.find?_eq_some hj
  obtain ⟨hMem', hId'⟩ := SerialTable.find?_eq_some hj'
  have hKept := (hLast db' hStep).absorbing j hMem (.inl hSucceeded) j' hMem' (hId'.trans hId.symm)
  rw [hSucceeded, hDead] at hKept
  cases hKept

end ReportDb

end Hyperspace.Provisioning
