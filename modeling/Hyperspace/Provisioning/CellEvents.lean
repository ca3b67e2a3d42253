import Hyperspace.Provisioning.CellSteps

/-!
# Claims, reports and endings

What a claim or a report does to the cell of the assignment whose job it is about, and what the
three passes do that end a provisioning or a revocation. With the passes these are all steps.
-/

namespace Hyperspace.Provisioning

open Hyperspace.Billing (AccountId SessionId Timestamp)
open Hyperspace.ControlPlane Hyperspace.Foundations

/-- What a report makes of the row of its assignment. -/
def GateAssignment.progress (now : Timestamp) (jobType : JobType) (report : GateJobReport)
    (terminalFailure : Bool) (a : GateAssignment) : GateAssignment :=
  if report.status = .succeeded ∧ jobType = .applyAssignment then
    if report.resultSummary.readString "operation" = "prepare" then
      a.markPrepared now (Json.asRecord (report.resultSummary.field? "material"))
    else a.markApplied now
  else if report.status = .succeeded ∧ jobType = .revokeAssignment then a.markRevoked now
  else a.setPhase now (failedFromReportTransition terminalFailure)

theorem GateAssignment.progress_id {now : Timestamp} {jobType : JobType} {report : GateJobReport}
    {terminalFailure : Bool} {a : GateAssignment} :
    (a.progress now jobType report terminalFailure).id = a.id := by
  rw [progress]
  split
  · split <;> rfl
  · split <;> rfl

/-- The transition that a report on a job resolves to. -/
def Job.transition (j : Job) (report : GateJobReport) : ReportedJobTransition :=
  resolveReportedJobTransition report.status j.retryCount j.maxRetries

/-- The report says that the job has applied its assignment. -/
def Job.AppliedBy (j : Job) (report : GateJobReport) : Prop :=
  j.type = .applyAssignment ∧ report.status = .succeeded ∧
    report.resultSummary.readString "operation" ≠ "prepare"

/-- The report has a commit job tried again. -/
def Job.CommitRetriedBy (j : Job) (report : GateJobReport) : Prop :=
  j.type = .applyAssignment ∧ j.operation = some .commit ∧ report.status ≠ .succeeded ∧
    (j.transition report).terminalFailure = false

instance (j : Job) (report : GateJobReport) : Decidable (j.AppliedBy report) :=
  inferInstanceAs (Decidable (_ ∧ _))

instance (j : Job) (report : GateJobReport) : Decidable (j.CommitRetriedBy report) :=
  inferInstanceAs (Decidable (_ ∧ _))

theorem Job.transition_isLive {j : Job} {report : GateJobReport}
    (h : (j.transition report).nextPhase.isLive) :
    report.status ≠ .succeeded ∧ (j.transition report).terminalFailure = false := by
  simp only [transition, resolveReportedJobTransition] at h ⊢
  split at h
  · cases h
  · rename_i hFailed
    refine ⟨hFailed, ?_⟩
    split at h
    · cases h
    · rename_i hAgain
      exact Bool.eq_false_iff.2 hAgain

namespace Cell

/-- A gate leases a job of the assignment. -/
def claim (c : Cell) (j : Job) : Cell :=
  (c.updateJob j.id (·.lease c.now)).updateAssignment fun a =>
    a.setPhase c.now (leasedAssignmentTransition j.type a.phase)

/-- A gate reports on a job of the assignment. -/
def record (c : Cell) (j : Job) (report : GateJobReport) : Cell :=
  (c.updateJob j.id (·.recordOutcome c.now (j.transition report).nextPhase
    (j.transition report).retryDelaySeconds)).updateAssignment
    (·.progress c.now j.type report (j.transition report).terminalFailure)

/-- The session of the assignment has timed out. -/
def failTimedOut (c : Cell) : Cell :=
  { c with
    session := c.session.map (·.setPhase c.now .failed none)
    address := none
    assignment := c.assignment.map (·.failPending c.now)
    jobs := c.jobs.map (·.failApply c.now) }

/-- The revocation of the session of the assignment is complete. -/
def completeRevoked (c : Cell) : Cell :=
  { c with
    session := c.session.map fun s => s.setPhase c.now .revoked (some s.generation)
    address := none }

/-- The session of the assignment becomes active. -/
def activate (c : Cell) : Cell :=
  c.updateSession fun s => s.setPhase c.now .active (some s.generation)

theorem updateJob_of_not_mem {c : Cell} {jobId : JobId} {f : Job → Job}
    (h : ∀ j ∈ c.jobs, j.id ≠ jobId) : c.updateJob jobId f = c := by
  have hJobs : c.jobs.map (fun j => if j.id = jobId then f j else j) = c.jobs :=
    (List.map_congr_left fun j hj => if_neg (h j hj)).trans (List.map_id c.jobs)
  rw [updateJob, modifyJobs, hJobs]

end Cell

namespace ProvisioningDb

variable {db : ProvisioningDb} {config : SessionReconcileConfig} {id : AssignmentId}

/-! ### Claims and reports -/

theorem recordAssignmentProgress_eq {jobType : JobType} {report : GateJobReport}
    {terminalFailure : Bool} :
    db.recordAssignmentProgress id jobType report terminalFailure =
      db.updateAssignment id (·.progress db.now jobType report terminalFailure)
        fun _ => GateAssignment.progress_id := by
  have hProgress : ∀ a : GateAssignment, a.progress db.now jobType report terminalFailure =
      if report.status = .succeeded ∧ jobType = .applyAssignment then
        if report.resultSummary.readString "operation" = "prepare" then
          a.markPrepared db.now (Json.asRecord (report.resultSummary.field? "material"))
        else a.markApplied db.now
      else if report.status = .succeeded ∧ jobType = .revokeAssignment then a.markRevoked db.now
      else a.setPhase db.now (failedFromReportTransition terminalFailure) := fun _ => rfl
  simp only [hProgress]
  rw [recordAssignmentProgress]
  split
  · split <;> rfl
  · split <;> rfl

/-- The jobs of another assignment are not touched by an update of a job under its id. -/
theorem cell_updateJob_of_ne {j : Job} {f : Job → Job} (hOwner : KeepsOwner f)
    {hf : ∀ j, (f j).id = j.id} (hj : j ∈ db.jobs.rows) (hOther : j.assignmentId ≠ some id) :
    { db with jobs := db.jobs.update j.id f hf }.cell id = db.cell id := by
  rw [cell_updateJob hOwner]
  refine Cell.updateJob_of_not_mem fun k hk hEq => hOther ?_
  obtain ⟨hRow, hMine⟩ := mem_cell_jobs.1 hk
  rw [← SerialTable.row_unique hRow hj hEq]
  exact hMine

/-- A claim leases a job of the assignment that its gate may claim, or none of its jobs. -/
theorem cell_claimGateJob {gateId : GateId} {lane : Option GateJobLane} {locked : List JobId} :
    (db.claimGateJob gateId lane locked).cell id = db.cell id ∨
      ∃ j ∈ (db.cell id).jobs, db.findClaimableGateJobForUpdate gateId lane locked = some j ∧
        (db.claimGateJob gateId lane locked).cell id = (db.cell id).claim j := by
  rw [claimGateJob]
  cases hClaimable : db.findClaimableGateJobForUpdate gateId lane locked with
  | none => exact .inl rfl
  | some j =>
      have hRow : j ∈ db.jobs.rows := mem_of_mem_selectForUpdate (List.mem_of_head? hClaimable)
      dsimp only
      cases hAssigned : j.assignmentId with
      | none => exact .inl (cell_updateJob_of_ne keepsOwner_lease hRow (by simp [hAssigned]))
      | some aid =>
          dsimp only
          cases hAssignment : db.assignment? aid with
          | none => exact .inl rfl
          | some a =>
              dsimp only
              have hLeased := @cell_updateAssignment (db.leaseJob j.id) id aid
                (·.setPhase db.now (leasedAssignmentTransition j.type a.phase))
                fun _ => GateAssignment.setPhase_id
              by_cases hMine : id = aid
              · subst hMine
                refine .inr ⟨j, mem_cell_jobs.2 ⟨hRow, hAssigned⟩, rfl, ?_⟩
                refine hLeased.trans ((if_pos rfl).trans ?_)
                rw [leaseJob, cell_updateJob keepsOwner_lease]
                have hCell : (db.cell id).assignment = some a := hAssignment
                simp only [Cell.claim, Cell.updateAssignment, Cell.updateJob, Cell.modifyJobs,
                  hCell, Option.map_some]
                rfl
              · refine .inl (hLeased.trans ((if_neg hMine).trans ?_))
                refine cell_updateJob_of_ne keepsOwner_lease hRow ?_
                rw [hAssigned]
                exact fun hEq => hMine (Option.some.inj hEq).symm

theorem cell_recordGateJobReport {gateId : GateId} {jobId : JobId} {report : GateJobReport} :
    (db.recordGateJobReport gateId jobId report).cell id = db.cell id ∨
      ∃ j ∈ (db.cell id).jobs, j.id = jobId ∧ j.gateId = some gateId ∧
        (db.recordGateJobReport gateId jobId report).cell id = (db.cell id).record j report := by
  rw [recordGateJobReport]
  cases hFind : db.jobs.find? jobId with
  | none => exact .inl rfl
  | some j =>
      obtain ⟨hRow, hId⟩ := SerialTable.find?_eq_some hFind
      dsimp only
      split
      · rename_i hGate
        cases hAssigned : j.assignmentId with
        | none =>
            exact .inl (cell_updateJob_of_ne keepsOwner_recordOutcome hRow (by simp [hAssigned]))
        | some aid =>
            dsimp only
            rw [recordAssignmentProgress_eq, cell_updateAssignment]
            by_cases hMine : id = aid
            · subst hMine
              refine .inr ⟨j, mem_cell_jobs.2 ⟨hRow, hAssigned⟩, hId, hGate, ?_⟩
              rw [if_pos rfl, recordJobReportOutcome, cell_updateJob keepsOwner_recordOutcome]
              rfl
            · refine .inl ((if_neg hMine).trans ?_)
              refine cell_updateJob_of_ne keepsOwner_recordOutcome hRow ?_
              rw [hAssigned]
              exact fun hEq => hMine (Option.some.inj hEq).symm
      · exact .inl rfl

/-! ### Endings -/

theorem cell_markApplyJobsDeadForSession {sid : SessionId} :
    (db.markApplyJobsDeadForSession sid).cell id =
      (db.cell id).modifyJobs fun j =>
        if j.sessionId = some sid then j.failApply db.now else j := by
  refine cell_modifyJobs fun j => ?_
  split
  · exact keepsOwner_failApply j
  · exact .refl

theorem cell_markPendingAssignmentsDeadForSession {sid : SessionId} :
    (db.markPendingAssignmentsDeadForSession sid).cell id =
      (db.cell id).updateAssignment fun a =>
        if a.sessionId = sid then a.failPending db.now else a :=
  cell_modifyAssignments

/-- The jobs of an assignment all carry the id of its session. -/
def JobsOwned (db : ProvisioningDb) (id : AssignmentId) : Prop :=
  ∀ j ∈ (db.cell id).jobs, j.sessionId = some id.1

theorem cell_failTimedOutSession {s : Session} (hOwned : db.JobsOwned id) :
    (db.failTimedOutSession s).cell id =
      if id.1 = s.id then (db.cell id).failTimedOut else db.cell id := by
  have hAssignment : ∀ a, (db.cell id).assignment = some a → a.sessionId = id.1 :=
    fun a ha => congrArg Prod.fst (mem_of_cell_assignment ha).2
  have hInvalidated : (((db.markApplyJobsDeadForSession s.id).markPendingAssignmentsDeadForSession
      s.id).invalidateSessionArtifacts s.id).cell id =
      ((db.markApplyJobsDeadForSession s.id).markPendingAssignmentsDeadForSession s.id).cell id :=
    rfl
  rw [failTimedOutSession, cell_releaseClientAddressLease, updateSessionStatusPhase,
    cell_updateSession, hInvalidated, cell_markPendingAssignmentsDeadForSession,
    cell_markApplyJobsDeadForSession]
  by_cases hMine : id.1 = s.id
  · have hJobs : (db.cell id).jobs.map (fun j =>
        if j.sessionId = some s.id then j.failApply db.now else j) =
        (db.cell id).jobs.map (·.failApply db.now) := by
      refine List.map_congr_left fun j hj => if_pos ?_
      rw [hOwned j hj, hMine]
    have hAssignments : (db.cell id).assignment.map (fun a =>
        if a.sessionId = s.id then a.failPending db.now else a) =
        (db.cell id).assignment.map (·.failPending db.now) :=
      Option.map_congr fun a ha => if_pos ((hAssignment a ha).trans hMine)
    rw [if_pos hMine, if_pos hMine, if_pos hMine]
    simp only [Cell.modifyJobs, Cell.updateAssignment, hJobs, Cell.updateSession]
    exact congrArg (fun assignment => { (db.cell id).failTimedOut with assignment }) hAssignments
  · have hJobs : (db.cell id).jobs.map (fun j =>
        if j.sessionId = some s.id then j.failApply db.now else j) = (db.cell id).jobs := by
      refine (List.map_congr_left fun j hj => if_neg ?_).trans (List.map_id _)
      rw [hOwned j hj]
      exact fun hEq => hMine (Option.some.inj hEq)
    have hAssignments : (db.cell id).assignment.map (fun a =>
        if a.sessionId = s.id then a.failPending db.now else a) = (db.cell id).assignment := by
      refine (Option.map_congr fun a ha => if_neg ?_).trans Option.map_id_apply
      rw [hAssignment a ha]
      exact hMine
    rw [if_neg hMine, if_neg hMine, if_neg hMine]
    simp only [Cell.modifyJobs, Cell.updateAssignment, hJobs]
    exact congrArg (fun assignment => { db.cell id with assignment }) hAssignments

/-- Timing out a session fails its pending assignments and jobs and releases its address. -/
theorem cell_failTimedOutProvisioningSessions {locked : List SessionId}
    (hOwned : db.JobsOwned id) :
    ((∀ s ∈ db.listTimedOutProvisioningSessions config.provisioningTimeoutSeconds locked,
        s.id ≠ id.1) ∧
        (db.failTimedOutProvisioningSessions config locked).cell id = db.cell id) ∨
      ∃ s ∈ db.listTimedOutProvisioningSessions config.provisioningTimeoutSeconds locked,
        (db.cell id).session = some s ∧ s.phase = .provisioning ∧
        (db.failTimedOutProvisioningSessions config locked).cell id =
          (db.cell id).failTimedOut := by
  let rows := db.listTimedOutProvisioningSessions config.provisioningTimeoutSeconds locked
  have hNodup : (rows.map Session.id).Nodup := nodup_selectForUpdate db.sessions.keysNodup
  have hUnique : rows.Pairwise fun r r' => ¬ (r.id = id.1 ∧ r'.id = id.1) :=
    (List.pairwise_map.1 hNodup).imp fun hNe hBoth => hNe (hBoth.1.trans hBoth.2.symm)
  have hKept : ∀ db : ProvisioningDb, ∀ s ∈ rows, db.JobsOwned id →
      (db.failTimedOutSession s).JobsOwned id := by
    intro db s _ hOwned j hj
    rw [cell_failTimedOutSession hOwned] at hj
    split at hj
    · obtain ⟨k, hk, rfl⟩ := List.mem_map.1 hj
      rw [(keepsOwner_failApply k).sessionId]
      exact hOwned k hk
    · exact hOwned j hj
  have hOther : ∀ db : ProvisioningDb, db.JobsOwned id → ∀ s ∈ rows, ¬ s.id = id.1 →
      (db.failTimedOutSession s).cell id = db.cell id := fun db hOwned s _ hNe =>
    (cell_failTimedOutSession hOwned).trans (if_neg (Ne.symm hNe))
  rcases @foldl_view _ _ rows db _ failTimedOutSession (·.cell id) _ _ hKept hOther hUnique
    hOwned with
    hSame | ⟨s, hs, hMine, db', hOwned', hCell, hEq⟩
  · exact .inl hSame
  · refine .inr ⟨s, hs, cell_session_eq_some (mem_of_mem_selectForUpdate hs) hMine,
      (wanted_of_mem_selectForUpdate hs).2.1, hEq.trans ?_⟩
    rw [cell_failTimedOutSession hOwned', if_pos hMine.symm, hCell]

theorem cell_completeRevokedSession {s : Session} :
    (db.completeRevokedSession s).cell id =
      if id.1 = s.id then
        { (db.cell id).updateSession (·.setPhase db.now .revoked (some s.generation)) with
          address := none }
      else db.cell id := by
  have hInvalidated : (db.invalidateSessionArtifacts s.id).cell id = db.cell id := rfl
  rw [completeRevokedSession, cell_releaseClientAddressLease, updateSessionStatusPhase,
    cell_updateSession, hInvalidated]
  split <;> rfl

/-- A session is revoked when all of its assignments are, and it gives its address back. -/
theorem cell_completeRevokedSessions {locked : List SessionId} :
    ((∀ s ∈ db.listSessionsReadyToMarkRevoked locked, s.id ≠ id.1) ∧
        (db.completeRevokedSessions locked).cell id = db.cell id) ∨
      ∃ s ∈ db.listSessionsReadyToMarkRevoked locked,
        (db.cell id).session = some s ∧ db.ReadyToMarkRevoked s ∧
        (db.completeRevokedSessions locked).cell id = (db.cell id).completeRevoked := by
  rcases @cell_forEachSession db id db.ReadyToMarkRevoked _ Unordered _ 50 locked
    completeRevokedSession
    fun db s hNe => cell_completeRevokedSession.trans (if_neg (Ne.symm hNe)) with
    hSame | ⟨s, hs, hReady, db', hCell, hSession, hMine, hEq⟩
  · exact .inl hSame
  · rw [hCell] at hSession
    have hNow : db'.now = db.now := congrArg Cell.now hCell
    refine .inr ⟨s, hs, hSession, hReady, hEq.trans ?_⟩
    rw [cell_completeRevokedSession, if_pos hMine.symm, hCell, hNow]
    simp only [Cell.updateSession, Cell.completeRevoked, hSession, Option.map_some]
    rfl

/-- A config that is made is inserted as an artifact, and the session is touched. -/
theorem prepareClientConfigArtifact_eq_ok {s : Session} {db' : ProvisioningDb}
    (h : db.prepareClientConfigArtifact config s = .ok db') :
    ∃ artifact : ClientConfigArtifact, artifact.sessionId = s.id ∧
      db' = (db.insertClientConfigArtifact artifact).touchSessionStatus s.id := by
  simp only [prepareClientConfigArtifact, bind, Except.bind] at h
  split at h
  · split at h
    · split at h
      · split at h
        · cases h
        · split at h
          · cases h
          · split at h
            · cases h
            · split at h
              · split at h
                · cases h
                · cases h
                  exact ⟨_, rfl, rfl⟩
              · cases h
      · cases h
    · cases h
  · cases h

theorem cell_completeProvisionedSession {s : Session} {db' : ProvisioningDb}
    (h : db.completeProvisionedSession config s = .ok db') :
    db'.cell id =
      if id.1 = s.id then
        (db.cell id).updateSession (·.setPhase db.now .active (some s.generation))
      else db.cell id := by
  rw [completeProvisionedSession] at h
  split at h
  · cases h
    exact cell_updateSession
  · cases hPrepared : db.prepareClientConfigArtifact config s with
    | error e =>
        rw [hPrepared] at h
        cases h
    | ok prepared =>
        obtain ⟨artifact, -, rfl⟩ := prepareClientConfigArtifact_eq_ok hPrepared
        rw [hPrepared] at h
        cases h
        have hTouched : ((db.insertClientConfigArtifact artifact).touchSessionStatus s.id).cell id =
            if id.1 = s.id then (db.cell id).updateSession (·.touch db.now) else db.cell id :=
          cell_updateSession
        rw [updateSessionStatusPhase, cell_updateSession, hTouched]
        split
        · simp only [Cell.updateSession, Option.map_map]
          rfl
        · rfl

theorem cell_completeProvisionedSessions {locked : List SessionId} {db' : ProvisioningDb}
    (h : db.completeProvisionedSessions config locked = .ok db') :
    ((∀ s ∈ db.listProvisionedSessionsForActivation locked, s.id ≠ id.1) ∧
        db'.cell id = db.cell id) ∨
      ∃ s ∈ db.listProvisionedSessionsForActivation locked,
        (db.cell id).session = some s ∧ s.phase = .provisioning ∧
        db.countAssignments s.id .applied = 2 ∧ db'.cell id = (db.cell id).activate := by
  let rows := db.listProvisionedSessionsForActivation locked
  have hNodup : (rows.map Session.id).Nodup := nodup_selectForUpdate db.sessions.keysNodup
  have hUnique : rows.Pairwise fun r r' => ¬ (r.id = id.1 ∧ r'.id = id.1) :=
    (List.pairwise_map.1 hNodup).imp fun hNe hBoth => hNe (hBoth.1.trans hBoth.2.symm)
  have hOther : ∀ db : ProvisioningDb, ∀ s ∈ rows, ∀ db',
      db.completeProvisionedSession config s = .ok db' → ¬ s.id = id.1 →
      db'.cell id = db.cell id := fun db s _ db' hDone hNe =>
    (cell_completeProvisionedSession hDone).trans (if_neg (Ne.symm hNe))
  rcases @foldlM_view _ _ _ _ rows db db' _ (·.cell id) _ hOther hUnique h with
    hSame | ⟨s, hs, hMine, db₁, db₂, hCell, hDone, hEq⟩
  · exact .inl hSame
  · obtain ⟨hPhase, hApplied⟩ := wanted_of_mem_selectForUpdate hs
    have hSession := cell_session_eq_some (mem_of_mem_selectForUpdate hs) hMine
    have hNow : db₁.now = db.now := congrArg Cell.now hCell
    refine .inr ⟨s, hs, hSession, hPhase, hApplied, hEq.trans ?_⟩
    rw [cell_completeProvisionedSession hDone, if_pos hMine.symm, hCell, hNow]
    simp only [Cell.updateSession, Cell.activate, hSession, Option.map_some]
    rfl

/-! ### Steps -/

/-- What a transaction does to a cell. -/
inductive CellChange (config : SessionReconcileConfig) (db : ProvisioningDb) (id : AssignmentId) :
    Action → Cell → Prop where
  | passed (action : Action) (c : Cell) (passes : CellPasses id (db.cell id) c) :
      CellChange config db id action c
  | exhaustedHidden (locked : List SessionId) (s : Session)
      (found : db.findExhaustedSessionTrafficEntitlementForUpdate locked = some s)
      (session : (db.cell id).session = some s) (hidden : s.hiddenAt ≠ none) :
      CellChange config db id (.enforceQuota locked)
        { db.cell id with session := some (s.setEntitlement (·.exhaust db.now)) }
  | claimed (gateId : GateId) (lane : Option GateJobLane) (locked : List JobId) (j : Job)
      (mine : j ∈ (db.cell id).jobs)
      (found : db.findClaimableGateJobForUpdate gateId lane locked = some j) :
      CellChange config db id (.claim gateId lane locked) ((db.cell id).claim j)
  | reported (gateId : GateId) (report : GateJobReport) (j : Job) (mine : j ∈ (db.cell id).jobs)
      (gate : j.gateId = some gateId) :
      CellChange config db id (.report gateId j.id report) ((db.cell id).record j report)
  | scheduled (outcome : SessionId → PathOutcome) (locked : List SessionId) (s : Session)
      (gateId : GateId) (draw : TunnelDraw) (address : ClientAddress) (n : JobId)
      (session : (db.cell id).session = some s) (desired : s.desiredState = .active)
      (phase : s.phase = .scheduling) (kept : ∀ old ∈ (db.cell id).address, old = address) :
      CellChange config db id (.schedule outcome locked)
        ((db.cell id).schedule config id s gateId draw address n)
  | activated (locked : List SessionId) (s : Session)
      (listed : s ∈ db.listProvisionedSessionsForActivation locked)
      (session : (db.cell id).session = some s) (phase : s.phase = .provisioning)
      (applied : db.countAssignments s.id .applied = 2) :
      CellChange config db id (.completeProvisioned locked) (db.cell id).activate
  | timedOut (locked : List SessionId) (s : Session)
      (listed : s ∈ db.listTimedOutProvisioningSessions config.provisioningTimeoutSeconds locked)
      (session : (db.cell id).session = some s) (phase : s.phase = .provisioning) :
      CellChange config db id (.failTimedOut locked) (db.cell id).failTimedOut
  | revoked (locked : List SessionId) (s : Session)
      (listed : s ∈ db.listSessionsReadyToMarkRevoked locked)
      (session : (db.cell id).session = some s) (ready : db.ReadyToMarkRevoked s) :
      CellChange config db id (.completeRevoked locked) (db.cell id).completeRevoked

theorem cellChange_perform {action : Action} (hOwned : db.JobsOwned id) :
    CellChange config db id action ((db.perform config action).cell id) := by
  by_cases hOrdinary : action.IsOrdinary
  · exact .passed _ _ (passes_perform hOrdinary hOwned)
  have hSame : ∀ {c : Cell}, c = db.cell id → CellChange config db id action c := by
    intro c hc
    rw [hc]
    exact .passed _ _ .refl
  cases action with
  | enforceQuota locked =>
      rcases @cell_enforceSessionTrafficQuota db id locked with
        hPasses | ⟨s, hFound, hSession, hHidden, hCell⟩
      · exact .passed _ _ hPasses
      · exact Eq.subst hCell.symm (.exhaustedHidden locked s hFound hSession hHidden)
  | claim gateId lane locked =>
      rcases @cell_claimGateJob db id gateId lane locked with hCell | ⟨j, hj, hFound, hCell⟩
      · exact hSame hCell
      · exact Eq.subst hCell.symm (.claimed gateId lane locked j hj hFound)
  | report gateId jobId report =>
      rcases @cell_recordGateJobReport db id gateId jobId report with
        hCell | ⟨j, hj, rfl, hGate, hCell⟩
      · exact hSame hCell
      · exact Eq.subst hCell.symm (.reported gateId report j hj hGate)
  | schedule outcome locked =>
      rcases @cell_scheduleSessionsForProvisioning db config id outcome locked with
        hPasses | ⟨s, gateId, draw, address, n, hSession, hDesired, hPhase, hKept, hCell⟩
      · exact .passed _ _ hPasses
      · exact Eq.subst hCell.symm (.scheduled outcome locked s gateId draw address n hSession
          hDesired hPhase hKept)
  | completeProvisioned locked =>
      cases hDone : db.completeProvisionedSessions config locked with
      | error e =>
          have hKept : db.perform config (.completeProvisioned locked) = db := by
            rw [perform, hDone]
            rfl
          exact hSame (by rw [hKept])
      | ok db' =>
          have hKept : db.perform config (.completeProvisioned locked) = db' := by
            rw [perform, hDone]
            rfl
          rw [hKept]
          rcases @cell_completeProvisionedSessions db config id locked db' hDone with
            ⟨-, hCell⟩ | ⟨s, hs, hSession, hPhase, hApplied, hCell⟩
          · exact hSame hCell
          · rw [hCell]
            exact .activated locked s hs hSession hPhase hApplied
  | failTimedOut locked =>
      rcases @cell_failTimedOutProvisioningSessions db config id locked hOwned with
        ⟨-, hCell⟩ | ⟨s, hs, hSession, hPhase, hCell⟩
      · exact hSame hCell
      · exact Eq.subst hCell.symm (.timedOut locked s hs hSession hPhase)
  | completeRevoked locked =>
      rcases @cell_completeRevokedSessions db id locked with
        ⟨-, hCell⟩ | ⟨s, hs, hSession, hReady, hCell⟩
      · exact hSame hCell
      · exact Eq.subst hCell.symm (.revoked locked s hs hSession hReady)
  | _ => exact absurd trivial hOrdinary

/-! ### What a transaction is about -/

theorem cell_job_unique {j k : Job} (hj : j ∈ (db.cell id).jobs) (hk : k ∈ (db.cell id).jobs)
    (hId : k.id = j.id) : k = j :=
  SerialTable.row_unique (mem_cell_jobs.1 hk).1 (mem_cell_jobs.1 hj).1 hId

theorem isLive_of_claimable {gateId : GateId} {lane : Option GateJobLane} {locked : List JobId}
    {j : Job} (h : db.findClaimableGateJobForUpdate gateId lane locked = some j) :
    j.phase.isLive := by
  have hClaimable : db.Claimable gateId lane j :=
    wanted_of_mem_selectForUpdate (List.mem_of_head? h)
  rcases hClaimable.2.1 with hPhase | hPhase <;> rw [hPhase] <;> rfl

/-- The report of a transaction with the job and the assignment it is about. -/
structure Reported where
  job : Job
  assignment : GateAssignment
  report : GateJobReport

def reported? (db : ProvisioningDb) : Action → Option Reported
  | .report gateId jobId report =>
    (db.jobs.find? jobId).bind fun job =>
      if job.gateId = some gateId then
        job.assignmentId.bind fun id =>
          (db.assignment? id).map fun assignment => ⟨job, assignment, report⟩
      else none
  | _ => none

/-- The job that a transaction claims, with its assignment. -/
structure Claimed where
  job : Job
  assignment : GateAssignment

def claimed? (db : ProvisioningDb) : Action → Option Claimed
  | .claim gateId lane locked =>
    (db.findClaimableGateJobForUpdate gateId lane locked).bind fun job =>
      job.assignmentId.bind fun id => (db.assignment? id).map fun assignment => ⟨job, assignment⟩
  | _ => none

theorem reported?_eq_some {gateId : GateId} {report : GateJobReport} {j : Job} {a : GateAssignment}
    (hj : j ∈ (db.cell id).jobs) (hGate : j.gateId = some gateId)
    (ha : (db.cell id).assignment = some a) :
    db.reported? (.report gateId j.id report) = some ⟨j, a, report⟩ := by
  obtain ⟨hRow, hAssigned⟩ := mem_cell_jobs.1 hj
  have ha' : db.assignment? id = some a := ha
  simp [reported?, SerialTable.find?_of_mem hRow, hGate, hAssigned, ha']

theorem claimed?_eq_some {gateId : GateId} {lane : Option GateJobLane} {locked : List JobId}
    {j : Job} {a : GateAssignment} (hj : j ∈ (db.cell id).jobs)
    (hFound : db.findClaimableGateJobForUpdate gateId lane locked = some j)
    (ha : (db.cell id).assignment = some a) :
    db.claimed? (.claim gateId lane locked) = some ⟨j, a⟩ := by
  obtain ⟨hRow, hAssigned⟩ := mem_cell_jobs.1 hj
  have ha' : db.assignment? id = some a := ha
  simp [claimed?, hFound, hAssigned, ha']

/-- The report that a transaction records is about a job of the assignment it changes. -/
theorem cell_of_reported {action : Action} {r : Reported} (h : db.reported? action = some r) :
    r.job ∈ (db.cell r.assignment.id).jobs ∧
      (db.cell r.assignment.id).assignment = some r.assignment ∧
      (db.perform config action).cell r.assignment.id =
        (db.cell r.assignment.id).record r.job r.report := by
  cases action with
  | report gateId jobId report =>
      rw [reported?, Option.bind_eq_some_iff] at h
      obtain ⟨job, hFind, h⟩ := h
      split at h
      · rename_i hGate
        rw [Option.bind_eq_some_iff] at h
        obtain ⟨aid, hAssigned, h⟩ := h
        obtain ⟨a, ha, rfl⟩ := Option.map_eq_some_iff.1 h
        obtain ⟨hRow, hId⟩ := SerialTable.find?_eq_some hFind
        obtain rfl : a.id = aid := (Table.find?_eq_some_iff.1 ha).2
        refine ⟨mem_cell_jobs.2 ⟨hRow, hAssigned⟩, ha, ?_⟩
        rw [perform, recordGateJobReport, hFind]
        simp only [if_pos hGate, hAssigned]
        rw [recordAssignmentProgress_eq, cell_updateAssignment, if_pos rfl, recordJobReportOutcome,
          cell_updateJob keepsOwner_recordOutcome]
        rfl
      · cases h
  | _ => cases h

end ProvisioningDb

end Hyperspace.Provisioning
