import Hyperspace.Provisioning.JobReports

/-!
# Attempts at a rollback

Every request for the rollback of a deployment and every retry of it leaves an event. A request sets
the counter of the deployment to one, so that it counts the attempts since the last request.
-/

namespace Hyperspace.Provisioning

open Hyperspace.ControlPlane Hyperspace.Foundations

/-- What an event makes of the number of attempts at the rollback of a deployment. -/
def DeploymentEventType.countAttempts : DeploymentEventType → Nat → Nat
  | .rollbackRequested, _ => 1
  | .rollbackRetried, attempts => attempts + 1
  | _, attempts => attempts

/-- The attempts at the rollback of a deployment since it was last requested. -/
def rollbackAttempts (id : DeploymentId) (events : List (DeploymentId × DeploymentEventType)) :
    Nat :=
  events.foldl (fun attempts e => if e.1 = id then e.2.countAttempts attempts else attempts) 0

theorem rollbackAttempts_concat {id id' : DeploymentId} {eventType : DeploymentEventType}
    {events : List (DeploymentId × DeploymentEventType)} :
    rollbackAttempts id (events ++ [(id', eventType)]) =
      if id' = id then eventType.countAttempts (rollbackAttempts id events)
      else rollbackAttempts id events := by
  rw [rollbackAttempts, List.foldl_append]
  rfl

namespace GateAgentDeployment

variable {now : Hyperspace.Billing.Timestamp} {d : GateAgentDeployment}

@[simp] theorem rollbackAttemptCount_markJobReported {phase : DeploymentPhase} :
    (d.markJobReported now phase).rollbackAttemptCount = d.rollbackAttemptCount := by
  unfold markJobReported
  split <;> rfl

@[simp] theorem rollbackAttemptCount_markSucceeded :
    (d.markSucceeded now).rollbackAttemptCount = d.rollbackAttemptCount := by
  unfold markSucceeded
  split <;> rfl

@[simp] theorem rollbackAttemptCount_markRolledBack :
    (d.markRolledBack now).rollbackAttemptCount = d.rollbackAttemptCount := by
  unfold markRolledBack
  split <;> rfl

@[simp] theorem rollbackAttemptCount_markFailed :
    (d.markFailed now).rollbackAttemptCount = d.rollbackAttemptCount := by
  unfold markFailed
  split <;> rfl

end GateAgentDeployment

namespace ReportDb

variable {db db' : ReportDb} {config : SessionReconcileConfig} {storable : Json → Bool}
  {id : DeploymentId}

/-- The counters of the deployments count the attempts since the last request. -/
def AttemptsCounted (db : ReportDb) : Prop :=
  ∀ id, rollbackAttempts id db.deploymentEvents =
    ((db.deployments.find? id).map (·.rollbackAttemptCount)).getD 0

theorem attemptsCounted_empty : emptyReportDb.AttemptsCounted := fun _ => rfl

theorem AttemptsCounted.of_eq (h : db.AttemptsCounted)
    (hDeployments : db'.deployments = db.deployments)
    (hEvents : db'.deploymentEvents = db.deploymentEvents) : db'.AttemptsCounted := by
  intro id
  rw [hDeployments, hEvents]
  exact h id

theorem AttemptsCounted.update {f : GateAgentDeployment → GateAgentDeployment}
    {hf : ∀ d, (f d).id = d.id} {eventType : DeploymentEventType} (h : db.AttemptsCounted)
    (hCounts : ∀ d, (f d).rollbackAttemptCount = eventType.countAttempts d.rollbackAttemptCount)
    (hKnown : db.deployments.find? id = none → eventType.countAttempts 0 = 0) :
    ((db.updateDeployment id f hf).insertDeploymentEvent id eventType).AttemptsCounted := by
  intro other
  have hBefore := h other
  change rollbackAttempts other (db.deploymentEvents ++ [(id, eventType)]) =
    (((db.deployments.update id f hf).find? other).map (·.rollbackAttemptCount)).getD 0
  rw [rollbackAttempts_concat, SerialTable.find?_update, hBefore]
  by_cases hSame : id = other
  · subst hSame
    rw [if_pos rfl, if_pos rfl]
    cases hFind : db.deployments.find? id with
    | none => exact hKnown hFind
    | some d => exact (hCounts d).symm
  · rw [if_neg hSame, if_neg (Ne.symm hSame)]

theorem AttemptsCounted.insert {control : ProvisioningDb}
    {make : DeploymentId → GateAgentDeployment} {hKey : ∀ n, (make n).id = n}
    (h : db.AttemptsCounted) (hNone : ∀ n, (make n).rollbackAttemptCount = 0) :
    (({ db with deployments := db.deployments.insert make hKey, control } :
      ReportDb).insertDeploymentEvent db.deployments.next .requested).AttemptsCounted := by
  intro other
  have hBefore := h other
  change rollbackAttempts other (db.deploymentEvents ++ [(db.deployments.next, .requested)]) =
    (((db.deployments.insert make hKey).find? other).map (·.rollbackAttemptCount)).getD 0
  rw [rollbackAttempts_concat, SerialTable.find?_insert]
  by_cases hNew : db.deployments.next = other
  · subst hNew
    rw [SerialTable.find?_next] at hBefore
    simp [hBefore, hNone, DeploymentEventType.countAttempts]
  · rw [if_neg hNew, if_neg (Ne.symm hNew)]
    exact hBefore

theorem attemptsCounted_markDeploymentJobReported {type : JobType} {succeeded terminal : Bool}
    (h : db.AttemptsCounted)
    (hMarked : db.markDeploymentJobReported id type succeeded terminal = some db') :
    db'.AttemptsCounted := by
  obtain ⟨-, hMarked⟩ := Option.ite_none_left_eq_some.1 hMarked
  split at hMarked
  · cases hMarked
    intro other
    have hBefore := h other
    change rollbackAttempts other (db.deploymentEvents ++ [(id, .jobRetryableFailed)]) = _
    rw [rollbackAttempts_concat]
    split
    · exact hBefore
    · exact hBefore
  · cases hMarked
    refine h.update ?_ ?_
    · intro d
      cases succeeded <;> simp [DeploymentEventType.countAttempts]
    · intro _
      cases succeeded <;> rfl

theorem eq_of_recordProbeReport {gateId : GateId} {job : Job} {report : GateJobReport}
    (h : db.recordProbeReport storable gateId job report = some db') :
    db'.deployments = db.deployments ∧ db'.deploymentEvents = db.deploymentEvents := by
  rw [recordProbeReport] at h
  split at h
  · unfold recordGateBenchmarkJobReport at h
    split at h
    · cases h
      exact ⟨rfl, rfl⟩
    · dsimp only at h
      split at h
      · cases h
        exact ⟨rfl, rfl⟩
      · cases h
  · cases h
    exact ⟨rfl, rfl⟩

theorem attemptsCounted_recordGateJobReport {gateId : GateId} {jobId : JobId}
    {report : GateJobReport} (h : db.AttemptsCounted)
    (hRecord : db.recordGateJobReport storable gateId jobId report = some db') :
    db'.AttemptsCounted := by
  unfold recordGateJobReport at hRecord
  split at hRecord
  · cases hRecord
  · rename_i job hFind
    split at hRecord
    · obtain ⟨measured, hMeasured, hDeployed⟩ := Option.bind_eq_some_iff.1 hRecord
      obtain ⟨hDeployments, hEvents⟩ := eq_of_recordProbeReport hMeasured
      have hCounted : measured.AttemptsCounted := h.of_eq hDeployments hEvents
      unfold recordDeploymentReport at hDeployed
      split at hDeployed
      · split at hDeployed
        · exact attemptsCounted_markDeploymentJobReported hCounted hDeployed
        · cases hDeployed
          exact hCounted
      · cases hDeployed
        exact hCounted
    · cases hRecord

theorem AttemptsCounted.insertRollbackJob {gateId : GateId} {eventType : DeploymentEventType}
    (h : (db.insertDeploymentEvent id eventType).AttemptsCounted) :
    ((db.insertRollbackJob gateId id).insertDeploymentEvent id eventType).AttemptsCounted := by
  unfold ReportDb.insertRollbackJob
  split
  · exact h
  · exact h.of_eq rfl rfl

theorem attemptsCounted_performDeployment {move : DeploymentAction} (h : db.AttemptsCounted) :
    (db.performDeployment move).AttemptsCounted := by
  cases move with
  | request gateId previous =>
      rw [performDeployment, insertGateAgentDeployment]
      split
      · exact h
      · exact h.insert fun _ => rfl
  | succeed id => exact h.update (fun _ => by simp [DeploymentEventType.countAttempts]) fun _ => rfl
  | requestRollback id =>
      rw [performDeployment, requestDeploymentRollback]
      split
      · exact h
      · rename_i d hFind
        split
        · refine (h.update (fun _ => rfl) fun hNone => ?_).insertRollbackJob
          rw [hNone] at hFind
          cases hFind
        · exact h
  | retryRollback id =>
      rw [performDeployment, retryDeploymentRollback]
      split
      · exact h
      · rename_i d hFind
        split
        · refine (h.update (fun _ => rfl) fun hNone => ?_).insertRollbackJob
          rw [hNone] at hFind
          cases hFind
        · exact h
  | rollBack id =>
      exact h.update (fun _ => by simp [DeploymentEventType.countAttempts]) fun _ => rfl
  | fail id => exact h.update (fun _ => by simp [DeploymentEventType.countAttempts]) fun _ => rfl

theorem AttemptsCounted.perform {action : ReportAction} (h : db.AttemptsCounted) :
    (db.perform config storable action).AttemptsCounted := by
  cases action with
  | control | archiveAttempts => exact h
  | claim gateId lane locked =>
      rw [ReportDb.perform, claimGateJob]
      split
      · exact h
      · split
        · exact h
        · exact h.of_eq rfl rfl
  | report gateId jobId attempt report =>
      rw [ReportDb.perform]
      cases hRecord : db.recordGateJobReport storable gateId jobId report with
      | none => exact h
      | some db' => exact attemptsCounted_recordGateJobReport h hRecord
  | deployment move => exact attemptsCounted_performDeployment h

/-- The counters count in every run. -/
theorem attemptsCounted_of_run {es : List ReportEvent}
    (hRun : run (step config storable) emptyReportDb es = some db) : db.AttemptsCounted := by
  refine run_invariant (fun db e db' h hStep => ?_) attemptsCounted_empty hRun
  obtain ⟨-, rfl⟩ := step_eq_some hStep
  have hTicked : (db.atTime e.now).AttemptsCounted := h
  exact hTicked.perform

theorem rollbackAttempts_eq {es : List ReportEvent} {d : GateAgentDeployment}
    (hRun : run (step config storable) emptyReportDb es = some db)
    (hd : d ∈ db.deployments.rows) :
    rollbackAttempts d.id db.deploymentEvents = d.rollbackAttemptCount := by
  rw [attemptsCounted_of_run hRun d.id, SerialTable.find?_of_mem hd]
  rfl

end ReportDb

end Hyperspace.Provisioning
