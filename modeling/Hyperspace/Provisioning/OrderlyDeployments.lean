import Hyperspace.Provisioning.AgentDeployments
import Hyperspace.Provisioning.RollbackAttempts

/-!
# One deployment at a time

Requests, reports, rollbacks and the decisions of the controller come in any order, and a decision
may rest on a row that has changed since. A gate still has one deployment under way at most, and one
that was rolled back stays as it is.
-/

namespace Hyperspace.Provisioning

open Hyperspace.Billing (Timestamp jsDate)
open Hyperspace.ControlPlane Hyperspace.Foundations

/-! ### What a transaction does to the deployments -/

abbrev DeploymentTable := SerialTable GateAgentDeployment.id

/-- No deployment but this one is under way on its gate. -/
def DeploymentTable.Leads (t : DeploymentTable) (d : GateAgentDeployment) : Prop :=
  ∀ d' ∈ t.rows, d'.gateId = d.gateId → d'.phase.isActive → d' = d

/-- How a deployment may be rewritten. -/
structure GateAgentDeployment.Moves (now : Timestamp) (t : DeploymentTable)
    (d d' : GateAgentDeployment) : Prop where
  gateId : d'.gateId = d.gateId
  active : d'.phase.isActive → d.phase.isActive ∨ t.Leads d
  attempts : d'.rollbackAttemptCount = d.rollbackAttemptCount ∨ d'.rollbackAttemptCount ≤ 3
  deadline : d'.verificationDeadlineAt = d.verificationDeadlineAt ∨
    d'.verificationDeadlineAt = now + 300 * second
  final : d.phase = .rolledBack → d' = d

namespace DeploymentTable

/-- What a transaction does: nothing, or it rewrites one deployment or adds one. -/
inductive Steps (now : Timestamp) (t : DeploymentTable) : DeploymentTable → Prop where
  | same : Steps now t t
  | rewrite {id : DeploymentId} {f : GateAgentDeployment → GateAgentDeployment}
      (hf : ∀ d, (f d).id = d.id) (moves : ∀ d ∈ t.rows, d.id = id → d.Moves now t (f d)) :
      Steps now t (t.update id f hf)
  | add {gateId : GateId} {previous : Option String}
      (free : ∀ d ∈ t.rows, d.gateId = gateId → ¬d.phase.isActive) :
      Steps now t (t.insert (.create now gateId previous) fun _ => rfl)

end DeploymentTable

namespace GateAgentDeployment

variable {now : Timestamp} {t : DeploymentTable} {d : GateAgentDeployment}

theorem Moves.refl : d.Moves now t d := ⟨rfl, .inl, .inl rfl, .inl rfl, fun _ => rfl⟩

theorem moves_markJobReported {phase : DeploymentPhase} :
    d.Moves now t (d.markJobReported now phase) := by
  unfold markJobReported
  split
  · rename_i hActive
    refine ⟨rfl, fun _ => .inl hActive, .inl rfl, .inr rfl, ?_⟩
    intro hFinal
    rw [hFinal] at hActive
    cases hActive
  · exact .refl

theorem moves_markSucceeded : d.Moves now t (d.markSucceeded now) := by
  unfold markSucceeded
  split
  · rename_i hPhase
    refine ⟨rfl, ?_, .inl rfl, .inl rfl, ?_⟩
    · intro hActive
      cases hActive
    · intro hFinal
      simp [hFinal] at hPhase
  · exact .refl

theorem moves_markRolledBack : d.Moves now t (d.markRolledBack now) := by
  unfold markRolledBack
  split
  · rename_i hPhase
    refine ⟨rfl, ?_, .inl rfl, .inl rfl, ?_⟩
    · intro hActive
      cases hActive
    · intro hFinal
      simp [hFinal] at hPhase
  · exact .refl

theorem moves_markFailed : d.Moves now t (d.markFailed now) := by
  unfold markFailed
  split
  · rename_i hActive
    refine ⟨rfl, fun _ => .inl hActive, .inl rfl, .inl rfl, ?_⟩
    intro hFinal
    rw [hFinal] at hActive
    cases hActive
  · exact .refl

theorem moves_requestRollback (hLeads : t.Leads d) (hPhase : d.phase ≠ .rolledBack) :
    d.Moves now t (d.requestRollback now) :=
  ⟨rfl, fun _ => .inr hLeads, .inr Nat.one_le_ofNat, .inr rfl, fun hFinal => absurd hFinal hPhase⟩

theorem moves_retryRollback (hActive : d.phase.isActive) (hCount : d.rollbackAttemptCount < 3) :
    d.Moves now t (d.retryRollback now) := by
  refine ⟨rfl, fun _ => .inl hActive, .inr hCount, .inr rfl, ?_⟩
  intro hFinal
  rw [hFinal] at hActive
  cases hActive

end GateAgentDeployment

namespace ReportDb

variable {db db' : ReportDb} {config : SessionReconcileConfig} {storable : Json → Bool}
  {id : DeploymentId}

theorem deployments_insertRollbackJob {gateId : GateId} :
    (db.insertRollbackJob gateId id).deployments = db.deployments := by
  unfold insertRollbackJob
  split <;> rfl

theorem steps_markDeploymentJobReported {type : JobType} {succeeded terminal : Bool}
    (h : db.markDeploymentJobReported id type succeeded terminal = some db') :
    DeploymentTable.Steps db.control.now db.deployments db'.deployments := by
  unfold markDeploymentJobReported at h
  split at h
  · cases h
  · split at h
    · cases h
      exact .same
    · cases h
      exact .rewrite (fun _ => GateAgentDeployment.markJobReported_id) fun _ _ _ =>
        GateAgentDeployment.moves_markJobReported

theorem steps_recordGateJobReport {gateId : GateId} {jobId : JobId} {report : GateJobReport}
    (h : db.recordGateJobReport storable gateId jobId report = some db') :
    DeploymentTable.Steps db.control.now db.deployments db'.deployments := by
  unfold recordGateJobReport at h
  split at h
  · cases h
  · rename_i job hFind
    split at h
    · obtain ⟨measured, hMeasured, hDeployed⟩ := Option.bind_eq_some_iff.1 h
      obtain ⟨hControl, hDeployments, -⟩ := recordProbeReport_eq_some hMeasured
      have hNow : measured.control.now = db.control.now := by
        rw [hControl]
        exact ProvisioningDb.now_recordGateJobReport
      unfold recordDeploymentReport at hDeployed
      split at hDeployed
      · split at hDeployed
        · have hSteps := steps_markDeploymentJobReported hDeployed
          rw [hDeployments, hNow] at hSteps
          exact hSteps
        · cases hDeployed
          rw [hDeployments]
          exact .same
      · cases hDeployed
        rw [hDeployments]
        exact .same
    · cases h

theorem leads_of_not_hasActiveDeployment {d : GateAgentDeployment} (hd : d ∈ db.deployments.rows)
    (h : ¬db.HasActiveDeployment d.gateId (some d.id)) :
    DeploymentTable.Leads db.deployments d := by
  intro d' hd' hGate hActive
  by_contra hOther
  refine h ⟨d', hd', hGate, ?_, hActive⟩
  intro hId
  exact hOther (SerialTable.row_unique hd' hd (Option.some.inj hId))

theorem steps_performDeployment {move : DeploymentAction} :
    DeploymentTable.Steps db.control.now db.deployments
      (db.performDeployment move).deployments := by
  cases move with
  | request gateId previous =>
      rw [performDeployment, insertGateAgentDeployment]
      split
      · exact .same
      · rename_i hFree
        refine .add fun d hd hGate hActive => hFree ⟨d, hd, hGate, ?_, hActive⟩
        exact Option.some_ne_none _
  | succeed id =>
      exact .rewrite (fun _ => GateAgentDeployment.markSucceeded_id) fun _ _ _ =>
        GateAgentDeployment.moves_markSucceeded
  | requestRollback id =>
      rw [performDeployment, requestDeploymentRollback]
      split
      · exact .same
      · rename_i d hFind
        obtain ⟨hd, rfl⟩ := SerialTable.find?_eq_some hFind
        split
        · rename_i hMay
          rw [insertDeploymentEvent, deployments_insertRollbackJob]
          refine .rewrite (fun _ => GateAgentDeployment.requestRollback_id) fun d' hd' hId => ?_
          rw [SerialTable.row_unique hd' hd hId]
          refine GateAgentDeployment.moves_requestRollback
            (leads_of_not_hasActiveDeployment hd hMay.2.2) ?_
          intro hFinal
          simp [hFinal] at hMay
        · exact .same
  | retryRollback id =>
      rw [performDeployment, retryDeploymentRollback]
      split
      · exact .same
      · rename_i d hFind
        obtain ⟨hd, rfl⟩ := SerialTable.find?_eq_some hFind
        split
        · rename_i hMay
          rw [insertDeploymentEvent, deployments_insertRollbackJob]
          refine .rewrite (fun _ => GateAgentDeployment.retryRollback_id) fun d' hd' hId => ?_
          rw [SerialTable.row_unique hd' hd hId]
          refine GateAgentDeployment.moves_retryRollback ?_ hMay.2.2
          rcases hMay.1 with hPhase | hPhase <;> rw [hPhase] <;> rfl
        · exact .same
  | rollBack id =>
      exact .rewrite (fun _ => GateAgentDeployment.markRolledBack_id) fun _ _ _ =>
        GateAgentDeployment.moves_markRolledBack
  | fail id =>
      exact .rewrite (fun _ => GateAgentDeployment.markFailed_id) fun _ _ _ =>
        GateAgentDeployment.moves_markFailed

theorem steps_perform {action : ReportAction} :
    DeploymentTable.Steps db.control.now db.deployments
      (db.perform config storable action).deployments := by
  cases action with
  | control | archiveAttempts => exact .same
  | claim gateId lane locked =>
      rw [perform, claimGateJob]
      split
      · exact .same
      · split <;> exact .same
  | report gateId jobId attempt report =>
      rw [perform]
      cases hRecord : db.recordGateJobReport storable gateId jobId report with
      | none => exact .same
      | some db' => exact steps_recordGateJobReport hRecord
  | deployment move => exact steps_performDeployment

theorem now_perform {action : ReportAction} :
    (db.perform config storable action).control.now = db.control.now := by
  cases action with
  | report gateId jobId attempt report =>
      rw [perform]
      cases hRecord : db.recordGateJobReport storable gateId jobId report with
      | none => rfl
      | some db' =>
          rw [Option.getD_some, (recordGateJobReport_eq_some hRecord).2]
          exact ProvisioningDb.now_recordGateJobReport
  | _ => exact (jobsRest_perform fun _ _ _ _ => by simp).now

end ReportDb

/-! ### What stays true -/

namespace DeploymentTable

/-- What holds of the deployments at any time: one is active on a gate, three attempts are the
most, deadlines are those that the phases set. -/
structure Sound (now : Timestamp) (t : DeploymentTable) : Prop where
  exclusive : ∀ d ∈ t.rows, d.phase.isActive → t.Leads d
  attempts : ∀ d ∈ t.rows, d.rollbackAttemptCount ≤ 3
  deadlines : ∀ d ∈ t.rows, d.verificationDeadlineAt ≤ now + 300 * second

variable {now later : Timestamp} {t t' : DeploymentTable} {d : GateAgentDeployment}

theorem Sound.mono (h : t.Sound now) (hLater : now ≤ later) : t.Sound later where
  exclusive := h.exclusive
  attempts := h.attempts
  deadlines d hd := (h.deadlines d hd).trans (Int.add_le_add_right hLater _)

theorem sound_empty : Sound now ∅ := by
  constructor <;> simp

theorem Steps.sound (h : t.Steps now t') (hSound : t.Sound now) : t'.Sound now := by
  cases h with
  | same => exact hSound
  | @rewrite key f hf moves =>
      constructor
      · intro d' hd' hActive e' he' hGate hActive'
        obtain ⟨d, hd, rfl⟩ := SerialTable.mem_update.1 hd'
        obtain ⟨e, he, rfl⟩ := SerialTable.mem_update.1 he'
        by_cases hId : d.id = key <;> by_cases hId' : e.id = key
        · rw [SerialTable.row_unique he hd (hId'.trans hId.symm)]
        · rw [if_pos hId] at hActive hGate
          rw [if_neg hId'] at hActive' hGate
          have hLeads : t.Leads d :=
            ((moves d hd hId).active hActive).elim (hSound.exclusive d hd) id
          have hSame := hLeads e he (hGate.trans (moves d hd hId).gateId) hActive'
          exact absurd (hSame ▸ hId) hId'
        · rw [if_neg hId] at hActive hGate
          rw [if_pos hId'] at hActive' hGate
          have hLeads : t.Leads e :=
            ((moves e he hId').active hActive').elim (hSound.exclusive e he) id
          have hSame := hLeads d hd (hGate.symm.trans (moves e he hId').gateId) hActive
          exact absurd (hSame ▸ hId') hId
        · rw [if_neg hId] at hActive hGate ⊢
          rw [if_neg hId'] at hActive' hGate ⊢
          exact hSound.exclusive d hd hActive e he hGate hActive'
      · intro d' hd'
        obtain ⟨d, hd, rfl⟩ := SerialTable.mem_update.1 hd'
        split
        · rename_i hId
          exact ((moves d hd hId).attempts).elim (fun hSame => hSame ▸ hSound.attempts d hd) id
        · exact hSound.attempts d hd
      · intro d' hd'
        obtain ⟨d, hd, rfl⟩ := SerialTable.mem_update.1 hd'
        split
        · rename_i hId
          exact ((moves d hd hId).deadline).elim (fun hSame => hSame ▸ hSound.deadlines d hd) Eq.le
        · exact hSound.deadlines d hd
  | @add gateId previous free =>
      constructor
      · intro d hd hActive e he hGate hActive'
        rcases SerialTable.mem_insert.1 hd with hd | rfl <;>
          rcases SerialTable.mem_insert.1 he with he | rfl
        · exact hSound.exclusive d hd hActive e he hGate hActive'
        · exact absurd hActive (free d hd hGate.symm)
        · exact absurd hActive' (free e he hGate)
        · rfl
      · intro d hd
        rcases SerialTable.mem_insert.1 hd with hd | rfl
        · exact hSound.attempts d hd
        · exact Nat.zero_le _
      · intro d hd
        rcases SerialTable.mem_insert.1 hd with hd | rfl
        · exact hSound.deadlines d hd
        · exact le_rfl

theorem Steps.mem_of_rolledBack (h : t.Steps now t') (hd : d ∈ t.rows)
    (hFinal : d.phase = .rolledBack) : d ∈ t'.rows := by
  cases h with
  | same => exact hd
  | rewrite hf moves =>
      refine SerialTable.mem_update.2 ⟨d, hd, ?_⟩
      split
      · rename_i hId
        exact (moves d hd hId).final hFinal
      · rfl
  | add free => exact SerialTable.mem_insert.2 (.inl hd)

end DeploymentTable

namespace ReportDb

variable {db db' : ReportDb} {config : SessionReconcileConfig} {storable : Json → Bool}
  {id : DeploymentId}

/-- The deployments at the time of the database. -/
def DeploymentsSound (db : ReportDb) : Prop :=
  DeploymentTable.Sound db.control.now db.deployments

theorem DeploymentsSound.perform {action : ReportAction} (h : db.DeploymentsSound) :
    (db.perform config storable action).DeploymentsSound := by
  rw [DeploymentsSound, now_perform]
  exact steps_perform.sound h

theorem DeploymentsSound.step {e : ReportEvent} (h : db.DeploymentsSound)
    (hStep : db.step config storable e = some db') : db'.DeploymentsSound := by
  obtain ⟨hNow, rfl⟩ := step_eq_some hStep
  have hTicked : (db.atTime e.now).DeploymentsSound :=
    DeploymentTable.Sound.mono h hNow.le
  exact hTicked.perform

theorem deploymentsSound_of_run {es : List ReportEvent}
    (hRun : run (step config storable) emptyReportDb es = some db) : db.DeploymentsSound := by
  have hEmpty : emptyReportDb.DeploymentsSound := DeploymentTable.sound_empty
  exact run_invariant (fun _ _ _ h hStep => DeploymentsSound.step h hStep) hEmpty hRun

/-- A deployment is staged, and another one for the same gate is refused. -/
def rolloutRun : List ReportEvent :=
  [⟨1, .deployment (.request 1 (some "previous"))⟩, ⟨2, .claim 1 none []⟩,
    ⟨3, .deployment (.request 1 (some "previous"))⟩, ⟨4, .report 1 0 0 prepares⟩]

/-- Its rollback is tried four times, requested and then again after a failure, and in the end the
previous version is there. -/
def rollbackRun : List ReportEvent :=
  [⟨5, .deployment (.requestRollback 0)⟩, ⟨6, .deployment (.retryRollback 0)⟩,
    ⟨7, .deployment (.retryRollback 0)⟩, ⟨8, .deployment (.retryRollback 0)⟩,
    ⟨9, .deployment (.fail 0)⟩, ⟨10, .deployment (.requestRollback 0)⟩,
    ⟨11, .deployment (.rollBack 0)⟩]

/-- The next decisions come too late. -/
def lateDecisions : List ReportEvent :=
  [⟨12, .deployment (.requestRollback 0)⟩, ⟨13, .deployment (.succeed 0)⟩,
    ⟨14, .deployment (.fail 0)⟩]

end ReportDb

end Hyperspace.Provisioning
