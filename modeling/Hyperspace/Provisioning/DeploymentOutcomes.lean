import Hyperspace.Foundations.Windows
import Hyperspace.Provisioning.OrderlyDeployments

/-!
# Deployments come to an end

What a pass decides is what the gate shows, and a deployment that nobody touches but the controller
has ended after four passes.
-/

namespace Hyperspace.Provisioning

open Hyperspace.Billing (Timestamp jsDate)
open Hyperspace.ControlPlane Hyperspace.Foundations

/-! ### One deployment in a pass -/

namespace DeploymentReconcileRow

variable {row : DeploymentReconcileRow} {now : Timestamp}

theorem isVerifying_iff : row.isVerifying ↔ row.phase = .staging ∨ row.phase = .verifying := by
  simp only [isVerifying, Bool.or_eq_true, decide_eq_true_eq]

theorem isRollingBack_iff :
    row.isRollingBack ↔ row.phase = .rollbackRequested ∨ row.phase = .rollingBack := by
  simp only [isRollingBack, Bool.or_eq_true, decide_eq_true_eq]

theorem phase_cases (h : row.phase.isActive) :
    row.phase = .queued ∨ row.isVerifying ∨ row.isRollingBack := by
  rw [isVerifying_iff, isRollingBack_iff]
  cases hPhase : row.phase with
  | succeeded | rolledBack | failed =>
      rw [hPhase] at h
      cases h
  | _ => simp

/-- What each decision rests on. -/
def Warrants (row : DeploymentReconcileRow) (now : Timestamp) : DeploymentDecision → Prop
  | .succeed => row.verified
  | .rollBack =>
      (row.isVerifying ∨ row.isRollingBack) ∧ row.previousObserved ∧ row.agentConnected
  | .requestRollback => row.isVerifying ∧ row.previousArtifactSha256.isSome
  | .retryRollback =>
      row.isRollingBack ∧ row.previousArtifactSha256.isSome ∧ row.rollbackAttemptCount < 3
  | .fail => row.rehydrateFailed ∧ row.previousArtifactSha256 = none ∨
      jsDate row.verificationDeadlineAt ≤ jsDate now
  | .wait => row.phase.isActive → jsDate now < jsDate row.verificationDeadlineAt

theorem warrants_decide : row.Warrants now (row.decide now) := by
  unfold decide
  by_cases hFailed : row.rehydrateFailed = true
  · rw [if_pos hFailed]
    cases hPrevious : row.previousArtifactSha256 with
    | none => exact .inl ⟨hFailed, hPrevious⟩
    | some previous =>
        rw [rehydrateFailed] at hFailed
        simp only [Bool.and_eq_true] at hFailed
        exact ⟨hFailed.1.1.1.1, by rw [hPrevious]; rfl⟩
  rw [if_neg hFailed]
  by_cases hVerified : row.verified = true
  · rw [if_pos hVerified]
    exact hVerified
  rw [if_neg hVerified]
  by_cases hBack : (row.isRollingBack && row.previousObserved && row.agentConnected) = true
  · rw [if_pos hBack]
    simp only [Bool.and_eq_true] at hBack
    exact ⟨.inr hBack.1.1, hBack.1.2, hBack.2⟩
  rw [if_neg hBack]
  by_cases hRelease : (row.isVerifying && row.previousObserved && row.heartbeatAfterStage &&
      row.agentConnected && row.releaseFailureCode.isSome) = true
  · rw [if_pos hRelease]
    simp only [Bool.and_eq_true] at hRelease
    exact ⟨.inl hRelease.1.1.1.1, hRelease.1.1.1.2, hRelease.1.2⟩
  rw [if_neg hRelease]
  by_cases hEarly : jsDate now < jsDate row.verificationDeadlineAt
  · rw [if_pos hEarly]
    exact fun _ => hEarly
  rw [if_neg hEarly]
  have hExpired : jsDate row.verificationDeadlineAt ≤ jsDate now := Int.not_lt.1 hEarly
  by_cases hQueued : row.phase = .queued
  · rw [if_pos hQueued]
    exact .inr hExpired
  rw [if_neg hQueued]
  by_cases hVerifying : row.isVerifying = true
  · rw [if_pos hVerifying]
    split
    · rename_i hSeen
      exact ⟨.inl hVerifying, Bool.and_eq_true_iff.1 hSeen⟩
    · split
      · exact ⟨hVerifying, ‹_›⟩
      · exact .inr hExpired
  rw [if_neg hVerifying]
  by_cases hRolling : row.isRollingBack = true
  · rw [if_pos hRolling]
    split
    · rename_i hMay
      rw [Bool.and_eq_true, decide_eq_true_eq] at hMay
      exact ⟨hRolling, hMay⟩
    · exact .inr hExpired
  rw [if_neg hRolling]
  intro hActive
  rcases phase_cases hActive with hPhase | hPhase | hPhase
  · exact absurd hPhase hQueued
  · exact absurd hPhase hVerifying
  · exact absurd hPhase hRolling

theorem warrants_of_decide {decision : DeploymentDecision} (h : row.decide now = decision) :
    row.Warrants now decision :=
  h ▸ warrants_decide

end DeploymentReconcileRow

namespace GateAgentDeployment

/-- The deployment once the decision is carried out. -/
def outcome (now : Timestamp) (d : GateAgentDeployment) : DeploymentDecision → GateAgentDeployment
  | .succeed => d.markSucceeded now
  | .rollBack => d.markRolledBack now
  | .requestRollback => d.requestRollback now
  | .retryRollback => d.retryRollback now
  | .fail => d.markFailed now
  | .wait => d

/-- How many decisions behind a deadline are left at most. -/
def rank (d : GateAgentDeployment) : Nat :=
  match d.phase with
  | .queued => 1
  | .staging | .verifying => 4
  | .rollbackRequested | .rollingBack => 4 - d.rollbackAttemptCount
  | .succeeded | .rolledBack | .failed => 0

variable {now dbNow : Timestamp} {d d' : GateAgentDeployment} {target : DeploymentId → String}
  {observe : GateId → AgentObservation}

theorem outcome_id {decision : DeploymentDecision} : (d.outcome dbNow decision).id = d.id := by
  cases decision with
  | succeed => exact markSucceeded_id
  | rollBack => exact markRolledBack_id
  | fail => exact markFailed_id
  | requestRollback | retryRollback | wait => rfl

/-- What the pass of the controller makes of the deployment. -/
def settle (target : DeploymentId → String) (observe : GateId → AgentObservation)
    (now dbNow : Timestamp) (d : GateAgentDeployment) : GateAgentDeployment :=
  if d.phase.isActive then d.outcome dbNow ((d.reconcileRow target observe).decide now) else d

theorem settle_id : (d.settle target observe now dbNow).id = d.id := by
  unfold settle
  split
  · exact outcome_id
  · rfl

theorem rank_eq_zero (h : d.rank = 0) (hAttempts : d.rollbackAttemptCount ≤ 3) :
    d.phase.isActive = false := by
  unfold rank at h
  cases hPhase : d.phase <;> rw [hPhase] at h <;> first | rfl | (dsimp only at h; omega)

theorem rank_le_four : d.rank ≤ 4 := by
  unfold rank
  cases d.phase <;> dsimp only <;> omega

theorem rank_of_inactive (h : d.phase.isActive = false) : d.rank = 0 := by
  unfold rank
  cases hPhase : d.phase <;> rw [hPhase] at h <;> first | rfl | cases h

theorem markFailed_inactive : (d.markFailed dbNow).phase.isActive = false := by
  unfold markFailed
  split
  · rfl
  · exact Bool.eq_false_iff.2 ‹_›

theorem phase_markSucceeded (h : d.phase = .staging ∨ d.phase = .verifying) :
    (d.markSucceeded dbNow).phase = .succeeded := by
  rw [markSucceeded, if_pos h]

theorem phase_markRolledBack (h : (d.phase = .staging ∨ d.phase = .verifying) ∨
    d.phase = .rollbackRequested ∨ d.phase = .rollingBack) :
    (d.markRolledBack dbNow).phase = .rolledBack := by
  rw [markRolledBack, if_pos (or_assoc.1 h)]

theorem rank_settle (hExpired : jsDate d.verificationDeadlineAt ≤ jsDate now) :
    (d.settle target observe now dbNow).rank ≤ d.rank - 1 := by
  unfold settle
  split
  · rename_i hActive
    cases hDecision : (d.reconcileRow target observe).decide now with
    | succeed =>
        have hVerified : (d.reconcileRow target observe).verified :=
          DeploymentReconcileRow.warrants_of_decide hDecision
        simp only [DeploymentReconcileRow.verified, Bool.and_eq_true] at hVerified
        have hPhase := DeploymentReconcileRow.isVerifying_iff.1 hVerified.1.1.1.1.1.1
        rw [outcome, rank, phase_markSucceeded hPhase]
        exact Nat.zero_le _
    | rollBack =>
        obtain ⟨hPhase, -⟩ := DeploymentReconcileRow.warrants_of_decide hDecision
        rw [DeploymentReconcileRow.isVerifying_iff,
          DeploymentReconcileRow.isRollingBack_iff] at hPhase
        rw [outcome, rank, phase_markRolledBack hPhase]
        exact Nat.zero_le _
    | fail =>
        rw [outcome, rank_of_inactive markFailed_inactive]
        exact Nat.zero_le _
    | requestRollback =>
        have hRequest := DeploymentReconcileRow.warrants_of_decide hDecision
        have hPhase : d.phase = .staging ∨ d.phase = .verifying :=
          DeploymentReconcileRow.isVerifying_iff.1 hRequest.1
        have hRank : d.rank = 4 := by
          unfold rank
          rcases hPhase with hPhase | hPhase <;> rw [hPhase]
        rw [hRank]
        exact le_rfl
    | retryRollback =>
        obtain ⟨hRolling, -, hCount⟩ := DeploymentReconcileRow.warrants_of_decide hDecision
        have hPhase : d.phase = .rollbackRequested ∨ d.phase = .rollingBack :=
          DeploymentReconcileRow.isRollingBack_iff.1 hRolling
        have hRank : d.rank = 4 - d.rollbackAttemptCount := by
          unfold rank
          rcases hPhase with hPhase | hPhase <;> rw [hPhase]
        have hNext : (d.retryRollback dbNow).rank = 4 - (d.rollbackAttemptCount + 1) := by
          unfold rank retryRollback
          rcases hPhase with hPhase | hPhase <;> rw [hPhase]
        rw [outcome, hRank, hNext]
        omega
    | wait =>
        have hEarly := DeploymentReconcileRow.warrants_of_decide hDecision hActive
        exact absurd hEarly hExpired.not_gt
  · rename_i hInactive
    rw [rank_of_inactive (Bool.eq_false_iff.2 hInactive)]

end GateAgentDeployment

/-! ### The pass -/

namespace ReportDb

variable {db : ReportDb} {target : DeploymentId → String} {observe : GateId → AgentObservation}
  {now : Timestamp} {d : GateAgentDeployment} {id : DeploymentId} {decision : DeploymentDecision}

theorem carryOut_eq :
    db.carryOut id decision = db ∨ ∃ move, db.carryOut id decision = db.performDeployment move := by
  cases decision with
  | succeed => exact .inr ⟨.succeed id, rfl⟩
  | rollBack => exact .inr ⟨.rollBack id, rfl⟩
  | requestRollback => exact .inr ⟨.requestRollback id, rfl⟩
  | fail => exact .inr ⟨.fail id, rfl⟩
  | wait => exact .inl rfl
  | retryRollback =>
      rw [carryOut]
      split
      · exact .inr ⟨.retryRollback id, rfl⟩
      · exact .inr ⟨.fail id, rfl⟩

theorem now_carryOut : (db.carryOut id decision).control.now = db.control.now := by
  rcases @carryOut_eq db id decision with hSame | ⟨move, hMove⟩
  · rw [hSame]
  · rw [hMove]
    exact jobsRest_performDeployment.now

theorem DeploymentsSound.carryOut (h : db.DeploymentsSound) :
    (db.carryOut id decision).DeploymentsSound := by
  rcases @carryOut_eq db id decision with hSame | ⟨move, hMove⟩
  · rw [hSame]
    exact h
  · rw [DeploymentsSound, now_carryOut, hMove]
    exact steps_performDeployment.sound h

theorem not_hasActiveDeployment_of_leads (h : DeploymentTable.Leads db.deployments d) :
    ¬db.HasActiveDeployment d.gateId (some d.id) := by
  rintro ⟨d', hd', hGate, hOther, hActive⟩
  exact hOther (congrArg (some ∘ GateAgentDeployment.id) (h d' hd' hGate hActive))

theorem deployments_carryOut (hSound : db.DeploymentsSound) (hd : d ∈ db.deployments.rows)
    (hActive : d.phase.isActive) :
    (db.carryOut d.id ((d.reconcileRow target observe).decide now)).deployments.rows =
      db.deployments.rows.map fun e =>
        if e.id = d.id then d.settle target observe now db.control.now else e := by
  have hFind : db.deployments.find? d.id = some d := SerialTable.find?_of_mem hd
  have hUpdate : ∀ {f : GateAgentDeployment → GateAgentDeployment} (hf : ∀ d, (f d).id = d.id),
      f d = d.settle target observe now db.control.now →
      (db.deployments.update d.id f hf).rows = db.deployments.rows.map fun e =>
        if e.id = d.id then d.settle target observe now db.control.now else e := by
    intro f hf hSettle
    refine List.map_congr_left fun e he => ?_
    split
    · rename_i hId
      rw [SerialTable.row_unique he hd hId, hSettle]
    · rfl
  have hSettle : d.settle target observe now db.control.now =
      d.outcome db.control.now ((d.reconcileRow target observe).decide now) := if_pos hActive
  cases hDecision : (d.reconcileRow target observe).decide now with
  | succeed =>
      exact hUpdate (fun _ => GateAgentDeployment.markSucceeded_id)
        (by rw [hSettle, hDecision]; rfl)
  | rollBack =>
      exact hUpdate (fun _ => GateAgentDeployment.markRolledBack_id)
        (by rw [hSettle, hDecision]; rfl)
  | fail =>
      exact hUpdate (fun _ => GateAgentDeployment.markFailed_id) (by rw [hSettle, hDecision]; rfl)
  | requestRollback =>
      obtain ⟨hVerifying, hPrevious⟩ := DeploymentReconcileRow.warrants_of_decide hDecision
      have hPhase : d.phase = .staging ∨ d.phase = .verifying :=
        DeploymentReconcileRow.isVerifying_iff.1 hVerifying
      have hMay : d.previousArtifactSha256.isSome ∧ (d.phase = .succeeded ∨ d.phase = .staging ∨
          d.phase = .verifying ∨ d.phase = .failed) ∧
            ¬db.HasActiveDeployment d.gateId (some d.id) :=
        ⟨hPrevious, .inr (hPhase.imp_right .inl),
          not_hasActiveDeployment_of_leads (hSound.exclusive d hd hActive)⟩
      rw [carryOut, requestDeploymentRollback, hFind]
      dsimp only
      rw [if_pos hMay, insertDeploymentEvent, deployments_insertRollbackJob]
      exact hUpdate (fun _ => GateAgentDeployment.requestRollback_id)
        (by rw [hSettle, hDecision]; rfl)
  | retryRollback =>
      obtain ⟨hRolling, hPrevious, hCount⟩ :=
        DeploymentReconcileRow.warrants_of_decide hDecision
      have hPhase : d.phase = .rollbackRequested ∨ d.phase = .rollingBack :=
        DeploymentReconcileRow.isRollingBack_iff.1 hRolling
      have hMay : (d.phase = .rollbackRequested ∨ d.phase = .rollingBack) ∧
          d.previousArtifactSha256.isSome ∧ d.rollbackAttemptCount < 3 :=
        ⟨hPhase, hPrevious, hCount⟩
      have hRetry : d.mayRetryRollback := by
        simpa [GateAgentDeployment.mayRetryRollback, and_assoc] using hMay
      rw [carryOut, hFind, Option.any_some, if_pos hRetry, retryDeploymentRollback, hFind]
      dsimp only
      rw [if_pos hMay, insertDeploymentEvent, deployments_insertRollbackJob]
      exact hUpdate (fun _ => GateAgentDeployment.retryRollback_id)
        (by rw [hSettle, hDecision]; rfl)
  | wait =>
      rw [hDecision] at hSettle
      have hSame : ∀ e ∈ db.deployments.rows, (if e.id = d.id then d else e) = e := by
        intro e he
        split
        · rename_i hId
          exact (SerialTable.row_unique he hd hId).symm
        · rfl
      rw [hSettle]
      exact ((List.map_congr_left hSame).trans (List.map_id' _)).symm

/-- The rest of a pass: what is still to be dealt with is as it was listed. -/
theorem deployments_foldl_carryOut {listed : List GateAgentDeployment}
    (hSound : db.DeploymentsSound)
    (hListed : ∀ d ∈ listed, d ∈ db.deployments.rows ∧ d.phase.isActive)
    (hDistinct : (listed.map (·.id)).Nodup) :
    let db' := (listed.map (·.reconcileRow target observe)).foldl
      (fun db row => db.carryOut row.id (row.decide now)) db
    db'.DeploymentsSound ∧ db'.control.now = db.control.now ∧
      db'.deployments.rows = db.deployments.rows.map fun e =>
        if e.id ∈ listed.map (·.id) then e.settle target observe now db.control.now else e := by
  induction listed generalizing db with
  | nil => exact ⟨hSound, rfl, by simp⟩
  | cons d listed ih =>
      rw [List.map_cons, List.nodup_cons] at hDistinct
      obtain ⟨hd, hActive⟩ := hListed d List.mem_cons_self
      have hFirst := @deployments_carryOut db target observe now d hSound hd hActive
      have hRest : ∀ e ∈ listed, e ∈
          (db.carryOut d.id ((d.reconcileRow target observe).decide now)).deployments.rows ∧
            e.phase.isActive := by
        intro e he
        obtain ⟨heRow, heActive⟩ := hListed e (List.mem_cons_of_mem _ he)
        refine ⟨?_, heActive⟩
        rw [hFirst, List.mem_map]
        refine ⟨e, heRow, if_neg fun hId => hDistinct.1 ?_⟩
        exact List.mem_map.2 ⟨e, he, hId⟩
      obtain ⟨hSound', hNow', hRows'⟩ := ih hSound.carryOut hRest hDistinct.2
      rw [now_carryOut] at hNow' hRows'
      refine ⟨hSound', hNow', hRows'.trans ?_⟩
      rw [hFirst, List.map_map]
      refine List.map_congr_left fun e he => ?_
      rw [Function.comp_apply, List.map_cons]
      by_cases hId : e.id = d.id
      · rw [if_pos hId, GateAgentDeployment.settle_id, if_neg hDistinct.1,
          if_pos (List.mem_cons.2 (.inl hId)), SerialTable.row_unique he hd hId]
      · rw [if_neg hId]
        simp only [List.mem_cons, hId, false_or]

theorem deployments_reconcile (hSound : db.DeploymentsSound) :
    (db.reconcileGateAgentDeployments target observe now).DeploymentsSound ∧
      (db.reconcileGateAgentDeployments target observe now).control.now = db.control.now ∧
      (db.reconcileGateAgentDeployments target observe now).deployments.rows =
        db.deployments.rows.map (·.settle target observe now db.control.now) := by
  have hListed : ∀ d ∈ db.deployments.rows.filter (·.phase.isActive),
      d ∈ db.deployments.rows ∧ d.phase.isActive := fun d hd => List.mem_filter.1 hd
  have hDistinct : ((db.deployments.rows.filter (·.phase.isActive)).map (·.id)).Nodup :=
    db.deployments.table.keysNodup.sublist (List.filter_sublist.map _)
  obtain ⟨hSound', hNow', hRows'⟩ :=
    @deployments_foldl_carryOut db target observe now _ hSound hListed hDistinct
  refine ⟨hSound', hNow', hRows'.trans (List.map_congr_left fun e he => ?_)⟩
  split
  · rfl
  · rename_i hOther
    refine (if_neg fun hActive => hOther ?_).symm
    exact List.mem_map.2 ⟨e, List.mem_filter.2 ⟨he, hActive⟩, rfl⟩

end ReportDb

/-! ### Reasons -/

/-- What a pass may make of a deployment, by what its gate shows. -/
structure GateAgentDeployment.Justified (target : String) (o : AgentObservation) (now : Timestamp)
    (d d' : GateAgentDeployment) : Prop where
  /-- The new agent runs since it was staged, and has passed all its tests. -/
  succeeded : d'.phase = .succeeded → d.phase = .succeeded ∨
    (o.agentConnected ∧ o.observedArtifactSha256 = some target ∧
      "agent-artifact-self-test:passed" ∈ o.observedCapabilities ∧
      "doublezero-recovery:v1" ∈ o.observedCapabilities ∧
      "assignment-rehydrate:passed" ∈ o.observedCapabilities ∧
      ∃ seen ∈ o.lastSeenAt, ∀ staged ∈ d.stagedAt, jsDate staged ≤ jsDate seen)
  /-- The old agent runs. -/
  rolledBack : d'.phase = .rolledBack → d.phase = .rolledBack ∨
    (o.agentConnected ∧ d.previousArtifactSha256.isSome ∧
      o.observedArtifactSha256 = d.previousArtifactSha256)
  /-- The deadline has passed, or the new agent lost its assignments and there is no old one. -/
  failed : d'.phase = .failed → d.phase = .failed ∨
    jsDate d.verificationDeadlineAt ≤ jsDate now ∨
    (o.agentConnected ∧ o.observedArtifactSha256 = some target ∧
      (readAssignmentRehydrateFailureCount o.observedCapabilities).isSome ∧
      d.previousArtifactSha256 = none)

namespace GateAgentDeployment

variable {now dbNow : Timestamp} {d : GateAgentDeployment} {target : DeploymentId → String}
  {observe : GateId → AgentObservation}

theorem heartbeatAfterStage_iff {row : DeploymentReconcileRow} :
    row.heartbeatAfterStage ↔
      ∃ seen ∈ row.lastSeenAt, ∀ staged ∈ row.stagedAt, jsDate staged ≤ jsDate seen := by
  simp [DeploymentReconcileRow.heartbeatAfterStage, Option.any_eq_true, Option.all_eq_true]

theorem justified_settle :
    d.Justified (target d.id) (observe d.gateId) now (d.settle target observe now dbNow) := by
  unfold settle
  split
  · rename_i hActive
    cases hDecision : (d.reconcileRow target observe).decide now with
    | succeed =>
        have hVerified : (d.reconcileRow target observe).verified :=
          DeploymentReconcileRow.warrants_of_decide hDecision
        simp only [DeploymentReconcileRow.verified, Bool.and_eq_true] at hVerified
        obtain ⟨⟨⟨⟨⟨⟨hVerifying, hTarget⟩, hSelfTest⟩, hRecovery⟩, hRehydrate⟩, hHeartbeat⟩,
          hConnected⟩ := hVerified
        have hPhase : (d.outcome dbNow .succeed).phase = .succeeded :=
          phase_markSucceeded (DeploymentReconcileRow.isVerifying_iff.1 hVerifying)
        constructor
        · intro _
          exact .inr ⟨hConnected, of_decide_eq_true hTarget, of_decide_eq_true hSelfTest,
            of_decide_eq_true hRecovery, of_decide_eq_true hRehydrate,
            heartbeatAfterStage_iff.1 hHeartbeat⟩
        · intro hOther
          cases hPhase.symm.trans hOther
        · intro hOther
          cases hPhase.symm.trans hOther
    | rollBack =>
        obtain ⟨hRow, hObserved, hConnected⟩ := DeploymentReconcileRow.warrants_of_decide hDecision
        rw [DeploymentReconcileRow.isVerifying_iff,
          DeploymentReconcileRow.isRollingBack_iff] at hRow
        have hPhase : (d.outcome dbNow .rollBack).phase = .rolledBack := phase_markRolledBack hRow
        obtain ⟨hPrevious, hSame⟩ := Bool.and_eq_true_iff.1 hObserved
        constructor
        · intro hOther
          cases hPhase.symm.trans hOther
        · intro _
          exact .inr ⟨hConnected, hPrevious, of_decide_eq_true hSame⟩
        · intro hOther
          cases hPhase.symm.trans hOther
    | fail =>
        have hPhase : (d.outcome dbNow .fail).phase = .failed := by
          rw [outcome, markFailed, if_pos hActive]
        constructor
        · intro hOther
          cases hPhase.symm.trans hOther
        · intro hOther
          cases hPhase.symm.trans hOther
        · intro _
          have hWarrant := DeploymentReconcileRow.warrants_of_decide hDecision
          rcases hWarrant with ⟨hFailed, hNone⟩ | hExpired
          · simp only [DeploymentReconcileRow.rehydrateFailed, Bool.and_eq_true] at hFailed
            obtain ⟨⟨⟨⟨-, hTarget⟩, -⟩, hConnected⟩, hCount⟩ := hFailed
            exact .inr (.inr ⟨hConnected, of_decide_eq_true hTarget, hCount, hNone⟩)
          · exact .inr (.inl hExpired)
    | requestRollback =>
        constructor <;> intro hOther <;> cases hOther
    | retryRollback | wait => exact ⟨.inl, .inl, .inl⟩
  · exact ⟨.inl, .inl, .inl⟩

end GateAgentDeployment

/-! ### Deployments that nobody touches -/

/-- A pass at a time of the controller and one of the database. -/
structure ControllerPass where
  now : Timestamp
  databaseNow : Timestamp
  observe : GateId → AgentObservation

/-- Every pass is five minutes behind the pass before it, and the first one behind the last event.
-/
def FiveMinutesApart : Timestamp → List ControllerPass → Prop
  | _, [] => True
  | before, pass :: passes =>
    before + 300 * second ≤ pass.now ∧ before ≤ pass.databaseNow ∧
      FiveMinutesApart pass.databaseNow passes

namespace ReportDb

variable {db : ReportDb} {target : DeploymentId → String} {observe : GateId → AgentObservation}
  {now : Timestamp} {config : SessionReconcileConfig}
  {storable : Json → Bool} {passes : List ControllerPass}

/-- A pass gives every deployment what it would get alone, and each for a reason that its gate shows
or after its deadline. -/
theorem pass_is_justified {es : List ReportEvent}
    (hRun : run (step config storable) emptyReportDb es = some db) :
    (db.reconcileGateAgentDeployments target observe now).deployments.rows =
        db.deployments.rows.map (·.settle target observe now db.control.now) ∧
      ∀ d ∈ db.deployments.rows,
        d.Justified (target d.id) (observe d.gateId) now
          (d.settle target observe now db.control.now) :=
  ⟨(deployments_reconcile (deploymentsSound_of_run hRun)).2.2,
    fun _ _ => GateAgentDeployment.justified_settle⟩

/-- The gate runs the new agent, and its tests have passed. -/
def showsTarget : AgentObservation :=
  ⟨some "target", some 5, ["agent-artifact-self-test:passed", "doublezero-recovery:v1",
    "assignment-rehydrate:passed"], true⟩

theorem verified_deployment_is_justified :
    ∃ db ∈ run (step sampleConfig fun _ => true) emptyReportDb rolloutRun,
      (∃ d ∈ (db.reconcileGateAgentDeployments (fun _ => "target") (fun _ => showsTarget)
        6).deployments.rows, d.phase = .succeeded) ∧
      ∀ d ∈ db.deployments.rows, d.Justified "target" showsTarget 6
        (d.settle (fun _ => "target") (fun _ => showsTarget) 6 db.control.now) := by
  have hExists : ∃ db ∈ run (step sampleConfig fun _ => true) emptyReportDb rolloutRun,
      ∃ d ∈ (db.reconcileGateAgentDeployments (fun _ => "target") (fun _ => showsTarget)
        6).deployments.rows, d.phase = .succeeded := by
    decide +kernel
  obtain ⟨db, hRun, hSucceeded⟩ := hExists
  exact ⟨db, hRun, hSucceeded,
    (@pass_is_justified db (fun _ => "target") (fun _ => showsTarget) 6 _ _ _ hRun).2⟩

def runPasses (target : DeploymentId → String) (db : ReportDb) (passes : List ControllerPass) :
    ReportDb :=
  passes.foldl (fun db pass =>
    (db.atTime pass.databaseNow).reconcileGateAgentDeployments target pass.observe pass.now) db

theorem rank_runPasses (hSound : db.DeploymentsSound)
    (hApart : FiveMinutesApart db.control.now passes)
    {bound : Nat} (hRank : ∀ d ∈ db.deployments.rows, d.rank ≤ bound) :
    (db.runPasses target passes).DeploymentsSound ∧
      ∀ d ∈ (db.runPasses target passes).deployments.rows, d.rank ≤ bound - passes.length := by
  induction passes generalizing db bound with
  | nil => exact ⟨hSound, hRank⟩
  | cons pass passes ih =>
      obtain ⟨hNow, hDatabase, hApart'⟩ := hApart
      have hTicked : (db.atTime pass.databaseNow).DeploymentsSound :=
        DeploymentTable.Sound.mono hSound hDatabase
      obtain ⟨hSound', hNow', hRows'⟩ :=
        @deployments_reconcile (db.atTime pass.databaseNow) target pass.observe pass.now hTicked
      have hRank' : ∀ d ∈ ((db.atTime pass.databaseNow).reconcileGateAgentDeployments target
          pass.observe pass.now).deployments.rows, d.rank ≤ bound - 1 := by
        intro d' hd'
        rw [hRows'] at hd'
        obtain ⟨d, hd, rfl⟩ := List.mem_map.1 hd'
        have hDeadline : d.verificationDeadlineAt ≤ pass.now := (hSound.deadlines d hd).trans hNow
        have hExpired : jsDate d.verificationDeadlineAt ≤ jsDate pass.now :=
          ediv_mul_mono 1000 hDeadline
        exact (GateAgentDeployment.rank_settle hExpired).trans (Nat.sub_le_sub_right (hRank d hd) 1)
      obtain ⟨hSoundEnd, hRankEnd⟩ := ih hSound' (hNow'.symm ▸ hApart') hRank'
      refine ⟨hSoundEnd, fun d hd => (hRankEnd d hd).trans ?_⟩
      rw [List.length_cons]
      omega

/-- Whatever happened before and whatever the gates show: when no gate reports and nobody asks for
anything, all deployments have ended after four passes. -/
theorem unattended_deployments_end {es : List ReportEvent}
    (hRun : run (step config storable) emptyReportDb es = some db)
    (hApart : FiveMinutesApart db.control.now passes) (hLong : 4 ≤ passes.length) :
    ∀ d ∈ (db.runPasses target passes).deployments.rows, d.phase.isActive = false := by
  obtain ⟨hSound, hRank⟩ := @rank_runPasses db target passes (deploymentsSound_of_run hRun) hApart 4
    fun _ _ => GateAgentDeployment.rank_le_four
  intro d hd
  refine GateAgentDeployment.rank_eq_zero ?_ (hSound.attempts d hd)
  have hNone := hRank d hd
  omega

/-- The gate is never heard of again. -/
def silentPasses : List ControllerPass :=
  [⟨300000005, 300000005, fun _ => .none⟩, ⟨600000005, 600000005, fun _ => .none⟩,
    ⟨900000005, 900000005, fun _ => .none⟩, ⟨1200000005, 1200000005, fun _ => .none⟩]

theorem silent_deployment_ends :
    ∃ db ∈ run (step sampleConfig fun _ => true) emptyReportDb rolloutRun,
      (∃ d ∈ db.deployments.rows, d.phase.isActive) ∧
        ∀ d ∈ (db.runPasses (fun _ => "target") silentPasses).deployments.rows,
          d.phase.isActive = false := by
  have hExists : ∃ db ∈ run (step sampleConfig fun _ => true) emptyReportDb rolloutRun,
      (∃ d ∈ db.deployments.rows, d.phase.isActive) ∧ db.control.now = 4 := by
    decide +kernel
  obtain ⟨db, hRun, hActive, hNow⟩ := hExists
  have hApart : FiveMinutesApart db.control.now silentPasses := by
    rw [hNow]
    refine ⟨?_, ?_, ?_, ?_, ?_, ?_, ?_, ?_, trivial⟩ <;> decide
  exact ⟨db, hRun, hActive, unattended_deployments_end hRun hApart le_rfl⟩

end ReportDb

end Hyperspace.Provisioning
