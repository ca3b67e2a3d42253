import Hyperspace.Provisioning.DriftRepair
import Hyperspace.Provisioning.SharedRows

/-!
# Repairing active sessions

The drift pass repairs an assignment whose status is applied or drifted. A commit job that dies
takes the status out of both, and then no snapshot without the handle brings the assignment back.
-/

namespace Hyperspace.Provisioning

open Hyperspace.Billing (AccountId SessionId Timestamp)
open Hyperspace.ControlPlane Hyperspace.Foundations

variable {config : SessionReconcileConfig} {id : AssignmentId} {c c' : Cell}

namespace Cell

/-- The assignment is installed, known to be missing, or about to be installed by a commit job. -/
def Repaired (c : Cell) (a : GateAssignment) : Prop :=
  a.phase = .applied ∨ a.phase = .drifted ∨
    (c.LiveApply .commit ∧ a.phase ≠ .revoking ∧ a.phase ≠ .revoked ∧ a.phase ≠ .dead)

/-- The assignment of an active session is to be applied, and is repaired. -/
def Served (c : Cell) : Prop :=
  ∀ s ∈ c.session, s.phase = .active → ∀ a ∈ c.assignment,
    a.desiredState = .applied ∧ c.Repaired a

theorem LiveApply.of_jobs {operation : ApplyOperation} (hLive : c.LiveApply operation)
    (hJobs : ∀ j ∈ c.jobs, j.phase.isLive → ∃ j' ∈ c'.jobs, j.Kept j' ∧ j'.phase.isLive) :
    c'.LiveApply operation := by
  obtain ⟨j, hj, hType, hOperation, hPhase⟩ := hLive
  obtain ⟨j', hj', hKept, hPhase'⟩ := hJobs j hj hPhase
  exact ⟨j', hj', hKept.type.trans hType, hKept.operation.trans hOperation, hPhase'⟩

theorem LiveApply.pass {operation : ApplyOperation} (hLive : c.LiveApply operation)
    (h : CellPass id c c') : c'.LiveApply operation ∨ c'.assignment = none := by
  obtain ⟨j, hj, hType, hOperation, hPhase⟩ := hLive
  rcases h.live_job hj hPhase with ⟨j', hj', hKept, hPhase'⟩ | ⟨-, -, hNone, -⟩
  · exact .inl ⟨j', hj', hKept.type.trans hType, hKept.operation.trans hOperation, hPhase'⟩
  · exact .inr hNone

theorem Repaired.pass {a : GateAssignment} (hRepaired : c.Repaired a) (h : CellPass id c c')
    (hKept : c'.assignment.isSome) : c'.Repaired a := by
  rcases hRepaired with hApplied | hDrifted | ⟨hLive, hPhase⟩
  · exact .inl hApplied
  · exact .inr (.inl hDrifted)
  · rcases hLive.pass h with hLive' | hNone
    · exact .inr (.inr ⟨hLive', hPhase⟩)
    · rw [hNone] at hKept
      cases hKept

/-! ### Steps -/

/-- A pass finds the assignment of an active session installed or in repair, so no cleanup of
orphans takes it. -/
theorem Served.pass (hSound : c.Sound id) (hInv : c.Served) (h : CellPass id c c') : c'.Served := by
  intro s' hs' hActive a' ha'
  have hKept : c'.assignment.isSome := by
    rw [Option.mem_def.1 ha']
    rfl
  obtain ⟨s, hs, hPhase⟩ : ∃ s, c.session = some s ∧ s.phase = .active := by
    rcases h.mem_session hs' with ⟨-, _, _, configGrant, awaitsPayment, rfl⟩ |
      ⟨s, hs, rfl | rfl | hMove⟩
    · cases configGrant <;> cases awaitsPayment <;> simp [Session.create] at hActive
    · exact ⟨_, hs, hActive⟩
    · exact ⟨s, hs, hActive⟩
    · have hPlaced := hMove.placed (by rw [hActive]; rfl)
      exact ⟨s, hs, hPlaced.1.symm.trans hActive⟩
  have hNotRevoked : s.desiredState ≠ .revoked := by
    intro hRevoked
    have hEnding := (hSound.desired s hs).1 hRevoked
    simp [hPhase] at hEnding
  obtain ⟨a, ha, rfl | ⟨hPrepared, rfl⟩ | ⟨-, hRevocable, rfl⟩ | ⟨hApplied, -, rfl⟩⟩ :=
    h.mem_assignment ha'
  · obtain ⟨hDesired, hRepaired⟩ := hInv s hs hPhase _ ha
    exact ⟨hDesired, hRepaired.pass h hKept⟩
  · obtain ⟨hDesired, hRepaired⟩ := hInv s hs hPhase a ha
    refine ⟨hDesired, ?_⟩
    rcases hRepaired.pass h hKept with hPhase' | hPhase' | ⟨hLive, -⟩
    · simp [hPrepared] at hPhase'
    · simp [hPrepared] at hPhase'
    · exact .inr (.inr ⟨hLive, by simp [GateAssignment.setPhase]⟩)
  · obtain ⟨hDesired, hRepaired⟩ := hInv s hs hPhase a ha
    rcases hRevocable with ⟨t, ht, hRevoked⟩ | hKnown
    · rw [hs] at ht
      cases ht
      exact absurd hRevoked hNotRevoked
    · rcases hRepaired with hApplied | hDrifted | ⟨-, hPhases⟩
      · simp [hApplied, hDesired] at hKnown
      · simp [hDrifted, hDesired] at hKnown
      · simp [hPhases, hDesired] at hKnown
  · obtain ⟨hDesired, -⟩ := hInv s hs hPhase a ha
    exact ⟨hDesired, .inr (.inl rfl)⟩

/-- A claim of a commit job, or one that leaves the assignment applied or another commit job. -/
theorem Served.claim {j : Job} (hInv : c.Served)
    (hClaim : ∀ s ∈ c.session, s.phase = .active → ∀ a ∈ c.assignment,
      a.phase = .applied ∨ (j.type ≠ .revokeAssignment ∧ c.LiveApply .commit)) :
    (c.claim j).Served := by
  intro s hs hActive a' ha'
  obtain ⟨a, ha, rfl⟩ := Option.map_eq_some_iff.1 ha'
  obtain ⟨hDesired, hRepaired⟩ := hInv s hs hActive a ha
  refine ⟨hDesired, ?_⟩
  rcases hClaim s hs hActive a ha with hApplied | ⟨hType, hLive⟩
  · exact .inl (by simp [GateAssignment.setPhase, leasedAssignmentTransition, hApplied])
  · by_cases hApplied : a.phase = .applied
    · exact .inl (by simp [GateAssignment.setPhase, leasedAssignmentTransition, hApplied])
    · have hNotRevoked : a.phase ≠ .revoked := by
        rintro hRevoked
        rcases hRepaired with hPhase | hPhase | ⟨-, -, hPhase, -⟩ <;> simp [hRevoked] at hPhase
      have hApplying : (a.setPhase c.now (leasedAssignmentTransition j.type a.phase)).phase =
          .applying := by
        simp [GateAssignment.setPhase, leasedAssignmentTransition, hApplied, hNotRevoked, hType]
      refine .inr (.inr ⟨hLive.of_jobs fun k hk hPhase => ⟨_, List.mem_map_of_mem hk,
        keepsOwner_updateJob keepsOwner_lease k, ?_⟩, by simp [hApplying]⟩)
      dsimp only
      split
      · rfl
      · exact hPhase

/-- The report leaves a commit job of the assignment in progress. -/
def CommitRemains (c : Cell) (j : Job) (report : GateJobReport) : Prop :=
  (j.type = .applyAssignment ∧ j.operation = some .commit ∧ report.status ≠ .succeeded) ∨
    ∃ k ∈ c.jobs, k.id ≠ j.id ∧ k.type = .applyAssignment ∧ k.operation = some .commit ∧
      k.phase.isLive

theorem CommitRemains.liveApply {j : Job} {report : GateJobReport}
    (h : c.CommitRemains j report) (hj : j ∈ c.jobs)
    (hAgain : (j.transition report).terminalFailure = false) :
    (c.record j report).LiveApply .commit := by
  rcases h with ⟨hType, hOperation, hFailed⟩ | ⟨k, hk, hOther, hType, hOperation, hPhase⟩
  · have hKept := @keepsOwner_updateJob _ (@keepsOwner_recordOutcome c.now
      (j.transition report).nextPhase (j.transition report).retryDelaySeconds) j.id j
    refine ⟨_, List.mem_map_of_mem hj, hKept.type.trans hType, hKept.operation.trans hOperation, ?_⟩
    have hNext : (j.transition report).nextPhase = .retryableFailed := by
      simp only [Job.transition, resolveReportedJobTransition] at hAgain ⊢
      simp [hFailed, hAgain]
    simp [Job.recordOutcome, hNext, JobPhase.isLive]
  · refine ⟨k, ?_, hType, hOperation, hPhase⟩
    have hSame : k = if k.id = j.id then k.recordOutcome c.now (j.transition report).nextPhase
        (j.transition report).retryDelaySeconds else k := (if_neg hOther).symm
    rw [hSame]
    exact List.mem_map_of_mem hk

/-- A report that applies the assignment, or one that is no end of it and leaves a commit job. -/
theorem Served.record {j : Job} {report : GateJobReport} (hInv : c.Served) (hj : j ∈ c.jobs)
    (hReport : ∀ s ∈ c.session, s.phase = .active →
      j.AppliedBy report ∨ (¬ (j.type = .revokeAssignment ∧ report.status = .succeeded) ∧
        (j.transition report).terminalFailure = false ∧ c.CommitRemains j report)) :
    (c.record j report).Served := by
  intro s hs hActive a' ha'
  obtain ⟨a, ha, rfl⟩ := Option.map_eq_some_iff.1 ha'
  obtain ⟨hDesired, -⟩ := hInv s hs hActive a ha
  rcases hReport s hs hActive with ⟨hType, hDone, hCommit⟩ | ⟨hNotRevoked, hAgain, hRemains⟩
  · have hApplied : a.progress c.now j.type report (j.transition report).terminalFailure =
        a.markApplied c.now := by
      rw [GateAssignment.progress, if_pos ⟨hDone, hType⟩, if_neg hCommit]
    rw [hApplied]
    exact ⟨hDesired, .inl rfl⟩
  · have hLive := hRemains.liveApply hj hAgain
    rw [GateAssignment.progress]
    split
    · split
      · exact ⟨hDesired, .inr (.inr ⟨hLive, by simp [GateAssignment.markPrepared]⟩)⟩
      · exact ⟨hDesired, .inl rfl⟩
    · split
      · rename_i hRevoked
        exact absurd ⟨hRevoked.2, hRevoked.1⟩ hNotRevoked
      · refine ⟨hDesired, .inr (.inr ⟨hLive, ?_⟩)⟩
        simp [GateAssignment.setPhase, failedFromReportTransition, hAgain]

theorem Served.activate (hInstalled : ∀ a ∈ c.assignment,
    a.desiredState = .applied ∧ a.phase = .applied) : c.activate.Served :=
  fun _ _ _ a ha => ⟨(hInstalled a ha).1, .inl (hInstalled a ha).2⟩

end Cell

namespace ProvisioningDb

variable {db db' : ProvisioningDb} {es : List Event} {action : Action}

/-- The session of the assignment is active. -/
def OfActiveSession (db : ProvisioningDb) (a : GateAssignment) : Prop :=
  ∃ s ∈ db.session? a.sessionId, s.phase = .active

/-- A claim for an active session is of a commit job, or leaves the assignment applied or another
commit job. -/
def ClaimsCommits (db : ProvisioningDb) (action : Action) : Prop :=
  ∀ k ∈ db.claimed? action, db.OfActiveSession k.assignment →
    k.assignment.phase = .applied ∨
      (k.job.type ≠ .revokeAssignment ∧ db.HasLiveApplyJob k.assignment.id .commit)

/-- After the report a commit job of the assignment is in progress. -/
def Reported.LeavesCommit (db : ProvisioningDb) (r : Reported) : Prop :=
  (r.job.type = .applyAssignment ∧ r.job.operation = some .commit ∧
    r.report.status ≠ .succeeded) ∨
    ∃ k ∈ db.jobs.rows, k.id ≠ r.job.id ∧
      k.IsFor r.assignment.id .applyAssignment (some .commit) ∧ k.phase.isLive

/-- A report for an active session applies the assignment, or is neither its revocation nor its
last failure and leaves a commit job in progress. -/
def ReportsApplied (db : ProvisioningDb) (action : Action) : Prop :=
  ∀ r ∈ db.reported? action, db.OfActiveSession r.assignment →
    r.job.AppliedBy r.report ∨
      (¬ (r.job.type = .revokeAssignment ∧ r.report.status = .succeeded) ∧
        (r.job.transition r.report).terminalFailure = false ∧ r.LeavesCommit db)

/-- Sessions become active only while their assignments are to be applied. -/
def ActivatesApplied (db : ProvisioningDb) : Action → Prop
  | .completeProvisioned locked =>
    ∀ s ∈ db.listProvisionedSessionsForActivation locked, ∀ a ∈ db.assignments.rows,
      a.sessionId = s.id → a.desiredState = .applied
  | _ => True

/-- A snapshot says when it was taken. -/
def SnapshotsDated : Action → Prop
  | .snapshot _ _ reportedAt => reportedAt.isSome
  | _ => True

instance : DecidablePred db.OfActiveSession := fun _ => inferInstanceAs (Decidable (∃ s ∈ _, _))

instance : DecidablePred (Reported.LeavesCommit db) := fun _ => inferInstanceAs (Decidable (_ ∨ _))

instance : DecidablePred db.ClaimsCommits := fun _ => inferInstanceAs (Decidable (∀ k ∈ _, _))

instance : DecidablePred db.ReportsApplied := fun _ => inferInstanceAs (Decidable (∀ r ∈ _, _))

instance : DecidablePred db.ActivatesApplied := fun action => by
  apply Action.casesOn (motive := fun action => Decidable (db.ActivatesApplied action)) action
  all_goals
    intros
    dsimp only [ActivatesApplied]
    infer_instance

instance : DecidablePred SnapshotsDated := fun action => by
  apply Action.casesOn (motive := fun action => Decidable (SnapshotsDated action)) action
  all_goals
    intros
    dsimp only [SnapshotsDated]
    infer_instance

/-- The transaction keeps the assignments of active sessions repairable. -/
structure KeepsRepairable (db : ProvisioningDb) (action : Action) : Prop where
  claims : db.ClaimsCommits action
  reports : db.ReportsApplied action
  activates : db.ActivatesApplied action
  dated : SnapshotsDated action

instance : DecidablePred db.KeepsRepairable := fun action =>
  decidable_of_iff (db.ClaimsCommits action ∧ db.ReportsApplied action ∧
    db.ActivatesApplied action ∧ SnapshotsDated action)
    ⟨fun ⟨h₁, h₂, h₃, h₄⟩ => ⟨h₁, h₂, h₃, h₄⟩, fun ⟨h₁, h₂, h₃, h₄⟩ => ⟨h₁, h₂, h₃, h₄⟩⟩

theorem ofActiveSession_of_cell {s : Session} {a : GateAssignment}
    (hSession : (db.cell id).session = some s) (ha : (db.cell id).assignment = some a)
    (hActive : s.phase = .active) : db.OfActiveSession a := by
  have hMine : a.sessionId = id.1 := congrArg Prod.fst (mem_of_cell_assignment ha).2
  refine ⟨s, ?_, hActive⟩
  rw [hMine]
  exact hSession

theorem CellChange.served (h : db.CellChange config id action c) (hSound : (db.cell id).Sound id)
    (hMeets : db.KeepsRepairable action) (hInv : (db.cell id).Served) : c.Served := by
  cases h with
  | passed _ _ passes =>
      exact passes.invariant (fun _ _ hSound hInv hPass => hInv.pass hSound hPass) hSound hInv
  | exhaustedHidden locked s found session =>
      intro t ht hActive
      cases ht
      exact hInv s session hActive
  | claimed gateId lane locked j mine found =>
      refine hInv.claim fun s hs hActive a ha => ?_
      have hId : a.id = id := (mem_of_cell_assignment ha).2
      rcases hMeets.claims _ (claimed?_eq_some mine found ha)
        (ofActiveSession_of_cell hs ha hActive) with hApplied | ⟨hType, hLive⟩
      · exact .inl hApplied
      · rw [hId] at hLive
        exact .inr ⟨hType, hasLiveApplyJob_iff.1 hLive⟩
  | reported gateId report j mine gate =>
      refine hInv.record mine fun s hs hActive => ?_
      obtain ⟨a, ha⟩ := hSound.exists_assignment mine
      have hId : a.id = id := (mem_of_cell_assignment ha).2
      rcases hMeets.reports _ (reported?_eq_some mine gate ha)
        (ofActiveSession_of_cell hs ha hActive) with hApplies | ⟨hNotRevoked, hAgain, hLeaves⟩
      · exact .inl hApplies
      · refine .inr ⟨hNotRevoked, hAgain, ?_⟩
        rcases hLeaves with hOwn | ⟨k, hk, hOther, ⟨hAssigned, hType, hOperation⟩, hLive⟩
        · exact .inl hOwn
        · rw [hId] at hAssigned
          exact .inr ⟨k, mem_cell_jobs.2 ⟨hk, hAssigned⟩, hOther, hType, hOperation, hLive⟩
  | scheduled outcome locked s gateId draw address n session desired phase =>
      intro t ht hActive
      rw [Cell.schedule_session, session] at ht
      cases ht
      cases hActive
  | activated locked s listed session phase applied =>
      refine .activate fun a ha => ?_
      obtain ⟨hRow, hId⟩ := mem_of_cell_assignment ha
      have hMine : a.sessionId = s.id :=
        (congrArg Prod.fst hId).trans (mem_of_cell_session session).2.symm
      exact ⟨hMeets.activates s listed a hRow hMine, applied_of_countAssignments applied hRow hMine⟩
  | timedOut locked s listed session =>
      intro t ht hActive
      obtain ⟨u, -, rfl⟩ := Option.map_eq_some_iff.1 ht
      cases hActive
  | revoked locked s listed session =>
      intro t ht hActive
      obtain ⟨u, -, rfl⟩ := Option.map_eq_some_iff.1 ht
      cases hActive

/-- The invariant of every assignment in every run that keeps active sessions repairable. -/
theorem served_run (hRun : run (step config) emptyDb es = some db)
    (hMeet : StepsMeet (step config) (fun db e => (db.atTime e.now).KeepsRepairable e.action)
      emptyDb es) : (db.cell id).Served :=
  run_cell (fun _ _ _ hInv => hInv)
    (fun _ _ _ hTicked hMeets hInv hChange => hChange.served hTicked.sound hMeets hInv)
    sound_emptyDb (by simp [Cell.Served, emptyDb, cell, session?, Table.find?]) hRun hMeet

theorem snapshotsDated_run (hRun : run (step config) emptyDb es = some db)
    (hMeet : StepsMeet (step config) (fun db e => (db.atTime e.now).KeepsRepairable e.action)
      emptyDb es) : ∀ g ∈ db.snapshots, g.reportedAt.isSome := by
  refine @run_invariant_of_stepsMeet _ _ _ _
    (fun db : ProvisioningDb => ∀ g ∈ db.snapshots, g.reportedAt.isSome)
    (fun db e db' hInv hMeets hStep => ?_) _ _ _ (by simp [emptyDb]) hRun hMeet
  obtain ⟨-, rfl⟩ := step_eq_some hStep
  intro g hg
  rcases mem_snapshots_perform hg with hOld | ⟨gateId, managedHandles, hAction⟩
  · exact hInv g hOld
  · have hDated := hMeets.dated
    rw [hAction] at hDated
    exact hDated

/-! ### Repair -/

/-- The newest snapshot of the gate came in after the assignment was last applied, and does not
list its handle. -/
def MissingSinceApplied (db : ProvisioningDb) (a : GateAssignment) : Prop :=
  ∃ t ∈ a.appliedAt, ∃ g ∈ db.latestSnapshot? a.gateId, t ≤ g.receivedAt ∧ a.id ∉ g.managedHandles

/-- The next drift pass that reaches no limit enqueues a commit job for the assignment. -/
def DriftRepairs (db : ProvisioningDb) (a : GateAssignment) : Prop :=
  ∀ now gates, db.now < now → a.gateId ∈ gates →
    (db.repairCandidates a.gateId (db.missingHandles a.gateId)).length ≤ 50 →
    ((db.atTime now).reconcileDrift gates ⟨[], []⟩).HasLiveApplyJob a.id .commit

/-- Active sessions have assignments that are to be applied, and one that is missing from its gate
is repaired. -/
structure ActiveSessionsRepaired (db : ProvisioningDb) : Prop where
  desired : ∀ s ∈ db.sessions.rows, s.phase = .active → s.desiredState = .active →
    ∀ role, ∃ a ∈ db.assignment? (s.id, role), a.desiredState = .applied
  repaired : ∀ s ∈ db.sessions.rows, s.phase = .active → s.desiredState = .active →
    ∀ role, ∀ a ∈ db.assignment? (s.id, role), db.MissingSinceApplied a →
      db.HasLiveApplyJob a.id .commit ∨ db.DriftRepairs a

instance : DecidablePred db.MissingSinceApplied := fun _ => inferInstanceAs (Decidable (∃ t ∈ _, _))

theorem mem_of_latestSnapshot? {g : GateSnapshot} {gateId : GateId}
    (h : db.latestSnapshot? gateId = some g) : g ∈ db.snapshots := by
  have hLast : ∀ last ∈ db.latestSnapshot? gateId, last ∈ db.snapshots := by
    refine @foldl_invariant _ _ _ _ _ (fun last : Option GateSnapshot => ∀ s ∈ last,
      s ∈ db.snapshots) (fun last s hs hInv => ?_) (by simp)
    split
    · rintro _ ⟨⟩
      exact List.mem_of_mem_filter hs
    · exact hInv
  exact hLast g h

/-- An assignment that is missing since it was applied is one of the missing handles. -/
theorem mem_missingHandles {a : GateAssignment} (ha : db.assignment? id = some a)
    (hDesired : a.desiredState = .applied) (hPhase : a.phase = .applied ∨ a.phase = .drifted)
    (hMissing : db.MissingSinceApplied a) : id ∈ db.missingHandles a.gateId := by
  obtain ⟨hRow, hId⟩ := Table.find?_eq_some_iff.1 ha
  obtain ⟨t, ht, g, hg, hAfter, hNotListed⟩ := hMissing
  have hWanted : db.IsDesired a := ⟨hDesired, hPhase, t, ht, g, hg, hAfter⟩
  have hLatest : db.latestSnapshot? a.gateId = some g := hg
  refine List.mem_filter.2 ⟨List.mem_map.2 ⟨a, List.mem_filter.2 ⟨hRow, ?_⟩, hId⟩, ?_⟩
  · simp [hWanted]
  · rw [← hId]
    simpa [gateActualStateDriftRow, hLatest] using hNotListed

/-- The assignment of an active session is in repair, or the next drift pass repairs it. -/
theorem repaired_of_served {s : Session} {a : GateAssignment} {role : GateAssignmentRole}
    (hSound : ∀ id, (db.cell id).Sound id) (hServed : (db.cell (s.id, role)).Served)
    (hDated : ∀ g ∈ db.snapshots, g.reportedAt.isSome) (hSession : s ∈ db.sessions.rows)
    (hPhase : s.phase = .active) (hActive : s.desiredState = .active)
    (ha : db.assignment? (s.id, role) = some a) (hMissing : db.MissingSinceApplied a) :
    db.HasLiveApplyJob a.id .commit ∨ db.DriftRepairs a := by
  have hFound : ∀ role, (db.cell (s.id, role)).session = some s :=
    fun role => cell_session_eq_some hSession rfl
  have hId : a.id = (s.id, role) := (Table.find?_eq_some_iff.1 ha).2
  obtain ⟨hDesired, hRepaired⟩ := hServed s (hFound role) hPhase a ha
  have hPlaced : ∀ role, (db.plan? (s.id, s.generation)).isSome ∧
      (db.assignment? (s.id, role)).isSome := fun role =>
    (hSound (s.id, role)).placed s (hFound role) (by rw [hPhase]; rfl)
  have hInstalled : a.phase = .applied ∨ a.phase = .drifted →
      db.HasLiveApplyJob a.id .commit ∨ db.DriftRepairs a := by
    intro hInstalled
    refine .inr fun now gates _ hGate hFits => ?_
    have hHandle := mem_missingHandles ha hDesired hInstalled hMissing
    obtain ⟨-, -, g, hg, -, -⟩ := hMissing
    obtain ⟨reportedAt, hReported⟩ :=
      Option.isSome_iff_exists.1 (hDated g (mem_of_latestSnapshot? hg))
    have hRow : ((db.atTime now).gateActualStateDriftRow a.gateId).reportedAt ≠ none := by
      have hLatest : (db.atTime now).latestSnapshot? a.gateId = some g := hg
      simp [gateActualStateDriftRow, hLatest, hReported]
    rw [hId]
    exact hasLiveApplyJob_reconcileDrift hGate ⟨a, ha, rfl, hDesired, hInstalled⟩ hRow hHandle
      (hFound role)
      ⟨hActive, .inl hPhase, (hPlaced role).1⟩ (fun role => (hPlaced role).2) hFits
  rcases hRepaired with hApplied | hDrifted | ⟨hLive, -⟩
  · exact hInstalled (.inl hApplied)
  · exact hInstalled (.inr hDrifted)
  · rw [hId]
    exact .inl (hasLiveApplyJob_iff.2 hLive)

/-- In every run that keeps active sessions repairable, active sessions are repaired. -/
theorem activeSessions_repaired (hRun : run (step config) emptyDb es = some db)
    (hMeet : StepsMeet (step config) (fun db e => (db.atTime e.now).KeepsRepairable e.action)
      emptyDb es) : db.ActiveSessionsRepaired := by
  have hSound : ∀ id, (db.cell id).Sound id := fun id => sound_run sound_emptyDb hRun
  have hServed : ∀ id, (db.cell id).Served := fun id => served_run hRun hMeet
  constructor
  · intro s hs hPhase _ role
    have hFound : (db.cell (s.id, role)).session = some s := cell_session_eq_some hs rfl
    have hPlaced := (hSound (s.id, role)).placed s hFound (by rw [hPhase]; rfl)
    obtain ⟨a, ha⟩ := Option.isSome_iff_exists.1 hPlaced.2
    exact ⟨a, ha, (hServed _ s hFound hPhase a ha).1⟩
  · intro s hs hPhase hActive role a ha hMissing
    exact repaired_of_served hSound (hServed _) (snapshotsDated_run hRun hMeet) hs hPhase hActive ha
      hMissing

/-- The ingress gate of an active session reports that it manages nothing, and the drift pass
enqueues a commit job, which the gate claims. -/
def repairingRun : List Event :=
  activeRun ++
    [⟨15, .snapshot 1 [] (some 15)⟩, ⟨16, .drift [1, 2] ⟨[], []⟩⟩, ⟨17, .claim 1 none []⟩]

/-- The gate fails for now, and then installs the assignment again. -/
theorem activeSessions_repaired_sample : ∃ db, run (step sampleConfig) emptyDb
    (repairingRun ++ [⟨18, .report 1 4 failsForNow⟩, ⟨10000019, .claim 1 none []⟩,
      ⟨10000020, .report 1 4 (succeeds "commit")⟩, ⟨10000021, .snapshot 1 [] (some 21)⟩]) =
      some db ∧ db.ActiveSessionsRepaired := by
  obtain ⟨db, hRun⟩ := Option.isSome_iff_exists.1 (show (run (step sampleConfig) emptyDb
    (repairingRun ++ [⟨18, .report 1 4 failsForNow⟩, ⟨10000019, .claim 1 none []⟩,
      ⟨10000020, .report 1 4 (succeeds "commit")⟩,
      ⟨10000021, .snapshot 1 [] (some 21)⟩])).isSome by decide +kernel)
  exact ⟨db, hRun, activeSessions_repaired hRun (by decide +kernel)⟩

/-- The gate reports that the repair has failed. -/
theorem not_activeSessions_repaired : ∃ es db, run (step sampleConfig) emptyDb es = some db ∧
    ¬ db.ActiveSessionsRepaired := by
  have hRun : ∃ db ∈ run (step sampleConfig) emptyDb
      (repairingRun ++ [⟨18, .report 1 4 failsForGood⟩, ⟨19, .snapshot 1 [] (some 19)⟩]),
      ∃ s ∈ db.sessions.rows, s.phase = .active ∧ s.desiredState = .active ∧
      ∃ a ∈ db.assignment? (s.id, .ingress), db.MissingSinceApplied a ∧
      ¬ db.HasLiveApplyJob a.id .commit ∧ db.now < db.now + 1 ∧ a.gateId ∈ [1, 2] ∧
      (db.repairCandidates a.gateId (db.missingHandles a.gateId)).length ≤ 50 ∧
      ¬ ((db.atTime (db.now + 1)).reconcileDrift [1, 2] ⟨[], []⟩).HasLiveApplyJob a.id .commit := by
    decide +kernel
  obtain ⟨db, hRun, s, hs, hPhase, hActive, a, ha, hMissing, hNoJob, hLater, hGate, hFits,
      hDrift⟩ :=
    hRun
  refine ⟨_, db, hRun, fun hRepaired => ?_⟩
  rcases hRepaired.repaired s hs hPhase hActive .ingress a ha hMissing with hLive | hNext
  · exact hNoJob hLive
  · exact hDrift (hNext _ _ hLater hGate hFits)

end ProvisioningDb

end Hyperspace.Provisioning
