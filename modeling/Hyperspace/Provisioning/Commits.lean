import Hyperspace.Provisioning.SoundCells

/-!
# Committing prepared sessions

The query for sessions that are ready for commit looks at the commit jobs of the session under any
plan. A session that was active once has such jobs, and they are not archived for 30 days: after a
reactivation, its assignments are prepared for the new plan but never committed.
-/

namespace Hyperspace.Provisioning

open Hyperspace.Billing (AccountId SessionId Timestamp)
open Hyperspace.ControlPlane Hyperspace.Foundations

instance : Std.Total Session.UpdatedBefore where
  total s t := by
    rcases lt_trichotomy s.updatedAt t.updatedAt with hLt | hEq | hGt
    · exact .inl (.inl hLt)
    · exact (le_total s.id t.id).imp (fun h => .inr ⟨hEq, h⟩) fun h => .inr ⟨hEq.symm, h⟩
    · exact .inr (.inl hGt)

instance : IsTrans Session Session.UpdatedBefore where
  trans s t u := by
    rintro (hLt | ⟨hEq, hLe⟩) (hLt' | ⟨hEq', hLe'⟩)
    · exact .inl (hLt.trans hLt')
    · exact .inl (hLt.trans_eq hEq')
    · exact .inl (hEq.trans_lt hLt')
    · exact .inr ⟨hEq.trans hEq', hLe.trans hLe'⟩

theorem Session.UpdatedBefore.antisymm {s t : Session} (h : s.UpdatedBefore t)
    (h' : t.UpdatedBefore s) : s.id = t.id := by
  rcases h with hLt | ⟨hEq, hLe⟩ <;> rcases h' with hLt' | ⟨hEq', hLe'⟩
  · exact absurd (hLt.trans hLt') (lt_irrefl _)
  · exact absurd (hLt.trans_eq hEq') (lt_irrefl _)
  · exact absurd (hEq.trans_lt hLt') (lt_irrefl _)
  · exact le_antisymm hLe hLe'

namespace ProvisioningDb

variable {config : SessionReconcileConfig} {db db' : ProvisioningDb} {s : Session}
  {es : List Event}

/-- The assignment of a role is prepared for the current plan of the session. -/
def PreparedFor (db : ProvisioningDb) (s : Session) (role : GateAssignmentRole) : Prop :=
  ∃ a ∈ db.assignment? (s.id, role), a.phase = .prepared ∧ a.planId = (s.id, s.generation)

/-- A commit job with the current plan of the session has been enqueued. -/
def CommitEnqueued (db : ProvisioningDb) (s : Session) : Prop :=
  ∃ j ∈ db.jobs.rows, j.sessionId = some s.id ∧ j.operation = some .commit ∧
    j.planId = some (s.id, s.generation)

instance (role : GateAssignmentRole) : Decidable (db.PreparedFor s role) :=
  inferInstanceAs (Decidable (∃ a ∈ _, _))

instance : Decidable (db.CommitEnqueued s) := inferInstanceAs (Decidable (∃ j ∈ _, _))

/-- A provisioning session whose assignments are prepared for its current plan, and for which no
commit job with this plan has been enqueued. -/
structure AwaitingCommit (db : ProvisioningDb) (s : Session) : Prop where
  session : s ∈ db.sessions.rows
  phase : s.phase = .provisioning
  desired : s.desiredState = .active
  plan : (db.plan? (s.id, s.generation)).isSome
  ingress : db.PreparedFor s .ingress
  egress : db.PreparedFor s .egress
  notEnqueued : ¬ db.CommitEnqueued s

instance : Decidable (db.AwaitingCommit s) :=
  decidable_of_iff (s ∈ db.sessions.rows ∧ (s.phase = .provisioning ∧ s.desiredState = .active) ∧
      (db.plan? (s.id, s.generation)).isSome ∧
      (db.PreparedFor s .ingress ∧ db.PreparedFor s .egress) ∧ ¬ db.CommitEnqueued s)
    ⟨fun ⟨hSession, ⟨hPhase, hDesired⟩, hPlan, ⟨hIngress, hEgress⟩, hNone⟩ =>
      ⟨hSession, hPhase, hDesired, hPlan, hIngress, hEgress, hNone⟩,
    fun h => ⟨h.session, ⟨h.phase, h.desired⟩, h.plan, ⟨h.ingress, h.egress⟩, h.notEnqueued⟩⟩

/-- The next pass finds the session and enqueues commit jobs with its plan for both roles. -/
def CommitsNext (db : ProvisioningDb) (s : Session) : Prop :=
  s ∈ db.listSessionsReadyForCommit [] ∧
    ∀ role, ∃ j ∈ (db.enqueueCommitJobsForPreparedAssignments []).jobs.rows,
      j.IsFor (s.id, role) .applyAssignment (some .commit) ∧
        j.planId = some (s.id, s.generation) ∧ j.phase = .queued

/-- Fewer sessions than the pass takes are ready and were updated before. -/
def FewReadyBefore (db : ProvisioningDb) (s : Session) : Prop :=
  (db.sessions.rows.filter fun t =>
    db.ReadyForCommit t && (t.UpdatedBefore s && !decide (s.UpdatedBefore t))).length < 50

theorem countAssignments_eq_two {sid : SessionId} {phase : GateAssignmentPhase}
    (h : ∀ role, ∃ a ∈ db.assignment? (sid, role), a.phase = phase) :
    db.countAssignments sid phase = 2 := by
  obtain ⟨ingress, hIngress, hIngressPhase⟩ := h .ingress
  obtain ⟨egress, hEgress, hEgressPhase⟩ := h .egress
  obtain ⟨hIngressRow, hIngressId⟩ := Table.find?_eq_some_iff.1 hIngress
  obtain ⟨hEgressRow, hEgressId⟩ := Table.find?_eq_some_iff.1 hEgress
  have hNodup : db.assignments.rows.Nodup := db.assignments.keysNodup.of_map _
  have hPerm : (db.assignments.rows.filter
      fun a => a.sessionId = sid && a.phase = phase).Perm [ingress, egress] := by
    rw [List.perm_ext_iff_of_nodup (hNodup.filter _) ?_]
    · intro a
      rw [List.mem_filter]
      constructor
      · rintro ⟨hRow, hFound⟩
        simp only [Bool.and_eq_true, decide_eq_true_eq] at hFound
        cases hRole : a.role with
        | ingress =>
            have hId : a.id = ingress.id := by
              rw [hIngressId, GateAssignment.id, hFound.1, hRole]
            simp [Table.row_unique hRow hIngressRow hId]
        | egress =>
            have hId : a.id = egress.id := by
              rw [hEgressId, GateAssignment.id, hFound.1, hRole]
            simp [Table.row_unique hRow hEgressRow hId]
      · intro ha
        have hSession : ∀ {b : GateAssignment} {role}, b.id = (sid, role) → b.sessionId = sid :=
          fun hId => congrArg Prod.fst hId
        rcases List.mem_pair.1 ha with rfl | rfl
        · exact ⟨hIngressRow, by simp [hSession hIngressId, hIngressPhase]⟩
        · exact ⟨hEgressRow, by simp [hSession hEgressId, hEgressPhase]⟩
    · have hNe : ingress ≠ egress := by
        rintro rfl
        simp [hIngressId] at hEgressId
      simp [hNe]
  rw [countAssignments, hPerm.length_eq]
  rfl

theorem AwaitingCommit.readyForCommit (h : db.AwaitingCommit s) (hNoJob : ¬ db.HasCommitJob s.id) :
    db.ReadyForCommit s := by
  refine ⟨h.plan, h.phase, countAssignments_eq_two fun role => ?_, hNoJob⟩
  have hPrepared : db.PreparedFor s role := by
    cases role with
    | ingress => exact h.ingress
    | egress => exact h.egress
  obtain ⟨a, ha, hPhase, -⟩ := hPrepared
  exact ⟨a, ha, hPhase⟩

theorem mem_listSessionsReadyForCommit (hSession : s ∈ db.sessions.rows)
    (hReady : db.ReadyForCommit s) :
    s ∈ db.listSessionsReadyForCommit [] ↔ db.FewReadyBefore s := by
  have hIff := @mem_selectForUpdate_iff _ _ _ Session.id db.ReadyForCommit _ Session.UpdatedBefore
    _ _ _ [] 50 db.sessions.rows s db.sessions.keysNodup (fun _ _ => Session.UpdatedBefore.antisymm)
    hSession hReady List.not_mem_nil
  rw [listSessionsReadyForCommit, FewReadyBefore]
  simpa using hIff

/-- A listed session is handled with both of its cells as the pass has found them. -/
theorem commitPreparedSession_of_listed (hListed : s ∈ db.listSessionsReadyForCommit []) :
    ∃ db' : ProvisioningDb, (∀ role, db'.cell (s.id, role) = db.cell (s.id, role)) ∧
      ∀ role, (db.enqueueCommitJobsForPreparedAssignments []).cell (s.id, role) =
        (db'.commitPreparedSession s).cell (s.id, role) := by
  let rows := db.listSessionsReadyForCommit []
  let view (db : ProvisioningDb) (role : GateAssignmentRole) : Cell := db.cell (s.id, role)
  have hNodup : (rows.map Session.id).Nodup := nodup_selectForUpdate db.sessions.keysNodup
  have hUnique : rows.Pairwise fun r r' => ¬ (r.id = s.id ∧ r'.id = s.id) :=
    (List.pairwise_map.1 hNodup).imp fun hNe hBoth => hNe (hBoth.1.trans hBoth.2.symm)
  have hOther : ∀ db : ProvisioningDb, True → ∀ r ∈ rows, ¬ r.id = s.id →
      view (db.commitPreparedSession r) = view db := fun db _ r _ hNe =>
    funext fun role => cell_commitPreparedSession_of_ne hNe
  rcases @foldl_view _ _ rows db _ commitPreparedSession view _ (fun _ => True)
    (fun _ _ _ _ => trivial) hOther hUnique trivial with
    ⟨hNone, -⟩ | ⟨r, hr, hId, db', -, hView, hEq⟩
  · exact absurd rfl (hNone s hListed)
  · have hSame : r = s := Table.row_unique (mem_of_mem_selectForUpdate hr)
      (mem_of_mem_selectForUpdate hListed) hId
    rw [hSame] at hEq
    exact ⟨db', fun role => congrFun hView role, fun role => congrFun hEq role⟩

/-- Where no commit job of the session is in the way, the pass enqueues its commit jobs. -/
theorem commitsNext_of_listed (hSound : ∀ id, (db.cell id).Sound id) (h : db.AwaitingCommit s)
    (hListed : s ∈ db.listSessionsReadyForCommit []) (hNoJob : ¬ db.HasCommitJob s.id) :
    db.CommitsNext s := by
  refine ⟨hListed, fun role => ?_⟩
  obtain ⟨db', hBefore, hAfter⟩ := commitPreparedSession_of_listed hListed
  obtain ⟨ingress, hIngress, -⟩ := h.ingress
  obtain ⟨egress, hEgress, -⟩ := h.egress
  have hIngress' : db'.assignment? (s.id, .ingress) = some ingress :=
    (congrArg Cell.assignment (hBefore .ingress)).trans hIngress
  have hEgress' : db'.assignment? (s.id, .egress) = some egress :=
    (congrArg Cell.assignment (hBefore .egress)).trans hEgress
  obtain ⟨a, n, -, hCell⟩ := @cell_commitPreparedSession db' (s.id, role) s _ _ hIngress' hEgress'
    rfl
  have hNoneInWay : ∀ j ∈ (db.cell (s.id, role)).jobs, j.type = .applyAssignment →
      j.operation = some .commit → ¬ (j.phase.isLive ∨ j.phase = .succeeded) := by
    intro j hj hType hOperation hPhase
    exact hNoJob ⟨j, (mem_cell_jobs.1 hj).1, (hSound _).jobSession j hj, hType, hOperation, hPhase⟩
  let job := Job.createApply db'.now (s.id, role) a.gateId .commit (s.id, s.generation) n
  have hJob : job ∈ ((db'.cell (s.id, role)).commit (s.id, role) s a.gateId n).jobs := by
    rcases @Cell.insertApply_cases (db'.cell (s.id, role)) .commit job with ⟨hBlocked, -⟩ | hAdded
    · rw [hBefore role] at hBlocked
      rcases hBlocked with ⟨j, hj, hType, hOperation, hLive⟩ |
        ⟨b, -, -, j, hj, hType, hOperation, -, hDone⟩
      · exact absurd (.inl hLive) (hNoneInWay j hj hType hOperation)
      · exact absurd (.inr hDone) (hNoneInWay j hj hType hOperation)
    · have hInserted : job ∈ ((db'.cell (s.id, role)).insertApply .commit job).jobs := by
        rw [hAdded]
        exact List.mem_append_right _ (List.mem_singleton_self _)
      exact hInserted
  rw [← hCell, ← hAfter role] at hJob
  exact ⟨job, (mem_cell_jobs.1 hJob).1, ⟨rfl, rfl, rfl⟩, rfl, rfl⟩

/-- A session that awaits its commit is committed next exactly when no commit job of it, for any
plan, is in progress or done, and few sessions are ready before it. -/
theorem commitsNext_iff (hRun : run (step config) emptyDb es = some db)
    (h : db.AwaitingCommit s) :
    db.CommitsNext s ↔ ¬ db.HasCommitJob s.id ∧ db.FewReadyBefore s := by
  constructor
  · rintro ⟨hListed, -⟩
    have hReady : db.ReadyForCommit s := wanted_of_mem_selectForUpdate hListed
    exact ⟨hReady.2.2.2, (mem_listSessionsReadyForCommit h.session hReady).1 hListed⟩
  · rintro ⟨hNoJob, hFew⟩
    have hReady := h.readyForCommit hNoJob
    exact commitsNext_of_listed (fun id => sound_run sound_emptyDb hRun) h
      ((mem_listSessionsReadyForCommit h.session hReady).2 hFew) hNoJob

/-- The first commit of a session. -/
theorem commitsNext_iff_sample : ∃ db s, run (step sampleConfig) emptyDb preparedRun = some db ∧
    db.AwaitingCommit s ∧ (db.CommitsNext s ↔ ¬ db.HasCommitJob s.id ∧ db.FewReadyBefore s) := by
  have hRun : ∃ db ∈ run (step sampleConfig) emptyDb preparedRun, ∃ s ∈ db.sessions.rows,
      db.AwaitingCommit s := by
    decide +kernel
  obtain ⟨db, hRun, s, -, hAwaiting⟩ := hRun
  exact ⟨db, s, hRun, hAwaiting, commitsNext_iff hRun hAwaiting⟩

/-- An active session has used its traffic up, is revoked, gets more traffic, and its gates have
prepared the assignments for its new plan. -/
def preparedAgainRun : List Event :=
  activeRun ++
    [⟨15, .usage 1 200⟩, ⟨16, .enforceQuota []⟩, ⟨17, .enqueueRevocations []⟩,
      ⟨18, .claim 1 none []⟩, ⟨19, .report 1 4 (succeeds "")⟩, ⟨20, .claim 2 none []⟩,
      ⟨21, .report 2 5 (succeeds "")⟩, ⟨22, .completeRevoked []⟩, ⟨23, .adjustQuota 1 1000⟩,
      ⟨24, .schedule samplePath []⟩, ⟨25, .claim 1 none []⟩, ⟨26, .report 1 6 prepares⟩,
      ⟨27, .claim 2 none []⟩, ⟨28, .report 2 7 prepares⟩]

/-- The commit jobs of the first plan keep the session from being found. -/
theorem not_commitsNext : ∃ es db s, run (step sampleConfig) emptyDb es = some db ∧
    db.AwaitingCommit s ∧ ¬ db.CommitsNext s := by
  have hRun : ∃ db ∈ run (step sampleConfig) emptyDb preparedAgainRun, ∃ s ∈ db.sessions.rows,
      db.AwaitingCommit s ∧ s ∉ db.listSessionsReadyForCommit [] := by
    decide +kernel
  obtain ⟨db, hRun, s, -, hAwaiting, hNotListed⟩ := hRun
  exact ⟨_, db, s, hRun, hAwaiting, fun hNext => hNotListed hNext.1⟩

end ProvisioningDb

end Hyperspace.Provisioning
