import Hyperspace.Provisioning.SoundCells

/-!
# Revoking assignments

An assignment that is to be revoked has a revoke job until it is revoked, as long as no report
takes the job or the status away. A revoke job that is reported as failed dies and is not enqueued
again, as neither the query for assignments to revoke nor a snapshot without the handle finds it.
-/

namespace Hyperspace.Provisioning

open Hyperspace.Billing (AccountId SessionId Timestamp)
open Hyperspace.ControlPlane Hyperspace.Foundations

variable {config : SessionReconcileConfig} {id : AssignmentId} {c c' : Cell}

/-! ### Revoke jobs -/

theorem Cell.LiveRevoke.of_job {j : Job} (hj : j ∈ c.jobs) (hType : j.type = .revokeAssignment)
    (hLive : j.phase.isLive) : c.LiveRevoke :=
  ⟨j, hj, hType, hLive⟩

theorem Cell.LiveRevoke.pass (h : CellPass id c c') (hLive : c.LiveRevoke) :
    c'.LiveRevoke ∨ c'.assignment = none := by
  obtain ⟨j, hj, hType, hPhase⟩ := hLive
  rcases h.live_job hj hPhase with ⟨j', hj', hKept, hPhase'⟩ | ⟨-, -, hNone, -⟩
  · exact .inl (.of_job hj' (hKept.type.trans hType) hPhase')
  · exact .inr hNone

theorem Cell.LiveRevoke.modifyJobs {f : Job → Job} (hKept : KeepsOwner f)
    (hLive : c.LiveRevoke)
    (hJobs : ∀ j ∈ c.jobs, j.type = .revokeAssignment → j.phase.isLive → (f j).phase.isLive) :
    (c.modifyJobs f).LiveRevoke := by
  obtain ⟨j, hj, hType, hPhase⟩ := hLive
  exact .of_job (List.mem_map_of_mem hj) ((hKept j).type.trans hType) (hJobs j hj hType hPhase)

/-- Revoking an assignment leaves it with a live revoke job: one that is done was enqueued before
the assignment was last changed. -/
theorem Cell.liveRevoke_revoke {a : GateAssignment} {gateId : GateId} {n : JobId}
    (hSound : c.Sound id) (ha : c.assignment = some a) :
    (c.revoke id gateId n).LiveRevoke := by
  rcases @Cell.insertRevoke_cases (c.updateAssignment (·.requestRevocation c.now))
    (.createRevoke c.now id gateId n) with ⟨hBlocked, hEq⟩ | hEq
  · rw [Cell.revoke, hEq]
    rcases hBlocked with hLive | ⟨b, hb, j, hj, -, hDone, hUpdated⟩
    · exact hLive
    · rw [Cell.updateAssignment, ha] at hb
      cases hb
      have hEarlier : j.createdAt < c.now := (hSound.dated j hj).2 hDone
      exact absurd hUpdated (not_le.2 hEarlier)
  · rw [Cell.revoke, hEq]
    exact .of_job (List.mem_append_right _ (List.mem_singleton_self _)) rfl rfl

/-! ### A revocation goes on -/

/-- An assignment that is to be revoked is revoked or has a revoke job. -/
def Cell.RevokeGoesOn (c : Cell) : Prop :=
  ∀ a ∈ c.assignment, a.desiredState = .revoked → a.phase = .revoked ∨ c.LiveRevoke

namespace Cell.RevokeGoesOn

theorem pass (hSound : c.Sound id) (hInv : c.RevokeGoesOn) (h : CellPass id c c') :
    c'.RevokeGoesOn := by
  intro a' (ha' : c'.assignment = some a') hDesired
  have hOld : ∀ a, c.assignment = some a → a.desiredState = .revoked → a'.phase = a.phase →
      a'.phase = .revoked ∨ c'.LiveRevoke := by
    intro a ha hDesired hPhase
    rcases hInv a ha hDesired with hRevoked | hLive
    · exact .inl (hPhase.trans hRevoked)
    · rcases hLive.pass h with hLive' | hNone
      · exact .inr hLive'
      · simp [ha'] at hNone
  obtain ⟨a, ha, rfl | ⟨hPrepared, rfl⟩ | ⟨⟨n, rfl⟩, -, rfl⟩ | ⟨hApplied, -, rfl⟩⟩ :=
    h.mem_assignment ha'
  · exact hOld _ ha hDesired rfl
  · rcases hInv a ha hDesired with hRevoked | hLive
    · simp [hPrepared] at hRevoked
    · rcases hLive.pass h with hLive' | hNone
      · exact .inr hLive'
      · simp [ha'] at hNone
  · exact .inr (liveRevoke_revoke hSound ha)
  · simp [GateAssignment.setPhase, hApplied] at hDesired

theorem schedule {s : Session} {gateId : GateId} {draw : TunnelDraw} {address : ClientAddress}
    {n : JobId} : (c.schedule config id s gateId draw address n).RevokeGoesOn := by
  intro a' ha' hDesired
  rcases schedule_assignment_eq_some ha' with rfl | ⟨a, -, rfl⟩
  · cases hDesired
  · cases hDesired

theorem claim {j : Job} (hInv : c.RevokeGoesOn) : (c.claim j).RevokeGoesOn := by
  intro a' ha' hDesired
  obtain ⟨a, ha, rfl⟩ := Option.map_eq_some_iff.1 ha'
  rcases hInv a ha hDesired with hRevoked | hLive
  · exact .inl (by simp [GateAssignment.setPhase, leasedAssignmentTransition, hRevoked])
  · refine .inr (hLive.modifyJobs (keepsOwner_updateJob keepsOwner_lease) fun k _ _ hPhase => ?_)
    dsimp only
    split
    · rfl
    · exact hPhase

theorem record {j : Job} {report : GateJobReport} (hj : j ∈ c.jobs)
    (hReport : ∀ a ∈ c.assignment, a.desiredState = .revoked →
      (j.type = .revokeAssignment ∧
        (report.status = .succeeded ∨ (j.transition report).terminalFailure = false)) ∨
      ∃ k ∈ c.jobs, k.id ≠ j.id ∧ k.type = .revokeAssignment ∧ k.phase.isLive) :
    (c.record j report).RevokeGoesOn := by
  intro a' ha' hDesired
  obtain ⟨a, ha, rfl⟩ := Option.map_eq_some_iff.1 ha'
  have hRevoke : a.desiredState = .revoked := by
    rw [← hDesired, GateAssignment.progress]
    split
    · split <;> rfl
    · split <;> rfl
  rcases hReport a ha hRevoke with ⟨hType, hDone | hAgain⟩ | ⟨k, hk, hOther, hType, hPhase⟩
  · refine .inl ?_
    have hApply : ¬ (report.status = .succeeded ∧ j.type = .applyAssignment) := by simp [hType]
    rw [GateAssignment.progress, if_neg hApply, if_pos ⟨hDone, hType⟩]
    rfl
  · by_cases hDone : report.status = .succeeded
    · refine .inl ?_
      have hApply : ¬ (report.status = .succeeded ∧ j.type = .applyAssignment) := by simp [hType]
      rw [GateAssignment.progress, if_neg hApply, if_pos ⟨hDone, hType⟩]
      rfl
    · refine .inr (.of_job (List.mem_map_of_mem hj) ?_ ?_)
      · exact ((keepsOwner_updateJob keepsOwner_recordOutcome) j).type.trans hType
      · have hNext : (j.transition report).nextPhase = .retryableFailed := by
          simp only [Job.transition, resolveReportedJobTransition] at hAgain ⊢
          simp [hDone, hAgain]
        simp [Job.recordOutcome, hNext, JobPhase.isLive]
  · refine .inr (.of_job (List.mem_map_of_mem hk) ?_ ?_)
    · rw [if_neg hOther]
      exact hType
    · rw [if_neg hOther]
      exact hPhase

theorem failTimedOut (hInv : c.RevokeGoesOn) : c.failTimedOut.RevokeGoesOn := by
  intro a' ha' hDesired
  obtain ⟨a, ha, rfl⟩ := Option.map_eq_some_iff.1 ha'
  have hRevoke : a.desiredState = .revoked := by
    rw [← hDesired, GateAssignment.failPending]
    split <;> rfl
  rcases hInv a ha hRevoke with hRevoked | hLive
  · refine .inl ?_
    rw [GateAssignment.failPending, hRevoked]
    exact hRevoked
  · have hJobs : (c.modifyJobs (·.failApply c.now)).LiveRevoke := by
      refine hLive.modifyJobs keepsOwner_failApply fun k _ hType hPhase => ?_
      rw [Job.failApply, if_neg (by simp [hType])]
      exact hPhase
    exact .inr hJobs

end Cell.RevokeGoesOn

namespace ProvisioningDb

variable {db db' : ProvisioningDb} {es : List Event}

/-- The next drift pass enqueues a revoke job for the assignment, whatever its gate has reported. -/
def DriftRevokes (db : ProvisioningDb) (a : GateAssignment) : Prop :=
  ∀ now managedHandles reportedAt, db.now < now →
    (((db.atTime now).updateGateActualState a.gateId managedHandles
      (some reportedAt)).reconcileDrift
      [a.gateId] ⟨[], []⟩).HasLiveRevokeJob a.id

/-- No revocation is stuck, and one whose revoke jobs are all done can be completed. -/
structure RevocationsGoOn (db : ProvisioningDb) : Prop where
  goesOn : ∀ s ∈ db.sessions.rows, s.phase = .revoking →
    ∀ a ∈ db.assignments.rows, a.sessionId = s.id → a.phase ≠ .revoked →
      db.ToRevoke a ∨ db.HasLiveRevokeJob a.id ∨ db.DriftRevokes a
  completes : ∀ s ∈ db.sessions.rows, s.phase = .revoking →
    (∀ a ∈ db.assignments.rows, a.sessionId = s.id →
      ¬ db.ToRevoke a ∧ ¬ db.HasLiveRevokeJob a.id) →
    (db.sessions.rows.filter db.ReadyToMarkRevoked).length ≤ 50 →
    (∃ s' ∈ (db.completeRevokedSessions []).session? s.id, s'.phase = .revoked) ∧
      (db.completeRevokedSessions []).activeAddress? s.id = none

/-- The transaction is no report on an assignment that is to be revoked, or its revoke job reports
success or a failure that is tried again, or the assignment has another live revoke job. -/
def KeepsRevoking (db : ProvisioningDb) (action : Action) : Prop :=
  ∀ r ∈ db.reported? action, r.assignment.desiredState = .revoked →
    (r.job.type = .revokeAssignment ∧
      (r.report.status = .succeeded ∨ (r.job.transition r.report).terminalFailure = false)) ∨
    ∃ k ∈ db.jobs.rows, k.id ≠ r.job.id ∧ k.assignmentId = some r.assignment.id ∧
      k.type = .revokeAssignment ∧ k.phase.isLive

instance : DecidablePred db.KeepsRevoking := fun _ => inferInstanceAs (Decidable (∀ r ∈ _, _))

theorem CellChange.revokeGoesOn {action : Action} (h : db.CellChange config id action c)
    (hSound : (db.cell id).Sound id) (hMeets : db.KeepsRevoking action)
    (hInv : (db.cell id).RevokeGoesOn) : c.RevokeGoesOn := by
  cases h with
  | passed _ _ passes =>
      exact passes.invariant (fun _ _ hSound hInv hPass => hInv.pass hSound hPass) hSound hInv
  | exhaustedHidden => exact hInv
  | claimed => exact hInv.claim
  | scheduled => exact .schedule
  | reported gateId report j mine gate =>
      refine .record mine fun a ha hDesired => ?_
      have hId : a.id = id := (mem_of_cell_assignment ha).2
      rcases hMeets _ (reported?_eq_some mine gate ha) hDesired with
        hRevoke | ⟨k, hk, hOther, hAssigned, hType, hLive⟩
      · exact .inl hRevoke
      · rw [hId] at hAssigned
        exact .inr ⟨k, mem_cell_jobs.2 ⟨hk, hAssigned⟩, hOther, hType, hLive⟩
  | activated => exact hInv
  | timedOut => exact hInv.failTimedOut
  | revoked => exact hInv

/-- The invariant of every assignment in every run whose reports keep revoking. -/
theorem revokeGoesOn_run (hRun : run (step config) emptyDb es = some db)
    (hMeet : StepsMeet (step config) (fun db e => (db.atTime e.now).KeepsRevoking e.action)
      emptyDb es) : (db.cell id).RevokeGoesOn :=
  run_cell (fun _ _ _ hInv => hInv)
    (fun _ _ _ hTicked hMeets hInv hChange => hChange.revokeGoesOn hTicked.sound hMeets hInv)
    sound_emptyDb (by simp [Cell.RevokeGoesOn, emptyDb, cell, assignment?, Table.find?]) hRun hMeet

/-- In a revoking session, an assignment that is not revoked is listed or has a revoke job. -/
theorem toRevoke_or_liveRevoke {s : Session} {a : GateAssignment}
    (hSound : (db.cell a.id).Sound a.id) (hInv : (db.cell a.id).RevokeGoesOn)
    (hSession : s ∈ db.sessions.rows) (hPhase : s.phase = .revoking)
    (ha : a ∈ db.assignments.rows) (hMine : a.sessionId = s.id) (hRevoked : a.phase ≠ .revoked) :
    db.ToRevoke a ∨ db.HasLiveRevokeJob a.id := by
  have hCell : (db.cell a.id).session = some s := cell_session_eq_some hSession hMine.symm
  have hDesired : s.desiredState = .revoked := (hSound.desired s hCell).2 (.inl hPhase)
  by_cases hRequested : a.desiredState = .revoked
  · rcases hInv a (cell_assignment_eq_some ha rfl) hRequested with hDone | hLive
    · exact absurd hDone hRevoked
    · exact .inr (hasLiveRevokeJob_iff.2 hLive)
  · exact .inl ⟨⟨s, hCell, hDesired⟩, hRequested⟩

/-- The pass completes a session that is ready when not more sessions are than it takes. -/
theorem completeRevokedSessions_of_ready {s : Session} (hSession : s ∈ db.sessions.rows)
    (hReady : db.ReadyToMarkRevoked s)
    (hFits : (db.sessions.rows.filter db.ReadyToMarkRevoked).length ≤ 50) :
    (∃ s' ∈ (db.completeRevokedSessions []).session? s.id, s'.phase = .revoked) ∧
      (db.completeRevokedSessions []).activeAddress? s.id = none := by
  have hListed : s ∈ db.listSessionsReadyToMarkRevoked [] :=
    mem_selectForUpdate_of_fits hSession hReady (by simp) (by simpa using hFits)
  rcases @cell_completeRevokedSessions db (s.id, .ingress) [] with
    ⟨hNone, -⟩ | ⟨t, -, hCell, -, hEq⟩
  · exact absurd rfl (hNone s hListed)
  · have hFound := congrArg Cell.session hEq
    have hAddress := congrArg Cell.address hEq
    simp only [Cell.completeRevoked, hCell, Option.map_some] at hFound
    exact ⟨⟨_, hFound, rfl⟩, hAddress⟩

/-- In every run whose reports keep revoking, no revocation is stuck. -/
theorem revocationsGoOn (hRun : run (step config) emptyDb es = some db)
    (hMeet : StepsMeet (step config) (fun db e => (db.atTime e.now).KeepsRevoking e.action)
      emptyDb es) : db.RevocationsGoOn := by
  have hSound : ∀ id, (db.cell id).Sound id := fun id => sound_run sound_emptyDb hRun
  have hInv : ∀ id, (db.cell id).RevokeGoesOn := fun id => revokeGoesOn_run hRun hMeet
  have hEither : ∀ s ∈ db.sessions.rows, s.phase = .revoking → ∀ a ∈ db.assignments.rows,
      a.sessionId = s.id → a.phase ≠ .revoked → db.ToRevoke a ∨ db.HasLiveRevokeJob a.id :=
    fun s hs hPhase a ha hMine hRevoked =>
      toRevoke_or_liveRevoke (hSound _) (hInv _) hs hPhase ha hMine hRevoked
  constructor
  · intro s hs hPhase a ha hMine hRevoked
    rcases hEither s hs hPhase a ha hMine hRevoked with hListed | hLive
    · exact .inl hListed
    · exact .inr (.inl hLive)
  · intro s hs hPhase hDone hFits
    refine completeRevokedSessions_of_ready hs ⟨hPhase, ?_⟩ hFits
    rintro ⟨a, ha, hMine, hRevoked⟩
    obtain ⟨hNotListed, hNotLive⟩ := hDone a ha hMine
    exact (hEither s hs hPhase a ha hMine hRevoked).elim hNotListed hNotLive

/-- The session is revoked before its gates have done anything, and a gate has a revoke job. -/
def revokingRun : List Event :=
  scheduledRun ++
    [⟨5, .revokeByOwner 7 1⟩, ⟨6, .enqueueRevocations []⟩, ⟨7, .claim 1 (some .control) []⟩,
      ⟨8, .report 1 0 (succeeds "prepare")⟩, ⟨9, .claim 1 (some .control) []⟩]

/-- Both gates revoke, the second one after a failure. -/
theorem revocationsGoOn_sample : ∃ db, run (step sampleConfig) emptyDb
    (revokingRun ++ [⟨10, .report 1 2 failsForNow⟩, ⟨10000011, .claim 1 none []⟩,
      ⟨10000012, .report 1 2 (succeeds "")⟩]) = some db ∧ db.RevocationsGoOn := by
  obtain ⟨db, hRun⟩ := Option.isSome_iff_exists.1 (show (run (step sampleConfig) emptyDb
    (revokingRun ++ [⟨10, .report 1 2 failsForNow⟩, ⟨10000011, .claim 1 none []⟩,
      ⟨10000012, .report 1 2 (succeeds "")⟩])).isSome by decide +kernel)
  exact ⟨db, hRun, revocationsGoOn hRun (by decide +kernel)⟩

/-- A gate reports that its revoke job has failed. -/
theorem not_revocationsGoOn : ∃ es db, run (step sampleConfig) emptyDb es = some db ∧
    ¬ db.RevocationsGoOn := by
  have hRun :
      ∃ db ∈ run (step sampleConfig) emptyDb (revokingRun ++ [⟨10, .report 1 2 failsForGood⟩]),
      ∃ s ∈ db.sessions.rows, s.phase = .revoking ∧ ∃ a ∈ db.assignments.rows,
      a.sessionId = s.id ∧ a.phase ≠ .revoked ∧ ¬ db.ToRevoke a ∧ ¬ db.HasLiveRevokeJob a.id ∧
      db.now < db.now + 1 ∧
      ¬ (((db.atTime (db.now + 1)).updateGateActualState a.gateId [] (some 0)).reconcileDrift
        [a.gateId] ⟨[], []⟩).HasLiveRevokeJob a.id := by
    decide +kernel
  obtain ⟨db, hRun, s, hs, hPhase, a, ha, hMine, hRevoked, hListed, hLive, hLater, hDrift⟩ := hRun
  refine ⟨_, db, hRun, fun hGoesOn => ?_⟩
  rcases hGoesOn.goesOn s hs hPhase a ha hMine hRevoked with hOk | hOk | hOk
  · exact hListed hOk
  · exact hLive hOk
  · exact hDrift (hOk _ [] 0 hLater)

end ProvisioningDb

end Hyperspace.Provisioning
