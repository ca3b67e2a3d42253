import Hyperspace.Foundations.Runs
import Hyperspace.Provisioning.CellEvents

/-!
# What holds of every cell

Facts about the rows of a session that no step breaks: its jobs are its own, a session is on its
way down exactly when it is to be revoked, a session that has been placed has a plan and
assignments, and a job is not finished in the transaction that creates it.
-/

namespace Hyperspace.Provisioning

open Hyperspace.Billing (AccountId SessionId Timestamp)
open Hyperspace.ControlPlane Hyperspace.Foundations

variable {config : SessionReconcileConfig} {id : AssignmentId} {c c' : Cell}

/-! ### Jobs -/

namespace Cell

variable {operation : ApplyOperation} {j k : Job}

theorem insertApply_cases :
    ((c.LiveApply operation ∨ c.CarriedOut operation) ∧ c.insertApply operation j = c) ∨
      c.insertApply operation j = c.addJob j := by
  by_cases hBlocked : c.LiveApply operation ∨ c.CarriedOut operation
  · exact .inl ⟨hBlocked, if_pos hBlocked⟩
  · exact .inr (if_neg hBlocked)

theorem insertRevoke_cases :
    ((c.LiveRevoke ∨ c.RevokedSinceUpdate) ∧ c.insertRevoke j = c) ∨
      c.insertRevoke j = c.addJob j := by
  by_cases hBlocked : c.LiveRevoke ∨ c.RevokedSinceUpdate
  · exact .inl ⟨hBlocked, if_pos hBlocked⟩
  · exact .inr (if_neg hBlocked)

@[simp] theorem insertApply_now : (c.insertApply operation j).now = c.now := by
  rw [insertApply]
  split <;> rfl

@[simp] theorem insertApply_session : (c.insertApply operation j).session = c.session := by
  rw [insertApply]
  split <;> rfl

@[simp] theorem insertApply_address : (c.insertApply operation j).address = c.address := by
  rw [insertApply]
  split <;> rfl

@[simp] theorem insertApply_plan : (c.insertApply operation j).plan = c.plan := by
  rw [insertApply]
  split <;> rfl

@[simp] theorem insertApply_assignment :
    (c.insertApply operation j).assignment = c.assignment := by
  rw [insertApply]
  split <;> rfl

theorem mem_insertApply (h : k ∈ (c.insertApply operation j).jobs) : k ∈ c.jobs ∨ k = j := by
  rcases @insertApply_cases c operation j with ⟨-, hEq⟩ | hEq
  · rw [hEq] at h
    exact .inl h
  · rw [hEq] at h
    simpa [addJob] using h

theorem mem_insertApply_of_mem (h : k ∈ c.jobs) : k ∈ (c.insertApply operation j).jobs := by
  rcases @insertApply_cases c operation j with ⟨-, hEq⟩ | hEq
  · rw [hEq]
    exact h
  · rw [hEq]
    exact List.mem_append_left _ h

@[simp] theorem insertRevoke_now : (c.insertRevoke j).now = c.now := by
  rw [insertRevoke]
  split <;> rfl

@[simp] theorem insertRevoke_session : (c.insertRevoke j).session = c.session := by
  rw [insertRevoke]
  split <;> rfl

@[simp] theorem insertRevoke_address : (c.insertRevoke j).address = c.address := by
  rw [insertRevoke]
  split <;> rfl

@[simp] theorem insertRevoke_plan : (c.insertRevoke j).plan = c.plan := by
  rw [insertRevoke]
  split <;> rfl

@[simp] theorem insertRevoke_assignment : (c.insertRevoke j).assignment = c.assignment := by
  rw [insertRevoke]
  split <;> rfl

theorem mem_insertRevoke (h : k ∈ (c.insertRevoke j).jobs) : k ∈ c.jobs ∨ k = j := by
  rcases @insertRevoke_cases c j with ⟨-, hEq⟩ | hEq
  · rw [hEq] at h
    exact .inl h
  · rw [hEq] at h
    simpa [addJob] using h

theorem mem_insertRevoke_of_mem (h : k ∈ c.jobs) : k ∈ (c.insertRevoke j).jobs := by
  rcases @insertRevoke_cases c j with ⟨-, hEq⟩ | hEq
  · rw [hEq]
    exact h
  · rw [hEq]
    exact List.mem_append_left _ h

theorem mem_updateJob {jobId : JobId} {f : Job → Job} (h : k ∈ (c.updateJob jobId f).jobs) :
    ∃ j ∈ c.jobs, (j.id = jobId ∧ k = f j) ∨ (j.id ≠ jobId ∧ k = j) := by
  obtain ⟨j, hj, rfl⟩ := List.mem_map.1 h
  refine ⟨j, hj, ?_⟩
  by_cases hId : j.id = jobId
  · exact .inl ⟨hId, if_pos hId⟩
  · exact .inr ⟨hId, if_neg hId⟩

section

variable {s : Session} {gateId : GateId} {draw : TunnelDraw} {address : ClientAddress} {n : JobId}

theorem schedule_now : (c.schedule config id s gateId draw address n).now = c.now :=
  insertApply_now

theorem schedule_session :
    (c.schedule config id s gateId draw address n).session =
      c.session.map (·.setPhase c.now .provisioning (some s.generation)) :=
  congrArg (Option.map _) insertApply_session

theorem schedule_address :
    (c.schedule config id s gateId draw address n).address = some address :=
  insertApply_address

theorem schedule_plan :
    (c.schedule config id s gateId draw address n).plan =
      let plan := renderWireGuardPlan config s draw address
      Function.update c.plan s.generation
        (some ((c.plan s.generation).elim plan plan.overwrite)) :=
  insertApply_plan

theorem schedule_assignment :
    (c.schedule config id s gateId draw address n).assignment =
      some (c.assignment.elim (.create c.now id.1 gateId id.2 (s.id, s.generation))
        (·.recreate c.now gateId (s.id, s.generation))) :=
  insertApply_assignment

theorem schedule_assignment_eq_some {a' : GateAssignment}
    (h : (c.schedule config id s gateId draw address n).assignment = some a') :
    a' = .create c.now id.1 gateId id.2 (s.id, s.generation) ∨
      ∃ a, c.assignment = some a ∧ a' = a.recreate c.now gateId (s.id, s.generation) := by
  rw [schedule_assignment] at h
  cases hOld : c.assignment with
  | none =>
      rw [hOld] at h
      exact .inl (Option.some.inj h).symm
  | some a =>
      rw [hOld] at h
      exact .inr ⟨a, rfl, (Option.some.inj h).symm⟩

theorem mem_schedule (h : k ∈ (c.schedule config id s gateId draw address n).jobs) :
    k ∈ c.jobs ∨ k = .createApply c.now id gateId .prepare (s.id, s.generation) n := by
  rcases mem_insertApply h with hOld | hNew
  · exact .inl hOld
  · exact .inr hNew

theorem repair_now : (c.repair id s gateId n).now = c.now := insertApply_now

theorem repair_session : (c.repair id s gateId n).session = c.session := insertApply_session

theorem repair_address : (c.repair id s gateId n).address = c.address := insertApply_address

theorem repair_plan : (c.repair id s gateId n).plan = c.plan := insertApply_plan

theorem repair_assignment : (c.repair id s gateId n).assignment = c.assignment :=
  insertApply_assignment

theorem mem_repair (h : k ∈ (c.repair id s gateId n).jobs) :
    k ∈ c.jobs ∨ k = .createApply c.now id gateId .commit (s.id, s.generation) n :=
  mem_insertApply h

theorem commit_now : (c.commit id s gateId n).now = c.now := repair_now

theorem commit_session :
    (c.commit id s gateId n).session = c.session.map (·.touch c.now) :=
  congrArg (Option.map _) repair_session

theorem commit_address : (c.commit id s gateId n).address = c.address := repair_address

theorem commit_plan : (c.commit id s gateId n).plan = c.plan := repair_plan

theorem commit_assignment :
    (c.commit id s gateId n).assignment = c.assignment.map (·.queueForCommit c.now) :=
  congrArg (Option.map _) repair_assignment

theorem mem_commit (h : k ∈ (c.commit id s gateId n).jobs) :
    k ∈ c.jobs ∨ k = .createApply c.now id gateId .commit (s.id, s.generation) n :=
  mem_repair h

theorem revoke_now : (c.revoke id gateId n).now = c.now := insertRevoke_now

theorem revoke_session : (c.revoke id gateId n).session = c.session := insertRevoke_session

theorem revoke_address : (c.revoke id gateId n).address = c.address := insertRevoke_address

theorem revoke_plan : (c.revoke id gateId n).plan = c.plan := insertRevoke_plan

theorem revoke_assignment :
    (c.revoke id gateId n).assignment = c.assignment.map (·.requestRevocation c.now) :=
  insertRevoke_assignment

theorem mem_revoke (h : k ∈ (c.revoke id gateId n).jobs) :
    k ∈ c.jobs ∨ k = .createRevoke c.now id gateId n := by
  rcases mem_insertRevoke h with hOld | hNew
  · exact .inl hOld
  · exact .inr hNew

end

end Cell

theorem Job.requeueExpired_isLive {now : Timestamp} {j : Job} :
    (j.requeueExpired now).phase.isLive = j.phase.isLive := by
  rw [requeueExpired]
  split
  · rename_i hExpired
    cases hPhase : j.phase <;> simp_all [JobPhase.isLive, JobPhase.isLeased]
  · rfl

theorem Job.requeueExpired_succeeded {now : Timestamp} {j : Job}
    (h : (j.requeueExpired now).phase = .succeeded) : j.phase = .succeeded := by
  rw [requeueExpired] at h
  split at h
  · cases h
  · exact h

/-- A pass does not finish a job, and takes none away that is not finished unless it deletes the
session. -/
theorem CellPass.live_job (h : CellPass id c c') {j : Job} (hj : j ∈ c.jobs)
    (hLive : j.phase.isLive) :
    (∃ j' ∈ c'.jobs, j.Kept j' ∧ j'.phase.isLive) ∨
      (c'.session = none ∧ c'.address = none ∧ c'.assignment = none ∧ c'.jobs = []) := by
  have hSame : ∀ {c' : Cell}, j ∈ c'.jobs → ∃ j' ∈ c'.jobs, j.Kept j' ∧ j'.phase.isLive :=
    fun hMem => ⟨j, hMem, .refl, hLive⟩
  cases h with
  | deleted => exact .inr ⟨rfl, rfl, rfl, rfl⟩
  | created | moved | drifted => exact .inl (hSame hj)
  | committed | repaired => exact .inl (hSame (Cell.mem_insertApply_of_mem hj))
  | revocationEnqueued | orphanCleaned => exact .inl (hSame (Cell.mem_insertRevoke_of_mem hj))
  | requeued =>
      refine .inl ⟨_, List.mem_map_of_mem hj, keepsOwner_requeueExpired j, ?_⟩
      rw [Job.requeueExpired_isLive]
      exact hLive
  | archived keep old =>
      refine .inl (hSame (List.mem_filter.2 ⟨hj, ?_⟩))
      cases hKeep : keep j with
      | true => rfl
      | false =>
          rcases (old j hj hKeep).1 with hPhase | hPhase <;>
            simp [hPhase, JobPhase.isLive] at hLive

/-- The jobs after a pass are jobs from before it and at most one new job in the queue. -/
theorem CellPass.mem_jobs (h : CellPass id c c') {j' : Job} (hj : j' ∈ c'.jobs) :
    (∃ j ∈ c.jobs, j.Kept j' ∧ j'.phase.isLive = j.phase.isLive ∧
      (j'.phase = .succeeded → j.phase = .succeeded)) ∨
      (∃ s a n, c.session = some s ∧ c.assignment = some a ∧ s.phase.isPlaced ∧
        (c.plan s.generation).isSome ∧
        j' = .createApply c.now id a.gateId .commit (s.id, s.generation) n) ∨
      ∃ a n, c.assignment = some a ∧ j' = .createRevoke c.now id a.gateId n := by
  have hSame : ∀ {j : Job}, j ∈ c.jobs → ∃ k ∈ c.jobs, k.Kept j ∧ j.phase.isLive = k.phase.isLive ∧
      (j.phase = .succeeded → k.phase = .succeeded) := fun {j} hj => ⟨j, hj, .refl, rfl, fun h => h⟩
  cases h with
  | deleted => cases hj
  | created | moved | drifted => exact .inl (hSame hj)
  | committed s a n session phase plan assignment prepared =>
      rcases Cell.mem_commit hj with hOld | rfl
      · exact .inl (hSame hOld)
      · exact .inr (.inl ⟨s, a, n, session, assignment, by rw [phase]; rfl, plan, rfl⟩)
  | repaired s a n session desired placed plan assignment =>
      rcases Cell.mem_repair hj with hOld | rfl
      · exact .inl (hSame hOld)
      · exact .inr (.inl ⟨s, a, n, session, assignment, placed, plan, rfl⟩)
  | revocationEnqueued s a n session desired assignment =>
      rcases Cell.mem_revoke hj with hOld | rfl
      · exact .inl (hSame hOld)
      · exact .inr (.inr ⟨a, n, assignment, rfl⟩)
  | orphanCleaned a n assignment known =>
      rcases Cell.mem_revoke hj with hOld | rfl
      · exact .inl (hSame hOld)
      · exact .inr (.inr ⟨a, n, assignment, rfl⟩)
  | requeued =>
      obtain ⟨k, hk, rfl⟩ := List.mem_map.1 hj
      exact .inl ⟨k, hk, keepsOwner_requeueExpired k, Job.requeueExpired_isLive,
        Job.requeueExpired_succeeded⟩
  | archived => exact .inl (hSame (List.mem_filter.1 hj).1)

/-! ### Rows -/

theorem CellPass.now (h : CellPass id c c') : c'.now = c.now := by
  cases h with
  | created | deleted | moved | drifted | requeued | archived => rfl
  | committed => exact Cell.commit_now
  | repaired => exact Cell.repair_now
  | revocationEnqueued | orphanCleaned => exact Cell.revoke_now

theorem CellPass.mem_session (h : CellPass id c c') {s' : Session} (hs : c'.session = some s') :
    (c.session = none ∧ ∃ accountId clientProtocol configGrant, ∃ awaitsPayment : Bool,
      s' = .create c.now id.1 accountId clientProtocol
        (if awaitsPayment then .paymentPending else .requested) configGrant) ∨
      ∃ s, c.session = some s ∧ (s' = s ∨ s' = s.touch c.now ∨ SessionMove c.now s s') := by
  have hSame : ∀ {session : Option Session}, session = some s' → c.session = session →
      ∃ s, c.session = some s ∧ (s' = s ∨ s' = s.touch c.now ∨ SessionMove c.now s s') :=
    fun h' hEq => ⟨s', hEq.trans h', .inl rfl⟩
  cases h with
  | created accountId clientProtocol awaitsPayment configGrant missing =>
      cases hs
      exact .inl ⟨missing, accountId, clientProtocol, configGrant, awaitsPayment, rfl⟩
  | deleted => cases hs
  | moved s t session move =>
      cases hs
      exact .inr ⟨s, session, .inr (.inr move)⟩
  | committed s a n session phase plan assignment prepared =>
      rw [Cell.commit_session, session] at hs
      cases hs
      exact .inr ⟨s, session, .inr (.inl rfl)⟩
  | repaired => exact .inr (hSame hs Cell.repair_session.symm)
  | revocationEnqueued | orphanCleaned => exact .inr (hSame hs Cell.revoke_session.symm)
  | drifted | requeued | archived => exact .inr (hSame hs rfl)

/-- The assignment of the cell is one that passes revoke. -/
def Cell.Revocable (c : Cell) (a : GateAssignment) : Prop :=
  (∃ s ∈ c.session, s.desiredState = .revoked) ∨ a.desiredState = .revoked ∨
    a.phase = .revoking ∨ a.phase = .revoked ∨ a.phase = .dead

theorem CellPass.mem_assignment (h : CellPass id c c') {a' : GateAssignment}
    (ha : c'.assignment = some a') :
    ∃ a, c.assignment = some a ∧
      (a' = a ∨ (a.phase = .prepared ∧ a' = a.setPhase c.now .queued) ∨
        ((∃ n, c' = c.revoke id a.gateId n) ∧ c.Revocable a ∧ a' = a.requestRevocation c.now) ∨
        (a.desiredState = .applied ∧ a.phase = .applied ∧ a' = a.setPhase c.now .drifted)) := by
  cases h with
  | created | moved | requeued | archived => exact ⟨a', ha, .inl rfl⟩
  | deleted => cases ha
  | committed s a n session phase plan assignment prepared =>
      rw [Cell.commit_assignment, assignment] at ha
      cases ha
      exact ⟨a, assignment, .inr (.inl ⟨prepared, if_pos prepared⟩)⟩
  | repaired => exact ⟨a', Cell.repair_assignment.symm.trans ha, .inl rfl⟩
  | revocationEnqueued s a n session desired assignment =>
      rw [Cell.revoke_assignment, assignment] at ha
      cases ha
      exact ⟨a, assignment, .inr (.inr (.inl ⟨⟨n, rfl⟩, .inl ⟨s, session, desired⟩, rfl⟩))⟩
  | orphanCleaned a n assignment known =>
      rw [Cell.revoke_assignment, assignment] at ha
      cases ha
      exact ⟨a, assignment, .inr (.inr (.inl ⟨⟨n, rfl⟩, .inr known, rfl⟩))⟩
  | drifted a assignment desired applied =>
      rw [Cell.updateAssignment, assignment] at ha
      cases ha
      exact ⟨a, assignment, .inr (.inr (.inr ⟨desired, applied, rfl⟩))⟩

theorem CellPass.rows_kept (h : CellPass id c c') :
    ((∀ generation, (c.plan generation).isSome → (c'.plan generation).isSome) ∧
      (c.assignment.isSome → c'.assignment.isSome) ∧ (c.session.isSome → c'.session.isSome)) ∨
      (c'.session = none ∧ c'.address = none ∧ c'.assignment = none ∧ c'.jobs = []) := by
  cases h with
  | deleted => exact .inr ⟨rfl, rfl, rfl, rfl⟩
  | created | moved => exact .inl ⟨fun _ h => h, fun h => h, fun _ => rfl⟩
  | requeued | archived => exact .inl ⟨fun _ h => h, fun h => h, fun h => h⟩
  | drifted a assignment =>
      exact .inl ⟨fun _ h => h, fun h => by simpa [Cell.updateAssignment] using h, fun h => h⟩
  | committed s a n session phase plan assignment prepared =>
      rw [Cell.commit_plan, Cell.commit_assignment, Cell.commit_session, session, assignment]
      exact .inl ⟨fun _ h => h, fun _ => rfl, fun _ => rfl⟩
  | repaired =>
      rw [Cell.repair_plan, Cell.repair_assignment, Cell.repair_session]
      exact .inl ⟨fun _ h => h, fun h => h, fun h => h⟩
  | revocationEnqueued s a n session desired assignment =>
      rw [Cell.revoke_plan, Cell.revoke_assignment, Cell.revoke_session, assignment]
      exact .inl ⟨fun _ h => h, fun _ => rfl, fun h => h⟩
  | orphanCleaned a n assignment known =>
      rw [Cell.revoke_plan, Cell.revoke_assignment, Cell.revoke_session, assignment]
      exact .inl ⟨fun _ h => h, fun _ => rfl, fun h => h⟩

/-! ### Sound cells -/

/-- What holds of every cell. -/
structure Cell.Sound (id : AssignmentId) (c : Cell) : Prop where
  jobSession : ∀ j ∈ c.jobs, j.sessionId = some id.1
  jobType : ∀ j ∈ c.jobs,
    (j.type = .applyAssignment ∧ ∃ operation, j.operation = some operation) ∨
      j.type = .revokeAssignment
  dated : ∀ j ∈ c.jobs, j.createdAt ≤ c.now ∧ (j.phase = .succeeded → j.createdAt < c.now)
  sessionId : ∀ s ∈ c.session, s.id = id.1
  noSession : c.session = none → c.address = none ∧ c.assignment = none
  noAssignment : c.assignment = none → c.jobs = []
  desired : ∀ s ∈ c.session,
    s.desiredState = .revoked ↔ s.phase = .revoking ∨ s.phase = .revoked
  placed : ∀ s ∈ c.session, s.phase.isPlaced →
    (c.plan s.generation).isSome ∧ c.assignment.isSome
  appliedAt : ∀ a ∈ c.assignment, a.phase = .applied ∨ a.phase = .drifted → a.appliedAt.isSome

theorem Cell.Sound.exists_assignment {j : Job} (hSound : c.Sound id) (hj : j ∈ c.jobs) :
    ∃ a, c.assignment = some a := by
  cases ha : c.assignment with
  | none => simp [hSound.noAssignment ha] at hj
  | some a => exact ⟨a, rfl⟩

theorem SessionMove.id_eq {now : Timestamp} {s s' : Session} (h : SessionMove now s s') :
    s'.id = s.id := by
  cases h <;> rfl

theorem SessionMove.desired_iff {now : Timestamp} {s s' : Session} (h : SessionMove now s s')
    (hDesired : s.desiredState = .revoked ↔ s.phase = .revoking ∨ s.phase = .revoked) :
    s'.desiredState = .revoked ↔ s'.phase = .revoking ∨ s'.phase = .revoked := by
  cases h with
  | revocationRequested =>
      by_cases hRevoked : s.phase = .revoked <;>
        simp [Session.setDesiredState, Session.setPhase, requestRevocationPhase, hRevoked]
  | hidden | consumed | exhausted | adjusted | entitled => exact hDesired
  | reactivated => simp [Session.setDesiredState, Session.setPhase, Session.setEntitlement]
  | paid trafficLimitBytes pending =>
      simp_all [Session.setPhase, Session.entitle]
  | revocationBegun desired => simp [Session.setPhase, desired]
  | probing desired | probed desired | unplaced desired => simp [Session.setPhase, desired]

theorem CellPass.rows_of_noSession (h : CellPass id c c') (hSession : c'.session = none)
    (hSound : c.Sound id) : c'.address = none ∧ c'.assignment = none := by
  rcases h.rows_kept with ⟨-, -, hKept⟩ | ⟨-, hAddress, hAssignment, -⟩
  · have hNone : c.session = none := by
      cases hOld : c.session with
      | none => rfl
      | some s =>
          have hSome := hKept (by rw [hOld]; rfl)
          rw [hSession] at hSome
          cases hSome
    obtain ⟨hAddress, hAssignment⟩ := hSound.noSession hNone
    cases h with
    | created => cases hSession
    | deleted => exact ⟨rfl, rfl⟩
    | requeued | archived => exact ⟨hAddress, hAssignment⟩
    | moved s t session | committed s a n session | repaired s a n session
    | revocationEnqueued s a n session => simp [hNone] at session
    | orphanCleaned a n assignment | drifted a assignment => simp [hAssignment] at assignment
  · exact ⟨hAddress, hAssignment⟩

theorem Cell.Sound.pass (hSound : c.Sound id) (h : CellPass id c c') : c'.Sound id where
  jobSession := by
    intro j' hj'
    rcases h.mem_jobs hj' with ⟨j, hj, hKept, -⟩ | ⟨s, a, n, -, -, -, -, rfl⟩ | ⟨a, n, -, rfl⟩
    · exact hKept.sessionId.trans (hSound.jobSession j hj)
    · rfl
    · rfl
  jobType := by
    intro j' hj'
    rcases h.mem_jobs hj' with ⟨j, hj, hKept, -⟩ | ⟨s, a, n, -, -, -, -, rfl⟩ | ⟨a, n, -, rfl⟩
    · rw [hKept.type, hKept.operation]
      exact hSound.jobType j hj
    · exact .inl ⟨rfl, .commit, rfl⟩
    · exact .inr rfl
  dated := by
    intro j' hj'
    rw [h.now]
    rcases h.mem_jobs hj' with ⟨j, hj, hKept, -, hSucceeded⟩ | ⟨s, a, n, -, -, -, -, rfl⟩ |
      ⟨a, n, -, rfl⟩
    · rw [hKept.createdAt]
      exact ⟨(hSound.dated j hj).1, fun hDone => (hSound.dated j hj).2 (hSucceeded hDone)⟩
    · exact ⟨le_refl _, fun hDone => by cases hDone⟩
    · exact ⟨le_refl _, fun hDone => by cases hDone⟩
  sessionId := by
    intro s' hs'
    rcases h.mem_session hs' with ⟨-, _, _, _, _, rfl⟩ | ⟨s, hs, rfl | rfl | hMove⟩
    · rfl
    · exact hSound.sessionId _ hs
    · exact hSound.sessionId s hs
    · exact hMove.id_eq.trans (hSound.sessionId s hs)
  noSession := fun hNone => h.rows_of_noSession hNone hSound
  noAssignment := by
    intro hNone
    rcases h.rows_kept with ⟨-, hKept, -⟩ | ⟨-, -, -, hJobs⟩
    · have hOld : c.assignment = none := by
        cases hOld : c.assignment with
        | none => rfl
        | some a =>
            have hSome := hKept (by rw [hOld]; rfl)
            rw [hNone] at hSome
            cases hSome
      refine List.eq_nil_iff_forall_not_mem.2 fun j' hj' => ?_
      rcases h.mem_jobs hj' with ⟨j, hj, -⟩ | ⟨s, a, n, -, ha, -⟩ | ⟨a, n, ha, -⟩
      · simp [hSound.noAssignment hOld] at hj
      · simp [hOld] at ha
      · simp [hOld] at ha
    · exact hJobs
  desired := by
    intro s' hs'
    rcases h.mem_session hs' with ⟨-, _, _, configGrant, awaitsPayment, rfl⟩ |
      ⟨s, hs, rfl | rfl | hMove⟩
    · cases configGrant <;> cases awaitsPayment <;> simp [Session.create]
    · exact hSound.desired _ hs
    · exact hSound.desired s hs
    · exact hMove.desired_iff (hSound.desired s hs)
  placed := by
    intro s' hs' hPlaced
    have hOld : ∀ s, c.session = some s → s.phase.isPlaced → s'.generation = s.generation →
        (c'.plan s'.generation).isSome ∧ c'.assignment.isSome := by
      intro s hs hPlaced hGeneration
      obtain ⟨hPlan, hAssignment⟩ := hSound.placed s hs hPlaced
      rcases h.rows_kept with ⟨hPlans, hAssignments, -⟩ | ⟨hNone, -⟩
      · rw [hGeneration]
        exact ⟨hPlans _ hPlan, hAssignments hAssignment⟩
      · rw [hs'] at hNone
        cases hNone
    rcases h.mem_session hs' with ⟨-, _, _, configGrant, awaitsPayment, rfl⟩ |
      ⟨s, hs, rfl | rfl | hMove⟩
    · cases configGrant <;> cases awaitsPayment <;>
        simp [Session.create, SessionPhase.isPlaced] at hPlaced
    · exact hOld _ hs hPlaced rfl
    · exact hOld s hs hPlaced rfl
    · obtain ⟨hSamePhase, hGeneration, -⟩ := hMove.placed hPlaced
      exact hOld s hs (hSamePhase ▸ hPlaced) hGeneration
  appliedAt := by
    intro a' ha' hPhase
    obtain ⟨a, ha, rfl | ⟨-, rfl⟩ | ⟨-, -, rfl⟩ | ⟨-, hApplied, rfl⟩⟩ := h.mem_assignment ha'
    · exact hSound.appliedAt _ ha hPhase
    · simp [GateAssignment.setPhase] at hPhase
    · simp only [GateAssignment.requestRevocation] at hPhase
      split at hPhase <;> simp at hPhase
    · exact hSound.appliedAt a ha (.inl hApplied)

theorem Cell.Sound.modifyJobs {f : Job → Job} (hSound : c.Sound id) (hKept : KeepsOwner f)
    (hDated : ∀ j ∈ c.jobs, (f j).phase = .succeeded → j.createdAt < c.now) :
    (c.modifyJobs f).Sound id where
  jobSession := by
    intro j' hj'
    obtain ⟨j, hj, rfl⟩ := List.mem_map.1 hj'
    exact (hKept j).sessionId.trans (hSound.jobSession j hj)
  jobType := by
    intro j' hj'
    obtain ⟨j, hj, rfl⟩ := List.mem_map.1 hj'
    rw [(hKept j).type, (hKept j).operation]
    exact hSound.jobType j hj
  dated := by
    intro j' hj'
    obtain ⟨j, hj, rfl⟩ := List.mem_map.1 hj'
    rw [(hKept j).createdAt]
    exact ⟨(hSound.dated j hj).1, hDated j hj⟩
  sessionId := hSound.sessionId
  noSession := hSound.noSession
  noAssignment hNone := List.map_eq_nil_iff.2 (hSound.noAssignment hNone)
  desired := hSound.desired
  placed := hSound.placed
  appliedAt := hSound.appliedAt

theorem Cell.Sound.updateAssignment {f : GateAssignment → GateAssignment} (hSound : c.Sound id)
    (hApplied : ∀ a, ((f a).phase = .applied ∨ (f a).phase = .drifted) →
      (f a).appliedAt.isSome ∨ ((a.phase = .applied ∨ a.phase = .drifted) ∧
        (f a).appliedAt = a.appliedAt)) :
    (c.updateAssignment f).Sound id where
  jobSession := hSound.jobSession
  jobType := hSound.jobType
  dated := hSound.dated
  sessionId := hSound.sessionId
  noSession hNone := ⟨(hSound.noSession hNone).1,
    Option.map_eq_none_iff.2 (hSound.noSession hNone).2⟩
  noAssignment hNone := hSound.noAssignment (Option.map_eq_none_iff.1 hNone)
  desired := hSound.desired
  placed s hs hPlaced := ⟨(hSound.placed s hs hPlaced).1, by
    simpa [Cell.updateAssignment] using (hSound.placed s hs hPlaced).2⟩
  appliedAt := by
    intro a' ha' hPhase
    obtain ⟨a, ha, rfl⟩ := Option.map_eq_some_iff.1 ha'
    rcases hApplied a hPhase with hSome | ⟨hOld, hSame⟩
    · exact hSome
    · rw [hSame]
      exact hSound.appliedAt a ha hOld

theorem Cell.Sound.updateSession {f : Session → Session} (hSound : c.Sound id)
    (hId : ∀ s, (f s).id = s.id)
    (hDesired : ∀ s, c.session = some s →
      ((f s).desiredState = .revoked ↔ (f s).phase = .revoking ∨ (f s).phase = .revoked))
    (hPlaced : ∀ s, c.session = some s → (f s).phase.isPlaced →
      s.phase.isPlaced ∧ (f s).generation = s.generation) :
    (c.updateSession f).Sound id where
  jobSession := hSound.jobSession
  jobType := hSound.jobType
  dated := hSound.dated
  sessionId := by
    intro s' hs'
    obtain ⟨s, hs, rfl⟩ := Option.map_eq_some_iff.1 hs'
    exact (hId s).trans (hSound.sessionId s hs)
  noSession hNone := hSound.noSession (Option.map_eq_none_iff.1 hNone)
  noAssignment := hSound.noAssignment
  desired := by
    intro s' hs'
    obtain ⟨s, hs, rfl⟩ := Option.map_eq_some_iff.1 hs'
    exact hDesired s hs
  placed := by
    intro s' hs' hPlaced'
    obtain ⟨s, hs, rfl⟩ := Option.map_eq_some_iff.1 hs'
    obtain ⟨hOld, hGeneration⟩ := hPlaced s hs hPlaced'
    rw [hGeneration]
    exact hSound.placed s hs hOld
  appliedAt := hSound.appliedAt

theorem Cell.Sound.withoutAddress (hSound : c.Sound id) : { c with address := none }.Sound id :=
  { hSound with noSession := fun hNone => ⟨rfl, (hSound.noSession hNone).2⟩ }

theorem keepsOwner_updateJob {f : Job → Job} (hKept : KeepsOwner f) {jobId : JobId} :
    KeepsOwner fun j => if j.id = jobId then f j else j := by
  intro j
  dsimp only
  split
  · exact hKept j
  · exact .refl

theorem Cell.Sound.claim {j : Job} (hSound : c.Sound id) : (c.claim j).Sound id := by
  refine (hSound.modifyJobs (keepsOwner_updateJob keepsOwner_lease)
    fun k hk hDone => ?_).updateAssignment fun a hPhase => ?_
  · split at hDone
    · cases hDone
    · exact (hSound.dated k hk).2 hDone
  · simp only [GateAssignment.setPhase, leasedAssignmentTransition] at hPhase ⊢
    split at hPhase
    · exact .inr ⟨hPhase, trivial⟩
    · split at hPhase <;> simp at hPhase

theorem Cell.Sound.record {j : Job} {report : GateJobReport} (hSound : c.Sound id)
    (hTicked : ∀ j ∈ c.jobs, j.createdAt < c.now) : (c.record j report).Sound id := by
  refine (hSound.modifyJobs (keepsOwner_updateJob keepsOwner_recordOutcome)
    fun k hk _ => hTicked k hk).updateAssignment fun a hPhase => ?_
  rw [GateAssignment.progress] at hPhase ⊢
  split
  · split
    · rename_i hApply hPrepare
      simp [hApply, hPrepare, GateAssignment.markPrepared] at hPhase
    · exact .inl rfl
  · split
    · rename_i hApply hRevoke
      rw [if_neg hApply, if_pos hRevoke] at hPhase
      simp [GateAssignment.markRevoked] at hPhase
    · rename_i hApply hRevoke
      rw [if_neg hApply, if_neg hRevoke] at hPhase
      simp only [GateAssignment.setPhase, failedFromReportTransition] at hPhase
      split at hPhase <;> simp at hPhase

theorem Cell.Sound.schedule {s : Session} {gateId : GateId} {draw : TunnelDraw}
    {address : ClientAddress} {n : JobId} (hSound : c.Sound id) (hSession : c.session = some s)
    (hDesired : s.desiredState = .active) :
    (c.schedule config id s gateId draw address n).Sound id where
  jobSession := by
    intro j hj
    rcases Cell.mem_schedule hj with hOld | rfl
    · exact hSound.jobSession j hOld
    · rfl
  jobType := by
    intro j hj
    rcases Cell.mem_schedule hj with hOld | rfl
    · exact hSound.jobType j hOld
    · exact .inl ⟨rfl, .prepare, rfl⟩
  dated := by
    intro j hj
    rw [Cell.schedule_now]
    rcases Cell.mem_schedule hj with hOld | rfl
    · exact hSound.dated j hOld
    · exact ⟨le_refl _, fun hDone => by cases hDone⟩
  sessionId := by
    intro s' hs'
    rw [Option.mem_def, Cell.schedule_session, hSession] at hs'
    cases hs'
    exact hSound.sessionId s hSession
  noSession hNone := by
    rw [Cell.schedule_session, hSession] at hNone
    cases hNone
  noAssignment hNone := by
    rw [Cell.schedule_assignment] at hNone
    cases hNone
  desired := by
    intro s' hs'
    rw [Option.mem_def, Cell.schedule_session, hSession] at hs'
    cases hs'
    simp [Session.setPhase, hDesired]
  placed := by
    intro s' hs' _
    rw [Option.mem_def, Cell.schedule_session, hSession] at hs'
    cases hs'
    rw [Cell.schedule_plan, Cell.schedule_assignment]
    refine ⟨?_, rfl⟩
    simp [Session.setPhase]
  appliedAt := by
    intro a' ha' hPhase
    rcases Cell.schedule_assignment_eq_some ha' with rfl | ⟨a, ha, rfl⟩
    · simp [GateAssignment.create] at hPhase
    · refine hSound.appliedAt a ha ?_
      simp only [GateAssignment.recreate] at hPhase
      split at hPhase <;> simp_all

theorem Cell.Sound.updateEntitlement {s : Session} {f : TrafficEntitlement → TrafficEntitlement}
    (hSound : c.Sound id) (hSession : c.session = some s) :
    { c with session := some (s.setEntitlement f) }.Sound id := by
  have hCell : { c with session := some (s.setEntitlement f) } =
      c.updateSession (·.setEntitlement f) := by
    rw [Cell.updateSession, hSession]
    rfl
  rw [hCell]
  exact hSound.updateSession (fun _ => rfl) (fun t ht => hSound.desired t ht)
    fun _ _ hPlaced => ⟨hPlaced, rfl⟩

theorem Cell.Sound.activate {s : Session} (hSound : c.Sound id) (hSession : c.session = some s)
    (hPhase : s.phase = .provisioning) : c.activate.Sound id := by
  refine hSound.updateSession (fun _ => rfl) (fun t ht => ?_) fun t ht _ => ?_
  · rw [hSession] at ht
    cases ht
    simpa [Session.setPhase, hPhase] using hSound.desired s hSession
  · rw [hSession] at ht
    cases ht
    rw [hPhase]
    exact ⟨rfl, rfl⟩

theorem Cell.Sound.failTimedOut {s : Session} (hSound : c.Sound id) (hSession : c.session = some s)
    (hPhase : s.phase = .provisioning) : c.failTimedOut.Sound id := by
  have hJobs : (c.modifyJobs (·.failApply c.now)).Sound id := by
    refine hSound.modifyJobs keepsOwner_failApply fun j hj hDone => ?_
    rw [Job.failApply] at hDone
    split at hDone
    · cases hDone
    · exact (hSound.dated j hj).2 hDone
  have hAssignment : ((c.modifyJobs (·.failApply c.now)).updateAssignment
      (·.failPending c.now)).Sound id := by
    refine hJobs.updateAssignment fun a hApplied => ?_
    rw [GateAssignment.failPending] at hApplied ⊢
    split
    · rename_i hPending
      simp [hPending, GateAssignment.setPhase] at hApplied
    · rename_i hPending
      rw [if_neg hPending] at hApplied
      exact .inr ⟨hApplied, rfl⟩
  refine (hAssignment.updateSession (f := (·.setPhase c.now .failed none)) (fun _ => rfl)
    (fun t ht => ?_) fun t ht hPlaced => ?_).withoutAddress
  · have hSame : s = t := Option.some.inj (hSession.symm.trans ht)
    simpa [Session.setPhase, ← hSame, hPhase] using hSound.desired s hSession
  · simp [Session.setPhase, SessionPhase.isPlaced] at hPlaced

theorem Cell.Sound.completeRevoked {s : Session} (hSound : c.Sound id)
    (hSession : c.session = some s) (hPhase : s.phase = .revoking) :
    c.completeRevoked.Sound id := by
  refine (hSound.updateSession (f := fun s => s.setPhase c.now .revoked (some s.generation))
    (fun _ => rfl) (fun t ht => ?_) fun t ht hPlaced => ?_).withoutAddress
  · have hSame : s = t := Option.some.inj (hSession.symm.trans ht)
    simpa [Session.setPhase, ← hSame, hPhase] using hSound.desired s hSession
  · simp [Session.setPhase, SessionPhase.isPlaced] at hPlaced

theorem CellPasses.invariant {Inv : Cell → Prop}
    (preserved : ∀ c c', c.Sound id → Inv c → CellPass id c c' → Inv c')
    (h : CellPasses id c c') (hSound : c.Sound id) (hInv : Inv c) : Inv c' := by
  have hBoth : c'.Sound id ∧ Inv c' := by
    induction h with
    | refl => exact ⟨hSound, hInv⟩
    | tail _ hPass ih => exact ⟨ih.1.pass hPass, preserved _ _ ih.1 ih.2 hPass⟩
  exact hBoth.2

theorem CellPasses.sound (h : CellPasses id c c') (hSound : c.Sound id) : c'.Sound id := by
  induction h with
  | refl => exact hSound
  | tail _ hPass ih => exact ih.pass hPass

theorem ProvisioningDb.CellChange.sound {db : ProvisioningDb} {action : Action}
    (h : db.CellChange config id action c) (hSound : (db.cell id).Sound id)
    (hTicked : ∀ j ∈ (db.cell id).jobs, j.createdAt < db.now) : c.Sound id := by
  cases h with
  | passed _ _ passes => exact CellPasses.sound passes hSound
  | exhaustedHidden locked s found session =>
      exact hSound.updateEntitlement session
  | claimed => exact hSound.claim
  | reported => exact hSound.record hTicked
  | scheduled outcome locked s gateId draw address n session desired =>
      exact hSound.schedule session desired
  | activated locked s listed session phase => exact hSound.activate session phase
  | timedOut locked s listed session phase => exact hSound.failTimedOut session phase
  | revoked locked s listed session ready => exact hSound.completeRevoked session ready.1

/-! ### Runs -/

theorem Cell.Sound.tick {now : Timestamp} (hSound : c.Sound id) (hNow : c.now < now) :
    { c with now := now }.Sound id ∧ ∀ j ∈ c.jobs, j.createdAt < now :=
  ⟨{ hSound with
      dated := fun j hj => ⟨((hSound.dated j hj).1.trans hNow.le), fun _ =>
        (hSound.dated j hj).1.trans_lt hNow⟩ },
    fun j hj => (hSound.dated j hj).1.trans_lt hNow⟩

namespace ProvisioningDb

variable {db db' : ProvisioningDb} {e : Event} {es : List Event}

/-- The state that a transaction finds. -/
def atTime (db : ProvisioningDb) (now : Timestamp) : ProvisioningDb := { db with now := now }

/-- A state in which a transaction starts, as far as one cell can tell. -/
structure Ticked (db : ProvisioningDb) (id : AssignmentId) : Prop where
  sound : (db.cell id).Sound id
  earlier : ∀ j ∈ (db.cell id).jobs, j.createdAt < db.now

theorem step_eq_some (h : step config db e = some db') :
    db.now < e.now ∧ db' = (db.atTime e.now).perform config e.action := by
  rw [step] at h
  split at h
  · rename_i hNow
    cases h
    exact ⟨hNow, rfl⟩
  · cases h

theorem Ticked.of_sound (hSound : (db.cell id).Sound id) {now : Timestamp} (hNow : db.now < now) :
    (db.atTime now).Ticked id :=
  ⟨(hSound.tick hNow).1, (hSound.tick hNow).2⟩

/-- A step is a change of each cell from the state that its transaction finds. -/
theorem cellChange_step (hSound : (db.cell id).Sound id) (h : step config db e = some db') :
    (db.atTime e.now).Ticked id ∧
      CellChange config (db.atTime e.now) id e.action (db'.cell id) := by
  obtain ⟨hNow, rfl⟩ := step_eq_some h
  have hTicked := Ticked.of_sound hSound hNow
  exact ⟨hTicked, cellChange_perform hTicked.sound.jobSession⟩

theorem sound_emptyDb : (emptyDb.cell id).Sound id := by
  constructor <;> simp [emptyDb, cell, session?, assignment?, activeAddress?, Table.find?]

/-- A cell is sound in every state. -/
theorem sound_run (hSound : (db.cell id).Sound id) (hRun : run (step config) db es = some db') :
    (db'.cell id).Sound id := by
  refine @run_invariant _ _ _ (fun db => (db.cell id).Sound id) (fun db e db' hSound hStep => ?_)
    _ _ _ hSound hRun
  obtain ⟨hTicked, hChange⟩ := cellChange_step hSound hStep
  exact hChange.sound hTicked.sound hTicked.earlier

/-- What every change of a cell preserves when its transaction meets a condition holds at the end
of every run whose transactions meet it. -/
theorem run_cell {Inv : Cell → Prop} {Meets : ProvisioningDb → Action → Prop}
    (tick : ∀ c now, c.now < now → Inv c → Inv { c with now := now })
    (change : ∀ (db : ProvisioningDb) action c, db.Ticked id → Meets db action →
      Inv (db.cell id) → CellChange config db id action c → Inv c)
    (hSound : (db.cell id).Sound id) (initially : Inv (db.cell id))
    (hRun : run (step config) db es = some db')
    (hMeet : StepsMeet (step config) (fun db e => Meets (db.atTime e.now) e.action) db es) :
    Inv (db'.cell id) := by
  have hBoth : (db'.cell id).Sound id ∧ Inv (db'.cell id) := by
    refine @run_invariant_of_stepsMeet _ _ _ _ (fun db => (db.cell id).Sound id ∧ Inv (db.cell id))
      (fun db e db' hInv hMeets hStep => ?_) _ _ _ ⟨hSound, initially⟩ hRun hMeet
    obtain ⟨hTicked, hChange⟩ := cellChange_step hInv.1 hStep
    exact ⟨hChange.sound hTicked.sound hTicked.earlier,
      change _ _ _ hTicked hMeets (tick _ _ (step_eq_some hStep).1 hInv.2) hChange⟩
  exact hBoth.2

end ProvisioningDb

end Hyperspace.Provisioning
