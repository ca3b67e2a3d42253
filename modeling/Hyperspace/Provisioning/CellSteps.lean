import Hyperspace.Provisioning.CellRequests

/-!
# What a transaction does to a cell

A pass of the reconcile loop handles many rows, but of one cell it handles at most one session and
one assignment.
-/

namespace Hyperspace.Provisioning

open Hyperspace.Billing (AccountId SessionId Timestamp)
open Hyperspace.ControlPlane Hyperspace.Foundations

namespace ProvisioningDb

variable {db : ProvisioningDb} {config : SessionReconcileConfig} {id : AssignmentId}

/-! ### Passes over jobs -/

theorem passes_requeueExpiredJobLeases :
    CellPasses id (db.cell id) (db.requeueExpiredJobLeases.cell id) := by
  rw [requeueExpiredJobLeases, cell_modifyJobs keepsOwner_requeueExpired]
  exact .single .requeued

theorem passes_archiveJobs {ids : List JobId} :
    CellPasses id (db.cell id) ((db.archiveJobs ids).cell id) := by
  have hCell : (db.archiveJobs ids).cell id =
      { db.cell id with
        jobs := (db.cell id).jobs.filter fun j =>
          !(decide (j.Archivable db.now) && j.id ∈ ids) } := by
    have hRows : (db.archiveJobs ids).jobs.rows = db.jobs.rows.filter fun j =>
        !(decide (j.Archivable db.now) && j.id ∈ ids) := rfl
    simp only [cell, hRows, List.filter_filter, Bool.and_comm]
    rfl
  rw [hCell]
  refine .single (.archived _ fun j _ hDrop => ?_)
  simp only [Bool.not_eq_false', Bool.and_eq_true, decide_eq_true_eq] at hDrop
  exact hDrop.1

theorem cell_insertOtherJob {job : OtherJob} : (db.insertOtherJob job).cell id = db.cell id :=
  cell_insertJob.trans (if_neg (by simp [Job.createOther_assignmentId]))

/-! ### Passes over sessions -/

theorem passes_forEachSession {wanted : Session → Prop} [DecidablePred wanted]
    {before : Session → Session → Prop} [DecidableRel before] {limit : Nat}
    {locked : List SessionId} {body : ProvisioningDb → Session → ProvisioningDb}
    (hOther : ∀ db s, s.id ≠ id.1 → (body db s).cell id = db.cell id)
    (hMine : ∀ db' s, wanted s → s.id = id.1 → db'.session? s.id = some s →
      db'.cell id = db.cell id → CellPasses id (db'.cell id) ((body db' s).cell id)) :
    CellPasses id (db.cell id)
      (((selectForUpdate Session.id wanted before limit locked db.sessions.rows).foldl body
        db).cell id) := by
  rcases @cell_forEachSession db id wanted _ before _ limit locked body hOther with
    ⟨-, hSame⟩ | ⟨s, -, hWanted, db', hCell, hSession, hId, hEq⟩
  · rw [hSame]
  · rw [hEq, ← hCell]
    refine hMine db' s hWanted hId ?_ hCell
    rw [hId]
    exact hSession

theorem cell_updateSessionStatusPhase_of_ne {sid : SessionId} {phase : SessionPhase}
    {observed : Option Nat} (h : sid ≠ id.1) :
    (db.updateSessionStatusPhase sid phase observed).cell id = db.cell id :=
  cell_updateSession.trans (if_neg h.symm)

theorem passes_beginSessionRevocation {locked : List SessionId} :
    CellPasses id (db.cell id) ((db.beginSessionRevocation locked).cell id) := by
  refine passes_forEachSession (fun db s hOther => ?_) fun db' s hWanted _ hSession _ => ?_
  · cases beginRevokingTransition s.phase with
    | none => rfl
    | some phase => exact cell_updateSessionStatusPhase_of_ne hOther
  · cases hPhase : beginRevokingTransition s.phase with
    | none => exact .refl
    | some phase =>
        have hRevoking : phase = .revoking := by
          cases hCurrent : s.phase <;> simp_all [beginRevokingTransition]
        subst hRevoking
        refine passes_updateSession fun t ht => ?_
        rw [hSession] at ht
        cases ht
        exact .revocationBegun hWanted.1 hPhase

theorem passes_beginRequestedSessionProbing {locked : List SessionId} :
    CellPasses id (db.cell id) ((db.beginRequestedSessionProbing locked).cell id) := by
  refine passes_forEachSession (fun db s => cell_updateSessionStatusPhase_of_ne)
    fun db' s hWanted _ hSession _ => passes_updateSession fun t ht => ?_
  rw [hSession] at ht
  cases ht
  exact .probing hWanted.1 hWanted.2

theorem passes_advanceProbedSessionsToScheduling {locked : List SessionId} :
    CellPasses id (db.cell id)
      ((db.advanceProbedSessionsToScheduling locked).cell id) := by
  refine passes_forEachSession (fun db s => cell_updateSessionStatusPhase_of_ne)
    fun db' s hWanted _ hSession _ => passes_updateSession fun t ht => ?_
  rw [hSession] at ht
  cases ht
  exact .probed hWanted.1 hWanted.2

theorem cell_createAssignment_of_ne {sid : SessionId} {gateId : GateId}
    {role : GateAssignmentRole} {planId : PlanId} (h : id ≠ (sid, role)) :
    (db.createAssignment sid gateId role planId).cell id = db.cell id :=
  cell_createAssignment.trans (if_neg h)

theorem cell_insertApplyAssignmentJob_of_ne {input : EnqueueApplyJobInput}
    (h : id ≠ input.assignmentId) : (db.insertApplyAssignmentJob input).cell id = db.cell id :=
  cell_insertApplyAssignmentJob.trans (if_neg h)

theorem cell_provisionSession_of_ne {s : Session} {ingressGateId egressGateId : GateId}
    {draw : TunnelDraw} {clientAddress : ClientAddress} (h : s.id ≠ id.1) :
    (db.provisionSession config s ingressGateId egressGateId draw clientAddress).cell id =
      db.cell id := by
  have hRole : ∀ role, id ≠ (s.id, role) := fun role hEq => h (congrArg Prod.fst hEq).symm
  simp only [provisionSession]
  rw [cell_updateSessionStatusPhase_of_ne h, cell_insertApplyAssignmentJob_of_ne (hRole _),
    cell_insertApplyAssignmentJob_of_ne (hRole _), cell_createAssignment_of_ne (hRole _),
    cell_createAssignment_of_ne (hRole _), cell_upsertRenderedPlan]
  exact if_neg h.symm

/-- The gate that a session is given for a role. -/
def chosenGate (ingressGateId egressGateId : GateId) : GateAssignmentRole → GateId
  | .ingress => ingressGateId
  | .egress => egressGateId

theorem cell_provisionSession {s : Session} {ingressGateId egressGateId : GateId}
    {draw : TunnelDraw} {clientAddress : ClientAddress} (h : s.id = id.1) :
    ∃ n, (db.provisionSession config s ingressGateId egressGateId draw clientAddress).cell id =
      ((((db.cell id).upsertPlan
        (renderWireGuardPlan config s draw clientAddress)).createAssignment id
        (chosenGate ingressGateId egressGateId id.2) (s.id, s.generation)).insertApply .prepare
        (.createApply db.now id (chosenGate ingressGateId egressGateId id.2) .prepare
          (s.id, s.generation) n)).updateSession
        (·.setPhase db.now .provisioning (some s.generation)) := by
  obtain ⟨sid, role⟩ := id
  subst h
  simp only [provisionSession, updateSessionStatusPhase]
  let plan := renderWireGuardPlan config s draw clientAddress
  let created := ((db.upsertRenderedPlan plan).createAssignment s.id ingressGateId .ingress
    plan.id).createAssignment s.id egressGateId .egress plan.id
  have hPlanned : ∀ role, (db.upsertRenderedPlan
      (renderWireGuardPlan config s draw clientAddress)).cell (s.id, role) =
      (db.cell (s.id, role)).upsertPlan (renderWireGuardPlan config s draw clientAddress) :=
    fun role => cell_upsertRenderedPlan.trans (if_pos rfl)
  cases role with
  | ingress =>
      refine ⟨created.jobs.next, ?_⟩
      rw [cell_updateSession, if_pos rfl, cell_insertApplyAssignmentJob_of_ne (by simp),
        cell_insertApplyAssignmentJob, if_pos rfl, cell_createAssignment_of_ne (by simp),
        cell_createAssignment, if_pos rfl, hPlanned]
      simp only [now_insertApplyAssignmentJob, now_createAssignment, now_upsertRenderedPlan]
      rfl
  | egress =>
      let queued := created.insertApplyAssignmentJob
        ⟨(s.id, .ingress), ingressGateId, s.id, .prepare, plan.id⟩
      refine ⟨queued.jobs.next, ?_⟩
      rw [cell_updateSession, if_pos rfl, cell_insertApplyAssignmentJob, if_pos rfl,
        cell_insertApplyAssignmentJob_of_ne (by simp), cell_createAssignment, if_pos rfl,
        cell_createAssignment_of_ne (by simp), hPlanned]
      simp only [now_insertApplyAssignmentJob, now_createAssignment, now_upsertRenderedPlan]
      rfl

theorem cell_scheduleSession_of_ne {outcome : SessionId → PathOutcome} {s : Session}
    (h : s.id ≠ id.1) : (db.scheduleSession config outcome s).cell id = db.cell id := by
  rw [scheduleSession]
  cases outcome s.id with
  | noPath => exact cell_updateSessionStatusPhase_of_ne h
  | path ingressGateId egressGateId addresses draw =>
      dsimp only
      cases hLease : db.ensureClientAddressLease s.id addresses with
      | none => exact cell_updateSessionStatusPhase_of_ne h
      | some leased =>
          have hCell : leased.2.cell id = db.cell id :=
            (cell_ensureClientAddressLease hLease).1.trans (if_neg h.symm)
          exact (cell_provisionSession_of_ne h).trans hCell

/-- A session that is being scheduled gets its gates, an address and a plan, or fails. -/
theorem cell_scheduleSession {outcome : SessionId → PathOutcome} {s : Session}
    (hSession : db.session? s.id = some s) (hId : s.id = id.1) (hDesired : s.desiredState = .active)
    (hPhase : s.phase = .scheduling) :
    CellPasses id (db.cell id) ((db.scheduleSession config outcome s).cell id) ∨
      ∃ gateId draw address n, (∀ old ∈ (db.cell id).address, old = address) ∧
        (db.scheduleSession config outcome s).cell id =
          (db.cell id).schedule config id s gateId draw address n := by
  have hFailed : CellPasses id (db.cell id)
      ((db.updateSessionStatusPhase s.id .failed none).cell id) := by
    refine passes_updateSession fun t ht => ?_
    rw [hSession] at ht
    cases ht
    exact .unplaced hDesired hPhase
  rw [scheduleSession]
  cases outcome s.id with
  | noPath => exact .inl hFailed
  | path ingressGateId egressGateId addresses draw =>
      dsimp only
      cases hLease : db.ensureClientAddressLease s.id addresses with
      | none => exact .inl hFailed
      | some leased =>
          obtain ⟨hCell, hKept⟩ := @cell_ensureClientAddressLease db id _ _ _ _ hLease
          rw [if_pos hId.symm] at hCell
          obtain ⟨n, hProvisioned⟩ := @cell_provisionSession leased.2 config id s ingressGateId
            egressGateId draw leased.1 hId
          have hNow : leased.2.now = db.now := congrArg Cell.now hCell
          rw [hCell, hNow] at hProvisioned
          exact .inr ⟨chosenGate ingressGateId egressGateId id.2, draw, leased.1, n,
            hKept hId.symm, hProvisioned⟩

theorem cell_scheduleSessionsForProvisioning {outcome : SessionId → PathOutcome}
    {locked : List SessionId} :
    CellPasses id (db.cell id)
      ((db.scheduleSessionsForProvisioning config outcome locked).cell id) ∨
      ∃ s gateId draw address n, (db.cell id).session = some s ∧ s.desiredState = .active ∧
        s.phase = .scheduling ∧ (∀ old ∈ (db.cell id).address, old = address) ∧
        (db.scheduleSessionsForProvisioning config outcome locked).cell id =
          (db.cell id).schedule config id s gateId draw address n := by
  rcases @cell_forEachSession db id (fun s => s.desiredState = .active ∧ s.phase = .scheduling) _
    Session.CreatedBefore _ 20 locked (fun db s => db.scheduleSession config outcome s)
    fun _ _ => cell_scheduleSession_of_ne with
    ⟨-, hSame⟩ | ⟨s, -, ⟨hDesired, hPhase⟩, db', hCell, hSession, hId, hEq⟩
  · exact .inl (Eq.subst hSame.symm .refl)
  · have hFound : db'.session? s.id = some s := by
      rw [hId]
      exact hSession
    rcases @cell_scheduleSession db' config id outcome s hFound hId hDesired hPhase with
      hPasses | ⟨gateId, draw, address, n, hKept, hScheduled⟩
    · rw [hCell] at hPasses
      exact .inl (Eq.subst hEq.symm hPasses)
    · rw [hCell] at hScheduled hKept hSession
      exact .inr ⟨s, gateId, draw, address, n, hSession, hDesired, hPhase, hKept,
        hEq.trans hScheduled⟩

/-! ### Commit jobs -/

/-- Both assignments of a session in a phase are what the counting queries ask for. -/
theorem exists_of_countAssignments_eq_two {sid : SessionId} {phase : GateAssignmentPhase}
    (h : db.countAssignments sid phase = 2) (role : GateAssignmentRole) :
    ∃ a, db.assignment? (sid, role) = some a ∧ a.phase = phase := by
  rw [countAssignments] at h
  obtain ⟨a, b, hRows⟩ := List.length_eq_two.1 h
  have hNodup : ((db.assignments.rows.filter
      fun a => a.sessionId = sid && a.phase = phase).map GateAssignment.id).Nodup :=
    db.assignments.keysNodup.sublist (List.filter_sublist.map _)
  rw [hRows] at hNodup
  have hFound : ∀ r ∈ [a, b], r ∈ db.assignments.rows ∧ r.sessionId = sid ∧ r.phase = phase := by
    intro r hr
    rw [← hRows, List.mem_filter] at hr
    simpa using hr
  have hA := hFound a (by simp)
  have hB := hFound b (by simp)
  have hRoles : a.role ≠ b.role := by
    intro hEq
    simp [GateAssignment.id, hA.2.1, hB.2.1, hEq] at hNodup
  have hSome : role = a.role ∨ role = b.role := by
    cases hR : role <;> cases hRa : a.role <;> cases hRb : b.role <;> simp_all
  rcases hSome with rfl | rfl
  · refine ⟨a, Table.find?_eq_some_iff.2 ⟨hA.1, ?_⟩, hA.2.2⟩
    rw [GateAssignment.id, hA.2.1]
  · refine ⟨b, Table.find?_eq_some_iff.2 ⟨hB.1, ?_⟩, hB.2.2⟩
    rw [GateAssignment.id, hB.2.1]

/-- Where two assignments of a session are applied, both of its assignments are. -/
theorem applied_of_countAssignments {s : Session} {a : GateAssignment}
    (hApplied : db.countAssignments s.id .applied = 2) (ha : a ∈ db.assignments.rows)
    (hMine : a.sessionId = s.id) : a.phase = .applied := by
  obtain ⟨b, hb, hPhase⟩ := exists_of_countAssignments_eq_two hApplied a.role
  obtain ⟨hRow, hId⟩ := Table.find?_eq_some_iff.1 hb
  have hSame : b = a := Table.row_unique hRow ha (hId.trans (by rw [← hMine]; rfl))
  rw [← hSame]
  exact hPhase

/-- The passes that enqueue commit jobs do so for sessions with both assignments. -/
theorem commitPreparedSession_cases {s : Session} :
    db.commitPreparedSession s = db ∨ ∃ ingress egress,
      db.assignment? (s.id, .ingress) = some ingress ∧
      db.assignment? (s.id, .egress) = some egress ∧
      db.commitPreparedSession s =
        ((db.enqueueCommitJobs s ingress egress).markPreparedAssignmentsQueued ingress.id
          egress.id).touchSessionStatus s.id := by
  cases hIngress : db.assignment? (s.id, .ingress) <;>
    cases hEgress : db.assignment? (s.id, .egress) <;>
    simp [commitPreparedSession, hIngress, hEgress]

theorem repairSession_cases {s : Session} :
    db.repairSession s = db ∨ ∃ ingress egress,
      db.assignment? (s.id, .ingress) = some ingress ∧
      db.assignment? (s.id, .egress) = some egress ∧
      db.repairSession s = db.enqueueCommitJobs s ingress egress := by
  cases hIngress : db.assignment? (s.id, .ingress) <;>
    cases hEgress : db.assignment? (s.id, .egress) <;>
    simp [repairSession, hIngress, hEgress]

theorem cell_enqueueCommitJobs {s : Session} {ingress egress : GateAssignment}
    (hIngress : db.assignment? (s.id, .ingress) = some ingress)
    (hEgress : db.assignment? (s.id, .egress) = some egress) (h : s.id = id.1) :
    ∃ a n, (db.cell id).assignment = some a ∧
      (db.enqueueCommitJobs s ingress egress).cell id = (db.cell id).repair id s a.gateId n := by
  obtain ⟨sid, role⟩ := id
  subst h
  have hIngressId : ingress.id = (s.id, .ingress) := (Table.find?_eq_some_iff.1 hIngress).2
  have hEgressId : egress.id = (s.id, .egress) := (Table.find?_eq_some_iff.1 hEgress).2
  rw [enqueueCommitJobs]
  cases role with
  | ingress =>
      refine ⟨ingress, db.jobs.next, hIngress, ?_⟩
      rw [cell_insertApplyAssignmentJob_of_ne (by simp [hEgressId]),
        cell_insertApplyAssignmentJob, if_pos hIngressId.symm]
      simp only [hIngressId]
      rfl
  | egress =>
      refine ⟨egress, (db.insertApplyAssignmentJob
        ⟨ingress.id, ingress.gateId, s.id, .commit, (s.id, s.generation)⟩).jobs.next, hEgress, ?_⟩
      rw [cell_insertApplyAssignmentJob, if_pos hEgressId.symm,
        cell_insertApplyAssignmentJob_of_ne (by simp [hIngressId])]
      simp only [hEgressId, now_insertApplyAssignmentJob]
      rfl

theorem cell_enqueueCommitJobs_of_ne {s : Session} {ingress egress : GateAssignment}
    (hIngress : db.assignment? (s.id, .ingress) = some ingress)
    (hEgress : db.assignment? (s.id, .egress) = some egress) (h : s.id ≠ id.1) :
    (db.enqueueCommitJobs s ingress egress).cell id = db.cell id := by
  have hRole : ∀ role, id ≠ (s.id, role) := fun role hEq => h (congrArg Prod.fst hEq).symm
  rw [enqueueCommitJobs, cell_insertApplyAssignmentJob_of_ne, cell_insertApplyAssignmentJob_of_ne]
  · rw [(Table.find?_eq_some_iff.1 hIngress).2]
    exact hRole _
  · rw [(Table.find?_eq_some_iff.1 hEgress).2]
    exact hRole _

theorem now_enqueueCommitJobs {s : Session} {ingress egress : GateAssignment} :
    (db.enqueueCommitJobs s ingress egress).now = db.now := by
  rw [enqueueCommitJobs, now_insertApplyAssignmentJob, now_insertApplyAssignmentJob]

theorem cell_markPreparedAssignmentsQueued {ingress egress : AssignmentId} :
    (db.markPreparedAssignmentsQueued ingress egress).cell id =
      (db.cell id).updateAssignment
        fun a => if a.id = ingress ∨ a.id = egress then a.queueForCommit db.now else a :=
  cell_modifyAssignments

/-- The jobs for an assignment of a prepared session, and the assignment back in the queue. -/
theorem cell_commitPreparedSession {s : Session} {ingress egress : GateAssignment}
    (hIngress : db.assignment? (s.id, .ingress) = some ingress)
    (hEgress : db.assignment? (s.id, .egress) = some egress) (h : s.id = id.1) :
    ∃ a n, (db.cell id).assignment = some a ∧
      (db.commitPreparedSession s).cell id = (db.cell id).commit id s a.gateId n := by
  obtain ⟨a, n, hAssignment, hCell⟩ := cell_enqueueCommitJobs hIngress hEgress h
  have hQueued : ((db.enqueueCommitJobs s ingress egress).markPreparedAssignmentsQueued
      ingress.id egress.id).now = db.now := now_enqueueCommitJobs
  have hId : a.id = ingress.id ∨ a.id = egress.id := by
    rw [(mem_of_cell_assignment hAssignment).2, (Table.find?_eq_some_iff.1 hIngress).2,
      (Table.find?_eq_some_iff.1 hEgress).2, h]
    obtain ⟨sid, role⟩ := id
    cases role <;> simp
  have hInserted : ((db.cell id).repair id s a.gateId n).assignment = some a := by
    rw [Cell.repair, Cell.insertApply]
    split <;> exact hAssignment
  refine ⟨a, n, hAssignment, ?_⟩
  have hEq : db.commitPreparedSession s =
      ((db.enqueueCommitJobs s ingress egress).markPreparedAssignmentsQueued ingress.id
        egress.id).touchSessionStatus s.id := by
    rw [commitPreparedSession, hIngress, hEgress]
  rw [hEq, touchSessionStatus, cell_updateSession, if_pos h.symm,
    cell_markPreparedAssignmentsQueued,
    hCell, now_enqueueCommitJobs, hQueued]
  simp only [Cell.commit, Cell.updateAssignment, hInserted, Option.map_some, if_pos hId]
  rfl

theorem cell_commitPreparedSession_of_ne {s : Session} (h : s.id ≠ id.1) :
    (db.commitPreparedSession s).cell id = db.cell id := by
  rcases @commitPreparedSession_cases db s with hSame | ⟨ingress, egress, hIngress, hEgress, hEq⟩
  · rw [hSame]
  · have hRole : ∀ role, id ≠ (s.id, role) := fun role hEq => h (congrArg Prod.fst hEq).symm
    have hSame : (db.cell id).assignment.map (fun a =>
        if a.id = ingress.id ∨ a.id = egress.id then a.queueForCommit db.now else a) =
        (db.cell id).assignment := by
      refine (Option.map_congr fun a ha => ?_).trans Option.map_id_apply
      rw [(mem_of_cell_assignment ha).2, (Table.find?_eq_some_iff.1 hIngress).2,
        (Table.find?_eq_some_iff.1 hEgress).2]
      exact if_neg fun hEq => hEq.elim (hRole _) (hRole _)
    rw [hEq, touchSessionStatus, cell_updateSession, if_neg h.symm,
      cell_markPreparedAssignmentsQueued, cell_enqueueCommitJobs_of_ne hIngress hEgress h,
      Cell.updateAssignment, now_enqueueCommitJobs, hSame]

theorem passes_enqueueCommitJobsForPreparedAssignments {locked : List SessionId} :
    CellPasses id (db.cell id)
      ((db.enqueueCommitJobsForPreparedAssignments locked).cell id) := by
  refine passes_forEachSession (fun _ _ => cell_commitPreparedSession_of_ne)
    fun db' s hReady hId hSession hCell => ?_
  rcases @commitPreparedSession_cases db' s with hSame | ⟨ingress, egress, hIngress, hEgress, -⟩
  · rw [hSame]
  · obtain ⟨a, n, hAssignment, hCommitted⟩ :=
      @cell_commitPreparedSession db' id _ _ _ hIngress hEgress hId
    obtain ⟨hPlan, hPhase, hPrepared, -⟩ := hReady
    obtain ⟨a', hAssignment', hPreparedA⟩ := exists_of_countAssignments_eq_two hPrepared id.2
    have hSame : a' = a := by
      rw [hId] at hAssignment'
      have hCells := congrArg Cell.assignment hCell
      rw [hAssignment] at hCells
      exact Option.some.inj (hAssignment'.symm.trans hCells.symm)
    rw [hCommitted]
    rw [hId] at hSession
    refine .single (.committed s a n hSession hPhase ?_ hAssignment (hSame ▸ hPreparedA))
    rw [hCell]
    rw [hId] at hPlan
    exact hPlan

/-! ### Drift -/

theorem passes_repairSession {s : Session} (hSession : db.session? s.id = some s)
    (hDesired : s.desiredState = .active) (hPlaced : s.phase.isPlaced)
    (hPlan : s.id = id.1 → ((db.cell id).plan s.generation).isSome) :
    CellPasses id (db.cell id) ((db.repairSession s).cell id) := by
  rcases @repairSession_cases db s with hSame | ⟨ingress, egress, hIngress, hEgress, hEq⟩
  · rw [hSame]
  · rw [hEq]
    by_cases hId : s.id = id.1
    · obtain ⟨a, n, hAssignment, hCell⟩ := cell_enqueueCommitJobs hIngress hEgress hId
      rw [hCell]
      rw [hId] at hSession
      exact .single (.repaired s a n hSession hDesired hPlaced (hPlan hId) hAssignment)
    · rw [cell_enqueueCommitJobs_of_ne hIngress hEgress hId]

theorem sessions_insertApplyAssignmentJob {input : EnqueueApplyJobInput} :
    (db.insertApplyAssignmentJob input).sessions = db.sessions := by
  rw [insertApplyAssignmentJob]
  split <;> rfl

theorem plans_insertApplyAssignmentJob {input : EnqueueApplyJobInput} :
    (db.insertApplyAssignmentJob input).plans = db.plans := by
  rw [insertApplyAssignmentJob]
  split <;> rfl

theorem sessions_repairSession {s : Session} : (db.repairSession s).sessions = db.sessions := by
  rcases @repairSession_cases db s with hSame | ⟨ingress, egress, -, -, hEq⟩
  · rw [hSame]
  · rw [hEq, enqueueCommitJobs, sessions_insertApplyAssignmentJob,
      sessions_insertApplyAssignmentJob]

theorem plans_repairSession {s : Session} : (db.repairSession s).plans = db.plans := by
  rcases @repairSession_cases db s with hSame | ⟨ingress, egress, -, -, hEq⟩
  · rw [hSame]
  · rw [hEq, enqueueCommitJobs, plans_insertApplyAssignmentJob, plans_insertApplyAssignmentJob]

theorem mem_listMissingHandleRepairSessions {gateId : GateId} {missingHandles : List Handle}
    {locked : List SessionId} {s : Session}
    (h : s ∈ db.listMissingHandleRepairSessions gateId missingHandles locked) :
    db.session? s.id = some s ∧ db.Repairable s := by
  refine ⟨?_, wanted_of_mem_selectForUpdate h⟩
  obtain ⟨a, -, hSession⟩ := List.mem_filterMap.1 (mem_of_mem_selectForUpdate h)
  rw [session?_id hSession]
  exact hSession

/-- A session may be listed twice; repairing it does not change what the list was read from. -/
theorem passes_enqueueRepairJobsForMissingHandles {gateId : GateId} {missingHandles : List Handle}
    {locked : List SessionId} :
    CellPasses id (db.cell id)
      ((db.enqueueRepairJobsForMissingHandles gateId missingHandles locked).cell id) := by
  let Inv (db' : ProvisioningDb) : Prop :=
    CellPasses id (db.cell id) (db'.cell id) ∧ db'.sessions = db.sessions ∧
      db'.plans = db.plans
  have hInv : Inv (db.enqueueRepairJobsForMissingHandles gateId missingHandles locked) := by
    refine @foldl_invariant _ _ _ _ _ Inv (fun db' s hs hInv => ?_) ⟨.refl, rfl, rfl⟩
    obtain ⟨hPasses, hSessions, hPlans⟩ := hInv
    obtain ⟨hSession, hDesired, hPhase, hPlan⟩ := mem_listMissingHandleRepairSessions hs
    refine ⟨hPasses.trans (passes_repairSession ?_ hDesired ?_ fun hId => ?_),
      sessions_repairSession.trans hSessions, plans_repairSession.trans hPlans⟩
    · rw [session?, hSessions]
      exact hSession
    · rcases hPhase with hPhase | hPhase | hPhase <;> rw [hPhase] <;> rfl
    · have hSame : (db'.cell id).plan s.generation = db.plan? (s.id, s.generation) := by
        simp only [cell, plan?, hPlans, hId]
      rw [hSame]
      exact hPlan
  exact hInv.1

theorem cell_revokeAssignment {a : GateAssignment} :
    (db.revokeAssignment a).cell id =
      if id = a.id then
        ((db.cell id).updateAssignment (·.requestRevocation db.now)).insertRevoke
          (.createRevoke db.now a.id a.gateId db.jobs.next)
      else db.cell id := by
  rw [revokeAssignment, cell_insertRevokeAssignmentJob, requestAssignmentRevocation,
    cell_updateAssignment]
  split <;> rfl

theorem passes_revokeAssignments {wanted : GateAssignment → Prop} [DecidablePred wanted]
    {before : GateAssignment → GateAssignment → Prop} [DecidableRel before] {limit : Nat}
    {locked : List AssignmentId}
    (hWanted : ∀ a n, (db.cell id).assignment = some a → wanted a →
      CellPass id (db.cell id) ((db.cell id).revoke id a.gateId n)) :
    CellPasses id (db.cell id)
      (((selectForUpdate GateAssignment.id wanted before limit locked db.assignments.rows).foldl
        revokeAssignment db).cell id) := by
  let rows := selectForUpdate GateAssignment.id wanted before limit locked db.assignments.rows
  have hNodup : (rows.map GateAssignment.id).Nodup :=
    nodup_selectForUpdate db.assignments.keysNodup
  have hOther : ∀ db, ∀ a ∈ rows, a.id ≠ id → (revokeAssignment db a).cell id = db.cell id :=
    fun db a _ hNe => cell_revokeAssignment.trans (if_neg (Ne.symm hNe))
  rcases @cell_forEach db id _ _ rows _ id revokeAssignment hNodup hOther with
    ⟨-, hSame⟩ | ⟨a, ha, hId, db', hCell, hEq⟩
  · rw [hSame]
  · have hAssignment := cell_assignment_eq_some (mem_of_mem_selectForUpdate ha) hId
    have hNow : db'.now = db.now := congrArg Cell.now hCell
    rw [hEq, cell_revokeAssignment, if_pos hId.symm, hCell, hNow, hId]
    exact .single (hWanted a _ hAssignment (wanted_of_mem_selectForUpdate ha))

theorem passes_enqueueRevocationJobsForAssignments {locked : List AssignmentId} :
    CellPasses id (db.cell id)
      ((db.enqueueRevocationJobsForAssignments locked).cell id) := by
  refine passes_revokeAssignments fun a n hAssignment hToRevoke => ?_
  obtain ⟨⟨s, hSession, hDesired⟩, -⟩ := hToRevoke
  have hMine : a.sessionId = id.1 := congrArg Prod.fst (mem_of_cell_assignment hAssignment).2
  rw [hMine] at hSession
  exact .revocationEnqueued s a n hSession hDesired hAssignment

theorem passes_enqueueCleanupJobsForKnownOrphans {gateId : GateId} {orphanHandles : List Handle}
    {locked : List AssignmentId} :
    CellPasses id (db.cell id)
      ((db.enqueueCleanupJobsForKnownOrphans gateId orphanHandles locked).cell id) :=
  passes_revokeAssignments fun a n hAssignment hOrphan =>
    .orphanCleaned a n hAssignment hOrphan.2.2

theorem passes_markMissingHandleAssignmentsDrifted {gateId : GateId}
    {missingHandles : List Handle} :
    CellPasses id (db.cell id)
      ((db.markMissingHandleAssignmentsDrifted gateId missingHandles).cell id) := by
  rw [markMissingHandleAssignmentsDrifted, cell_modifyAssignments]
  by_cases hDrifts : ∃ a, (db.cell id).assignment = some a ∧ a.gateId = gateId ∧
      a.id ∈ missingHandles ∧ a.desiredState = .applied ∧ a.phase = .applied
  · obtain ⟨a, hAssignment, hGate, hMissing, hDesired, hApplied⟩ := hDrifts
    have hDrifted : (db.cell id).updateAssignment
        (fun a => if a.gateId = gateId then a.markDrifted db.now missingHandles else a) =
        (db.cell id).updateAssignment (·.setPhase db.now .drifted) := by
      simp only [Cell.updateAssignment, hAssignment, Option.map_some, if_pos hGate,
        GateAssignment.markDrifted, hMissing, hDesired, hApplied, and_self, if_true]
    rw [hDrifted]
    exact .single (.drifted a hAssignment hDesired hApplied)
  · have hSame : (db.cell id).assignment.map
        (fun a => if a.gateId = gateId then a.markDrifted db.now missingHandles else a) =
        (db.cell id).assignment := by
      refine (Option.map_congr fun a ha => ?_).trans Option.map_id_apply
      split
      · rename_i hGate
        exact if_neg fun hMarked => hDrifts ⟨a, ha, hGate, hMarked⟩
      · rfl
    rw [Cell.updateAssignment, hSame]

theorem passes_reconcileGateDrift {locks : DriftLocks} {gate : GateActualStateDriftRow} :
    CellPasses id (db.cell id) ((db.reconcileGateDrift locks gate).cell id) := by
  rw [reconcileGateDrift]
  split
  · exact .refl
  · dsimp only
    split
    · exact .refl
    · exact (passes_markMissingHandleAssignmentsDrifted.trans
        passes_enqueueRepairJobsForMissingHandles).trans passes_enqueueCleanupJobsForKnownOrphans

theorem passes_reconcileDrift {gates : List GateId} {locks : DriftLocks} :
    CellPasses id (db.cell id) ((db.reconcileDrift gates locks).cell id) :=
  passes_foldl fun _ _ _ => passes_reconcileGateDrift

end ProvisioningDb

/-! ### Transactions -/

/-- The transactions that only do passes. The others are the claims and reports of gates, the
enforcement of quotas, and the passes that begin or end a provisioning or end a revocation. -/
def Action.IsOrdinary : Action → Prop
  | .enforceQuota .. | .claim .. | .report .. | .schedule .. | .completeProvisioned ..
  | .failTimedOut .. | .completeRevoked .. => False
  | .createSession .. | .activatePaidSession .. | .deleteUnpaidSession .. | .revokeByOwner ..
  | .revokeExpired .. | .suspendAccount .. | .beginHide .. | .finishHide .. | .adjustQuota ..
  | .requeueExpired | .archiveJobs .. | .otherJob .. | .snapshot ..
  | .deleteSnapshots .. | .usage .. | .beginRevocation .. | .enqueueRevocations ..
  | .beginProbing .. | .advanceProbed .. | .enqueueCommits .. | .drift .. => True

namespace ProvisioningDb

variable {db : ProvisioningDb} {config : SessionReconcileConfig} {id : AssignmentId}

theorem cell_beginHidingSession {accountId : AccountId} {sid : SessionId} :
    (db.beginHidingSession accountId sid).cell id = db.cell id := by
  rw [beginHidingSession]
  split
  · split <;> rfl
  · rfl

theorem passes_perform {action : Action} (hOrdinary : action.IsOrdinary)
    (hOwned : ∀ j ∈ (db.cell id).jobs, j.sessionId = some id.1) :
    CellPasses id (db.cell id) ((db.perform config action).cell id) := by
  cases action with
  | createSession => exact passes_insertRequestedSession
  | activatePaidSession => exact passes_activatePaidSession
  | deleteUnpaidSession => exact passes_deleteUnpaidSession hOwned
  | revokeByOwner => exact passes_requestOwnedSessionRevocation
  | revokeExpired | suspendAccount => exact passes_requestSystemRevocations
  | beginHide accountId sid => exact Eq.subst cell_beginHidingSession.symm .refl
  | finishHide => exact passes_finishHidingSession
  | adjustQuota => exact passes_adjustSessionTrafficQuota
  | requeueExpired => exact passes_requeueExpiredJobLeases
  | archiveJobs => exact passes_archiveJobs
  | otherJob => exact Eq.subst cell_insertOtherJob.symm .refl
  | snapshot | deleteSnapshots => exact .refl
  | usage sessionId bytes => exact passes_updateSession fun _ _ => .consumed bytes
  | beginRevocation => exact passes_beginSessionRevocation
  | enqueueRevocations => exact passes_enqueueRevocationJobsForAssignments
  | beginProbing => exact passes_beginRequestedSessionProbing
  | advanceProbed => exact passes_advanceProbedSessionsToScheduling
  | enqueueCommits => exact passes_enqueueCommitJobsForPreparedAssignments
  | drift => exact passes_reconcileDrift
  | enforceQuota | claim | report | schedule | completeProvisioned | failTimedOut
  | completeRevoked => exact hOrdinary.elim

end ProvisioningDb

end Hyperspace.Provisioning
