import Hyperspace.Provisioning.SoundCells

/-!
# What the drift pass repairs

An assignment that is installed but whose handle is missing from the newest snapshot gets a commit
job, when its session is active and the pass does not reach its limit.
-/

namespace Hyperspace.Provisioning

open Hyperspace.Billing (AccountId SessionId Timestamp)
open Hyperspace.ControlPlane Hyperspace.Foundations

/-- What a drift pass leaves of the row of an assignment. -/
def GateAssignment.DriftsTo (a a' : GateAssignment) : Prop :=
  a'.id = a.id ∧ a'.gateId = a.gateId ∧ (a'.desiredState = .applied → a.desiredState = .applied)

namespace ProvisioningDb

variable {db db' db'' : ProvisioningDb} {id : AssignmentId} {gateId : GateId}
  {missing orphans : List Handle}

/-- What a drift pass leaves of the database. -/
structure DriftsTo (db db' : ProvisioningDb) : Prop where
  sessions : db'.sessions = db.sessions
  plans : db'.plans = db.plans
  jobs : ∀ j ∈ db.jobs.rows, j ∈ db'.jobs.rows
  assignments : ∃ f : GateAssignment → GateAssignment, (∀ a : GateAssignment, a.DriftsTo (f a)) ∧
    db'.assignments.rows = db.assignments.rows.map f

namespace DriftsTo

theorem refl : db.DriftsTo db :=
  ⟨rfl, rfl, fun _ h => h, fun a => a, fun _ => ⟨rfl, rfl, fun h => h⟩, (List.map_id _).symm⟩

theorem trans (h : db.DriftsTo db') (h' : db'.DriftsTo db'') : db.DriftsTo db'' := by
  obtain ⟨f, hf, hRows⟩ := h.assignments
  obtain ⟨g, hg, hRows'⟩ := h'.assignments
  refine ⟨h'.sessions.trans h.sessions, h'.plans.trans h.plans,
    fun j hj => h'.jobs j (h.jobs j hj), g ∘ f, fun a => ?_, ?_⟩
  · obtain ⟨hId, hGate, hDesired⟩ := hf a
    obtain ⟨hId', hGate', hDesired'⟩ := hg (f a)
    exact ⟨hId'.trans hId, hGate'.trans hGate, fun h => hDesired (hDesired' h)⟩
  · rw [hRows', hRows, List.map_map]

theorem foldl {ρ : Type} {rows : List ρ} {body : ProvisioningDb → ρ → ProvisioningDb}
    (hBody : ∀ (db : ProvisioningDb) r, db.DriftsTo (body db r)) :
    db.DriftsTo (rows.foldl body db) :=
  @foldl_invariant _ _ rows db body (fun db' => db.DriftsTo db')
    (fun _ r _ h => h.trans (hBody _ r)) refl

theorem exists_assignment (h : db.DriftsTo db') (ha : (db.assignment? id).isSome) :
    ∃ a', db'.assignment? id = some a' := by
  obtain ⟨a, ha⟩ := Option.isSome_iff_exists.1 ha
  obtain ⟨hRow, hId⟩ := Table.find?_eq_some_iff.1 ha
  obtain ⟨f, hf, hRows⟩ := h.assignments
  refine ⟨f a, Table.find?_eq_some_iff.2 ⟨?_, (hf a).1.trans hId⟩⟩
  rw [hRows]
  exact List.mem_map_of_mem hRow

theorem session? (h : db.DriftsTo db') : db'.session? = db.session? := by
  funext sid
  simp only [ProvisioningDb.session?, h.sessions]

theorem repairable_iff (h : db.DriftsTo db') {s : Session} :
    db'.Repairable s ↔ db.Repairable s := by
  simp only [Repairable, plan?, h.plans]

theorem hasLiveApplyJob {operation : ApplyOperation} (h : db.DriftsTo db')
    (hLive : db.HasLiveApplyJob id operation) : db'.HasLiveApplyJob id operation := by
  obtain ⟨j, hj, hFor⟩ := hLive
  exact ⟨j, h.jobs j hj, hFor⟩

end DriftsTo

/-! ### The statements of the pass -/

theorem driftsTo_markMissingHandleAssignmentsDrifted :
    db.DriftsTo (db.markMissingHandleAssignmentsDrifted gateId missing) := by
  refine ⟨rfl, rfl, fun _ h => h,
    fun a => if a.gateId = gateId then a.markDrifted db.now missing else a, fun a => ?_, rfl⟩
  dsimp only
  split
  · rw [GateAssignment.markDrifted]
    split <;> exact ⟨rfl, rfl, fun h => h⟩
  · exact ⟨rfl, rfl, fun h => h⟩

theorem driftsTo_insertJob {make : JobId → Job} {hMake : ∀ n, (make n).id = n} :
    db.DriftsTo { db with jobs := db.jobs.insert make hMake } :=
  ⟨rfl, rfl, fun _ hj => List.mem_append_left _ hj, fun a => a, fun _ => ⟨rfl, rfl, fun h => h⟩,
    (List.map_id _).symm⟩

theorem driftsTo_insertApplyAssignmentJob {input : EnqueueApplyJobInput} :
    db.DriftsTo (db.insertApplyAssignmentJob input) := by
  rw [insertApplyAssignmentJob]
  split
  · exact .refl
  · exact driftsTo_insertJob

theorem driftsTo_insertRevokeAssignmentJob {a : GateAssignment} :
    db.DriftsTo (db.insertRevokeAssignmentJob a) := by
  rw [insertRevokeAssignmentJob]
  split
  · exact .refl
  · exact driftsTo_insertJob

theorem driftsTo_repairSession {s : Session} : db.DriftsTo (db.repairSession s) := by
  rcases @repairSession_cases db s with hSame | ⟨ingress, egress, -, -, hEq⟩
  · rw [hSame]
    exact .refl
  · rw [hEq, enqueueCommitJobs]
    exact driftsTo_insertApplyAssignmentJob.trans driftsTo_insertApplyAssignmentJob

theorem driftsTo_revokeAssignment {a : GateAssignment} : db.DriftsTo (db.revokeAssignment a) := by
  suffices hRequested : db.DriftsTo (db.requestAssignmentRevocation a.id) from
    hRequested.trans driftsTo_insertRevokeAssignmentJob
  refine ⟨rfl, rfl, fun _ h => h,
    fun b => if b.id = a.id then b.requestRevocation db.now else b, fun b => ?_, rfl⟩
  dsimp only
  split
  · exact ⟨rfl, rfl, fun h => by cases h⟩
  · exact ⟨rfl, rfl, fun h => h⟩

theorem driftsTo_reconcileGateDrift {locks : DriftLocks} {gate : GateActualStateDriftRow} :
    db.DriftsTo (db.reconcileGateDrift locks gate) := by
  rw [reconcileGateDrift]
  split
  · exact .refl
  · dsimp only
    split
    · exact .refl
    · exact (driftsTo_markMissingHandleAssignmentsDrifted.trans
        (.foldl fun _ _ => driftsTo_repairSession)).trans
          (.foldl fun _ _ => driftsTo_revokeAssignment)

/-! ### The limit of the repair query -/

/-- The sessions that the repair query finds for a gate before it takes its first 50. -/
def repairCandidates (db : ProvisioningDb) (gateId : GateId) (missingHandles : List Handle) :
    List Session :=
  ((db.assignments.rows.filter fun a =>
    a.gateId = gateId && a.id ∈ missingHandles && a.desiredState = .applied).filterMap
    fun a => db.session? a.sessionId).filter db.Repairable

/-- The handles that the newest snapshot of a gate lacks. -/
def missingHandles (db : ProvisioningDb) (gateId : GateId) : List Handle :=
  (compareManagedHandles (db.gateActualStateDriftRow gateId).desiredHandles
    (db.gateActualStateDriftRow gateId).actualHandles).1

theorem DriftsTo.repairCandidates_le (h : db.DriftsTo db') :
    (db'.repairCandidates gateId missing).length ≤
      (db.repairCandidates gateId missing).length := by
  obtain ⟨f, hf, hRows⟩ := h.assignments
  simp only [repairCandidates, hRows, h.session?, h.repairable_iff]
  generalize db.assignments.rows = rows
  induction rows with
  | nil => exact le_refl _
  | cons a rows ih =>
      obtain ⟨hId, hGate, hDesired⟩ := hf a
      have hSession : (f a).sessionId = a.sessionId := congrArg Prod.fst hId
      by_cases hTarget : a.gateId = gateId ∧ a.id ∈ missing ∧ (f a).desiredState = .applied
      · obtain ⟨hAt, hMissing, hApplied⟩ := hTarget
        have hBefore := hDesired hApplied
        simp only [List.map_cons, List.filter_cons, hGate, hId, hAt, hMissing, hApplied, hBefore,
          decide_true, Bool.and_self, if_true, List.filterMap_cons, hSession]
        cases db.session? a.sessionId with
        | none => exact ih
        | some s =>
            dsimp only
            rw [List.filter_cons, List.filter_cons]
            split
            · exact Nat.succ_le_succ ih
            · exact ih
      · have hDropped : ¬ ((decide ((f a).gateId = gateId) && decide ((f a).id ∈ missing) &&
            decide ((f a).desiredState = .applied)) = true) := by
          simpa only [hGate, hId, Bool.and_eq_true, decide_eq_true_eq, and_assoc] using hTarget
        rw [List.map_cons, List.filter_cons, if_neg hDropped]
        refine ih.trans (List.Sublist.length_le ?_)
        exact ((((List.sublist_cons_self a rows).filter _).filterMap _).filter _)

/-! ### A missing assignment -/

/-- The assignment is to be applied on the gate, and its status says that it is or was. -/
def InPlace (db : ProvisioningDb) (id : AssignmentId) (gateId : GateId) : Prop :=
  ∃ a ∈ db.assignment? id, a.gateId = gateId ∧ a.desiredState = .applied ∧
    (a.phase = .applied ∨ a.phase = .drifted)

theorem assignment?_markMissingHandleAssignmentsDrifted {gate : GateId} :
    (db.markMissingHandleAssignmentsDrifted gate missing).assignment? id =
      (db.assignment? id).map
        fun a => if a.gateId = gate then a.markDrifted db.now missing else a :=
  Table.find?_modify fun a => by split <;> simp [GateAssignment.markDrifted_id]

theorem inPlace_markMissingHandleAssignmentsDrifted {gate : GateId} (h : db.InPlace id gateId) :
    (db.markMissingHandleAssignmentsDrifted gate missing).InPlace id gateId := by
  obtain ⟨a, ha, hGate, hDesired, hPhase⟩ := h
  refine ⟨_, assignment?_markMissingHandleAssignmentsDrifted.trans (congrArg (Option.map _) ha), ?_⟩
  dsimp only
  split
  · rw [GateAssignment.markDrifted]
    split
    · exact ⟨hGate, hDesired, .inr rfl⟩
    · exact ⟨hGate, hDesired, hPhase⟩
  · exact ⟨hGate, hDesired, hPhase⟩

theorem assignments_repairSession {s : Session} :
    (db.repairSession s).assignments = db.assignments := by
  have hInsert : ∀ (db : ProvisioningDb) input,
      (db.insertApplyAssignmentJob input).assignments = db.assignments := by
    intro db input
    rw [insertApplyAssignmentJob]
    split <;> rfl
  rcases @repairSession_cases db s with hSame | ⟨ingress, egress, -, -, hEq⟩
  · rw [hSame]
  · rw [hEq, enqueueCommitJobs, hInsert, hInsert]

theorem assignments_repairSessions {rows : List Session} :
    (rows.foldl repairSession db).assignments = db.assignments :=
  @foldl_invariant _ _ rows db repairSession (fun db' => db'.assignments = db.assignments)
    (fun _ _ _ hSame => assignments_repairSession.trans hSame) rfl

theorem inPlace_enqueueCleanupJobsForKnownOrphans {gate : GateId} {locked : List AssignmentId}
    (h : db.InPlace id gateId) :
    (db.enqueueCleanupJobsForKnownOrphans gate orphans locked).InPlace id gateId := by
  obtain ⟨a, ha, hGate, hDesired, hPhase⟩ := h
  let rows := db.listKnownOrphanAssignmentsForCleanup gate orphans locked
  have hNodup : (rows.map GateAssignment.id).Nodup :=
    nodup_selectForUpdate db.assignments.keysNodup
  have hOther : ∀ db, ∀ b ∈ rows, b.id ≠ id → (revokeAssignment db b).cell id = db.cell id :=
    fun db b _ hNe => cell_revokeAssignment.trans (if_neg (Ne.symm hNe))
  rcases @cell_forEach db id _ _ rows _ id revokeAssignment hNodup hOther with
    ⟨-, hSame⟩ | ⟨b, hb, hId, -⟩
  · exact ⟨a, (congrArg Cell.assignment hSame).trans ha, hGate, hDesired, hPhase⟩
  · have hb' : db.assignment? id = some b :=
      Table.find?_eq_some_iff.2 ⟨mem_of_mem_selectForUpdate hb, hId⟩
    obtain rfl : a = b := Option.some.inj (ha.symm.trans hb')
    obtain ⟨-, -, hKnown⟩ := wanted_of_mem_selectForUpdate hb
    rcases hPhase with hPhase | hPhase <;> simp [hDesired, hPhase] at hKnown

theorem inPlace_reconcileGateDrift {locks : DriftLocks} {gate : GateActualStateDriftRow}
    (h : db.InPlace id gateId) : (db.reconcileGateDrift locks gate).InPlace id gateId := by
  rw [reconcileGateDrift]
  split
  · exact h
  · dsimp only
    split
    · exact h
    · refine inPlace_enqueueCleanupJobsForKnownOrphans ?_
      obtain ⟨a, ha, hPlace⟩ := inPlace_markMissingHandleAssignmentsDrifted h
      refine ⟨a, ?_, hPlace⟩
      rw [assignment?, enqueueRepairJobsForMissingHandles, assignments_repairSessions]
      exact ha

theorem drifted_markMissingHandleAssignmentsDrifted (h : db.InPlace id gateId)
    (hMissing : id ∈ missing) :
    ∃ a, (db.markMissingHandleAssignmentsDrifted gateId missing).assignment? id = some a ∧
      a.gateId = gateId ∧ a.desiredState = .applied ∧ a.phase = .drifted := by
  obtain ⟨a, ha, hGate, hDesired, hPhase⟩ := h
  have hId : a.id = id := (Table.find?_eq_some_iff.1 ha).2
  refine ⟨_, assignment?_markMissingHandleAssignmentsDrifted.trans (congrArg (Option.map _) ha), ?_⟩
  dsimp only
  rw [if_pos hGate, GateAssignment.markDrifted]
  rcases hPhase with hApplied | hDrifted
  · rw [if_pos ⟨hId ▸ hMissing, hDesired, hApplied⟩]
    exact ⟨hGate, hDesired, rfl⟩
  · rw [if_neg (by simp [hDrifted])]
    exact ⟨hGate, hDesired, hDrifted⟩

/-- The repair of a session enqueues a commit job for each of its assignments that is not
installed, if it has none. -/
theorem hasLiveApplyJob_repairSession {s : Session} {a : GateAssignment}
    (hId : s.id = id.1) (hBoth : ∀ role, (db.assignment? (s.id, role)).isSome)
    (ha : db.assignment? id = some a) (hDrifted : a.phase = .drifted) :
    (db.repairSession s).HasLiveApplyJob id .commit := by
  obtain ⟨ingress, hIngress⟩ := Option.isSome_iff_exists.1 (hBoth .ingress)
  obtain ⟨egress, hEgress⟩ := Option.isSome_iff_exists.1 (hBoth .egress)
  have hRepair : db.repairSession s = db.enqueueCommitJobs s ingress egress := by
    rw [repairSession, hIngress, hEgress]
  obtain ⟨b, n, -, hCell⟩ := cell_enqueueCommitJobs hIngress hEgress hId
  rw [hRepair, hasLiveApplyJob_iff, hCell, Cell.repair]
  rcases @Cell.insertApply_cases (db.cell id) .commit
    (.createApply (db.cell id).now id b.gateId .commit (s.id, s.generation) n) with
    ⟨hBlocked, hEq⟩ | hEq
  · rw [hEq]
    rcases hBlocked with hLive | ⟨d, hd, hPhase, -⟩
    · exact hLive
    · obtain rfl : a = d := Option.some.inj (ha.symm.trans hd)
      simp [hDrifted] at hPhase
  · rw [hEq]
    exact ⟨_, List.mem_append_right _ (List.mem_singleton_self _), rfl, rfl, rfl⟩

theorem mem_listMissingHandleRepairSessions_of_fits {s : Session} {a : GateAssignment}
    (ha : db.assignment? id = some a) (hGate : a.gateId = gateId) (hMissing : id ∈ missing)
    (hDesired : a.desiredState = .applied) (hSession : db.session? id.1 = some s)
    (hRepairable : db.Repairable s) (hFits : (db.repairCandidates gateId missing).length ≤ 50) :
    s ∈ db.listMissingHandleRepairSessions gateId missing [] := by
  obtain ⟨hRow, hId⟩ := Table.find?_eq_some_iff.1 ha
  have hMine : a.sessionId = id.1 := congrArg Prod.fst hId
  refine mem_selectForUpdate_of_fits (List.mem_filterMap.2 ⟨a, List.mem_filter.2 ⟨hRow, ?_⟩, ?_⟩)
    hRepairable (by simp) ?_
  · rw [hId]
    simp [hGate, hMissing, hDesired]
  · rw [hMine]
    exact hSession
  · simpa [repairCandidates] using hFits

/-- The pass over its gate enqueues a commit job for a missing assignment, if it has none. -/
theorem hasLiveApplyJob_reconcileGateDrift {gate : GateActualStateDriftRow} {s : Session}
    (hInPlace : db.InPlace id gate.gateId) (hReported : gate.reportedAt ≠ none)
    (hMissing : id ∈ (compareManagedHandles gate.desiredHandles gate.actualHandles).1)
    (hSession : db.session? id.1 = some s) (hRepairable : db.Repairable s)
    (hBoth : ∀ role, (db.assignment? (id.1, role)).isSome)
    (hFits : (db.repairCandidates gate.gateId
      (compareManagedHandles gate.desiredHandles gate.actualHandles).1).length ≤ 50) :
    (db.reconcileGateDrift ⟨[], []⟩ gate).HasLiveApplyJob id .commit := by
  rw [reconcileGateDrift, if_neg hReported]
  dsimp only
  rw [if_neg fun hNone => by simp [hNone.1] at hMissing]
  let marked := db.markMissingHandleAssignmentsDrifted gate.gateId
    (compareManagedHandles gate.desiredHandles gate.actualHandles).1
  have hMarked : db.DriftsTo marked := driftsTo_markMissingHandleAssignmentsDrifted
  obtain ⟨a, ha, hGate, hDesired, hDrifted⟩ :=
    drifted_markMissingHandleAssignmentsDrifted hInPlace hMissing
  have hSessionId : s.id = id.1 := session?_id hSession
  have hListed : s ∈ marked.listMissingHandleRepairSessions gate.gateId
      (compareManagedHandles gate.desiredHandles gate.actualHandles).1 [] :=
    mem_listMissingHandleRepairSessions_of_fits ha hGate hMissing hDesired
      ((congrFun hMarked.session? id.1).trans hSession) (hMarked.repairable_iff.2 hRepairable)
      (hMarked.repairCandidates_le.trans hFits)
  obtain ⟨earlier, later, hRows⟩ := List.append_of_mem hListed
  have hRepaired : ((marked.enqueueRepairJobsForMissingHandles gate.gateId
      (compareManagedHandles gate.desiredHandles gate.actualHandles).1 [])).HasLiveApplyJob id
      .commit := by
    rw [enqueueRepairJobsForMissingHandles, hRows, List.foldl_append, List.foldl_cons]
    have hEarlier : (earlier.foldl repairSession marked).assignments = marked.assignments :=
      assignments_repairSessions
    refine (DriftsTo.foldl fun _ _ => driftsTo_repairSession).hasLiveApplyJob
      (hasLiveApplyJob_repairSession hSessionId (fun role => ?_) ?_ hDrifted)
    · rw [assignment?, hEarlier, hSessionId]
      exact Option.isSome_iff_exists.2 (hMarked.exists_assignment (hBoth role))
    · rw [assignment?, hEarlier]
      exact ha
  exact (DriftsTo.foldl fun _ _ => driftsTo_revokeAssignment).hasLiveApplyJob hRepaired

/-- A drift pass that reaches no limit enqueues a commit job for an assignment that is in place and
missing from its gate's newest snapshot, if it has none. -/
theorem hasLiveApplyJob_reconcileDrift {gates : List GateId} {s : Session}
    (hGate : gateId ∈ gates) (hInPlace : db.InPlace id gateId)
    (hReported : (db.gateActualStateDriftRow gateId).reportedAt ≠ none)
    (hMissing : id ∈ db.missingHandles gateId)
    (hSession : db.session? id.1 = some s) (hRepairable : db.Repairable s)
    (hBoth : ∀ role, (db.assignment? (id.1, role)).isSome)
    (hFits : (db.repairCandidates gateId (db.missingHandles gateId)).length ≤ 50) :
    (db.reconcileDrift gates ⟨[], []⟩).HasLiveApplyJob id .commit := by
  obtain ⟨earlier, later, rfl⟩ := List.append_of_mem hGate
  rw [reconcileDrift, List.map_append, List.map_cons, List.foldl_append, List.foldl_cons]
  refine (DriftsTo.foldl fun _ _ => driftsTo_reconcileGateDrift).hasLiveApplyJob ?_
  let before := (earlier.map db.gateActualStateDriftRow).foldl
    (fun db gate => db.reconcileGateDrift ⟨[], []⟩ gate) db
  have hBefore : db.DriftsTo before := .foldl fun _ _ => driftsTo_reconcileGateDrift
  have hStays : before.InPlace id gateId :=
    @foldl_invariant _ _ _ _ _ (fun db : ProvisioningDb => db.InPlace id gateId)
      (fun _ _ _ h => inPlace_reconcileGateDrift h) hInPlace
  exact @hasLiveApplyJob_reconcileGateDrift before id (db.gateActualStateDriftRow gateId) s hStays
    hReported hMissing ((congrFun hBefore.session? id.1).trans hSession)
    (hBefore.repairable_iff.2 hRepairable)
    (fun role => Option.isSome_iff_exists.2 (hBefore.exists_assignment (hBoth role)))
    (hBefore.repairCandidates_le.trans hFits)

end ProvisioningDb

end Hyperspace.Provisioning
