import Hyperspace.Foundations.Loops
import Hyperspace.Provisioning.Transactions

/-!
# The view of one assignment

The cell of an assignment is everything the database knows of it: its session, the address and the
plans of this session, its own row and its jobs. Every statement does to a cell what the same
statement would do if there were no other assignment, and most statements do nothing to it.
-/

namespace Hyperspace.Provisioning

open Hyperspace.Billing (AccountId SessionId Timestamp)
open Hyperspace.ControlPlane Hyperspace.Foundations

/-- What the database knows of one assignment. -/
structure Cell where
  now : Timestamp
  session : Option Session
  address : Option ClientAddress
  plan : Nat → Option RenderedPlan
  assignment : Option GateAssignment
  jobs : List Job

def ProvisioningDb.cell (db : ProvisioningDb) (id : AssignmentId) : Cell where
  now := db.now
  session := db.session? id.1
  address := db.activeAddress? id.1
  plan generation := db.plan? (id.1, generation)
  assignment := db.assignment? id
  jobs := db.jobs.rows.filter fun j => j.assignmentId = some id

namespace Cell

def LiveRevoke (c : Cell) : Prop := ∃ j ∈ c.jobs, j.type = .revokeAssignment ∧ j.phase.isLive

def LiveApply (c : Cell) (operation : ApplyOperation) : Prop :=
  ∃ j ∈ c.jobs, j.type = .applyAssignment ∧ j.operation = some operation ∧ j.phase.isLive

/-- The cell's side of `HasCarriedOutPlan`. -/
def CarriedOut (c : Cell) (operation : ApplyOperation) : Prop :=
  ∃ a ∈ c.assignment,
    (a.phase = .queued ∨ a.phase = .leased ∨ a.phase = .applying ∨ a.phase = .prepared ∨
      a.phase = .applied) ∧
    ∃ j ∈ c.jobs, j.type = .applyAssignment ∧ j.operation = some operation ∧
      j.planId = some a.planId ∧ j.phase = .succeeded

/-- The cell's side of `HasRevokedSinceUpdate`. -/
def RevokedSinceUpdate (c : Cell) : Prop :=
  ∃ a ∈ c.assignment, ∃ j ∈ c.jobs, j.type = .revokeAssignment ∧ j.phase = .succeeded ∧
    a.updatedAt ≤ j.createdAt

instance (c : Cell) : Decidable c.LiveRevoke := inferInstanceAs (Decidable (∃ j ∈ c.jobs, _))

instance (c : Cell) (operation : ApplyOperation) : Decidable (c.LiveApply operation) :=
  inferInstanceAs (Decidable (∃ j ∈ c.jobs, _))

instance (c : Cell) (operation : ApplyOperation) : Decidable (c.CarriedOut operation) :=
  inferInstanceAs (Decidable (∃ a ∈ c.assignment, _))

instance (c : Cell) : Decidable c.RevokedSinceUpdate :=
  inferInstanceAs (Decidable (∃ a ∈ c.assignment, _))

def updateSession (c : Cell) (f : Session → Session) : Cell :=
  { c with session := c.session.map f }

def updateAssignment (c : Cell) (f : GateAssignment → GateAssignment) : Cell :=
  { c with assignment := c.assignment.map f }

def modifyJobs (c : Cell) (f : Job → Job) : Cell := { c with jobs := c.jobs.map f }

/-- Rewrite the job under an id. -/
def updateJob (c : Cell) (id : JobId) (f : Job → Job) : Cell :=
  c.modifyJobs fun j => if j.id = id then f j else j

def addJob (c : Cell) (j : Job) : Cell := { c with jobs := c.jobs ++ [j] }

def insertApply (c : Cell) (operation : ApplyOperation) (j : Job) : Cell :=
  if c.LiveApply operation ∨ c.CarriedOut operation then c else c.addJob j

def insertRevoke (c : Cell) (j : Job) : Cell :=
  if c.LiveRevoke ∨ c.RevokedSinceUpdate then c else c.addJob j

/-- The plans after `upsertRenderedPlan`. -/
def upsertPlan (c : Cell) (plan : RenderedPlan) : Cell :=
  { c with
    plan := Function.update c.plan plan.generation
      (some ((c.plan plan.generation).elim plan plan.overwrite)) }

/-- The row under the unique key after `createAssignment`. -/
def createAssignment (c : Cell) (id : AssignmentId) (gateId : GateId) (planId : PlanId) : Cell :=
  { c with
    assignment := some (c.assignment.elim (.create c.now id.1 gateId id.2 planId)
      (·.recreate c.now gateId planId)) }

end Cell

section

variable {db : ProvisioningDb} {id : AssignmentId}

/-! ### The statements on a cell -/

theorem mem_cell_jobs {j : Job} :
    j ∈ (db.cell id).jobs ↔ j ∈ db.jobs.rows ∧ j.assignmentId = some id := by
  simp [ProvisioningDb.cell]

theorem hasLiveRevokeJob_iff : db.HasLiveRevokeJob id ↔ (db.cell id).LiveRevoke := by
  simp only [ProvisioningDb.HasLiveRevokeJob, Cell.LiveRevoke, mem_cell_jobs, and_assoc]

theorem hasLiveApplyJob_iff {operation : ApplyOperation} :
    db.HasLiveApplyJob id operation ↔ (db.cell id).LiveApply operation := by
  simp only [ProvisioningDb.HasLiveApplyJob, Cell.LiveApply, mem_cell_jobs,
    Job.IsFor, and_assoc]

theorem hasCarriedOutPlan_iff {operation : ApplyOperation} :
    db.HasCarriedOutPlan id operation ↔ (db.cell id).CarriedOut operation := by
  simp only [ProvisioningDb.HasCarriedOutPlan, Cell.CarriedOut, mem_cell_jobs,
    Job.IsFor, and_assoc]
  rfl

theorem hasRevokedSinceUpdate_iff :
    db.HasRevokedSinceUpdate id ↔ (db.cell id).RevokedSinceUpdate := by
  simp only [ProvisioningDb.HasRevokedSinceUpdate, Cell.RevokedSinceUpdate, mem_cell_jobs,
    and_assoc]
  rfl

@[simp] theorem now_upsertRenderedPlan {plan : RenderedPlan} :
    (db.upsertRenderedPlan plan).now = db.now := by
  rw [ProvisioningDb.upsertRenderedPlan]
  split <;> rfl

@[simp] theorem now_createAssignment {sid : SessionId} {gateId : GateId}
    {role : GateAssignmentRole} {planId : PlanId} :
    (db.createAssignment sid gateId role planId).now = db.now := by
  rw [ProvisioningDb.createAssignment]
  split <;> rfl

@[simp] theorem now_insertApplyAssignmentJob {input : ProvisioningDb.EnqueueApplyJobInput} :
    (db.insertApplyAssignmentJob input).now = db.now := by
  rw [ProvisioningDb.insertApplyAssignmentJob]
  split <;> rfl

theorem cell_updateSession {sid : SessionId} {f : Session → Session}
    {hf : ∀ s, (f s).id = s.id} :
    (db.updateSession sid f hf).cell id =
      if id.1 = sid then (db.cell id).updateSession f else db.cell id := by
  have hFind := @Table.find?_update _ _ _ _ db.sessions sid id.1 f hf
  simp only [ProvisioningDb.cell, ProvisioningDb.updateSession, ProvisioningDb.session?, hFind]
  split <;> rfl

theorem cell_updateAssignment {aid : AssignmentId} {f : GateAssignment → GateAssignment}
    {hf : ∀ a, (f a).id = a.id} :
    (db.updateAssignment aid f hf).cell id =
      if id = aid then (db.cell id).updateAssignment f else db.cell id := by
  have hFind := @Table.find?_update _ _ _ _ db.assignments aid id f hf
  simp only [ProvisioningDb.cell, ProvisioningDb.updateAssignment, ProvisioningDb.assignment?,
    hFind]
  split <;> rfl

theorem cell_modifyAssignments {f : GateAssignment → GateAssignment}
    {hf : ∀ a, (f a).id = a.id} :
    { db with assignments := db.assignments.modify f hf }.cell id =
      (db.cell id).updateAssignment f := by
  simp only [ProvisioningDb.cell, ProvisioningDb.assignment?, Table.find?_modify,
    Cell.updateAssignment]
  rfl

theorem cell_modifyJobs {f : Job → Job} (hOwner : KeepsOwner f) {hf : ∀ j, (f j).id = j.id} :
    (db.modifyJobs f hf).cell id = (db.cell id).modifyJobs f := by
  have hSame : ∀ j, (f j).assignmentId = j.assignmentId := fun j => (hOwner j).assignmentId
  simp only [ProvisioningDb.cell, ProvisioningDb.modifyJobs, Cell.modifyJobs]
  congr 1
  simp only [SerialTable.rows, SerialTable.modify, Table.modify, List.filter_map,
    Function.comp_def, hSame]

theorem cell_updateJob {jobId : JobId} {f : Job → Job} (hOwner : KeepsOwner f)
    {hf : ∀ j, (f j).id = j.id} :
    { db with jobs := db.jobs.update jobId f hf }.cell id = (db.cell id).updateJob jobId f := by
  have hOwner' : KeepsOwner fun j => if j.id = jobId then f j else j := by
    intro j
    dsimp only
    split
    · exact hOwner j
    · exact .refl
  exact cell_modifyJobs hOwner'

theorem cell_insertJob {make : JobId → Job} {hKey : ∀ n, (make n).id = n} :
    { db with jobs := db.jobs.insert make hKey }.cell id =
      if (make db.jobs.next).assignmentId = some id then
        (db.cell id).addJob (make db.jobs.next)
      else db.cell id := by
  have hRows : (db.jobs.insert make hKey).rows = db.jobs.rows ++ [make db.jobs.next] := rfl
  simp only [ProvisioningDb.cell, hRows, List.filter_append, Cell.addJob]
  by_cases hMine : (make db.jobs.next).assignmentId = some id
  · rw [if_pos hMine, List.filter_singleton, decide_eq_true hMine]
    rfl
  · rw [if_neg hMine, List.filter_singleton, decide_eq_false hMine, Bool.cond_false,
      List.append_nil]
    rfl

theorem cell_insertApplyAssignmentJob {input : ProvisioningDb.EnqueueApplyJobInput} :
    (db.insertApplyAssignmentJob input).cell id =
      if id = input.assignmentId then
        (db.cell id).insertApply input.operation (.create db.now .applyAssignment
          (some input.gateId) (some input.sessionId) (some input.assignmentId)
          (some input.operation) (some input.planId) db.jobs.next)
      else db.cell id := by
  rw [ProvisioningDb.insertApplyAssignmentJob, Cell.insertApply]
  by_cases hMine : id = input.assignmentId
  · subst hMine
    have hBlocked := or_congr (@hasLiveApplyJob_iff db input.assignmentId input.operation)
      (@hasCarriedOutPlan_iff db input.assignmentId input.operation)
    rw [if_pos rfl]
    by_cases hBlock : db.HasLiveApplyJob input.assignmentId input.operation ∨
        db.HasCarriedOutPlan input.assignmentId input.operation
    · rw [if_pos hBlock, if_pos (hBlocked.1 hBlock)]
    · rw [if_neg hBlock, if_neg (mt hBlocked.2 hBlock)]
      exact cell_insertJob.trans (if_pos rfl)
  · rw [if_neg hMine]
    split
    · rfl
    · refine cell_insertJob.trans (if_neg ?_)
      simp only [Job.create, Option.some.injEq]
      exact fun hEq => hMine hEq.symm

theorem cell_insertRevokeAssignmentJob {a : GateAssignment} :
    (db.insertRevokeAssignmentJob a).cell id =
      if id = a.id then
        (db.cell id).insertRevoke (.createRevoke db.now a.id a.gateId db.jobs.next)
      else db.cell id := by
  rw [ProvisioningDb.insertRevokeAssignmentJob, Cell.insertRevoke]
  by_cases hMine : id = a.id
  · subst hMine
    have hBlocked := or_congr (@hasLiveRevokeJob_iff db a.id) (@hasRevokedSinceUpdate_iff db a.id)
    rw [if_pos rfl]
    by_cases hBlock : db.HasLiveRevokeJob a.id ∨ db.HasRevokedSinceUpdate a.id
    · rw [if_pos hBlock, if_pos (hBlocked.1 hBlock)]
    · rw [if_neg hBlock, if_neg (mt hBlocked.2 hBlock)]
      exact cell_insertJob.trans (if_pos rfl)
  · rw [if_neg hMine]
    split
    · rfl
    · refine cell_insertJob.trans (if_neg ?_)
      simp only [Job.create, Option.some.injEq]
      exact fun hEq => hMine hEq.symm

theorem cell_createAssignment {sid : SessionId} {gateId : GateId} {role : GateAssignmentRole}
    {planId : PlanId} :
    (db.createAssignment sid gateId role planId).cell id =
      if id = (sid, role) then (db.cell id).createAssignment id gateId planId
      else db.cell id := by
  cases hInsert : db.assignments.insert (.create db.now sid gateId role planId) with
  | some assignments =>
      have hFind := @Table.find?_insert _ _ _ _ _ _ _ id hInsert
      have hKey : (GateAssignment.create db.now sid gateId role planId).id = (sid, role) := rfl
      have hFree : db.assignment? (sid, role) = none :=
        Table.find?_eq_none.2 (Table.insert_eq_some hInsert).1
      have hCreated : db.createAssignment sid gateId role planId = { db with assignments } := by
        rw [ProvisioningDb.createAssignment, hInsert]
      have hCell : { db with assignments }.cell id =
          { db.cell id with assignment := assignments.find? id } := rfl
      rw [hCreated, hCell, hFind, hKey]
      by_cases hMine : id = (sid, role)
      · subst hMine
        have hNone : (db.cell (sid, role)).assignment = none := hFree
        rw [if_pos rfl, if_pos rfl, Cell.createAssignment, hNone]
        rfl
      · rw [if_neg hMine, if_neg hMine]
        rfl
  | none =>
      have hKey : db.assignments.HasKey (sid, role) := Table.insert_eq_none.1 hInsert
      obtain ⟨a, ha, hId⟩ := Table.hasKey_iff.1 hKey
      have hFind : (db.cell (sid, role)).assignment = some a :=
        Table.find?_eq_some_iff.2 ⟨ha, hId⟩
      have hUpdated : db.createAssignment sid gateId role planId =
          db.updateAssignment (sid, role) (·.recreate db.now gateId planId)
            fun _ => GateAssignment.recreate_id := by
        rw [ProvisioningDb.createAssignment, hInsert]
      rw [hUpdated, cell_updateAssignment]
      by_cases hMine : id = (sid, role)
      · subst hMine
        rw [if_pos rfl, if_pos rfl, Cell.updateAssignment, Cell.createAssignment, hFind]
        rfl
      · rw [if_neg hMine, if_neg hMine]

/-! ### Addresses and plans -/

theorem cell_releaseClientAddressLease {sid : SessionId} :
    (db.releaseClientAddressLease sid).cell id =
      if id.1 = sid then { db.cell id with address := none } else db.cell id := by
  have hAddress : (db.releaseClientAddressLease sid).activeAddress? id.1 =
      if id.1 = sid then none else db.activeAddress? id.1 := by
    simp only [ProvisioningDb.activeAddress?, ProvisioningDb.releaseClientAddressLease]
    induction db.leases with
    | nil => simp
    | cons l leases ih =>
        rw [List.map_cons, List.find?_cons, List.find?_cons]
        by_cases hMine : l.sessionId = sid ∧ l.releasedAt = none
        · obtain ⟨rfl, hActive⟩ := hMine
          by_cases hId : id.1 = l.sessionId
          · simp [hActive, hId] at ih ⊢
            exact ih
          · have hId' : ¬ l.sessionId = id.1 := fun h => hId h.symm
            simp only [hActive, and_self, if_pos, Option.isNone_some, Bool.and_false, hId,
              hId', decide_false, Bool.false_and, if_false] at ih ⊢
            exact ih
        · rw [if_neg hMine]
          by_cases hFound : l.sessionId = id.1 ∧ l.releasedAt = none
          · have hId : ¬ id.1 = sid := fun h => hMine ⟨hFound.1.trans h, hFound.2⟩
            simp [hFound.1, hFound.2, hId]
          · have hNot : (decide (l.sessionId = id.1) && l.releasedAt.isNone) = false := by
              simpa [← Option.isNone_iff_eq_none] using hFound
            rw [hNot]
            exact ih
  have hCell : (db.releaseClientAddressLease sid).cell id =
      { db.cell id with
        address := (db.releaseClientAddressLease sid).activeAddress? id.1 } := rfl
  rw [hCell, hAddress]
  split <;> rfl

theorem cell_ensureClientAddressLease {sid : SessionId} {addresses : List ClientAddress}
    {address : ClientAddress} {db' : ProvisioningDb}
    (h : db.ensureClientAddressLease sid addresses = some (address, db')) :
    db'.cell id = (if id.1 = sid then { db.cell id with address := some address }
      else db.cell id) ∧ (id.1 = sid → ∀ old ∈ (db.cell id).address, old = address) := by
  rw [ProvisioningDb.ensureClientAddressLease] at h
  cases hActive : db.activeAddress? sid with
  | some old =>
      rw [hActive] at h
      cases h
      constructor
      · split
        · rename_i hMine
          simp only [ProvisioningDb.cell, hMine, hActive]
        · rfl
      · intro hMine old' hOld
        simp only [ProvisioningDb.cell, hMine, hActive, Option.mem_def,
          Option.some.injEq] at hOld
        exact hOld.symm
  | none =>
      rw [hActive] at h
      obtain ⟨found, -, hEq⟩ := Option.map_eq_some_iff.1 h
      obtain ⟨rfl, rfl⟩ : address = found ∧ db' = db.insertClientAddressLease sid found :=
        ⟨(Prod.ext_iff.1 hEq).1.symm, (Prod.ext_iff.1 hEq).2.symm⟩
      constructor
      · have hAddress : (db.insertClientAddressLease sid address).activeAddress? id.1 =
            if id.1 = sid then some address else db.activeAddress? id.1 := by
          simp only [ProvisioningDb.activeAddress?,
            ProvisioningDb.insertClientAddressLease] at hActive ⊢
          rw [List.find?_append]
          split
          · rename_i hMine
            rw [hMine, Option.map_eq_none_iff.1 hActive]
            simp
          · rename_i hOther
            have hOther' : ¬ sid = id.1 := fun h => hOther h.symm
            simp [hOther']
        have hCell : (db.insertClientAddressLease sid address).cell id =
            { db.cell id with
              address := (db.insertClientAddressLease sid address).activeAddress? id.1 } := rfl
        rw [hCell, hAddress]
        split <;> rfl
      · intro hMine old hOld
        simp only [ProvisioningDb.cell, hMine, hActive, Option.mem_def, reduceCtorEq] at hOld

theorem cell_upsertRenderedPlan {plan : RenderedPlan} :
    (db.upsertRenderedPlan plan).cell id =
      if id.1 = plan.sessionId then (db.cell id).upsertPlan plan else db.cell id := by
  have hPlan : ∀ k, (db.upsertRenderedPlan plan).plan? k =
      if k = plan.id then some ((db.plan? k).elim plan plan.overwrite) else db.plan? k := by
    intro k
    rw [ProvisioningDb.upsertRenderedPlan]
    cases hInsert : db.plans.insert plan with
    | some plans =>
        have hFind := @Table.find?_insert _ _ _ _ _ _ _ k hInsert
        have hFree := Table.find?_eq_none.2 (Table.insert_eq_some hInsert).1
        simp only [ProvisioningDb.plan?, hFind]
        split
        · rename_i hMine
          rw [hMine, hFree]
          rfl
        · rfl
    | none =>
        have hKey : db.plans.HasKey plan.id := Table.insert_eq_none.1 hInsert
        obtain ⟨old, hOld, hId⟩ := Table.hasKey_iff.1 hKey
        have hFind : db.plans.find? plan.id = some old := Table.find?_eq_some_iff.2 ⟨hOld, hId⟩
        have hUpdate := @Table.find?_update _ _ _ _ db.plans plan.id k plan.overwrite
          fun _ => RenderedPlan.overwrite_id
        simp only [ProvisioningDb.plan?, hUpdate]
        split
        · rename_i hMine
          rw [hMine, hFind]
          rfl
        · rfl
  have hOther : (db.upsertRenderedPlan plan).cell id =
      { db.cell id with
        plan := fun generation => (db.upsertRenderedPlan plan).plan? (id.1, generation) } := by
    rw [ProvisioningDb.upsertRenderedPlan]
    split <;> rfl
  rw [hOther]
  split
  · rename_i hMine
    have hPlans : (fun generation => (db.upsertRenderedPlan plan).plan? (id.1, generation)) =
        Function.update (db.cell id).plan plan.generation
          (some (((db.cell id).plan plan.generation).elim plan plan.overwrite)) := by
      funext generation
      have hKey : (id.1, generation) = plan.id ↔ generation = plan.generation := by
        simp [RenderedPlan.id, hMine]
      rw [hPlan]
      by_cases hGeneration : generation = plan.generation
      · rw [if_pos (hKey.2 hGeneration), hGeneration, Function.update_self]
        rfl
      · rw [if_neg (mt hKey.1 hGeneration), Function.update_of_ne hGeneration]
        rfl
    rw [hPlans]
    rfl
  · rename_i hMine
    have hSame : (fun generation => (db.upsertRenderedPlan plan).plan? (id.1, generation)) =
        (db.cell id).plan := by
      funext generation
      rw [hPlan, if_neg]
      · rfl
      · exact fun hEq => hMine (congrArg Prod.fst hEq)
    rw [hSame]

end

end Hyperspace.Provisioning
