import Hyperspace.Provisioning.SharedRows
import Hyperspace.Provisioning.SoundCells

/-!
# Client addresses

An assignment that is applied, or that a commit job is to apply, belongs to a session that holds a
lease on the address of its plan, as long as no lease is released too early and no report on a
finished job comes too late. Then no other session has the address, as active leases are of
different addresses.
-/

namespace Hyperspace.Provisioning

open Hyperspace.Billing (AccountId SessionId Timestamp)
open Hyperspace.ControlPlane Hyperspace.Foundations

variable {config : SessionReconcileConfig} {id : AssignmentId} {c c' : Cell}

namespace Cell

/-- The session holds the address of its plan of a generation. -/
def Holds (c : Cell) (generation : Nat) : Prop :=
  ∃ p ∈ c.plan generation, c.address = some p.clientAddress

/-- The assignment is applied, or a commit job is to apply it. -/
def InUse (c : Cell) : Prop :=
  (∃ a ∈ c.assignment, a.phase = .applied) ∨ c.LiveApply .commit

/-- The address of an assignment that is in use, or of a placed session, is held. -/
structure Addressed (id : AssignmentId) (c : Cell) : Prop where
  planId : ∀ a ∈ c.assignment, a.planId.1 = id.1
  placed : ∀ s ∈ c.session, s.phase.isPlaced → ∀ a ∈ c.assignment,
    a.planId.2 = s.generation ∧ c.Holds s.generation
  inUse : ∀ a ∈ c.assignment, c.InUse → c.Holds a.planId.2

theorem Holds.of_eq {generation : Nat} (h : c.Holds generation) (hPlan : c'.plan = c.plan)
    (hAddress : c'.address = c.address) : c'.Holds generation := by
  obtain ⟨p, hp, hHeld⟩ := h
  exact ⟨p, hPlan ▸ hp, hAddress.trans hHeld⟩

end Cell

theorem CellPass.plan_address (h : CellPass id c c') :
    (c'.plan = c.plan ∧ c'.address = c.address) ∨ c'.assignment = none := by
  cases h with
  | deleted => exact .inr rfl
  | created | moved | drifted | requeued | archived => exact .inl ⟨rfl, rfl⟩
  | committed => exact .inl ⟨Cell.commit_plan, Cell.commit_address⟩
  | repaired => exact .inl ⟨Cell.repair_plan, Cell.repair_address⟩
  | revocationEnqueued | orphanCleaned => exact .inl ⟨Cell.revoke_plan, Cell.revoke_address⟩

namespace Cell

/-- An assignment that a pass leaves in use was in use, or its session is placed. -/
theorem InUse.of_pass (h : CellPass id c c') (hInUse : c'.InUse) :
    c.InUse ∨ ∃ s, c.session = some s ∧ s.phase.isPlaced := by
  rcases hInUse with ⟨a', ha', hApplied⟩ | ⟨j', hj', hType, hOperation, hLive⟩
  · obtain ⟨a, ha, rfl | ⟨-, rfl⟩ | ⟨-, -, rfl⟩ | ⟨-, -, rfl⟩⟩ := h.mem_assignment ha'
    · exact .inl (.inl ⟨_, ha, hApplied⟩)
    · cases hApplied
    · simp only [GateAssignment.requestRevocation] at hApplied
      split at hApplied <;> cases hApplied
    · cases hApplied
  · rcases h.mem_jobs hj' with ⟨j, hj, hKept, hSame, -⟩ | ⟨s, a, n, hs, -, hPlaced, -, rfl⟩ |
      ⟨a, n, -, rfl⟩
    · exact .inl (.inr ⟨j, hj, hKept.type.symm.trans hType,
        hKept.operation.symm.trans hOperation, hSame ▸ hLive⟩)
    · exact .inr ⟨s, hs, hPlaced⟩
    · cases hType

namespace Addressed

theorem pass (hInv : c.Addressed id) (h : CellPass id c c') : c'.Addressed id := by
  have hKept : ∀ generation, c'.assignment.isSome → c.Holds generation →
      c'.Holds generation := by
    intro generation hSome hHolds
    rcases h.plan_address with ⟨hPlan, hAddress⟩ | hNone
    · exact hHolds.of_eq hPlan hAddress
    · simp [hNone] at hSome
  have hOld : ∀ a', c'.assignment = some a' →
      ∃ a, c.assignment = some a ∧ a'.planId = a.planId := by
    intro a' ha'
    obtain ⟨a, ha, rfl | ⟨-, rfl⟩ | ⟨-, -, rfl⟩ | ⟨-, -, rfl⟩⟩ := h.mem_assignment ha'
    · exact ⟨_, ha, rfl⟩
    all_goals exact ⟨a, ha, rfl⟩
  constructor
  · intro a' ha'
    obtain ⟨a, ha, hPlan⟩ := hOld a' ha'
    rw [hPlan]
    exact hInv.planId a ha
  · intro s' hs' hPlaced' a' ha'
    obtain ⟨a, ha, hPlan⟩ := hOld a' ha'
    obtain ⟨s, hs, hPlaced, hGeneration⟩ :
        ∃ s, c.session = some s ∧ s.phase.isPlaced ∧ s'.generation = s.generation := by
      rcases h.mem_session hs' with ⟨-, _, _, configGrant, awaitsPayment, rfl⟩ |
        ⟨s, hs, rfl | rfl | hMove⟩
      · cases configGrant <;> cases awaitsPayment <;>
          simp [Session.create, SessionPhase.isPlaced] at hPlaced'
      · exact ⟨_, hs, hPlaced', rfl⟩
      · exact ⟨s, hs, hPlaced', rfl⟩
      · obtain ⟨hPhase, hGeneration, -⟩ := hMove.placed hPlaced'
        exact ⟨s, hs, hPhase ▸ hPlaced', hGeneration⟩
    obtain ⟨hCurrent, hHolds⟩ := hInv.placed s hs hPlaced a ha
    rw [hPlan, hGeneration]
    exact ⟨hCurrent, hKept _ (by rw [Option.mem_def.1 ha']; rfl) hHolds⟩
  · intro a' ha' hInUse
    obtain ⟨a, ha, hPlan⟩ := hOld a' ha'
    rw [hPlan]
    refine hKept _ (by rw [Option.mem_def.1 ha']; rfl) ?_
    rcases hInUse.of_pass h with hBefore | ⟨s, hs, hPlaced⟩
    · exact hInv.inUse a ha hBefore
    · obtain ⟨hCurrent, hHolds⟩ := hInv.placed s hs hPlaced a ha
      rw [hCurrent]
      exact hHolds

theorem update {f : Job → Job} {g : GateAssignment → GateAssignment} (hInv : c.Addressed id)
    (hPlan : ∀ a, (g a).planId = a.planId)
    (hInUse : ((c.modifyJobs f).updateAssignment g).InUse →
      c.InUse ∨ ∀ a ∈ c.assignment, c.Holds a.planId.2) :
    ((c.modifyJobs f).updateAssignment g).Addressed id := by
  have hOld : ∀ a', ((c.modifyJobs f).updateAssignment g).assignment = some a' →
      ∃ a, c.assignment = some a ∧ a'.planId = a.planId := by
    intro a' ha'
    obtain ⟨a, ha, rfl⟩ := Option.map_eq_some_iff.1 ha'
    exact ⟨a, ha, hPlan a⟩
  constructor
  · intro a' ha'
    obtain ⟨a, ha, hSame⟩ := hOld a' ha'
    rw [hSame]
    exact hInv.planId a ha
  · intro s hs hPlaced a' ha'
    obtain ⟨a, ha, hSame⟩ := hOld a' ha'
    rw [hSame]
    exact hInv.placed s hs hPlaced a ha
  · intro a' ha' hUsed
    obtain ⟨a, ha, hSame⟩ := hOld a' ha'
    rw [hSame]
    rcases hInUse hUsed with hBefore | hHeld
    · exact hInv.inUse a ha hBefore
    · exact hHeld a ha

theorem claim {j : Job} (hInv : c.Addressed id) (hj : j ∈ c.jobs)
    (hUnique : ∀ k ∈ c.jobs, k.id = j.id → k = j) (hLive : j.phase.isLive) :
    (c.claim j).Addressed id := by
  refine hInv.update (fun _ => rfl) fun hInUse => .inl ?_
  rcases hInUse with ⟨a', ha', hApplied⟩ | ⟨k', hk', hType, hOperation, hLive'⟩
  · obtain ⟨a, ha, rfl⟩ := Option.map_eq_some_iff.1 ha'
    refine .inl ⟨a, ha, ?_⟩
    simp only [GateAssignment.setPhase, leasedAssignmentTransition] at hApplied
    split at hApplied
    · exact hApplied
    · split at hApplied <;> cases hApplied
  · obtain ⟨k, hk, ⟨hId, rfl⟩ | ⟨-, rfl⟩⟩ := mem_updateJob hk'
    · obtain rfl := hUnique k hk hId
      exact .inr ⟨k, hj, hType, hOperation, hLive⟩
    · exact .inr ⟨_, hk, hType, hOperation, hLive'⟩


theorem record {j : Job} {report : GateJobReport} (hInv : c.Addressed id)
    (hUnique : ∀ k ∈ c.jobs, k.id = j.id → k = j)
    (hReport : j.AppliedBy report ∨ j.CommitRetriedBy report → ¬ c.InUse →
      ∀ a ∈ c.assignment, c.Holds a.planId.2) : (c.record j report).Addressed id := by
  refine hInv.update (fun a => ?_) fun hInUse => ?_
  · rw [GateAssignment.progress]
    split
    · split <;> rfl
    · split <;> rfl
  · by_cases hBefore : c.InUse
    · exact .inl hBefore
    refine .inr (hReport ?_ hBefore)
    rcases hInUse with ⟨a', ha', hApplied⟩ | ⟨k', hk', hType, hOperation, hLive⟩
    · obtain ⟨a, ha, rfl⟩ := Option.map_eq_some_iff.1 ha'
      rw [GateAssignment.progress] at hApplied
      split at hApplied
      · rename_i hDone
        split at hApplied
        · cases hApplied
        · rename_i hCommit
          exact .inl ⟨hDone.2, hDone.1, hCommit⟩
      · split at hApplied
        · cases hApplied
        · simp only [GateAssignment.setPhase, failedFromReportTransition] at hApplied
          split at hApplied <;> cases hApplied
    · obtain ⟨k, hk, ⟨hId, rfl⟩ | ⟨-, rfl⟩⟩ := mem_updateJob hk'
      · obtain rfl := hUnique k hk hId
        exact .inr ⟨hType, hOperation, Job.transition_isLive hLive⟩
      · exact absurd (.inr ⟨_, hk, hType, hOperation, hLive⟩) hBefore

theorem schedule {s : Session} {gateId : GateId} {draw : TunnelDraw} {address : ClientAddress}
    {n : JobId} (hSession : c.session = some s) (hId : s.id = id.1) :
    (c.schedule config id s gateId draw address n).Addressed id := by
  have hAssignment : ∀ a', (c.schedule config id s gateId draw address n).assignment = some a' →
      a'.planId = (s.id, s.generation) := by
    intro a' ha'
    rcases schedule_assignment_eq_some ha' with rfl | ⟨a, -, rfl⟩ <;> rfl
  have hHolds : (c.schedule config id s gateId draw address n).Holds s.generation := by
    refine ⟨(c.plan s.generation).elim (renderWireGuardPlan config s draw address)
      (renderWireGuardPlan config s draw address).overwrite, ?_, ?_⟩
    · rw [schedule_plan, Function.update_self]
      rfl
    · rw [schedule_address]
      cases c.plan s.generation <;> rfl
  constructor
  · intro a' ha'
    rw [hAssignment a' ha']
    exact hId
  · intro s' hs' _ a' ha'
    rw [schedule_session, hSession] at hs'
    cases hs'
    rw [hAssignment a' ha']
    exact ⟨rfl, hHolds⟩
  · intro a' ha' _
    rw [hAssignment a' ha']
    exact hHolds

theorem updateSession {f : Session → Session} (hInv : c.Addressed id)
    (hPlaced : ∀ s, c.session = some s → (f s).phase.isPlaced →
      s.phase.isPlaced ∧ (f s).generation = s.generation) : (c.updateSession f).Addressed id := by
  refine ⟨hInv.planId, fun s' hs' hPlaced' a ha => ?_, hInv.inUse⟩
  obtain ⟨s, hs, rfl⟩ := Option.map_eq_some_iff.1 hs'
  obtain ⟨hBefore, hGeneration⟩ := hPlaced s hs hPlaced'
  rw [hGeneration]
  exact hInv.placed s hs hBefore a ha

/-- The address may go when the assignment is not in use and the session is not placed. -/
theorem release (hInv : c.Addressed id) (hSession : ∀ s ∈ c.session, ¬ s.phase.isPlaced)
    (hUnused : ¬ c.InUse) : { c with address := none }.Addressed id :=
  ⟨hInv.planId, fun s hs hPlaced => absurd hPlaced (hSession s hs),
    fun _ _ hInUse => absurd hInUse hUnused⟩

theorem failTimedOut (hInv : c.Addressed id) (hApplied : ∀ a ∈ c.assignment, a.phase ≠ .applied) :
    c.failTimedOut.Addressed id := by
  have hUnused : ¬ ((c.modifyJobs (·.failApply c.now)).updateAssignment
      (·.failPending c.now)).InUse := by
    rintro (⟨a', ha', hPhase⟩ | ⟨k', hk', hType, -, hLive⟩)
    · obtain ⟨a, ha, rfl⟩ := Option.map_eq_some_iff.1 ha'
      rw [GateAssignment.failPending] at hPhase
      split at hPhase
      · cases hPhase
      · exact hApplied a ha hPhase
    · obtain ⟨k, hk, rfl⟩ := List.mem_map.1 hk'
      by_cases hFails : k.type = .applyAssignment ∧ k.phase.isLive
      · rw [Job.failApply, if_pos hFails] at hLive
        cases hLive
      · rw [Job.failApply, if_neg hFails] at hType hLive
        exact hFails ⟨hType, hLive⟩
  have hUpdated : ((c.modifyJobs (·.failApply c.now)).updateAssignment
      (·.failPending c.now)).Addressed id := by
    refine hInv.update (fun a => ?_) fun hInUse => absurd hInUse hUnused
    rw [GateAssignment.failPending]
    split <;> rfl
  have hFailed := @updateSession _ _ (·.setPhase c.now .failed none) hUpdated
    fun s _ hPlaced => by simp [Session.setPhase, SessionPhase.isPlaced] at hPlaced
  refine hFailed.release (fun s hs => ?_) hUnused
  obtain ⟨t, -, rfl⟩ := Option.map_eq_some_iff.1 hs
  simp [Session.setPhase, SessionPhase.isPlaced]

theorem completeRevoked (hInv : c.Addressed id) (hUnused : ¬ c.InUse) :
    c.completeRevoked.Addressed id := by
  have hRevoked := @updateSession _ _ (fun s => s.setPhase c.now .revoked (some s.generation))
    hInv fun s _ hPlaced => by simp [Session.setPhase, SessionPhase.isPlaced] at hPlaced
  refine hRevoked.release (fun s hs => ?_) hUnused
  obtain ⟨t, -, rfl⟩ := Option.map_eq_some_iff.1 hs
  simp [Session.setPhase, SessionPhase.isPlaced]

end Addressed

end Cell

namespace ProvisioningDb

variable {db db' : ProvisioningDb} {es : List Event} {action : Action}

/-- The session of the assignment holds the address of the assignment's plan. -/
def HoldsAddress (db : ProvisioningDb) (a : GateAssignment) : Prop :=
  ∃ p ∈ db.plan? a.planId, db.activeAddress? a.sessionId = some p.clientAddress

/-- An assignment that a timed-out session leaves to the pass is not applied, and none of a revoked
session has a commit job in progress. -/
def ReleasesUnused (config : SessionReconcileConfig) (db : ProvisioningDb) : Action → Prop
  | .failTimedOut locked =>
    ∀ s ∈ db.listTimedOutProvisioningSessions config.provisioningTimeoutSeconds locked,
      ∀ a ∈ db.assignments.rows, a.sessionId = s.id → a.phase ≠ .applied
  | .completeRevoked locked =>
    ∀ s ∈ db.listSessionsReadyToMarkRevoked locked,
      ∀ a ∈ db.assignments.rows, a.sessionId = s.id → ¬ db.HasLiveApplyJob a.id .commit
  | _ => True

/-- A report that applies an assignment or has its commit job tried again finds it applied, or with
a commit job in progress, or its session with the address of its plan. -/
def InstallsHeld (db : ProvisioningDb) (action : Action) : Prop :=
  ∀ r ∈ db.reported? action, r.job.AppliedBy r.report ∨ r.job.CommitRetriedBy r.report →
    r.assignment.phase = .applied ∨ db.HasLiveApplyJob r.assignment.id .commit ∨
      db.HoldsAddress r.assignment

/-- The transaction leaves addresses with the assignments that use them. -/
structure KeepsAddresses (config : SessionReconcileConfig) (db : ProvisioningDb)
    (action : Action) : Prop where
  releases : db.ReleasesUnused config action
  installs : db.InstallsHeld action

instance : DecidablePred db.HoldsAddress := fun _ => inferInstanceAs (Decidable (∃ p ∈ _, _))

instance : DecidablePred (db.ReleasesUnused config) := fun action => by
  apply Action.casesOn (motive := fun action => Decidable (db.ReleasesUnused config action)) action
  all_goals
    intros
    dsimp only [ReleasesUnused]
    infer_instance

instance : DecidablePred db.InstallsHeld := fun _ => inferInstanceAs (Decidable (∀ r ∈ _, _))

instance : DecidablePred (db.KeepsAddresses config) := fun action =>
  decidable_of_iff (db.ReleasesUnused config action ∧ db.InstallsHeld action)
    ⟨fun ⟨h₁, h₂⟩ => ⟨h₁, h₂⟩, fun ⟨h₁, h₂⟩ => ⟨h₁, h₂⟩⟩

theorem holds_of_holdsAddress {a : GateAssignment} (hInv : (db.cell id).Addressed id)
    (ha : (db.cell id).assignment = some a) (h : db.HoldsAddress a) :
    (db.cell id).Holds a.planId.2 := by
  have hMine : a.sessionId = id.1 := congrArg Prod.fst (mem_of_cell_assignment ha).2
  have hPlanId : a.planId = (id.1, a.planId.2) := Prod.ext (hInv.planId a ha) rfl
  obtain ⟨p, hp, hAddress⟩ := h
  rw [hPlanId] at hp
  rw [hMine] at hAddress
  exact ⟨p, hp, hAddress⟩

theorem CellChange.addressed (h : db.CellChange config id action c)
    (hSound : (db.cell id).Sound id) (hMeets : db.KeepsAddresses config action)
    (hInv : (db.cell id).Addressed id) : c.Addressed id := by
  cases h with
  | passed _ _ passes =>
      exact passes.invariant (fun _ _ _ hInv hPass => hInv.pass hPass) hSound hInv
  | exhaustedHidden locked s found session =>
      refine ⟨hInv.planId, fun t ht => ?_, hInv.inUse⟩
      cases ht
      exact hInv.placed s session
  | claimed gateId lane locked j mine found =>
      exact hInv.claim mine (fun k hk => cell_job_unique mine hk) (isLive_of_claimable found)
  | reported gateId report j mine gate =>
      refine hInv.record (fun k hk => cell_job_unique mine hk) fun hInstalls hUnused a ha => ?_
      have hId : a.id = id := (mem_of_cell_assignment ha).2
      rcases hMeets.installs _ (reported?_eq_some mine gate ha) hInstalls with
        hApplied | hLive | hHolds
      · exact absurd (.inl ⟨a, ha, hApplied⟩) hUnused
      · rw [hId] at hLive
        exact absurd (.inr (hasLiveApplyJob_iff.1 hLive)) hUnused
      · exact holds_of_holdsAddress hInv ha hHolds
  | scheduled outcome locked s gateId draw address n session =>
      exact .schedule session (hSound.sessionId s session)
  | activated locked s listed session phase =>
      refine hInv.updateSession fun t ht _ => ?_
      rw [session] at ht
      cases ht
      exact ⟨by rw [phase]; rfl, rfl⟩
  | timedOut locked s listed session =>
      refine hInv.failTimedOut fun a ha => ?_
      obtain ⟨hRow, hId⟩ := mem_of_cell_assignment ha
      exact hMeets.releases s listed a hRow
        ((congrArg Prod.fst hId).trans (hSound.sessionId s session).symm)
  | revoked locked s listed session ready =>
      refine hInv.completeRevoked ?_
      have hMine : ∀ a, (db.cell id).assignment = some a → a.sessionId = s.id := fun a ha =>
        (congrArg Prod.fst (mem_of_cell_assignment ha).2).trans (hSound.sessionId s session).symm
      rintro (⟨a, ha, hApplied⟩ | hLive)
      · refine ready.2 ⟨a, (mem_of_cell_assignment ha).1, hMine a ha, ?_⟩
        rw [hApplied]
        simp
      · obtain ⟨j, hj, hFor⟩ := hLive
        obtain ⟨a, ha⟩ := hSound.exists_assignment hj
        obtain ⟨hRow, hId⟩ := mem_of_cell_assignment ha
        refine hMeets.releases s listed a hRow (hMine a ha) ?_
        rw [hId]
        exact hasLiveApplyJob_iff.2 ⟨j, hj, hFor⟩

/-! ### Leases -/

/-- Active leases of one address belong to one session. -/
def LeasesExclusive (leases : List ClientAddressLease) : Prop :=
  ∀ l ∈ leases, ∀ l' ∈ leases, l.releasedAt = none → l'.releasedAt = none →
    l.clientAddress = l'.clientAddress → l.sessionId = l'.sessionId

theorem LeasesExclusive.released {leases : List ClientAddressLease} {now : Timestamp}
    {sid : SessionId} (h : LeasesExclusive leases) : LeasesExclusive (released now sid leases) := by
  have hOld : ∀ l ∈ ProvisioningDb.released now sid leases, l.releasedAt = none → l ∈ leases := by
    intro l hl hActive
    obtain ⟨k, hk, rfl⟩ := List.mem_map.1 hl
    by_cases hReleased : k.sessionId = sid ∧ k.releasedAt = none
    · rw [if_pos hReleased] at hActive
      cases hActive
    · rw [if_neg hReleased]
      exact hk
  exact fun l hl l' hl' hActive hActive' =>
    h l (hOld l hl hActive) l' (hOld l' hl' hActive') hActive
    hActive'

theorem LeasesExclusive.insert {leases : List ClientAddressLease} {sid : SessionId}
    {address : ClientAddress} (h : LeasesExclusive leases)
    (hFree : ∀ l ∈ leases, l.releasedAt = none → l.clientAddress ≠ address) :
    LeasesExclusive (leases ++ [⟨sid, address, none⟩]) := by
  intro l hl l' hl' hActive hActive' hSame
  simp only [List.mem_append, List.mem_singleton] at hl hl'
  rcases hl with hl | rfl <;> rcases hl' with hl' | rfl
  · exact h l hl l' hl' hActive hActive' hSame
  · exact absurd hSame (hFree l hl hActive)
  · exact absurd hSame.symm (hFree l' hl' hActive')
  · rfl

theorem LeasesExclusive.of_subset {leases leases' : List ClientAddressLease}
    (h : LeasesExclusive leases) (hSubset : ∀ l ∈ leases', l ∈ leases) :
    LeasesExclusive leases' :=
  fun l hl l' hl' => h l (hSubset l hl) l' (hSubset l' hl')

theorem leasesExclusive_perform (h : LeasesExclusive db.leases) :
    LeasesExclusive (db.perform config action).leases := by
  have hKept : ∀ db' : ProvisioningDb, db'.leases = db.leases → LeasesExclusive db'.leases :=
    fun db' hSame => hSame ▸ h
  by_cases hPrivate : action.IsPrivate
  · exact hKept _ (congrArg SharedRows.leases (shared_perform hPrivate))
  cases action with
  | deleteUnpaidSession accountId sid =>
      refine h.of_subset fun l hl => ?_
      rw [perform, deleteUnpaidSession] at hl
      split at hl
      · split at hl
        · exact List.mem_of_mem_filter hl
        · exact hl
      · exact hl
  | revokeByOwner => exact hKept _ requests_requestOwnedSessionRevocation.leases
  | revokeExpired | suspendAccount => exact hKept _ requests_requestSystemRevocations.leases
  | enforceQuota => exact hKept _ requests_enforceSessionTrafficQuota.leases
  | snapshot | deleteSnapshots => exact h
  | schedule outcome locked =>
      refine @foldl_invariant _ _ _ _ _ (fun db : ProvisioningDb => LeasesExclusive db.leases)
        (fun db s _ hInv => ?_) h
      rcases @shared_scheduleSession db config outcome s with hSame | ⟨address, hFree, hAdded⟩
      · have hLeases : (db.scheduleSession config outcome s).leases = db.leases :=
          congrArg SharedRows.leases hSame
        exact hLeases ▸ hInv
      · have hLeases : (db.scheduleSession config outcome s).leases =
            db.leases ++ [⟨s.id, address, none⟩] := congrArg SharedRows.leases hAdded
        rw [hLeases]
        exact hInv.insert hFree
  | failTimedOut | completeRevoked =>
      exact @foldl_invariant _ _ _ _ _ (fun db : ProvisioningDb => LeasesExclusive db.leases)
        (fun _ _ _ hInv => hInv.released) h
  | _ => exact absurd trivial hPrivate

theorem leasesExclusive_run (hRun : run (step config) emptyDb es = some db) :
    LeasesExclusive db.leases := by
  refine @run_invariant _ _ _ (fun db : ProvisioningDb => LeasesExclusive db.leases)
    (fun db e db' hInv hStep => ?_) _ _ _ (by simp [LeasesExclusive, emptyDb]) hRun
  obtain ⟨-, rfl⟩ := step_eq_some hStep
  exact leasesExclusive_perform hInv

/-- The invariant of every assignment in every run that keeps addresses. -/
theorem addressed_run (hRun : run (step config) emptyDb es = some db)
    (hMeet : StepsMeet (step config)
      (fun db e => (db.atTime e.now).KeepsAddresses config e.action) emptyDb es) :
    (db.cell id).Addressed id :=
  run_cell (fun _ _ _ hInv => ⟨hInv.planId, hInv.placed, hInv.inUse⟩)
    (fun _ _ _ hTicked hMeets hInv hChange => hChange.addressed hTicked.sound hMeets hInv)
    sound_emptyDb
    (by constructor <;> simp [emptyDb, cell, session?, assignment?, Table.find?]) hRun hMeet

/-- While a session has an active lease of an address, no assignment of another session whose plan
carries the address is applied or has a commit job in progress. -/
def AddressesExclusive (db : ProvisioningDb) : Prop :=
  ∀ l ∈ db.leases, l.releasedAt = none → ∀ a ∈ db.assignments.rows, a.sessionId ≠ l.sessionId →
    ∀ p ∈ db.plan? a.planId, p.clientAddress = l.clientAddress →
      a.phase ≠ .applied ∧ ¬ db.HasLiveApplyJob a.id .commit

instance : Decidable db.AddressesExclusive := inferInstanceAs (Decidable (∀ l ∈ _, _))

/-- In every run that keeps addresses, an address is used by one session at a time. -/
theorem addresses_exclusive (hRun : run (step config) emptyDb es = some db)
    (hMeet : StepsMeet (step config)
      (fun db e => (db.atTime e.now).KeepsAddresses config e.action) emptyDb es) :
    db.AddressesExclusive := by
  intro l hl hActive a ha hOther p hp hSame
  have hInv : (db.cell a.id).Addressed a.id := addressed_run hRun hMeet
  have hCell : (db.cell a.id).assignment = some a := cell_assignment_eq_some ha rfl
  have hUnused : ¬ (db.cell a.id).InUse := by
    intro hInUse
    obtain ⟨q, hq, hAddress⟩ := hInv.inUse a hCell hInUse
    have hPlanId : a.planId = (a.sessionId, a.planId.2) := Prod.ext (hInv.planId a hCell) rfl
    rw [hPlanId] at hp
    obtain rfl : p = q := Option.some.inj ((Option.mem_def.1 hp).symm.trans hq)
    obtain ⟨l', hl', hEq⟩ := Option.map_eq_some_iff.1 hAddress
    have hFound := List.find?_some hl'
    simp only [Bool.and_eq_true, decide_eq_true_eq, Option.isNone_iff_eq_none] at hFound
    refine hOther (hFound.1.symm.trans ?_)
    exact leasesExclusive_run hRun l' (List.mem_of_find?_eq_some hl') l hl hFound.2 hActive
      (hEq.trans hSame)
  exact ⟨fun hApplied => hUnused (.inl ⟨a, hCell, hApplied⟩),
    fun hLive => hUnused (.inr (hasLiveApplyJob_iff.1 hLive))⟩

/-- A session times out while its ingress assignment is applied and its egress gate has not
answered. -/
def halfAppliedRun : List Event :=
  preparedRun ++
    [⟨9, .enqueueCommits []⟩, ⟨10, .claim 1 none []⟩, ⟨11, .report 1 2 (succeeds "commit")⟩,
      ⟨1000000000, .failTimedOut []⟩]

/-- A session ends and another one gets its address. -/
def addressReusedRun : List Event :=
  activeRun ++
    [⟨15, .revokeByOwner 7 1⟩, ⟨16, .enqueueRevocations []⟩, ⟨17, .claim 1 none []⟩,
      ⟨18, .report 1 4 (succeeds "")⟩, ⟨19, .claim 2 none []⟩, ⟨20, .report 2 5 (succeeds "")⟩,
      ⟨21, .completeRevoked []⟩, ⟨22, .createSession 2 8 .wireguard false (some 100)⟩,
      ⟨23, .beginProbing []⟩, ⟨24, .advanceProbed []⟩, ⟨25, .schedule samplePath []⟩]

theorem addresses_exclusive_sample :
    ∃ db, run (step sampleConfig) emptyDb addressReusedRun = some db ∧ db.AddressesExclusive := by
  obtain ⟨db, hRun⟩ := Option.isSome_iff_exists.1
    (show (run (step sampleConfig) emptyDb addressReusedRun).isSome by decide +kernel)
  exact ⟨db, hRun, addresses_exclusive hRun (by decide +kernel)⟩

/-- Another session gets the address that the applied assignment has. -/
theorem not_addresses_exclusive : ∃ es db, run (step sampleConfig) emptyDb es = some db ∧
    ¬ db.AddressesExclusive := by
  have hRun : ∃ db ∈ run (step sampleConfig) emptyDb (halfAppliedRun ++
      [⟨1000000001, .createSession 2 8 .wireguard false (some 100)⟩, ⟨1000000002, .beginProbing []⟩,
        ⟨1000000003, .advanceProbed []⟩, ⟨1000000004, .schedule samplePath []⟩]),
      ¬ db.AddressesExclusive := by
    decide +kernel
  obtain ⟨db, hRun, hShared⟩ := hRun
  exact ⟨_, db, hRun, hShared⟩

end ProvisioningDb

end Hyperspace.Provisioning
