import Hyperspace.Provisioning.Quotas
import Hyperspace.Provisioning.ReconcileLoop

/-!
# The plans that active sessions run

A session becomes active when two of its assignments are applied. An assignment that is applied
stays so when it gets a new plan, and a report marks it applied with the plan of its row, whatever
the plan of the job. As long as every such report is about the current plan and comes before the
session is revoked, an assignment is applied only under its current plan.
-/

namespace Hyperspace.Provisioning

open Hyperspace.Billing (AccountId SessionId Timestamp)
open Hyperspace.ControlPlane Hyperspace.Foundations

/-- The session has its plan, and its assignments are not all revoked. -/
def Session.KeepsPlan (s : Session) : Prop := awaitsPlan s.phase = false ∧ s.phase ≠ .revoked

instance : DecidablePred Session.KeepsPlan := fun _ => inferInstanceAs (Decidable (_ ∧ _))

theorem SessionMove.keepsPlan {now : Timestamp} {s s' : Session} (h : SessionMove now s s')
    (hKeeps : s.KeepsPlan) : s'.KeepsPlan := by
  obtain ⟨hPlan, hRevoked⟩ := hKeeps
  have hNot : ∀ {phase}, s.phase = phase → Provisioning.awaitsPlan phase = true → False := by
    rintro _ rfl hAwaits
    rw [hPlan] at hAwaits
    cases hAwaits
  cases h with
  | revocationRequested => simp [Session.KeepsPlan, Session.setPhase, requestRevocationPhase,
      hRevoked, Provisioning.awaitsPlan]
  | hidden | consumed | exhausted | adjusted | entitled => exact ⟨hPlan, hRevoked⟩
  | reactivated _ _ phase => exact absurd phase hRevoked
  | paid _ pending => exact (hNot pending rfl).elim
  | revocationBegun => exact ⟨rfl, by simp [Session.setPhase]⟩
  | probing _ phase | probed _ phase | unplaced _ phase => exact (hNot phase rfl).elim

/-- The assignment of a cell is applied only under its plan, and this was reported. -/
structure Cell.RunsCurrent (id : AssignmentId) (commits : List (AssignmentId × PlanId)) (c : Cell) :
    Prop where
  rendered : ∀ a ∈ c.assignment, a.planId.1 = id.1 ∧ (c.plan a.planId.2).isSome
  placed : ∀ s ∈ c.session, s.phase.isPlaced → ∀ a ∈ c.assignment,
    a.planId = (s.id, s.generation)
  applied : ∀ a ∈ c.assignment, a.phase = .applied → a.appliedPlanId = some a.planId ∧
    (id, a.planId) ∈ commits ∧ ∃ s ∈ c.session, s.KeepsPlan

theorem GateAssignment.progress_planId {now : Timestamp} {type : JobType} {report : GateJobReport}
    {terminalFailure : Bool} {a : GateAssignment} :
    (a.progress now type report terminalFailure).planId = a.planId := by
  rw [progress]
  split
  · split <;> rfl
  · split <;> rfl

/-- Only a report that says so marks an assignment applied, with the plan of its row. -/
theorem GateAssignment.progress_applied {now : Timestamp} {j : Job} {report : GateJobReport}
    {terminalFailure : Bool} {a : GateAssignment}
    (h : (a.progress now j.type report terminalFailure).phase = .applied) :
    j.AppliedBy report ∧ a.progress now j.type report terminalFailure = a.markApplied now := by
  rw [progress] at h ⊢
  split at h
  · rename_i hApply
    rw [if_pos hApply]
    split at h
    · cases h
    · rename_i hOperation
      rw [if_neg hOperation]
      exact ⟨⟨hApply.2, hApply.1, hOperation⟩, rfl⟩
  · split at h
    · cases h
    · simp only [setPhase, failedFromReportTransition] at h
      split at h <;> cases h

namespace Cell.RunsCurrent

variable {config : SessionReconcileConfig} {id : AssignmentId}
  {commits commits' : List (AssignmentId × PlanId)} {c c' : Cell}

theorem mono (hInv : c.RunsCurrent id commits) (h : ∀ r ∈ commits, r ∈ commits') :
    c.RunsCurrent id commits' where
  rendered := hInv.rendered
  placed := hInv.placed
  applied a ha hPhase := (hInv.applied a ha hPhase).imp_right fun hRest => ⟨h _ hRest.1, hRest.2⟩

theorem updateAssignment {f : GateAssignment → GateAssignment} (hInv : c.RunsCurrent id commits)
    (hPlan : ∀ a, (f a).planId = a.planId)
    (hApplied : ∀ a, (f a).phase = .applied → a.phase = .applied ∧
      (f a).appliedPlanId = a.appliedPlanId) :
    (c.updateAssignment f).RunsCurrent id commits where
  rendered := by
    intro a' ha'
    obtain ⟨a, ha, rfl⟩ := Option.map_eq_some_iff.1 ha'
    rw [hPlan]
    exact hInv.rendered a ha
  placed := by
    intro s hs hPlaced a' ha'
    obtain ⟨a, ha, rfl⟩ := Option.map_eq_some_iff.1 ha'
    rw [hPlan]
    exact hInv.placed s hs hPlaced a ha
  applied := by
    intro a' ha' hPhase
    obtain ⟨a, ha, rfl⟩ := Option.map_eq_some_iff.1 ha'
    obtain ⟨hOld, hSame⟩ := hApplied a hPhase
    rw [hSame, hPlan]
    exact hInv.applied a ha hOld

theorem updateSession {f : Session → Session} (hInv : c.RunsCurrent id commits)
    (hPlaced : ∀ s ∈ c.session, (f s).phase.isPlaced → s.phase.isPlaced ∧
      ((f s).id, (f s).generation) = (s.id, s.generation))
    (hKeeps : (∃ a ∈ c.assignment, a.phase = .applied) →
      ∀ s ∈ c.session, s.KeepsPlan → (f s).KeepsPlan) :
    (c.updateSession f).RunsCurrent id commits where
  rendered := hInv.rendered
  placed := by
    intro s' hs' hPlaced' a ha
    obtain ⟨s, hs, rfl⟩ := Option.map_eq_some_iff.1 hs'
    obtain ⟨hOld, hSame⟩ := hPlaced s hs hPlaced'
    rw [hSame]
    exact hInv.placed s hs hOld a ha
  applied := by
    intro a ha hPhase
    obtain ⟨hPlan, hReported, s, hs, hPlan'⟩ := hInv.applied a ha hPhase
    exact ⟨hPlan, hReported, f s, Option.map_eq_some_iff.2 ⟨s, hs, rfl⟩,
      hKeeps ⟨a, ha, hPhase⟩ s hs hPlan'⟩

theorem pass (hInv : c.RunsCurrent id commits) (h : CellPass id c c') :
    c'.RunsCurrent id commits := by
  have hOrigin : ∀ {a'}, c'.assignment = some a' → ∃ a, c.assignment = some a ∧
      a'.planId = a.planId ∧ (a'.phase = .applied → a' = a) := by
    intro a' ha'
    obtain ⟨a, ha, rfl | ⟨-, rfl⟩ | ⟨-, -, rfl⟩ | ⟨-, -, rfl⟩⟩ := h.mem_assignment ha'
    · exact ⟨a', ha, rfl, fun _ => rfl⟩
    · exact ⟨a, ha, rfl, fun hPhase => by simp [GateAssignment.setPhase] at hPhase⟩
    · refine ⟨a, ha, rfl, fun hPhase => ?_⟩
      simp only [GateAssignment.requestRevocation] at hPhase
      split at hPhase <;> cases hPhase
    · exact ⟨a, ha, rfl, fun hPhase => by simp [GateAssignment.setPhase] at hPhase⟩
  constructor
  · intro a' ha'
    obtain ⟨a, ha, hPlan, -⟩ := hOrigin ha'
    obtain ⟨hSession, hRendered⟩ := hInv.rendered a ha
    rw [hPlan]
    rcases h.rows_kept with ⟨hKept, -⟩ | ⟨-, -, hNone, -⟩
    · exact ⟨hSession, hKept _ hRendered⟩
    · rw [Option.mem_def, hNone] at ha'
      cases ha'
  · intro s' hs' hPlaced a' ha'
    obtain ⟨a, ha, hPlan, -⟩ := hOrigin ha'
    rw [hPlan]
    rcases h.mem_session hs' with ⟨-, accountId, clientProtocol, configGrant, awaitsPayment, rfl⟩ |
      ⟨s, hs, rfl | rfl | hMove⟩
    · simp only [Session.create] at hPlaced
      split at hPlaced
      · cases hPlaced
      · split at hPlaced <;> cases hPlaced
    · exact hInv.placed s' hs hPlaced a ha
    · exact hInv.placed s hs hPlaced a ha
    · obtain ⟨hPhase, hGeneration, -⟩ := hMove.placed hPlaced
      rw [hMove.id_eq, hGeneration]
      exact hInv.placed s hs (hPhase ▸ hPlaced) a ha
  · intro a' ha' hPhase
    obtain ⟨a, ha, -, hSame⟩ := hOrigin ha'
    obtain rfl := hSame hPhase
    obtain ⟨hApplied, hReported, s, hs, hKeeps⟩ := hInv.applied a' ha hPhase
    refine ⟨hApplied, hReported, ?_⟩
    rcases h.rows_kept with ⟨-, -, hKept⟩ | ⟨-, -, hNone, -⟩
    · obtain ⟨s', hs'⟩ := Option.isSome_iff_exists.1 (hKept (Option.isSome_iff_exists.2 ⟨s, hs⟩))
      refine ⟨s', hs', ?_⟩
      rcases h.mem_session hs' with ⟨hMissing, -⟩ | ⟨t, ht, hMoved⟩
      · rw [hMissing] at hs
        cases hs
      · rw [Option.mem_def.1 hs] at ht
        cases ht
        rcases hMoved with rfl | rfl | hMove
        · exact hKeeps
        · exact hKeeps
        · exact hMove.keepsPlan hKeeps
    · rw [Option.mem_def, hNone] at ha'
      cases ha'

theorem claim {j : Job} (hInv : c.RunsCurrent id commits) : (c.claim j).RunsCurrent id commits := by
  have hClaimed := hInv.updateAssignment
    (f := fun a => a.setPhase c.now (leasedAssignmentTransition j.type a.phase)) (fun _ => rfl) ?_
  · exact ⟨hClaimed.rendered, hClaimed.placed, hClaimed.applied⟩
  · intro a hPhase
    refine ⟨?_, rfl⟩
    simp only [GateAssignment.setPhase, leasedAssignmentTransition] at hPhase
    split at hPhase
    · exact hPhase
    · split at hPhase <;> cases hPhase

theorem record {j : Job} {report : GateJobReport} (hInv : c.RunsCurrent id commits)
    (hCurrent : j.AppliedBy report → ∀ a ∈ c.assignment,
      (id, a.planId) ∈ commits ∧ ∃ s ∈ c.session, s.KeepsPlan) :
    (c.record j report).RunsCurrent id commits := by
  constructor
  · intro a' ha'
    obtain ⟨a, ha, rfl⟩ := Option.map_eq_some_iff.1 ha'
    rw [GateAssignment.progress_planId]
    exact hInv.rendered a ha
  · intro s hs hPlaced a' ha'
    obtain ⟨a, ha, rfl⟩ := Option.map_eq_some_iff.1 ha'
    rw [GateAssignment.progress_planId]
    exact hInv.placed s hs hPlaced a ha
  · intro a' ha' hPhase
    obtain ⟨a, ha, rfl⟩ := Option.map_eq_some_iff.1 ha'
    obtain ⟨hSays, hMarked⟩ := GateAssignment.progress_applied hPhase
    rw [hMarked]
    exact ⟨rfl, hCurrent hSays a ha⟩

theorem schedule {s : Session} {gateId : GateId} {draw : TunnelDraw} {address : ClientAddress}
    {n : JobId} (hInv : c.RunsCurrent id commits) (hSession : c.session = some s)
    (hId : s.id = id.1) (hPhase : s.phase = .scheduling) :
    (c.schedule config id s gateId draw address n).RunsCurrent id commits := by
  have hRow : ∀ a ∈ (c.schedule config id s gateId draw address n).assignment,
      a.planId = (s.id, s.generation) ∧ a.phase ≠ .applied := by
    intro a' ha'
    rcases Cell.schedule_assignment_eq_some ha' with rfl | ⟨a, ha, rfl⟩
    · exact ⟨rfl, by simp [GateAssignment.create]⟩
    · refine ⟨rfl, fun hApplied => ?_⟩
      have hOld : a.phase = .applied := by
        by_contra hNot
        simp [GateAssignment.recreate, hNot] at hApplied
      obtain ⟨-, -, t, ht, hKeeps, -⟩ := hInv.applied a ha hOld
      rw [hSession] at ht
      cases ht
      rw [hPhase] at hKeeps
      cases hKeeps
  constructor
  · intro a ha
    rw [(hRow a ha).1, Cell.schedule_plan]
    simp [hId]
  · intro t ht _ a ha
    rw [Option.mem_def, Cell.schedule_session, hSession] at ht
    cases ht
    exact (hRow a ha).1
  · intro a ha hApplied
    exact absurd hApplied (hRow a ha).2

end Cell.RunsCurrent

namespace ProvisioningDb

variable {config : SessionReconcileConfig} {db db' : ProvisioningDb} {id : AssignmentId}
  {commits : List (AssignmentId × PlanId)}

/-- The assignment and the plan of a commit job that is reported to be applied. -/
def reportedCommit? (db : ProvisioningDb) (action : Action) : Option (AssignmentId × PlanId) :=
  (db.reported? action).bind fun r =>
    if r.job.AppliedBy r.report ∧ r.job.operation = some .commit then
      r.job.planId.bind fun planId =>
        if (db.plan? planId).isSome then some (r.assignment.id, planId) else none
    else none

/-- A report that marks an assignment applied is about a commit job with the plan of the
assignment, and the session has not been revoked since. -/
def ReportsCurrent (db : ProvisioningDb) (action : Action) : Prop :=
  ∀ r ∈ db.reported? action, r.job.AppliedBy r.report →
    (r.job.operation = some .commit ∧ r.job.planId = some r.assignment.planId) ∧
      ∃ s ∈ db.session? r.assignment.sessionId, s.KeepsPlan

instance : DecidablePred db.ReportsCurrent :=
  fun action => inferInstanceAs (Decidable (∀ r ∈ db.reported? action, _))

theorem CellChange.runsCurrent {action : Action} {c : Cell} (h : db.CellChange config id action c)
    (hSound : (db.cell id).Sound id) (hInv : (db.cell id).RunsCurrent id commits)
    (hCurrent : db.ReportsCurrent action) :
    c.RunsCurrent id (commits ++ (db.reportedCommit? action).toList) := by
  have hKept : (db.cell id).RunsCurrent id (commits ++ (db.reportedCommit? action).toList) :=
    hInv.mono fun r hr => List.mem_append_left _ hr
  cases h with
  | passed _ _ passes =>
      exact passes.invariant (fun _ _ _ hInv hPass => hInv.pass hPass) hSound hKept
  | exhaustedHidden locked s found session =>
      have hExhausted := hKept.updateSession (f := (·.setEntitlement (·.exhaust db.now)))
        (fun _ _ hPlaced => ⟨hPlaced, rfl⟩) fun _ _ _ hKeeps => hKeeps
      rw [Cell.updateSession, session] at hExhausted
      exact hExhausted
  | claimed => exact hKept.claim
  | reported gateId report j mine gate =>
      refine hKept.record fun hSays a ha => ?_
      have hReported : db.reported? (.report gateId j.id report) = some ⟨j, a, report⟩ :=
        reported?_eq_some mine gate ha
      obtain ⟨⟨hCommit, hPlan⟩, hSession⟩ :
          (j.operation = some .commit ∧ j.planId = some a.planId) ∧
            ∃ s ∈ db.session? a.sessionId, s.KeepsPlan := hCurrent _ hReported hSays
      obtain ⟨-, hId⟩ := mem_of_cell_assignment ha
      obtain ⟨hOwn, hRendered⟩ := hInv.rendered a ha
      have hPlan? : (db.plan? a.planId).isSome := by
        rw [← Prod.mk.eta (p := a.planId), hOwn]
        exact hRendered
      refine ⟨List.mem_append_right _ ?_, ?_⟩
      · simp [reportedCommit?, hReported, hSays, hCommit, hPlan, hPlan?, hId]
      · have hOwner : a.sessionId = id.1 := congrArg Prod.fst hId
        rw [hOwner] at hSession
        exact hSession
  | scheduled outcome locked s gateId draw address n session desired phase =>
      exact hKept.schedule session (hSound.sessionId s session) phase
  | activated locked s listed session phase =>
      refine hKept.updateSession (fun t ht _ => ?_) fun _ t ht hKeeps => ?_
      · rw [session] at ht
        cases ht
        exact ⟨by rw [phase]; rfl, rfl⟩
      · exact ⟨rfl, by simp [Session.setPhase]⟩
  | timedOut locked s listed session phase =>
      have hFailed := (hKept.updateSession (f := (·.setPhase db.now .failed none))
        (fun _ _ hPlaced => by cases hPlaced) fun _ _ _ _ =>
          ⟨rfl, by simp [Session.setPhase]⟩).updateAssignment
        (f := (·.failPending db.now)) (fun a => ?_) fun a hPhase => ?_
      · exact ⟨hFailed.rendered, hFailed.placed, hFailed.applied⟩
      · rw [GateAssignment.failPending]
        split <;> rfl
      · rw [GateAssignment.failPending] at hPhase ⊢
        split at hPhase
        · cases hPhase
        · rename_i hSettled
          rw [if_neg hSettled]
          exact ⟨hPhase, rfl⟩
  | revoked locked s listed session ready =>
      have hRevoked := hKept.updateSession
        (f := fun s => s.setPhase db.now .revoked (some s.generation))
        (fun _ _ hPlaced => by cases hPlaced) ?_
      · exact ⟨hRevoked.rendered, hRevoked.placed, hRevoked.applied⟩
      · rintro ⟨a, ha, hPhase⟩
        obtain ⟨hRow, hId⟩ := mem_of_cell_assignment ha
        have hOwner : a.sessionId = s.id :=
          (congrArg Prod.fst hId).trans (hSound.sessionId s session).symm
        exact absurd ⟨a, hRow, hOwner, by simp [hPhase]⟩ ready.2

/-- Only the pass that activates sessions makes one active, and only with both assignments
applied. -/
theorem CellChange.becomesActive {action : Action} {c : Cell} {s' : Session}
    (h : db.CellChange config id action c) (hSound : (db.cell id).Sound id)
    (hSession : c.session = some s') (hActive : s'.phase = .active)
    (hBefore : ∀ s ∈ (db.cell id).session, s.phase ≠ .active) :
    ∃ s, (db.cell id).session = some s ∧ s.phase = .provisioning ∧
      db.countAssignments s.id .applied = 2 ∧ c = (db.cell id).activate := by
  have hNot : (∀ t ∈ c.session, t.phase ≠ .active) → False := fun hAll => hAll s' hSession hActive
  have hMoved : ∀ {phase : SessionPhase} {observed : Session → Option Nat}, phase ≠ .active →
      ∀ t ∈ (db.cell id).session.map fun s => s.setPhase db.now phase (observed s),
        t.phase ≠ .active := by
    intro phase observed hPhase t ht
    obtain ⟨s, -, rfl⟩ := Option.map_eq_some_iff.1 ht
    exact hPhase
  cases h with
  | passed _ _ passes =>
      refine (hNot ?_).elim
      refine @CellPasses.invariant _ _ _ (fun c => ∀ s ∈ c.session, s.phase ≠ .active)
        (fun c c' _ hInv hPass t' ht' => ?_) passes hSound hBefore
      rcases hPass.mem_session ht' with
        ⟨-, accountId, clientProtocol, configGrant, awaitsPayment, rfl⟩ | ⟨t, ht, hFrom⟩
      · simp only [Session.create]
        split
        · simp
        · split <;> simp
      · rcases hFrom with rfl | rfl | hMove
        · exact hInv t' ht
        · exact hInv t ht
        · intro hPhase
          have hPlaced := hMove.placed (by rw [hPhase]; rfl)
          exact hInv t ht (hPlaced.1 ▸ hPhase)
  | exhaustedHidden locked s found session =>
      refine (hNot fun t ht => ?_).elim
      cases ht
      exact hBefore s session
  | claimed | reported => exact (hNot hBefore).elim
  | scheduled outcome locked s gateId draw address n session =>
      refine (hNot fun t ht => ?_).elim
      rw [Option.mem_def, Cell.schedule_session, session] at ht
      cases ht
      simp [Session.setPhase]
  | activated locked s listed session phase applied => exact ⟨s, session, phase, applied, rfl⟩
  | timedOut => exact (hNot (@hMoved .failed (fun _ => none) (by simp))).elim
  | revoked => exact (hNot (@hMoved .revoked (fun s => some s.generation) (by simp))).elim

end ProvisioningDb

/-! ### Runs with their reported commits -/

/-- The database, and what gates have reported of commit jobs so far. -/
structure ReportedDb where
  db : ProvisioningDb
  commits : List (AssignmentId × PlanId)

namespace ReportedDb

variable {config : SessionReconcileConfig} {s s' : ReportedDb} {e : Event} {es : List Event}

/-- A transaction, and the commit that it reports. -/
def step (config : SessionReconcileConfig) (s : ReportedDb) (e : Event) : Option ReportedDb :=
  (s.db.step config e).map fun db' =>
    ⟨db', s.commits ++ ((s.db.atTime e.now).reportedCommit? e.action).toList⟩

/-- Before the first transaction. -/
def empty : ReportedDb := ⟨emptyDb, []⟩

/-- A session that becomes active has both assignments applied under the plan of its generation,
and commit jobs with this plan were reported. -/
def ActivatesCurrent (s s' : ReportedDb) : Prop :=
  ∀ x ∈ s'.db.sessions.rows, x.phase = .active →
    (∀ old ∈ s.db.session? x.id, old.phase ≠ .active) →
      (s'.db.plan? (x.id, x.generation)).isSome ∧
        ∀ role, ∃ a ∈ s'.db.assignment? (x.id, role),
          a.appliedPlanId = some (x.id, x.generation) ∧
            ((x.id, role), (x.id, x.generation)) ∈ s'.commits

/-- What holds of all cells. -/
structure RunsCurrent (s : ReportedDb) : Prop where
  sound : ∀ id, (s.db.cell id).Sound id
  runsCurrent : ∀ id, (s.db.cell id).RunsCurrent id s.commits

theorem step_eq_some (h : step config s e = some s') :
    s.db.step config e = some s'.db ∧
      s'.commits = s.commits ++ ((s.db.atTime e.now).reportedCommit? e.action).toList := by
  obtain ⟨db', hStep, rfl⟩ := Option.map_eq_some_iff.1 h
  exact ⟨hStep, rfl⟩

theorem RunsCurrent.atTime {now : Timestamp} (hInv : s.RunsCurrent) (id : AssignmentId) :
    ((s.db.atTime now).cell id).RunsCurrent id s.commits :=
  ⟨(hInv.runsCurrent id).rendered, (hInv.runsCurrent id).placed, (hInv.runsCurrent id).applied⟩

theorem RunsCurrent.step (hInv : s.RunsCurrent)
    (hCurrent : (s.db.atTime e.now).ReportsCurrent e.action) (h : step config s e = some s') :
    s'.RunsCurrent := by
  obtain ⟨hStep, hCommits⟩ := step_eq_some h
  refine ⟨fun id => ?_, fun id => ?_⟩ <;>
    obtain ⟨hTicked, hChange⟩ := ProvisioningDb.cellChange_step (hInv.sound id) hStep
  · exact hChange.sound hTicked.sound hTicked.earlier
  · rw [hCommits]
    exact hChange.runsCurrent hTicked.sound (hInv.atTime id) hCurrent

/-- A step to a state with the invariant activates no session under another plan. -/
theorem RunsCurrent.activatesCurrent (hInv : s.RunsCurrent)
    (hCurrent : (s.db.atTime e.now).ReportsCurrent e.action)
    (h : ReportedDb.step config s e = some s') :
    s.ActivatesCurrent s' := by
  intro x hx hActive hBefore
  obtain ⟨hStep, -⟩ := step_eq_some h
  have hInv' := hInv.step hCurrent h
  have hRole : ∀ role, (s'.db.plan? (x.id, x.generation)).isSome ∧
      ∃ a ∈ s'.db.assignment? (x.id, role), a.appliedPlanId = some (x.id, x.generation) ∧
        ((x.id, role), (x.id, x.generation)) ∈ s'.commits := by
    intro role
    have hSession' : (s'.db.cell (x.id, role)).session = some x :=
      ProvisioningDb.cell_session_eq_some hx rfl
    have hPlaced : x.phase.isPlaced := by rw [hActive]; rfl
    obtain ⟨hPlan, hExists⟩ := (hInv'.sound (x.id, role)).placed x hSession' hPlaced
    obtain ⟨a, ha⟩ := Option.isSome_iff_exists.1 hExists
    obtain ⟨hTicked, hChange⟩ := ProvisioningDb.cellChange_step (hInv.sound (x.id, role)) hStep
    obtain ⟨t, ht, -, hApplied, hCell⟩ :=
      hChange.becomesActive hTicked.sound hSession' hActive hBefore
    -- the pass has counted the assignment, and leaves it as it is
    have hSame : (s.db.assignment? (x.id, role)) = some a := by
      rw [hCell] at ha
      exact ha
    obtain ⟨hRow, hId⟩ := Table.find?_eq_some_iff.1 hSame
    have hOwner : t.id = x.id := hTicked.sound.sessionId t ht
    have hPhase : a.phase = .applied :=
      ProvisioningDb.applied_of_countAssignments hApplied hRow
        ((congrArg Prod.fst hId).trans hOwner.symm)
    obtain ⟨hPlanId, hReported, -⟩ := (hInv'.runsCurrent (x.id, role)).applied a ha hPhase
    have hCurrentPlan := (hInv'.runsCurrent (x.id, role)).placed x hSession' hPlaced a ha
    rw [hCurrentPlan] at hPlanId hReported
    exact ⟨hPlan, a, ha, hPlanId, hReported⟩
  exact ⟨(hRole .ingress).1, fun role => (hRole role).2⟩

theorem runsCurrent_empty : empty.RunsCurrent := by
  refine ⟨fun _ => ProvisioningDb.sound_emptyDb, fun id => ?_⟩
  constructor <;> simp [empty, emptyDb, ProvisioningDb.cell, ProvisioningDb.session?,
    ProvisioningDb.assignment?, Table.find?]

/-- In a run whose reports are about current plans, every session that becomes active runs its
current plan. -/
theorem activates_current
    (hMeet : StepsMeet (step config) (fun s e => (s.db.atTime e.now).ReportsCurrent e.action)
      empty es) :
    StepsMeet (step config) (fun s e => ∀ s', step config s e = some s' → s.ActivatesCurrent s')
      empty es := by
  refine stepsMeet_of_invariant (fun _ _ _ hInv hCurrent hStep => hInv.step hCurrent hStep) ?_
    runsCurrent_empty hMeet
  intro s e hInv hCurrent s' hStep
  exact hInv.activatesCurrent hCurrent hStep

/-- A session becomes active after both gates have reported their commit jobs. -/
theorem activates_current_sample :
    StepsMeet (step sampleConfig)
      (fun s e => ∀ s', step sampleConfig s e = some s' → s.ActivatesCurrent s') empty activeRun :=
  activates_current (by decide +kernel)

/-- The session is revoked because its traffic is used up and gets more traffic. Before it is
scheduled, both gates repeat the reports of their first commit jobs. -/
def repeatedCommitsRun : List Event :=
  ProvisioningDb.quotaRevokedRun ++
    [⟨23, .adjustQuota 1 1000⟩, ⟨24, .report 1 2 (succeeds "commit")⟩,
      ⟨25, .report 2 3 (succeeds "commit")⟩, ⟨26, .schedule samplePath []⟩]

/-- A session becomes active with an ingress assignment that is applied under another plan, and no
commit of the current one was reported. -/
def ActivatesStale (s s' : ReportedDb) : Prop :=
  ∃ x ∈ s'.db.sessions.rows,
    (x.phase = .active ∧ ∃ old ∈ s.db.session? x.id, old.phase = .provisioning) ∧
      (∃ a ∈ s'.db.assignment? (x.id, .ingress), a.phase = .applied ∧
        a.appliedPlanId ≠ some (x.id, x.generation)) ∧
      ((x.id, .ingress), (x.id, x.generation)) ∉ s'.commits

instance : Decidable (s.ActivatesStale s') :=
  inferInstanceAs (Decidable (∃ x ∈ s'.db.sessions.rows, _))

theorem ActivatesStale.not_activatesCurrent (h : s.ActivatesStale s') :
    ¬ s.ActivatesCurrent s' := by
  intro hCurrent
  obtain ⟨x, hx, ⟨hPhase, old, hOld, hBefore⟩, -, hUnreported⟩ := h
  obtain ⟨-, hRoles⟩ := hCurrent x hx hPhase fun t ht => by
    rw [Option.mem_def.1 hOld] at ht
    cases ht
    simp [hBefore]
  obtain ⟨a, -, -, hReported⟩ := hRoles .ingress
  exact hUnreported hReported

/-- Nothing of the new plan has been prepared or committed when the session becomes active. -/
theorem not_activates_current :
    (∃ s ∈ run (step sampleConfig) empty repeatedCommitsRun,
      ∃ s' ∈ step sampleConfig s ⟨27, .completeProvisioned []⟩, s.ActivatesStale s') ∧
      ¬ StepsMeet (step sampleConfig)
        (fun s e => ∀ s', step sampleConfig s e = some s' → s.ActivatesCurrent s') empty
        (repeatedCommitsRun ++ [⟨27, .completeProvisioned []⟩]) := by
  have hStale : ∃ s ∈ run (step sampleConfig) empty repeatedCommitsRun,
      ∃ s' ∈ step sampleConfig s ⟨27, .completeProvisioned []⟩, s.ActivatesStale s' := by
    decide +kernel
  refine ⟨hStale, fun hAll => ?_⟩
  obtain ⟨s, hRun, s', hStep, hActivates⟩ := hStale
  obtain ⟨hLast, -⟩ := (stepsMeet_cons hStep).1 (stepsMeet_append hRun hAll)
  exact hActivates.not_activatesCurrent (hLast s' hStep)

end ReportedDb

end Hyperspace.Provisioning
