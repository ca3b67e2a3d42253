import Mathlib.Data.List.Infix
import Hyperspace.Provisioning.Revocation

/-!
# Whether a revocation is final

Revoking an assignment leaves its prepare and commit jobs as they are. One of them that waits for
a retry or is still leased when the gate reports the revocation is carried out later, and its
report takes the assignment out of `revoked`. Where no such job is left, nothing brings the
assignment back until its session is scheduled again.
-/

namespace Hyperspace.Provisioning

open Hyperspace.Billing (AccountId SessionId Timestamp)
open Hyperspace.ControlPlane Hyperspace.Foundations

variable {config : SessionReconcileConfig} {id : AssignmentId} {c c' : Cell}

namespace Cell

/-- No `apply_assignment` job that was created before `t` is in progress. -/
def AppliedBefore (t : Timestamp) (c : Cell) : Prop :=
  t ≤ c.now ∧ ∀ j ∈ c.jobs, j.type = .applyAssignment → j.createdAt < t → ¬ j.phase.isLive

/-- The assignment is revoked and nothing of it is in progress. -/
structure Settled (c : Cell) : Prop where
  desired : ∀ a ∈ c.assignment, a.desiredState = .revoked
  revoked : ∀ a ∈ c.assignment, a.phase = .revoked
  jobs : ∀ j ∈ c.jobs, j.type = .applyAssignment → ¬ j.phase.isLive
  session : ∀ s ∈ c.session, ¬ s.phase.isPlaced

/-! ### Jobs from before the revocation -/

theorem AppliedBefore.pass {t : Timestamp} (hInv : c.AppliedBefore t) (h : CellPass id c c') :
    c'.AppliedBefore t := by
  obtain ⟨hNow, hJobs⟩ := hInv
  refine ⟨h.now ▸ hNow, fun j' hj' hType hEarly => ?_⟩
  rcases h.mem_jobs hj' with ⟨j, hj, hKept, hLive, -⟩ | ⟨s, a, n, -, -, -, -, rfl⟩ | ⟨a, n, -, rfl⟩
  · rw [hLive]
    exact hJobs j hj (hKept.type.symm.trans hType) (hKept.createdAt ▸ hEarly)
  · exact absurd hEarly (not_lt.2 hNow)
  · cases hType

theorem AppliedBefore.modifyJobs {t : Timestamp} {f : Job → Job} (hKept : KeepsOwner f)
    (hInv : c.AppliedBefore t)
    (hDead : ∀ j ∈ c.jobs, j.type = .applyAssignment → ¬ j.phase.isLive → ¬ (f j).phase.isLive) :
    (c.modifyJobs f).AppliedBefore t := by
  refine ⟨hInv.1, fun j' hj' hType hEarly => ?_⟩
  obtain ⟨j, hj, rfl⟩ := List.mem_map.1 hj'
  have hOld := (hKept j).type.symm.trans hType
  exact hDead j hj hOld (hInv.2 j hj hOld ((hKept j).createdAt ▸ hEarly))

theorem failApply_not_live {now : Timestamp} {j : Job} (hDead : ¬ j.phase.isLive) :
    ¬ (j.failApply now).phase.isLive := by
  rw [Job.failApply, if_neg fun h => hDead h.2]
  exact hDead

/-! ### Revoked assignments -/

theorem Settled.pass (hInv : c.Settled) (h : CellPass id c c') :
    c'.Settled := by
  have hAssignment : ∀ a', c'.assignment = some a' →
      a'.desiredState = .revoked ∧ a'.phase = .revoked := by
    intro a' ha'
    obtain ⟨a, ha, rfl | ⟨hPrepared, rfl⟩ | ⟨-, -, rfl⟩ | ⟨hApplied, -, rfl⟩⟩ :=
      h.mem_assignment ha'
    · exact ⟨hInv.desired _ ha, hInv.revoked _ ha⟩
    · simp [hInv.revoked a ha] at hPrepared
    · exact ⟨rfl, by simp [GateAssignment.requestRevocation, hInv.revoked a ha]⟩
    · simp [hInv.desired a ha] at hApplied
  refine ⟨fun a ha => (hAssignment a ha).1, fun a ha => (hAssignment a ha).2, ?_, ?_⟩
  · intro j' hj' hType
    rcases h.mem_jobs hj' with ⟨j, hj, hKept, hLive, -⟩ | ⟨s, a, n, hs, -, hPlaced, -, rfl⟩ |
      ⟨a, n, -, rfl⟩
    · rw [hLive]
      exact hInv.jobs j hj (hKept.type.symm.trans hType)
    · exact absurd hPlaced (hInv.session s hs)
    · cases hType
  · intro s' hs' hPlaced
    rcases h.mem_session hs' with ⟨-, _, _, configGrant, awaitsPayment, rfl⟩ |
      ⟨s, hs, rfl | rfl | hMove⟩
    · cases configGrant <;> cases awaitsPayment <;>
        simp [Session.create, SessionPhase.isPlaced] at hPlaced
    · exact hInv.session _ hs hPlaced
    · exact hInv.session s hs hPlaced
    · exact hInv.session s hs ((hMove.placed hPlaced).1 ▸ hPlaced)

end Cell

namespace ProvisioningDb

variable {db db' db₁ : ProvisioningDb} {e : Event} {es before after : List Event}
  {action : Action}

/-- A report comes from the gate that holds the lease of the job. -/
def LeaseHolderReports (db : ProvisioningDb) (action : Action) : Prop :=
  ∀ r ∈ db.reported? action, r.job.phase.isLeased

/-- The session of the assignment that the report is about is to be revoked. -/
def Reported.OfRevokedSession (db : ProvisioningDb) (r : Reported) : Prop :=
  ∃ s ∈ db.session? r.assignment.sessionId, s.desiredState = .revoked

/-- The report says that an assignment of a revoked session is revoked. -/
def Reported.Revokes (db : ProvisioningDb) (r : Reported) : Prop :=
  r.job.type = .revokeAssignment ∧ r.report.status = .succeeded ∧ r.OfRevokedSession db

/-- When an assignment is reported as revoked, no prepare or commit job of it is in progress, and
no failure is reported for an assignment that is revoked and is to be revoked. -/
def RevokesLast (db : ProvisioningDb) (action : Action) : Prop :=
  ∀ r ∈ db.reported? action,
    (r.Revokes db → ∀ k ∈ db.jobs.rows, k.assignmentId = some r.assignment.id →
      k.type = .applyAssignment → ¬ k.phase.isLive) ∧
    (r.assignment.desiredState = .revoked → r.assignment.phase = .revoked →
      r.report.status = .succeeded)

instance : DecidablePred db.LeaseHolderReports :=
  fun _ => inferInstanceAs (Decidable (∀ r ∈ _, _))

instance : DecidablePred (Reported.OfRevokedSession db) :=
  fun _ => inferInstanceAs (Decidable (∃ s ∈ _, _))

instance : DecidablePred (Reported.Revokes db) := fun _ => inferInstanceAs (Decidable (_ ∧ _))

instance : DecidablePred db.RevokesLast := fun _ => inferInstanceAs (Decidable (∀ r ∈ _, _))

theorem isLive_of_isLeased {j : Job} (h : j.phase.isLeased) : j.phase.isLive := by
  cases hPhase : j.phase <;> simp_all [JobPhase.isLeased, JobPhase.isLive]

theorem CellChange.appliedBefore {t : Timestamp} (h : db.CellChange config id action c)
    (hSound : (db.cell id).Sound id) (hHolder : db.LeaseHolderReports action)
    (hInv : (db.cell id).AppliedBefore t) : c.AppliedBefore t := by
  cases h with
  | passed _ _ passes => exact passes.invariant (fun _ _ _ hInv => hInv.pass) hSound hInv
  | exhaustedHidden => exact hInv
  | claimed gateId lane locked j mine found =>
      refine hInv.modifyJobs (keepsOwner_updateJob keepsOwner_lease) fun k hk _ hDead => ?_
      have hOther : k.id ≠ j.id := by
        intro hId
        rw [cell_job_unique mine hk hId] at hDead
        exact hDead (isLive_of_claimable found)
      rw [if_neg hOther]
      exact hDead
  | reported gateId report j mine gate =>
      refine hInv.modifyJobs (keepsOwner_updateJob keepsOwner_recordOutcome)
        fun k hk _ hDead => ?_
      have hOther : k.id ≠ j.id := by
        intro hId
        obtain ⟨a, ha⟩ := hSound.exists_assignment mine
        rw [cell_job_unique mine hk hId] at hDead
        exact hDead (isLive_of_isLeased (hHolder _ (reported?_eq_some mine gate ha)))
      rw [if_neg hOther]
      exact hDead
  | scheduled outcome locked s gateId draw address n =>
      refine ⟨hInv.1.trans_eq Cell.schedule_now.symm, fun j hj hType hEarly => ?_⟩
      rcases Cell.mem_schedule hj with hOld | rfl
      · exact hInv.2 j hOld hType hEarly
      · exact absurd hEarly (not_lt.2 hInv.1)
  | activated => exact hInv
  | timedOut =>
      have hFailed := hInv.modifyJobs (@keepsOwner_failApply (db.cell id).now)
        fun k _ _ hDead => Cell.failApply_not_live hDead
      exact hFailed
  | revoked => exact hInv

theorem CellChange.settled (h : db.CellChange config id action c) (hSound : (db.cell id).Sound id)
    (hHolder : db.LeaseHolderReports action) (hLast : db.RevokesLast action)
    (hInv : (db.cell id).Settled) (hStays : ∀ a ∈ c.assignment, a.desiredState = .revoked) :
    c.Settled := by
  cases h with
  | passed _ _ passes => exact passes.invariant (fun _ _ _ hInv => hInv.pass) hSound hInv
  | exhaustedHidden locked s found session =>
      refine ⟨hInv.desired, hInv.revoked, hInv.jobs, fun t ht => ?_⟩
      cases ht
      exact hInv.session s session
  | claimed gateId lane locked j mine found =>
      refine ⟨hStays, fun a' ha' => ?_, fun k' hk' hType => ?_, hInv.session⟩
      · obtain ⟨a, ha, rfl⟩ := Option.map_eq_some_iff.1 ha'
        simp [GateAssignment.setPhase, leasedAssignmentTransition, hInv.revoked a ha]
      · obtain ⟨k, hk, ⟨hId, rfl⟩ | ⟨-, rfl⟩⟩ := Cell.mem_updateJob hk'
        · rw [cell_job_unique mine hk hId] at hType
          exact absurd (isLive_of_claimable found) (hInv.jobs j mine hType)
        · exact hInv.jobs _ hk hType
  | reported gateId report j mine gate =>
      obtain ⟨a, ha⟩ := hSound.exists_assignment mine
      have hReported := @reported?_eq_some db id gateId report j a mine gate ha
      have hLive := isLive_of_isLeased (hHolder _ hReported)
      have hNotApply : j.type ≠ .applyAssignment := fun hType => hInv.jobs j mine hType hLive
      have hType : j.type = .revokeAssignment :=
        (hSound.jobType j mine).resolve_left fun hApply => hNotApply hApply.1
      have hDone : report.status = .succeeded :=
        (hLast _ hReported).2 (hInv.desired a ha) (hInv.revoked a ha)
      refine ⟨hStays, fun a' ha' => ?_, fun k' hk' hTypeK => ?_, hInv.session⟩
      · obtain ⟨b, -, rfl⟩ := Option.map_eq_some_iff.1 ha'
        rw [GateAssignment.progress, if_neg (fun h => hNotApply h.2), if_pos ⟨hDone, hType⟩]
        rfl
      · obtain ⟨k, hk, ⟨hId, rfl⟩ | ⟨-, rfl⟩⟩ := Cell.mem_updateJob hk'
        · rw [cell_job_unique mine hk hId] at hTypeK
          exact absurd hTypeK hNotApply
        · exact hInv.jobs _ hk hTypeK
  | scheduled outcome locked s gateId draw address n =>
      have hDesired := hStays _ Cell.schedule_assignment
      cases hOld : (db.cell id).assignment <;> simp [hOld, GateAssignment.create,
        GateAssignment.recreate] at hDesired
  | activated locked s listed session phase =>
      exact absurd (by rw [phase]; rfl) (hInv.session s session)
  | timedOut locked s listed session phase =>
      exact absurd (by rw [phase]; rfl) (hInv.session s session)
  | revoked locked s listed session ready =>
      refine ⟨hInv.desired, hInv.revoked, hInv.jobs, fun s' hs' => ?_⟩
      obtain ⟨t, -, rfl⟩ := Option.map_eq_some_iff.1 hs'
      simp [Session.setPhase, SessionPhase.isPlaced]

/-- The transaction reports that an assignment of a revoked session is revoked. -/
def RevokedBy (db : ProvisioningDb) (id : AssignmentId) (action : Action) : Prop :=
  ∃ r ∈ db.reported? action, r.assignment.id = id ∧ r.Revokes db

instance (action : Action) : Decidable (db.RevokedBy id action) :=
  inferInstanceAs (Decidable (∃ r ∈ _, _))

/-- The report that revokes an assignment leaves it settled, and no job of it in progress. -/
theorem cell_of_revokedBy (hTicked : db.Ticked id) (hLast : db.RevokesLast action)
    (hRevoked : db.RevokedBy id action) :
    ((db.perform config action).cell id).AppliedBefore db.now ∧
      ((∀ a ∈ ((db.perform config action).cell id).assignment, a.desiredState = .revoked) →
        ((db.perform config action).cell id).Settled) := by
  obtain ⟨r, hReported, rfl, hRevokes⟩ := hRevoked
  obtain ⟨hJob, hAssignment, hCell⟩ := @cell_of_reported db config action r hReported
  obtain ⟨hType, hDone, s, hSession, hDesired⟩ := hRevokes
  have hNotApply : ¬ (r.report.status = .succeeded ∧ r.job.type = .applyAssignment) := by
    simp [hType]
  have hJobs : ∀ j ∈ ((db.cell r.assignment.id).record r.job r.report).jobs,
      j.type = .applyAssignment → ¬ j.phase.isLive := by
    intro k' hk' hTypeK
    obtain ⟨k, hk, ⟨hId, rfl⟩ | ⟨-, rfl⟩⟩ := Cell.mem_updateJob hk'
    · rw [cell_job_unique hJob hk hId] at hTypeK
      exact absurd (hTypeK.symm.trans hType) (by simp)
    · obtain ⟨hRow, hAssigned⟩ := mem_cell_jobs.1 hk
      exact (hLast r hReported).1 ⟨hType, hDone, s, hSession, hDesired⟩ _ hRow hAssigned hTypeK
  have hFound : (db.cell r.assignment.id).session = some s := hSession
  rw [hCell]
  refine ⟨⟨le_refl _, fun j hj hTypeJ _ => hJobs j hj hTypeJ⟩,
    fun hStays => ⟨hStays, ?_, hJobs, ?_⟩⟩
  · intro a' ha'
    obtain ⟨a, -, rfl⟩ := Option.map_eq_some_iff.1 ha'
    rw [GateAssignment.progress, if_neg hNotApply, if_pos ⟨hDone, hType⟩]
    rfl
  · intro t ht hPlaced
    obtain rfl : s = t := Option.some.inj (hFound.symm.trans ht)
    rcases (hTicked.sound.desired s hFound).1 hDesired with hPhase | hPhase <;>
      simp [hPhase, SessionPhase.isPlaced] at hPlaced

/-- A settled assignment stays revoked as long as it is to be revoked. -/
theorem settled_run (hSound : (db₁.cell id).Sound id) (hSettled : (db₁.cell id).Settled)
    (hMeet : StepsMeet (step config) (fun db e => (db.atTime e.now).LeaseHolderReports e.action ∧
      (db.atTime e.now).RevokesLast e.action) db₁ after)
    (hStays : ∀ es, es <+: after → ∀ db, run (step config) db₁ es = some db →
      ∀ a ∈ db.assignment? id, a.desiredState = .revoked)
    (hRun : run (step config) db₁ after = some db') : (db'.cell id).Settled := by
  induction after generalizing db₁ with
  | nil =>
      cases hRun
      exact hSettled
  | cons e after ih =>
      obtain ⟨db₂, hStep, hRest⟩ := run_cons.1 hRun
      obtain ⟨⟨hHolder, hLast⟩, hMeet'⟩ := (stepsMeet_cons hStep).1 hMeet
      obtain ⟨hTicked, hChange⟩ := cellChange_step hSound hStep
      have hTickedSettled : ((db₁.atTime e.now).cell id).Settled :=
        ⟨hSettled.desired, hSettled.revoked, hSettled.jobs, hSettled.session⟩
      have hNext : (db₂.cell id).Settled := by
        refine hChange.settled hTicked.sound hHolder hLast hTickedSettled fun a ha => ?_
        exact hStays [e] (List.prefix_append [e] after) db₂ (by rw [run, hStep]; rfl) a ha
      refine ih (hChange.sound hTicked.sound hTicked.earlier) hNext hMeet' ?_ hRest
      intro es hPrefix db hRunEs
      refine hStays (e :: es) (List.cons_prefix_cons.2 ⟨rfl, hPrefix⟩) db ?_
      exact run_cons.2 ⟨db₂, hStep, hRunEs⟩

/-- After the report `e` that an assignment of a revoked session is revoked, no prepare or commit
job from before it is claimed, and the assignment stays revoked as long as it is to be revoked. -/
def RevocationIsFinal (config : SessionReconcileConfig) (id : AssignmentId) (before : List Event)
    (e : Event) (after : List Event) : Prop :=
  ∀ db db', run (step config) emptyDb before = some db →
    run (step config) db (e :: after) = some db' → (db.atTime e.now).RevokedBy id e.action →
    (∀ j ∈ db'.jobs.rows, j.assignmentId = some id → j.type = .applyAssignment →
      j.createdAt < e.now → ∀ now gateId lane locked,
      (db'.atTime now).findClaimableGateJobForUpdate gateId lane locked ≠ some j) ∧
    ((∀ es, es <+: after → ∀ db', run (step config) db (e :: es) = some db' →
        ∀ a ∈ db'.assignment? id, a.desiredState = .revoked) →
      ∀ a ∈ db'.assignment? id, a.phase = .revoked)

/-- In every run in which assignments are revoked last, revocation is final. -/
theorem revocation_isFinal
    (hHolder : StepsMeet (step config) (fun db e => (db.atTime e.now).LeaseHolderReports e.action)
      emptyDb (before ++ e :: after))
    (hLast : StepsMeet (step config) (fun db e => (db.atTime e.now).RevokesLast e.action)
      emptyDb (before ++ e :: after)) :
    RevocationIsFinal config id before e after := by
  intro db db' hBefore hRun hRevoked
  have hSound : (db.cell id).Sound id := sound_run sound_emptyDb hBefore
  obtain ⟨db₁, hStep, hAfter⟩ := run_cons.1 hRun
  obtain ⟨-, hHolder'⟩ := (stepsMeet_cons hStep).1 (stepsMeet_append hBefore hHolder)
  obtain ⟨hLastE, hLast'⟩ := (stepsMeet_cons hStep).1 (stepsMeet_append hBefore hLast)
  obtain ⟨hTicked, hChange⟩ := cellChange_step hSound hStep
  obtain ⟨hNow, rfl⟩ := step_eq_some hStep
  have hSound₁ := hChange.sound hTicked.sound hTicked.earlier
  obtain ⟨hEarly, hSettled⟩ := @cell_of_revokedBy config id _ _ hTicked hLastE hRevoked
  constructor
  · intro j hj hAssigned hType hCreated now gateId lane locked hClaimed
    have hDone : (db'.cell id).AppliedBefore e.now :=
      run_cell (fun c now hLater hInv => ⟨hInv.1.trans hLater.le, hInv.2⟩)
        (fun _ _ _ hTicked hHolder hInv hChange =>
          hChange.appliedBefore hTicked.sound hHolder hInv) hSound₁ hEarly hAfter hHolder'
    exact hDone.2 j (mem_cell_jobs.2 ⟨hj, hAssigned⟩) hType hCreated (isLive_of_claimable hClaimed)
  · intro hStays
    have hDone : (db'.cell id).Settled := by
      refine settled_run hSound₁ (hSettled ?_) (stepsMeet_and hHolder' hLast') ?_ hAfter
      · exact hStays [] List.nil_prefix _ (run_cons.2 ⟨_, hStep, rfl⟩)
      · exact fun es hPrefix db hRunEs => hStays es hPrefix db (run_cons.2 ⟨_, hStep, hRunEs⟩)
    exact hDone.revoked

/-- The report of the ingress gate that it has revoked what it had prepared. -/
def revokedReport : Event := ⟨10, .report 1 2 (succeeds "")⟩

/-- The egress gate prepares late, and the session is done when it has revoked too. -/
def afterRevokedReport : List Event :=
  [⟨11, .claim 2 none []⟩, ⟨12, .report 2 1 (succeeds "prepare")⟩, ⟨13, .claim 2 none []⟩,
    ⟨14, .report 2 3 (succeeds "")⟩, ⟨15, .completeRevoked []⟩]

theorem revocation_isFinal_sample :
    (∃ db ∈ run (step sampleConfig) emptyDb revokingRun,
      (db.atTime revokedReport.now).RevokedBy (1, .ingress) revokedReport.action ∧
      ∃ db' ∈ run (step sampleConfig) db (revokedReport :: afterRevokedReport),
        ∃ s ∈ db'.session? 1, s.phase = .revoked) ∧
      RevocationIsFinal sampleConfig (1, .ingress) revokingRun revokedReport afterRevokedReport :=
  ⟨by decide +kernel, revocation_isFinal (by decide +kernel) (by decide +kernel)⟩

/-- The ingress gate fails to prepare for now, and revokes before it tries again. -/
def revokedBeforeRetryRun : List Event :=
  scheduledRun ++
    [⟨5, .revokeByOwner 7 1⟩, ⟨6, .enqueueRevocations []⟩, ⟨7, .claim 1 (some .control) []⟩,
      ⟨8, .report 1 0 failsForNow⟩, ⟨9, .claim 1 (some .control) []⟩]

/-- The gate claims the prepare job again, and reports that the assignment is prepared. -/
theorem not_revocation_isFinal : ∃ before e after,
    StepsMeet (step sampleConfig) (fun db e => (db.atTime e.now).LeaseHolderReports e.action)
      emptyDb (before ++ e :: after) ∧
    ¬ RevocationIsFinal sampleConfig (1, .ingress) before e after := by
  let e : Event := ⟨10, .report 1 2 (succeeds "")⟩
  let after : List Event :=
    [⟨10000020, .claim 1 none []⟩, ⟨10000021, .report 1 0 (succeeds "prepare")⟩]
  have hRun : ∃ db ∈ run (step sampleConfig) emptyDb revokedBeforeRetryRun,
      (db.atTime e.now).RevokedBy (1, .ingress) e.action ∧
      (∃ db' ∈ run (step sampleConfig) db (e :: after),
        ∃ a ∈ db'.assignment? (1, .ingress), a.phase ≠ .revoked) ∧
      ∀ es ∈ after.inits, ∀ db' ∈ run (step sampleConfig) db (e :: es),
        ∀ a ∈ db'.assignment? (1, .ingress), a.desiredState = .revoked := by
    decide +kernel
  obtain ⟨db, hBefore, hRevoked, ⟨db', hAfter, a, ha, hPhase⟩, hStays⟩ := hRun
  refine ⟨revokedBeforeRetryRun, e, after, by decide +kernel, fun hFinal => hPhase ?_⟩
  refine (hFinal db db' hBefore hAfter hRevoked).2 (fun es hPrefix db' hRunEs b hb => ?_) a ha
  exact hStays es ((List.mem_inits es after).2 hPrefix) db' hRunEs b hb

end ProvisioningDb

end Hyperspace.Provisioning
