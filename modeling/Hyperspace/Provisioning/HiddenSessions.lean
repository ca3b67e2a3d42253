import Hyperspace.Provisioning.Quotas
import Hyperspace.Provisioning.TransactionFrames

/-!
# Hidden sessions

A deletion reads the session without a lock and hides it in a second statement. No other statement
hides a session, and a hidden session that is revoked or failed stays so: requests look only at
visible sessions, and passes only at the other phases. So all that can go wrong is what happens
between the two statements of a deletion.
-/

namespace Hyperspace.Provisioning

open Hyperspace.Billing (AccountId SessionId Timestamp)
open Hyperspace.ControlPlane Hyperspace.Foundations

variable {config : SessionReconcileConfig} {id : AssignmentId} {c c' : Cell}

/-- The session is revoked or failed. -/
def Session.IsOver (s : Session) : Prop := s.phase = .revoked ∨ s.phase = .failed

instance : DecidablePred Session.IsOver := fun _ => inferInstanceAs (Decidable (_ ∨ _))

/-! ### Hidden sessions that are over -/

theorem SessionMove.isOver {now : Timestamp} {s s' : Session} (h : SessionMove now s s')
    (hHidden : s.hiddenAt ≠ none) (hOver : s.IsOver) : s'.hiddenAt ≠ none ∧ s'.IsOver := by
  have hNot : ∀ {phase}, s.phase = phase → phase ≠ .revoked → phase ≠ .failed → False := by
    rintro _ rfl hRevoked hFailed
    exact hOver.elim hRevoked hFailed
  cases h with
  | revocationRequested visible => exact absurd visible hHidden
  | reactivated _ _ _ visible => exact absurd visible hHidden
  | hidden => exact ⟨by simp [Session.hide], hOver⟩
  | consumed | exhausted | adjusted | entitled => exact ⟨hHidden, hOver⟩
  | paid _ pending => exact (hNot pending (by decide) (by decide)).elim
  | revocationBegun _ begins =>
      rcases hOver with hPhase | hPhase <;> rw [hPhase] at begins <;> cases begins
  | probing _ phase | probed _ phase | unplaced _ phase =>
      exact (hNot phase (by decide) (by decide)).elim

/-- The session of the cell is hidden and over. -/
def Cell.Retired (c : Cell) : Prop := ∃ s ∈ c.session, s.hiddenAt ≠ none ∧ s.IsOver

namespace Cell.Retired

theorem not_phase {phase : SessionPhase} {s : Session} (hInv : c.Retired)
    (hSession : c.session = some s) (hPhase : s.phase = phase) (hRevoked : phase ≠ .revoked)
    (hFailed : phase ≠ .failed) : False := by
  obtain ⟨t, ht, -, hOver⟩ := hInv
  rw [hSession] at ht
  cases ht
  subst hPhase
  exact hOver.elim hRevoked hFailed

theorem pass (hInv : c.Retired) (h : CellPass id c c') : c'.Retired := by
  obtain ⟨s, hs, hHidden, hOver⟩ := hInv
  have hSame : c'.session = c.session → c'.Retired :=
    fun hEq => ⟨s, hEq ▸ hs, hHidden, hOver⟩
  cases h with
  | created accountId clientProtocol awaitsPayment configGrant missing =>
      rw [missing] at hs
      cases hs
  | deleted t session pending =>
      rw [session] at hs
      cases hs
      exact absurd hOver (by simp [Session.IsOver, pending])
  | moved t t' session move =>
      rw [session] at hs
      cases hs
      exact ⟨t', rfl, move.isOver hHidden hOver⟩
  | committed t a n session phase =>
      rw [session] at hs
      cases hs
      exact absurd hOver (by simp [Session.IsOver, phase])
  | repaired => exact hSame Cell.repair_session
  | revocationEnqueued | orphanCleaned => exact hSame Cell.revoke_session
  | drifted | requeued | archived => exact hSame rfl

end Cell.Retired

namespace ProvisioningDb

variable {db db' : ProvisioningDb} {action : Action} {es : List Event}

theorem CellChange.retired (h : db.CellChange config id action c) (hSound : (db.cell id).Sound id)
    (hInv : (db.cell id).Retired) : c.Retired := by
  cases h with
  | passed _ _ passes =>
      exact passes.invariant (fun _ _ _ hInv hPass => hInv.pass hPass) hSound hInv
  | exhaustedHidden locked s found session hidden =>
      obtain ⟨t, ht, -, hOver⟩ := hInv
      rw [session] at ht
      cases ht
      exact ⟨_, rfl, hidden, hOver⟩
  | claimed | reported => exact hInv
  | scheduled outcome locked s gateId draw address n session desired phase =>
      exact (hInv.not_phase session phase (by decide) (by decide)).elim
  | activated locked s listed session phase | timedOut locked s listed session phase =>
      exact (hInv.not_phase session phase (by decide) (by decide)).elim
  | revoked locked s listed session ready =>
      exact (hInv.not_phase session ready.1 (by decide) (by decide)).elim

/-! ### Who hides a session -/

/-- Every session that is hidden was hidden before. -/
def HidesNone (db db' : ProvisioningDb) : Prop :=
  ∀ s' ∈ db'.sessions.rows, s'.hiddenAt ≠ none →
    ∃ s ∈ db.sessions.rows, s.id = s'.id ∧ s.hiddenAt ≠ none

theorem HidesNone.of_sessions (h : db'.sessions = db.sessions) : db.HidesNone db' :=
  fun s hs hHidden => ⟨s, h ▸ hs, rfl, hHidden⟩

instance : IsPreorder ProvisioningDb HidesNone where
  refl _ := .of_sessions rfl
  trans _ _ _ h h' := by
    intro s hs hHidden
    obtain ⟨s₁, hs₁, hId₁, hHidden₁⟩ := h' s hs hHidden
    obtain ⟨s₂, hs₂, hId₂, hHidden₂⟩ := h s₁ hs₁ hHidden₁
    exact ⟨s₂, hs₂, hId₂.trans hId₁, hHidden₂⟩

theorem statementsKeep_hidesNone : StatementsKeep HidesNone where
  insertRequestedSession db id accountId clientProtocol phase includedBytes := by
    rw [insertRequestedSession]
    split
    · rename_i hInsert
      intro s hs hHidden
      rcases (Table.mem_insert hInsert).1 hs with hOld | rfl
      · exact ⟨s, hOld, rfl, hHidden⟩
      · exact absurd rfl hHidden
    · exact .of_sessions rfl
  updateSession db id f hf hKept := by
    intro s' hs' hHidden
    obtain ⟨s, hs, rfl⟩ := (Table.mem_update hf).1 hs'
    refine ⟨s, hs, ?_⟩
    split at hHidden
    · rename_i hMine
      rw [if_pos hMine]
      exact ⟨(hKept s).id.symm, (hKept s).hiddenAt ▸ hHidden⟩
    · rename_i hMine
      rw [if_neg hMine]
      exact ⟨rfl, hHidden⟩
  deleteSession db id := by
    intro s hs hHidden
    exact ⟨s, (Table.mem_filter.1 hs).1, rfl, hHidden⟩
  insertRevokeRequest _ _ _ := .of_sessions rfl
  beginHidingSession db accountId id := by
    rw [beginHidingSession]
    split
    · split <;> exact .of_sessions rfl
    · exact .of_sessions rfl
  upsertRenderedPlan db plan := by
    rw [upsertRenderedPlan]
    split <;> exact .of_sessions rfl
  insertClientAddressLease _ _ _ := .of_sessions rfl
  releaseClientAddressLease _ _ := .of_sessions rfl
  insertClientConfigArtifact _ _ := .of_sessions rfl
  invalidateSessionArtifacts _ _ := .of_sessions rfl
  createAssignment db id gateId role planId := by
    rw [createAssignment]
    split <;> exact .of_sessions rfl
  modifyAssignments _ _ _ := .of_sessions rfl
  insertApplyAssignmentJob db input := .of_sessions sessions_insertApplyAssignmentJob
  insertRevokeAssignmentJob db a := by
    rw [insertRevokeAssignmentJob]
    split <;> exact .of_sessions rfl
  insertOtherJob _ _ := .of_sessions rfl
  markApplyJobsDeadForSession _ _ := .of_sessions rfl
  requeueExpiredJobLeases _ := .of_sessions rfl
  archiveJobs _ _ := .of_sessions rfl
  updateGateActualState _ _ _ _ := .of_sessions rfl
  deleteSnapshots _ _ := .of_sessions rfl

theorem sessions_claimGateJob {gateId : GateId} {lane : Option GateJobLane} {locked : List JobId} :
    (db.claimGateJob gateId lane locked).sessions = db.sessions := by
  rw [claimGateJob]
  split
  · rfl
  · split
    · rfl
    · split <;> rfl

theorem sessions_recordGateJobReport {gateId : GateId} {jobId : JobId} {report : GateJobReport} :
    (db.recordGateJobReport gateId jobId report).sessions = db.sessions := by
  rw [recordGateJobReport]
  split
  · rfl
  · split
    · dsimp only
      split
      · rfl
      · rw [recordAssignmentProgress]
        split
        · split <;> rfl
        · split <;> rfl
    · rfl

theorem hidesNone_perform (hAction : ∀ sid, action ≠ .finishHide sid) :
    db.HidesNone (db.perform config action) := by
  cases action with
  | finishHide sid => exact absurd rfl (hAction sid)
  | claim => exact .of_sessions sessions_claimGateJob
  | report => exact .of_sessions sessions_recordGateJobReport
  | _ => exact statementsKeep_hidesNone.perform trivial

/-! ### Hidden sessions are over -/

/-- Every hidden session is revoked or failed. -/
def HiddenAreOver (db : ProvisioningDb) : Prop :=
  ∀ s ∈ db.sessions.rows, s.hiddenAt ≠ none → s.IsOver

/-- When a deletion writes, its session is still revoked or failed, or is so again. -/
def HidesOver (db : ProvisioningDb) : Action → Prop
  | .finishHide sid => sid ∈ db.pendingHides → ∀ s ∈ db.session? sid, s.IsOver
  | _ => True

instance : DecidablePred db.HidesOver := fun action => by
  apply Action.casesOn (motive := fun action => Decidable (db.HidesOver action)) action
  all_goals
    intros
    dsimp only [HidesOver]
    infer_instance

theorem hiddenAreOver_finishHidingSession {sid : SessionId} (hInv : db.HiddenAreOver) :
    (db.finishHidingSession sid).HiddenAreOver ↔ db.HidesOver (.finishHide sid) := by
  rw [finishHidingSession, HidesOver]
  by_cases hPending : sid ∈ db.pendingHides
  · rw [if_pos hPending]
    have hRow : ∀ {s : Session}, s ∈ (db.hideOwnedSession sid).sessions.rows ↔
        ∃ t ∈ db.sessions.rows, (if t.id = sid then t.hide db.now else t) = s :=
      Table.mem_update fun _ => Session.hide_id
    constructor
    · intro hAfter _ s hs
      obtain ⟨hMem, hId⟩ := Table.find?_eq_some_iff.1 hs
      have hHidden : (s.hide db.now).IsOver :=
        hAfter _ (hRow.2 ⟨s, hMem, if_pos hId⟩) (by simp [Session.hide])
      exact hHidden
    · intro hOver s' hs' hHidden
      obtain ⟨s, hs, rfl⟩ := hRow.1 hs'
      split
      · rename_i hId
        exact hOver hPending s (Table.find?_eq_some_iff.2 ⟨hs, hId⟩)
      · rename_i hId
        rw [if_neg hId] at hHidden
        exact hInv s hs hHidden
  · rw [if_neg hPending]
    exact ⟨fun _ hMem => absurd hMem hPending, fun _ => hInv⟩

/-- A transaction keeps the hidden sessions over exactly if it does not end a deletion of a session
that goes on. -/
theorem hiddenAreOver_perform (hSound : ∀ id, (db.cell id).Sound id) (hInv : db.HiddenAreOver) :
    (db.perform config action).HiddenAreOver ↔ db.HidesOver action := by
  have hKept : (∀ sid, action ≠ .finishHide sid) → (db.perform config action).HiddenAreOver := by
    intro hAction s' hs' hHidden
    obtain ⟨s, hs, hId, hBefore⟩ := hidesNone_perform hAction s' hs' hHidden
    have hRetired : (db.cell (s'.id, .ingress)).Retired :=
      ⟨s, cell_session_eq_some hs hId, hBefore, hInv s hs hBefore⟩
    have hChange := @cellChange_perform db config (s'.id, .ingress) action
      (hSound (s'.id, .ingress)).jobSession
    obtain ⟨t, ht, -, hOver⟩ := hChange.retired (hSound _) hRetired
    rw [cell_session_eq_some hs' rfl] at ht
    cases ht
    exact hOver
  cases action with
  | finishHide sid => exact hiddenAreOver_finishHidingSession hInv
  | _ => exact ⟨fun _ => trivial, fun _ => hKept fun _ => nofun⟩

/-- In every state of a run the hidden sessions are revoked or failed, exactly if every deletion
that writes finds its session so. -/
theorem hidden_areOver (hRun : run (step config) emptyDb es = some db) :
    (∀ fs, fs <+: es → ∀ db', run (step config) emptyDb fs = some db' → db'.HiddenAreOver) ↔
      StepsMeet (step config) (fun db e => (db.atTime e.now).HidesOver e.action) emptyDb es := by
  refine @invariant_iff_stepsMeet _ _ _ _ HiddenAreOver (fun db => ∀ id, (db.cell id).Sound id)
    (fun db e db' hSound hStep id => ?_) (fun db e db' hSound hInv hStep => ?_) _ _ _
    (fun _ => sound_emptyDb) (by simp [HiddenAreOver, emptyDb]) hRun
  · obtain ⟨hTicked, hChange⟩ := cellChange_step (hSound id) hStep
    exact hChange.sound hTicked.sound hTicked.earlier
  · obtain ⟨hNow, rfl⟩ := step_eq_some hStep
    have hTicked : ∀ id, ((db.atTime e.now).cell id).Sound id :=
      fun id => (Ticked.of_sound (hSound id) hNow).sound
    exact hiddenAreOver_perform hTicked hInv

/-- A session is deleted after its quota has revoked it, and gets more traffic too late. -/
theorem hidden_areOver_sample :
    (∃ db, run (step sampleConfig) emptyDb (quotaRevokedRun ++
      [⟨23, .beginHide 7 1⟩, ⟨24, .finishHide 1⟩, ⟨25, .adjustQuota 1 1000⟩]) = some db) ∧
    ∀ fs, fs <+: quotaRevokedRun ++
      [⟨23, .beginHide 7 1⟩, ⟨24, .finishHide 1⟩, ⟨25, .adjustQuota 1 1000⟩] →
    ∀ db, run (step sampleConfig) emptyDb fs = some db → db.HiddenAreOver := by
  obtain ⟨db, hRun⟩ := Option.isSome_iff_exists.1 (show (run (step sampleConfig) emptyDb
    (quotaRevokedRun ++ [⟨23, .beginHide 7 1⟩, ⟨24, .finishHide 1⟩,
      ⟨25, .adjustQuota 1 1000⟩])).isSome by decide +kernel)
  exact ⟨⟨db, hRun⟩, (hidden_areOver hRun).2 (by decide +kernel)⟩

/-- A deletion reads the session while it is revoked, and writes after it has got more traffic. The
hidden session is scheduled and prepared by both gates, and its owner cannot revoke it. -/
theorem not_hidden_areOver : ∃ es db, run (step sampleConfig) emptyDb es = some db ∧
    (∃ s ∈ db.sessions.rows, s.phase = .provisioning ∧ db.countAssignments s.id .prepared = 2 ∧
      db.requestOwnedSessionRevocation 7 s.id = none) ∧ ¬ db.HiddenAreOver := by
  have hRun : ∃ db ∈ run (step sampleConfig) emptyDb
      (quotaRevokedRun ++ [⟨23, .beginHide 7 1⟩, ⟨24, .adjustQuota 1 1000⟩, ⟨25, .finishHide 1⟩,
        ⟨26, .schedule samplePath []⟩, ⟨27, .claim 1 none []⟩, ⟨28, .report 1 6 prepares⟩,
        ⟨29, .claim 2 none []⟩, ⟨30, .report 2 7 prepares⟩]),
      ∃ s ∈ db.sessions.rows, (s.phase = .provisioning ∧ db.countAssignments s.id .prepared = 2 ∧
        (db.requestOwnedSessionRevocation 7 s.id).isNone) ∧ s.hiddenAt ≠ none ∧ ¬ s.IsOver := by
    decide +kernel
  obtain ⟨db, hRun, s, hs, ⟨hPhase, hPrepared, hRefused⟩, hHidden, hOver⟩ := hRun
  refine ⟨_, db, hRun, ⟨s, hs, hPhase, hPrepared, ?_⟩, fun hAll => hOver (hAll s hs hHidden)⟩
  exact Option.isNone_iff_eq_none.1 hRefused

end ProvisioningDb

end Hyperspace.Provisioning
