import Hyperspace.Provisioning.Addresses

/-!
# Configs

The config of a session is the row of an artifact. It is made when the session becomes active and
invalidated when its revocation is complete. Until then the session holds the address of the
config, whatever its gates report.
-/

namespace Hyperspace.Provisioning

open Hyperspace.Billing (AccountId SessionId Timestamp)
open Hyperspace.ControlPlane Hyperspace.Foundations

variable {config : SessionReconcileConfig} {id : AssignmentId} {c c' : Cell}
  {a a' a'' : ClientConfigArtifact}

/-! ### The session of a config -/

/-- A session that may have a config. -/
def Session.IsConfigured (s : Session) : Prop :=
  s.phase = .active ∨ s.phase = .degraded ∨ s.phase = .revoking

instance : DecidablePred Session.IsConfigured := fun _ => inferInstanceAs (Decidable (_ ∨ _))

theorem SessionMove.isConfigured {now : Timestamp} {s s' : Session} (h : SessionMove now s s')
    (hs : s.IsConfigured) : s'.IsConfigured := by
  have hOther : ∀ phase, s.phase = phase → phase ≠ .active → phase ≠ .degraded →
      phase ≠ .revoking → s'.IsConfigured := by
    intro phase hPhase hActive hDegraded hRevoking
    rcases hs with h | h | h <;> simp_all
  cases h with
  | revocationRequested =>
      refine .inr (.inr (if_neg fun hRevoked => ?_))
      rcases hs with h | h | h <;> simp_all
  | hidden | consumed | exhausted | adjusted | entitled => exact hs
  | revocationBegun => exact .inr (.inr rfl)
  | reactivated _ _ phase | paid _ phase | probing _ phase | probed _ phase | unplaced _ phase =>
      exact hOther _ phase (by simp) (by simp) (by simp)

namespace Cell

/-- A placed session holds the address of its plan. -/
def PlacedHolds (c : Cell) : Prop := ∀ s ∈ c.session, s.phase.isPlaced → c.Holds s.generation

theorem PlacedHolds.pass (hInv : c.PlacedHolds) (h : CellPass id c c') : c'.PlacedHolds := by
  intro s' hs' hPlaced
  cases h with
  | created _ _ awaitsPayment configGrant =>
      cases hs'
      cases configGrant <;> cases awaitsPayment <;>
        simp [Session.create, SessionPhase.isPlaced] at hPlaced
  | deleted => cases hs'
  | moved s s'' session move =>
      cases hs'
      obtain ⟨hPhase, hGeneration, -⟩ := move.placed hPlaced
      rw [hGeneration]
      exact (hInv s session (hPhase ▸ hPlaced)).of_eq rfl rfl
  | committed s a n session =>
      rw [Option.mem_def, commit_session, session] at hs'
      cases hs'
      exact (hInv s session hPlaced).of_eq commit_plan commit_address
  | repaired =>
      exact (hInv s' (repair_session.symm.trans hs') hPlaced).of_eq repair_plan repair_address
  | revocationEnqueued | orphanCleaned =>
      exact (hInv s' (revoke_session.symm.trans hs') hPlaced).of_eq revoke_plan revoke_address
  | drifted | requeued | archived => exact (hInv s' hs' hPlaced).of_eq rfl rfl

/-- The session of a config that can be downloaded holds its address, and the config was made from
a plan of it. -/
structure ConfigHeld (c : Cell) (a : ClientConfigArtifact) : Prop where
  session : ∃ s ∈ c.session, s.IsConfigured
  address : c.address = some a.clientAddress
  plan : ∃ p ∈ c.plan a.generation,
    p.clientAddress = a.clientAddress ∧ p.clientTunnel = a.clientTunnel

theorem ConfigHeld.of_eq (h : c.ConfigHeld a) (hSession : c'.session = c.session)
    (hAddress : c'.address = c.address) (hPlan : c'.plan = c.plan) : c'.ConfigHeld a :=
  ⟨hSession ▸ h.session, hAddress ▸ h.address, hPlan ▸ h.plan⟩

theorem ConfigHeld.updateSession {f : Session → Session} (h : c.ConfigHeld a)
    (hPhase : ∀ s, s.IsConfigured → (f s).IsConfigured) : (c.updateSession f).ConfigHeld a := by
  obtain ⟨s, hs, hConfigured⟩ := h.session
  exact ⟨⟨f s, Option.map_eq_some_iff.2 ⟨s, hs, rfl⟩, hPhase s hConfigured⟩, h.address, h.plan⟩

theorem ConfigHeld.pass (hInv : c.ConfigHeld a) (h : CellPass id c c') : c'.ConfigHeld a := by
  obtain ⟨t, ht, hConfigured⟩ := hInv.session
  cases h with
  | created _ _ _ _ missing =>
      rw [missing] at ht
      cases ht
  | deleted s session pending =>
      rw [session] at ht
      cases ht
      rcases hConfigured with h | h | h <;> simp_all
  | moved s s' session move =>
      rw [session] at ht
      cases ht
      exact ⟨⟨s', rfl, move.isConfigured hConfigured⟩, hInv.address, hInv.plan⟩
  | committed =>
      have hTouched := @ConfigHeld.updateSession _ _ (·.touch c.now) hInv fun s hs => hs
      exact hTouched.of_eq commit_session commit_address commit_plan
  | repaired => exact hInv.of_eq repair_session repair_address repair_plan
  | revocationEnqueued | orphanCleaned =>
      exact hInv.of_eq revoke_session revoke_address revoke_plan
  | drifted | requeued | archived => exact hInv.of_eq rfl rfl rfl

end Cell

namespace ProvisioningDb

variable {db db' : ProvisioningDb} {action : Action}

theorem CellChange.placedHolds (h : db.CellChange config id action c)
    (hSound : (db.cell id).Sound id) (hInv : (db.cell id).PlacedHolds) : c.PlacedHolds := by
  cases h with
  | passed _ _ passes =>
      exact passes.invariant (fun _ _ _ hInv hPass => hInv.pass hPass) hSound hInv
  | exhaustedHidden locked s found session =>
      intro s' hs' hPlaced
      cases hs'
      exact hInv s session hPlaced
  | claimed | reported => exact hInv
  | scheduled outcome locked s gateId draw address n session =>
      have hAddressed := @Cell.Addressed.schedule config id _ s gateId draw address n session
        (hSound.sessionId s session)
      intro s' hs' hPlaced
      obtain ⟨a, ha⟩ : ∃ a, ((db.cell id).schedule config id s gateId draw address n).assignment =
        some a := ⟨_, Cell.schedule_assignment⟩
      exact (hAddressed.placed s' hs' hPlaced a ha).2
  | activated locked s listed session phase =>
      intro s' hs' _
      obtain ⟨t, ht, rfl⟩ := Option.map_eq_some_iff.1 hs'
      rw [session] at ht
      cases ht
      exact hInv s session (by rw [phase]; rfl)
  | timedOut | revoked =>
      intro s' hs' hPlaced
      obtain ⟨t, -, rfl⟩ := Option.map_eq_some_iff.1 hs'
      simp [Session.setPhase, SessionPhase.isPlaced] at hPlaced

/-- The session of a config keeps what the config needs until its revocation is complete. -/
theorem CellChange.configHeld (h : db.CellChange config id action c)
    (hSound : (db.cell id).Sound id) (hHeld : (db.cell id).ConfigHeld a) :
    c.ConfigHeld a ∨ ∃ locked, action = .completeRevoked locked ∧
      ∃ s ∈ db.listSessionsReadyToMarkRevoked locked, s.id = id.1 := by
  obtain ⟨t, ht, hConfigured⟩ := hHeld.session
  have hOther : ∀ s, (db.cell id).session = some s → s.phase ≠ .provisioning ∧
      s.phase ≠ .scheduling := by
    intro s hs
    obtain rfl := Option.some.inj (hs.symm.trans ht)
    rcases hConfigured with h | h | h <;> simp [h]
  cases h with
  | passed _ _ passes =>
      have hPassed : c.ConfigHeld a :=
        @CellPasses.invariant _ _ _ (·.ConfigHeld a) (fun _ _ _ hInv hPass => hInv.pass hPass)
          passes hSound hHeld
      exact .inl hPassed
  | exhaustedHidden locked s found session =>
      obtain rfl := Option.some.inj (session.symm.trans ht)
      exact .inl ⟨⟨_, rfl, hConfigured⟩, hHeld.address, hHeld.plan⟩
  | claimed | reported => exact .inl (hHeld.of_eq rfl rfl rfl)
  | scheduled outcome locked s gateId draw address n session desired phase =>
      exact absurd phase (hOther s session).2
  | activated locked s listed session phase | timedOut locked s listed session phase =>
      exact absurd phase (hOther s session).1
  | revoked locked s listed session =>
      exact .inr ⟨locked, rfl, s, listed, hSound.sessionId s session⟩

/-! ### Transactions that touch no config -/

theorem artifacts_foldl {ρ : Type} {rows : List ρ} {body : ProvisioningDb → ρ → ProvisioningDb}
    (hBody : ∀ db r, (body db r).artifacts = db.artifacts) :
    (rows.foldl body db).artifacts = db.artifacts :=
  @foldl_invariant _ _ rows db body (fun db' => db'.artifacts = db.artifacts)
    (fun db' r _ hSame => (hBody db' r).trans hSame) rfl

@[simp] theorem artifacts_updateSession {sid : SessionId} {f : Session → Session}
    {hf : ∀ s, (f s).id = s.id} : (db.updateSession sid f hf).artifacts = db.artifacts := rfl

@[simp] theorem artifacts_updateSessionStatusPhase {sid : SessionId} {phase : SessionPhase}
    {observed : Option Nat} :
    (db.updateSessionStatusPhase sid phase observed).artifacts = db.artifacts := rfl

@[simp] theorem artifacts_upsertRenderedPlan {plan : RenderedPlan} :
    (db.upsertRenderedPlan plan).artifacts = db.artifacts := by
  rw [upsertRenderedPlan]
  split <;> rfl

@[simp] theorem artifacts_createAssignment {sid : SessionId} {gateId : GateId}
    {role : GateAssignmentRole} {planId : PlanId} :
    (db.createAssignment sid gateId role planId).artifacts = db.artifacts := by
  rw [createAssignment]
  split <;> rfl

@[simp] theorem artifacts_insertApplyAssignmentJob {input : EnqueueApplyJobInput} :
    (db.insertApplyAssignmentJob input).artifacts = db.artifacts := by
  rw [insertApplyAssignmentJob]
  split <;> rfl

@[simp] theorem artifacts_enqueueCommitJobs {s : Session} {ingress egress : GateAssignment} :
    (db.enqueueCommitJobs s ingress egress).artifacts = db.artifacts := by
  simp [enqueueCommitJobs]

@[simp] theorem artifacts_revokeAssignment {a : GateAssignment} :
    (db.revokeAssignment a).artifacts = db.artifacts := by
  rw [revokeAssignment, insertRevokeAssignmentJob]
  split <;> rfl

theorem artifacts_requestOwnedSessionRevocation {accountId : AccountId} {sid : SessionId} :
    ((db.requestOwnedSessionRevocation accountId sid).getD db).artifacts = db.artifacts := by
  rw [requestOwnedSessionRevocation]
  split
  · split <;> rfl
  · rfl

theorem artifacts_requestSystemSessionRevocation {sid : SessionId} {reason : RevokeReason} :
    ((db.requestSystemSessionRevocation sid reason).getD db).artifacts = db.artifacts := by
  rw [requestSystemSessionRevocation]
  split
  · split <;> rfl
  · rfl

theorem artifacts_enforceSessionTrafficQuota {locked : List SessionId} :
    ((db.enforceSessionTrafficQuota locked).getD db).artifacts = db.artifacts := by
  rw [enforceSessionTrafficQuota]
  cases db.findExhaustedSessionTrafficEntitlementForUpdate locked with
  | none => rfl
  | some s => exact artifacts_requestSystemSessionRevocation

theorem artifacts_adjustSessionTrafficQuota {sid : SessionId} {includedBytes : Int} :
    (db.adjustSessionTrafficQuota sid includedBytes).1.artifacts = db.artifacts := by
  rw [adjustSessionTrafficQuota]
  split
  · rfl
  · split
    · rfl
    · split
      · rfl
      · split
        · rfl
        · split
          · rfl
          · dsimp only
            rw [artifacts_updateSession]
            split <;> rfl

theorem artifacts_claimGateJob {gateId : GateId} {lane : Option GateJobLane}
    {locked : List JobId} : (db.claimGateJob gateId lane locked).artifacts = db.artifacts := by
  rw [claimGateJob]
  split
  · rfl
  · split
    · rfl
    · split <;> rfl

theorem artifacts_recordGateJobReport {gateId : GateId} {jobId : JobId} {report : GateJobReport} :
    (db.recordGateJobReport gateId jobId report).artifacts = db.artifacts := by
  rw [recordGateJobReport]
  split
  · rfl
  · split
    · dsimp only
      split
      · rfl
      · rw [recordAssignmentProgress_eq]
        rfl
    · rfl

theorem artifacts_scheduleSession {outcome : SessionId → PathOutcome} {s : Session} :
    (db.scheduleSession config outcome s).artifacts = db.artifacts := by
  rw [scheduleSession]
  split
  · rfl
  · split
    · rfl
    · rename_i clientAddress leased hLeased
      have hSame : leased.artifacts = db.artifacts := by
        rw [ensureClientAddressLease] at hLeased
        split at hLeased
        · cases hLeased
          rfl
        · obtain ⟨address, -, hEq⟩ := Option.map_eq_some_iff.1 hLeased
          cases hEq
          rfl
      simp [provisionSession, hSame]

theorem artifacts_commitPreparedSession {s : Session} :
    (db.commitPreparedSession s).artifacts = db.artifacts := by
  rw [commitPreparedSession]
  split
  · have hEnqueued := @artifacts_enqueueCommitJobs db s
    exact hEnqueued
  all_goals rfl

theorem artifacts_reconcileGateDrift {locks : DriftLocks} {gate : GateActualStateDriftRow} :
    (db.reconcileGateDrift locks gate).artifacts = db.artifacts := by
  have hRepaired : ∀ (db : ProvisioningDb) (s : Session),
      (db.repairSession s).artifacts = db.artifacts := by
    intro db s
    rw [repairSession]
    split
    · exact artifacts_enqueueCommitJobs
    all_goals rfl
  rw [reconcileGateDrift]
  split
  · rfl
  · dsimp only
    split
    · rfl
    · rw [enqueueCleanupJobsForKnownOrphans, artifacts_foldl fun _ _ => artifacts_revokeAssignment,
        enqueueRepairJobsForMissingHandles, artifacts_foldl hRepaired]
      rfl

end ProvisioningDb

/-- The transactions that make, invalidate and delete no config. -/
def Action.KeepsArtifacts : Action → Prop
  | .deleteUnpaidSession .. | .completeProvisioned .. | .failTimedOut .. | .completeRevoked .. =>
    False
  | .createSession .. | .activatePaidSession .. | .revokeByOwner .. | .revokeExpired ..
  | .suspendAccount .. | .beginHide .. | .finishHide .. | .enforceQuota .. | .adjustQuota ..
  | .claim .. | .report .. | .requeueExpired | .archiveJobs .. | .otherJob .. | .snapshot ..
  | .deleteSnapshots .. | .usage .. | .beginRevocation .. | .enqueueRevocations ..
  | .beginProbing .. | .advanceProbed .. | .schedule .. | .enqueueCommits .. | .drift .. => True

namespace ProvisioningDb

variable {db db' : ProvisioningDb} {action : Action}

theorem artifacts_perform (h : action.KeepsArtifacts) :
    (db.perform config action).artifacts = db.artifacts := by
  cases action with
  | createSession =>
      rw [perform, insertRequestedSession]
      split <;> rfl
  | activatePaidSession =>
      rw [perform, activatePaidSession]
      split
      · split
        · dsimp only
          split <;> rfl
        · rfl
      · rfl
  | beginHide =>
      rw [perform, beginHidingSession]
      split
      · split <;> rfl
      · rfl
  | finishHide =>
      rw [perform, finishHidingSession]
      split <;> rfl
  | revokeByOwner => exact artifacts_requestOwnedSessionRevocation
  | revokeExpired | suspendAccount =>
      exact artifacts_foldl fun _ _ => artifacts_requestSystemSessionRevocation
  | enforceQuota => exact artifacts_enforceSessionTrafficQuota
  | adjustQuota => exact artifacts_adjustSessionTrafficQuota
  | claim => exact artifacts_claimGateJob
  | report => exact artifacts_recordGateJobReport
  | requeueExpired | archiveJobs | otherJob | snapshot | deleteSnapshots | usage => rfl
  | beginRevocation =>
      refine artifacts_foldl fun _ s => ?_
      cases beginRevokingTransition s.phase <;> rfl
  | enqueueRevocations => exact artifacts_foldl fun _ _ => artifacts_revokeAssignment
  | beginProbing | advanceProbed => exact artifacts_foldl fun _ _ => rfl
  | schedule => exact artifacts_foldl fun _ _ => artifacts_scheduleSession
  | enqueueCommits => exact artifacts_foldl fun _ _ => artifacts_commitPreparedSession
  | drift => exact artifacts_foldl fun _ _ => artifacts_reconcileGateDrift
  | deleteUnpaidSession | completeProvisioned | failTimedOut | completeRevoked => exact h.elim

end ProvisioningDb

/-! ### Rows of configs -/

/-- What becomes of the row of a config. -/
inductive ClientConfigArtifact.Became (a : ClientConfigArtifact) : ClientConfigArtifact → Prop where
  | kept : a.Became a
  | invalidated (now : Timestamp) (valid : a.invalidatedAt = none) :
      a.Became { a with invalidatedAt := some now }

theorem ClientConfigArtifact.Became.eq_of_valid (h : a.Became a')
    (hValid : a'.invalidatedAt = none) :
    a' = a := by
  cases h with
  | kept => rfl
  | invalidated => cases hValid

theorem ClientConfigArtifact.Became.trans (h : a.Became a') (h' : a'.Became a'') :
    a.Became a'' := by
  cases h' with
  | kept => exact h
  | invalidated now valid =>
      obtain rfl := h.eq_of_valid valid
      exact .invalidated now valid

/-- Rows are added at the end, and rows that are there are at most invalidated. -/
def ArtifactsGrow (rows rows' : List ClientConfigArtifact) : Prop :=
  ∀ (n : Nat) (a : ClientConfigArtifact), rows[n]? = some a →
    ∃ a', rows'[n]? = some a' ∧ a.Became a'

namespace ArtifactsGrow

variable {rows rows' rows'' : List ClientConfigArtifact}

theorem refl : ArtifactsGrow rows rows := fun _ a h => ⟨a, h, .kept⟩

theorem trans (h : ArtifactsGrow rows rows') (h' : ArtifactsGrow rows' rows'') :
    ArtifactsGrow rows rows'' := by
  intro n a ha
  obtain ⟨a', ha', hBecame⟩ := h n a ha
  obtain ⟨a'', ha'', hBecame'⟩ := h' n a' ha'
  exact ⟨a'', ha'', hBecame.trans hBecame'⟩

theorem append : ArtifactsGrow rows (rows ++ rows') := by
  intro n a ha
  refine ⟨a, ?_, .kept⟩
  rw [List.getElem?_append_left (List.getElem?_eq_some_iff.1 ha).1]
  exact ha

theorem map {f : ClientConfigArtifact → ClientConfigArtifact}
    (hf : ∀ a : ClientConfigArtifact, a.Became (f a)) :
    ArtifactsGrow rows (rows.map f) :=
  fun n a ha => ⟨f a, by rw [List.getElem?_map, ha]; rfl, hf a⟩

theorem eq_of_valid (h : ArtifactsGrow rows rows') {n : Nat} (ha : rows[n]? = some a)
    (ha' : rows'[n]? = some a') (hValid : a'.invalidatedAt = none) : a' = a := by
  obtain ⟨b, hb, hBecame⟩ := h n a ha
  obtain rfl := Option.some.inj (hb.symm.trans ha')
  exact hBecame.eq_of_valid hValid

end ArtifactsGrow

/-- A session has one valid config at most. -/
def OnePerSession (rows : List ClientConfigArtifact) : Prop :=
  rows.Pairwise fun a b => a.invalidatedAt = none → b.invalidatedAt = none →
    a.sessionId ≠ b.sessionId

theorem OnePerSession.eq_of_sessionId {rows : List ClientConfigArtifact} (h : OnePerSession rows) :
    ∀ a ∈ rows, ∀ b ∈ rows, a.invalidatedAt = none → b.invalidatedAt = none →
      a.sessionId = b.sessionId → a = b :=
  List.Pairwise.forall_of_forall_of_flip (fun _ _ _ _ _ => rfl)
    (h.imp fun hNe hValid hValid' hSame => absurd hSame (hNe hValid hValid'))
    (h.imp fun hNe hValid hValid' hSame => absurd hSame.symm (hNe hValid' hValid))

/-- The row of a config when the configs of a session are invalidated. -/
def ClientConfigArtifact.invalidateFor (now : Timestamp) (sid : SessionId)
    (a : ClientConfigArtifact) : ClientConfigArtifact :=
  if a.sessionId = sid ∧ a.invalidatedAt = none then { a with invalidatedAt := some now } else a

namespace ClientConfigArtifact

variable {now : Timestamp} {sid : SessionId}

theorem became_invalidateFor : a.Became (a.invalidateFor now sid) := by
  rw [invalidateFor]
  split
  · rename_i hMine
    exact .invalidated now hMine.2
  · exact .kept

theorem invalidateFor_valid (h : (a.invalidateFor now sid).invalidatedAt = none) :
    a.invalidateFor now sid = a ∧ a.sessionId ≠ sid := by
  rw [invalidateFor] at h ⊢
  split at h
  · cases h
  · rename_i hOther
    exact ⟨if_neg hOther, fun hMine => hOther ⟨hMine, h⟩⟩

end ClientConfigArtifact

theorem OnePerSession.invalidateFor {rows : List ClientConfigArtifact} {now : Timestamp}
    {sid : SessionId} (h : OnePerSession rows) :
    OnePerSession (rows.map (·.invalidateFor now sid)) := by
  refine h.map _ fun a b hNe hValid hValid' => ?_
  obtain ⟨hSame, -⟩ := ClientConfigArtifact.invalidateFor_valid hValid
  obtain ⟨hSame', -⟩ := ClientConfigArtifact.invalidateFor_valid hValid'
  rw [hSame, hSame']
  exact hNe (hSame ▸ hValid) (hSame' ▸ hValid')

namespace ProvisioningDb

variable {db db' : ProvisioningDb} {action : Action}

theorem artifacts_foldl_invalidate {rows : List Session}
    {body : ProvisioningDb → Session → ProvisioningDb}
    (hBody : ∀ db s, (body db s).artifacts = db.artifacts.map (·.invalidateFor db.now s.id)) :
    ArtifactsGrow db.artifacts (rows.foldl body db).artifacts ∧
      (∀ a' ∈ (rows.foldl body db).artifacts, ∃ a ∈ db.artifacts, a.Became a' ∧
        (a'.invalidatedAt = none → ∀ s ∈ rows, s.id ≠ a'.sessionId)) ∧
      (OnePerSession db.artifacts → OnePerSession (rows.foldl body db).artifacts) := by
  induction rows generalizing db with
  | nil => exact ⟨.refl, fun a ha => ⟨a, ha, .kept, by simp⟩, id⟩
  | cons s rows ih =>
      obtain ⟨hGrow, hRows, hOne⟩ := @ih (body db s)
      rw [hBody] at hGrow hRows hOne
      refine ⟨.trans (.map fun _ => ClientConfigArtifact.became_invalidateFor) hGrow, ?_,
        fun h => hOne h.invalidateFor⟩
      intro a' ha'
      obtain ⟨b, hb, hBecame, hOthers⟩ := hRows a' ha'
      obtain ⟨a, ha, rfl⟩ := List.mem_map.1 hb
      refine ⟨a, ha, ClientConfigArtifact.became_invalidateFor.trans hBecame, fun hNone => ?_⟩
      refine List.forall_mem_cons.2 ⟨?_, hOthers hNone⟩
      obtain rfl := hBecame.eq_of_valid hNone
      obtain ⟨hSame, hOther⟩ := ClientConfigArtifact.invalidateFor_valid hNone
      rw [hSame]
      exact hOther.symm

/-- The config that is made for a session that becomes active. -/
structure MadeFor (db : ProvisioningDb) (s : Session) (a : ClientConfigArtifact) : Prop where
  sessionId : a.sessionId = s.id
  plan : ∃ p ∈ db.plan? (s.id, a.generation),
    p.clientAddress = a.clientAddress ∧ p.clientTunnel = a.clientTunnel
  generation : a.generation = s.generation

theorem prepareClientConfigArtifact_made {s : Session}
    (h : db.prepareClientConfigArtifact config s = .ok db') :
    ∃ a, db.MadeFor s a ∧ db'.plans = db.plans ∧ db'.artifacts = db.artifacts ++ [a] := by
  rw [prepareClientConfigArtifact] at h
  cases hPlan : db.plan? (s.id, s.generation) with
  | none => simp [hPlan, throw, throwThe, MonadExceptOf.throw] at h
  | some plan =>
      simp only [hPlan, bind, Except.bind] at h
      split at h
      · split at h
        · split at h
          · cases h
          · split at h
            · cases h
            · split at h
              · cases h
              · split at h
                · split at h
                  · cases h
                  · cases h
                    exact ⟨_, ⟨rfl, ⟨plan, hPlan, rfl, rfl⟩, rfl⟩, rfl, rfl⟩
                · cases h
        · cases h
      · cases h

/-- A session that becomes active keeps its config, or it has none and one is made. -/
theorem completeProvisionedSession_config {s : Session}
    (h : db.completeProvisionedSession config s = .ok db') :
    db'.plans = db.plans ∧ (db'.artifacts = db.artifacts ∨
      db.hasActiveClientConfigArtifact s.id = false ∧
        ∃ a, db.MadeFor s a ∧ db'.artifacts = db.artifacts ++ [a]) := by
  rw [completeProvisionedSession] at h
  split at h
  · cases h
    exact ⟨rfl, .inl rfl⟩
  · rename_i hNone
    cases hPrepared : db.prepareClientConfigArtifact config s with
    | error e =>
        rw [hPrepared] at h
        cases h
    | ok prepared =>
        obtain ⟨a, hMade, hPlans, hArtifacts⟩ := prepareClientConfigArtifact_made hPrepared
        rw [hPrepared] at h
        cases h
        exact ⟨hPlans, .inr ⟨Bool.eq_false_iff.2 hNone, a, hMade, hArtifacts⟩⟩

theorem onePerSession_append {a : ClientConfigArtifact} (h : OnePerSession db.artifacts)
    (hNone : db.hasActiveClientConfigArtifact a.sessionId = false) :
    OnePerSession (db.artifacts ++ [a]) := by
  refine List.pairwise_append.2
    ⟨h, List.pairwise_singleton _ _, fun b hb b' hb' hValid _ hSame => ?_⟩
  rw [List.mem_singleton.1 hb'] at hSame
  have hActive : db.hasActiveClientConfigArtifact a.sessionId = true := by
    refine List.any_eq_true.2 ⟨b, hb, ?_⟩
    simp [hSame, hValid]
  rw [hNone] at hActive
  cases hActive

theorem completeProvisionedSessions_configs {locked : List SessionId}
    (h : db.completeProvisionedSessions config locked = .ok db') :
    ArtifactsGrow db.artifacts db'.artifacts ∧
      (∀ a ∈ db'.artifacts, a ∈ db.artifacts ∨
        ∃ s ∈ db.listProvisionedSessionsForActivation locked, db.MadeFor s a) ∧
      (OnePerSession db.artifacts → OnePerSession db'.artifacts) := by
  let Inv (db' : ProvisioningDb) : Prop := db'.plans = db.plans ∧
    ArtifactsGrow db.artifacts db'.artifacts ∧
    (∀ a ∈ db'.artifacts, a ∈ db.artifacts ∨
      ∃ s ∈ db.listProvisionedSessionsForActivation locked, db.MadeFor s a) ∧
    (OnePerSession db.artifacts → OnePerSession db'.artifacts)
  have hStep : ∀ db₁ : ProvisioningDb, ∀ s ∈ db.listProvisionedSessionsForActivation locked,
      ∀ db₂, Inv db₁ → db₁.completeProvisionedSession config s = .ok db₂ → Inv db₂ := by
    rintro db₁ s hs db₂ ⟨hPlans, hGrow, hMade, hOne⟩ hDone
    obtain ⟨hPlans', hSame | ⟨hNone, a, hNew, hAdded⟩⟩ := completeProvisionedSession_config hDone
    · refine ⟨hPlans'.trans hPlans, ?_⟩
      rw [hSame]
      exact ⟨hGrow, hMade, hOne⟩
    · refine ⟨hPlans'.trans hPlans, ?_⟩
      rw [hAdded]
      refine ⟨hGrow.trans .append, fun b hb => ?_, fun h => ?_⟩
      · rcases List.mem_append.1 hb with hb | hb
        · exact hMade b hb
        · rw [List.mem_singleton.1 hb]
          obtain ⟨p, hp, hFrom⟩ := hNew.plan
          rw [plan?, hPlans] at hp
          exact .inr ⟨s, hs, hNew.sessionId, ⟨p, hp, hFrom⟩, hNew.generation⟩
      · rw [← hNew.sessionId] at hNone
        exact onePerSession_append (hOne h) hNone
  have hInv : Inv db' := foldlM_invariant hStep ⟨rfl, .refl, fun a ha => .inl ha, id⟩ h
  exact hInv.2

end ProvisioningDb

/-! ### Configs in a run -/

namespace Cell

/-- The session of the cell does not wait for its payment. -/
def IsPaid (c : Cell) : Prop := ∃ s ∈ c.session, s.phase ≠ .paymentPending

theorem IsPaid.of_eq (h : c.IsPaid) (hSession : c'.session = c.session) : c'.IsPaid := by
  rw [IsPaid, hSession]
  exact h

theorem IsPaid.updateSession {f : Session → Session} (h : c.IsPaid)
    (hf : ∀ s : Session, s.phase ≠ .paymentPending → (f s).phase ≠ .paymentPending) :
    (c.updateSession f).IsPaid := by
  obtain ⟨s, hs, hPhase⟩ := h
  exact ⟨f s, Option.map_eq_some_iff.2 ⟨s, hs, rfl⟩, hf s hPhase⟩

theorem IsPaid.pass (h : c.IsPaid) (hPass : CellPass id c c') : c'.IsPaid := by
  obtain ⟨t, ht, hPhase⟩ := h
  cases hPass with
  | created _ _ _ _ missing =>
      rw [missing] at ht
      cases ht
  | deleted s session pending =>
      rw [session] at ht
      cases ht
      exact absurd pending hPhase
  | moved s s' session move =>
      rw [session] at ht
      cases ht
      refine ⟨s', rfl, ?_⟩
      cases move with
      | revocationRequested =>
          simp only [Session.setPhase, requestRevocationPhase]
          split <;> simp
      | hidden | consumed | exhausted | adjusted | entitled => exact hPhase
      | reactivated | paid | revocationBegun | probing | probed | unplaced =>
          simp [Session.setPhase, Session.setEntitlement]
  | committed =>
      have hTouched := @IsPaid.updateSession c (·.touch c.now) ⟨t, ht, hPhase⟩ fun s hs => hs
      exact hTouched.of_eq commit_session
  | repaired => exact IsPaid.of_eq ⟨t, ht, hPhase⟩ repair_session
  | revocationEnqueued | orphanCleaned => exact IsPaid.of_eq ⟨t, ht, hPhase⟩ revoke_session
  | drifted | requeued | archived => exact ⟨t, ht, hPhase⟩

end Cell

namespace ProvisioningDb

variable {db db' : ProvisioningDb} {action : Action}

theorem CellChange.isPaid (h : db.CellChange config id action c) (hSound : (db.cell id).Sound id)
    (hPaid : (db.cell id).IsPaid) : c.IsPaid := by
  cases h with
  | passed _ _ passes =>
      exact passes.invariant (fun _ _ _ hInv hPass => hInv.pass hPass) hSound hPaid
  | exhaustedHidden locked s found session =>
      obtain ⟨t, ht, hPhase⟩ := hPaid
      rw [session] at ht
      cases ht
      exact ⟨_, rfl, hPhase⟩
  | claimed | reported => exact hPaid
  | scheduled outcome locked s gateId draw address n session =>
      exact ⟨_, Cell.schedule_session.trans (by rw [session]; rfl), by simp [Session.setPhase]⟩
  | activated | timedOut | revoked =>
      obtain ⟨t, ht, -⟩ := hPaid
      exact ⟨_, Option.map_eq_some_iff.2 ⟨t, ht, rfl⟩, by simp [Session.setPhase]⟩

/-- What holds of the configs, the sessions and the addresses in every state. -/
structure ConfigsSound (db : ProvisioningDb) : Prop where
  sound : ∀ id, (db.cell id).Sound id
  placed : ∀ id, (db.cell id).PlacedHolds
  leases : LeasesExclusive db.leases
  paid : ∀ a ∈ db.artifacts, (db.cell (a.sessionId, .ingress)).IsPaid
  one : OnePerSession db.artifacts
  held : ∀ a ∈ db.artifacts, a.invalidatedAt = none →
    (db.cell (a.sessionId, .ingress)).ConfigHeld a

/-- What a transaction does to the rows of configs. -/
structure ConfigsChange (config : SessionReconcileConfig) (db : ProvisioningDb)
    (action : Action) : Prop where
  grow : ArtifactsGrow db.artifacts (db.perform config action).artifacts
  one : OnePerSession db.artifacts → OnePerSession (db.perform config action).artifacts
  rows : ∀ a' ∈ (db.perform config action).artifacts, (∃ a ∈ db.artifacts, a.Became a') ∨
    ∃ locked, action = .completeProvisioned locked ∧
      ∃ s ∈ db.listProvisionedSessionsForActivation locked, db.MadeFor s a'
  ended : ∀ locked, action = .completeRevoked locked →
    ∀ s ∈ db.listSessionsReadyToMarkRevoked locked,
      ∀ a ∈ (db.perform config action).artifacts, a.sessionId = s.id → a.invalidatedAt ≠ none

theorem ConfigsChange.of_artifacts (h : (db.perform config action).artifacts = db.artifacts)
    (hOther : ∀ locked, action ≠ .completeRevoked locked) : db.ConfigsChange config action := by
  constructor
  · rw [h]
    exact .refl
  · rw [h]
    exact id
  · rw [h]
    exact fun a ha => .inl ⟨a, ha, .kept⟩
  · exact fun locked hRevoked => absurd hRevoked (hOther locked)

theorem artifacts_deleteUnpaidSession {accountId : AccountId} {sid : SessionId}
    (hPaid : ∀ a ∈ db.artifacts, (db.cell (a.sessionId, .ingress)).IsPaid) :
    (db.deleteUnpaidSession accountId sid).artifacts = db.artifacts := by
  rw [deleteUnpaidSession]
  split
  · rename_i s hSession
    split
    · rename_i hPending
      refine List.filter_eq_self.2 fun a ha => ?_
      obtain ⟨t, ht, hPhase⟩ := hPaid a ha
      have hOther : a.sessionId ≠ sid := by
        intro hSame
        rw [Option.mem_def, cell, hSame] at ht
        obtain rfl := Option.some.inj (hSession.symm.trans ht)
        exact hPhase hPending.2
      simp [hOther]
    · rfl
  · rfl

theorem configsChange_perform
    (hPaid : ∀ a ∈ db.artifacts, (db.cell (a.sessionId, .ingress)).IsPaid) :
    db.ConfigsChange config action := by
  by_cases hKeeps : action.KeepsArtifacts
  · refine .of_artifacts (artifacts_perform hKeeps) fun locked hRevoked => ?_
    rw [hRevoked] at hKeeps
    exact hKeeps
  cases action with
  | deleteUnpaidSession =>
      exact .of_artifacts (artifacts_deleteUnpaidSession hPaid) fun _ h => by cases h
  | completeProvisioned locked =>
      cases hDone : db.completeProvisionedSessions config locked with
      | error e =>
          refine .of_artifacts ?_ fun _ h => by cases h
          rw [perform, hDone]
          rfl
      | ok db' =>
          have hEq : db.perform config (.completeProvisioned locked) = db' := by
            rw [perform, hDone]
            rfl
          obtain ⟨hGrow, hRows, hOne⟩ := completeProvisionedSessions_configs hDone
          constructor
          · rw [hEq]
            exact hGrow
          · rw [hEq]
            exact hOne
          · rw [hEq]
            exact fun a ha => (hRows a ha).imp (fun hOld => ⟨a, hOld, .kept⟩)
              fun hMade => ⟨locked, rfl, hMade⟩
          · exact fun _ h => by cases h
  | failTimedOut locked =>
      obtain ⟨hGrow, hRows, hOne⟩ := @artifacts_foldl_invalidate db
        (db.listTimedOutProvisioningSessions config.provisioningTimeoutSeconds locked)
        failTimedOutSession fun _ _ => rfl
      refine ⟨hGrow, hOne, fun a ha => ?_, fun _ h => by cases h⟩
      obtain ⟨b, hb, hBecame, -⟩ := hRows a ha
      exact .inl ⟨b, hb, hBecame⟩
  | completeRevoked locked =>
      obtain ⟨hGrow, hRows, hOne⟩ := @artifacts_foldl_invalidate db
        (db.listSessionsReadyToMarkRevoked locked) completeRevokedSession fun _ _ => rfl
      refine ⟨hGrow, hOne, fun a ha => ?_, ?_⟩
      · obtain ⟨b, hb, hBecame, -⟩ := hRows a ha
        exact .inl ⟨b, hb, hBecame⟩
      · rintro _ ⟨⟩ s hs a ha hMine hNone
        obtain ⟨b, hb, -, hOthers⟩ := hRows a ha
        exact hOthers hNone s hs hMine.symm
  | _ => exact absurd trivial hKeeps

theorem cell_of_madeFor {locked : List SessionId} {s : Session}
    (hDone : db.completeProvisionedSessions config locked = .ok db')
    (hs : s ∈ db.listProvisionedSessionsForActivation locked) :
    (db.cell (s.id, .ingress)).session = some s ∧ s.phase = .provisioning ∧
      db'.cell (s.id, .ingress) = (db.cell (s.id, .ingress)).activate := by
  rcases @cell_completeProvisionedSessions db config (s.id, .ingress) locked db' hDone with
    ⟨hNone, -⟩ | ⟨t, ht, hSession, hPhase, -, hCell⟩
  · exact absurd rfl (hNone s hs)
  · have hSame : (db.cell (s.id, .ingress)).session = some s :=
      cell_session_eq_some (mem_of_mem_selectForUpdate hs) rfl
    obtain rfl := Option.some.inj (hSession.symm.trans hSame)
    exact ⟨hSession, hPhase, hCell⟩

theorem configsSound_emptyDb : emptyDb.ConfigsSound where
  sound _ := sound_emptyDb
  placed _ := by simp [Cell.PlacedHolds, cell, emptyDb, session?, Table.find?]
  leases := by simp [LeasesExclusive, emptyDb]
  paid := by simp [emptyDb]
  one := by simp [emptyDb, OnePerSession]
  held := by simp [emptyDb]

theorem ConfigsSound.atTime {now : Timestamp} (h : db.ConfigsSound) (hNow : db.now < now) :
    (db.atTime now).ConfigsSound where
  sound id := (Ticked.of_sound (h.sound id) hNow).sound
  placed := h.placed
  leases := h.leases
  paid := h.paid
  one := h.one
  held a ha hNone := (h.held a ha hNone).of_eq rfl rfl rfl

theorem configHeld_of_madeFor {locked : List SessionId} {s : Session}
    (hPlaced : (db.cell (s.id, .ingress)).PlacedHolds)
    (hDone : db.completeProvisionedSessions config locked = .ok db')
    (hs : s ∈ db.listProvisionedSessionsForActivation locked) (hMade : db.MadeFor s a) :
    (db'.cell (s.id, .ingress)).ConfigHeld a := by
  obtain ⟨hSession, hPhase, hCell⟩ := cell_of_madeFor hDone hs
  obtain ⟨p, hp, hAddress⟩ := hPlaced s hSession (by rw [hPhase]; rfl)
  obtain ⟨q, hq, hFrom, hTunnel⟩ := hMade.plan
  have hSame : p = q := by
    rw [hMade.generation] at hq
    exact Option.some.inj ((Option.mem_def.1 hp).symm.trans hq)
  rw [hCell]
  refine ⟨⟨_, Option.map_eq_some_iff.2 ⟨s, hSession, rfl⟩, .inl rfl⟩, ?_, q, hq, hFrom, hTunnel⟩
  rw [← hFrom, ← hSame]
  exact hAddress

theorem ConfigsSound.step {e : Event} (h : db.ConfigsSound) (hStep : step config db e = some db') :
    db'.ConfigsSound := by
  have hChange : ∀ id, (db.atTime e.now).Ticked id ∧
      CellChange config (db.atTime e.now) id e.action (db'.cell id) :=
    fun id => cellChange_step (h.sound id) hStep
  obtain ⟨hNow, rfl⟩ := step_eq_some hStep
  have hTicked := h.atTime hNow
  have hConfigs : (db.atTime e.now).ConfigsChange config e.action :=
    configsChange_perform hTicked.paid
  refine ⟨fun id => ?_, fun id => ?_, leasesExclusive_perform hTicked.leases, fun a' ha' => ?_,
    hConfigs.one hTicked.one, fun a' ha' hNone => ?_⟩
  · exact (hChange id).2.sound (hChange id).1.sound (hChange id).1.earlier
  · exact (hChange id).2.placedHolds (hChange id).1.sound (hTicked.placed id)
  · rcases hConfigs.rows a' ha' with ⟨a, ha, hBecame⟩ | ⟨locked, hAction, s, hs, hMade⟩
    · have hSame : a'.sessionId = a.sessionId := by cases hBecame <;> rfl
      rw [hSame]
      exact (hChange _).2.isPaid (hTicked.sound _) (hTicked.paid a ha)
    · have hSession : ((db.atTime e.now).cell (s.id, .ingress)).session = some s :=
        cell_session_eq_some (mem_of_mem_selectForUpdate hs) rfl
      have hPhase : s.phase = .provisioning := (wanted_of_mem_selectForUpdate hs).1
      rw [hMade.sessionId]
      exact (hChange _).2.isPaid (hTicked.sound _) ⟨s, hSession, by simp [hPhase]⟩
  · rcases hConfigs.rows a' ha' with ⟨a, ha, hBecame⟩ | ⟨locked, hAction, s, hs, hMade⟩
    · obtain rfl := hBecame.eq_of_valid hNone
      rcases (hChange _).2.configHeld (hTicked.sound _) (hTicked.held _ ha hNone) with
        hHeld | ⟨locked, hAction, s, hs, hMine⟩
      · exact hHeld
      · exact absurd hNone (hConfigs.ended locked hAction s hs a' ha' hMine.symm)
    · rw [hAction] at ha' ⊢
      cases hDone : (db.atTime e.now).completeProvisionedSessions config locked with
      | error error =>
          have hEq : (db.atTime e.now).perform config (.completeProvisioned locked) =
              db.atTime e.now := by
            rw [perform, hDone]
            rfl
          rw [hEq] at ha' ⊢
          exact hTicked.held a' ha' hNone
      | ok db' =>
          have hEq : (db.atTime e.now).perform config (.completeProvisioned locked) = db' := by
            rw [perform, hDone]
            rfl
          rw [hEq, hMade.sessionId]
          exact configHeld_of_madeFor (hTicked.placed _) hDone hs hMade

/-- Rows of configs stay where they are. -/
theorem artifactsGrow_step {e : Event} (h : db.ConfigsSound)
    (hStep : ProvisioningDb.step config db e = some db') :
    ArtifactsGrow db.artifacts db'.artifacts := by
  obtain ⟨hNow, rfl⟩ := step_eq_some hStep
  exact (configsChange_perform (h.atTime hNow).paid).grow

end ProvisioningDb

end Hyperspace.Provisioning
