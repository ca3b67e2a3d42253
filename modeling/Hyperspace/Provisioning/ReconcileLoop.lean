import Hyperspace.Provisioning.SoundCells

/-!
# One call of the reconcile loop

`reconcileOnce` runs its passes one after another and ends at the first one that throws. The pass
that activates sessions throws when the key material that a gate has reported for one of them is
not enough for a config: the sessions listed with it are not activated, and the passes behind it
do not run.
-/

namespace Hyperspace.Provisioning

open Hyperspace.Billing (AccountId SessionId Timestamp)
open Hyperspace.ControlPlane Hyperspace.Foundations

/-! ### The loop -/

/-- What the passes of one call find, each pass by its place in the call: the transactions that
others run before it, its time, the rows that others hold while it runs, and what it reads beside
the tables of the model. -/
structure RoundInput where
  others : Nat → List Event
  times : Nat → Timestamp
  lockedSessions : Nat → List SessionId
  lockedAssignments : Nat → List AssignmentId
  outcome : SessionId → PathOutcome
  expired : List SessionId
  gates : List GateId

/-- The passes of `reconcileOnce` in their order. `markStaleGates`, the first one, writes no table
of the model. -/
def reconcilePasses (i : RoundInput) : List Action :=
  [.beginRevocation (i.lockedSessions 0),
    .enqueueRevocations (i.lockedAssignments 1),
    .beginProbing (i.lockedSessions 2),
    .advanceProbed (i.lockedSessions 3),
    .schedule i.outcome (i.lockedSessions 4),
    .enqueueCommits (i.lockedSessions 5),
    .completeProvisioned (i.lockedSessions 6),
    .failTimedOut (i.lockedSessions 7),
    .completeRevoked (i.lockedSessions 8),
    .revokeExpired i.expired,
    .drift i.gates ⟨i.lockedSessions 10, i.lockedAssignments 10⟩]

/-- A transaction, and whether it is a pass of the call. -/
structure RoundStep where
  ours : Bool
  event : Event

/-- All transactions from the start of the call to its end. -/
def RoundInput.steps (i : RoundInput) : List RoundStep :=
  (reconcilePasses i).zipIdx.flatMap fun (action, n) =>
    (i.others n).map (RoundStep.mk false) ++ [⟨true, ⟨i.times n, action⟩⟩]

namespace ProvisioningDb

/-- A transaction that may throw. `JSON.stringify` of material that is stored is taken not to throw,
which it does on an engine whose stack is too small for the nesting. -/
def performOrThrow (config : SessionReconcileConfig) (db : ProvisioningDb) :
    Action → Except String ProvisioningDb
  | .completeProvisioned locked => db.completeProvisionedSessions config locked
  | action => .ok (db.perform config action)

/-- What a pass throws ends the call; what another party's transaction throws does not. -/
def roundBody (config : SessionReconcileConfig) (db : ProvisioningDb) (s : RoundStep) :
    Except String ProvisioningDb :=
  let found := { db with now := s.event.now }
  if s.ours then found.performOrThrow config s.event.action
  else .ok (found.perform config s.event.action)

def reconcileOnce (config : SessionReconcileConfig) (db : ProvisioningDb) (i : RoundInput) :
    Except String ProvisioningDb :=
  i.steps.foldlM (roundBody config) db

/-- The transactions of a call as steps of the control plane. -/
def roundStep (config : SessionReconcileConfig) (db : ProvisioningDb) (s : RoundStep) :
    Option ProvisioningDb :=
  step config db s.event

end ProvisioningDb

/-- The key material that a gate has reported is enough for the config of a plan with the tunnel. -/
def MaterialFits (material : Json) (tunnel : ClientTunnel) : Prop :=
  let wireGuard := Json.asRecord (material.field? "wireGuard")
  readClientTunnel (material.field? "clientTunnel") = .ok tunnel ∧
    wireGuard.readString "clientPublicKey" ≠ "" ∧
    ∃ n, wireGuard.field? "clientListenPort" = some (.num n)

/-! ### The plans of a session -/

/-- A session that gets its plan only when it is scheduled. -/
def awaitsPlan : SessionPhase → Bool
  | .paymentPending | .requested | .probing | .scheduling => true
  | .provisioning | .active | .degraded | .revoking | .revoked | .failed => false

/-- The secret of a plan has the key that its tunnel asks for. -/
def RenderedPlan.HasKey (config : SessionReconcileConfig) (plan : RenderedPlan) : Prop :=
  ∃ key, validateHeaderProtectionKey config.keyFingerprint plan.clientTunnel
    plan.headerProtectionKey = .ok key

theorem hasKey_renderWireGuardPlan {config : SessionReconcileConfig} {s : Session}
    {draw : TunnelDraw} {clientAddress : ClientAddress} :
    (renderWireGuardPlan config s draw clientAddress).HasKey config := by
  cases hProtocol : s.clientProtocol with
  | wireguard =>
      exact ⟨"", by simp only [renderWireGuardPlan, hProtocol, validateHeaderProtectionKey]⟩
  | amneziawg =>
      refine ⟨draw.headerProtectionKey, ?_⟩
      simp only [renderWireGuardPlan, hProtocol, createClientTunnel, validateHeaderProtectionKey]
      exact if_pos ⟨draw.keyValid, trivial⟩

/-- A plan is made once for each generation: the session of a cell that awaits its plan has none. -/
structure Cell.Planned (config : SessionReconcileConfig) (c : Cell) : Prop where
  noSession : c.session = none → ∀ generation, c.plan generation = none
  made : ∀ s ∈ c.session, ∀ generation, (c.plan generation).isSome →
    generation < s.generation ∨ (generation = s.generation ∧ awaitsPlan s.phase = false)
  hasKey : ∀ generation, ∀ plan ∈ c.plan generation, plan.HasKey config

section

variable {config : SessionReconcileConfig} {id : AssignmentId} {c c' : Cell}

theorem SessionMove.awaitsPlan {now : Timestamp} {s s' : Session} (h : SessionMove now s s') :
    s.generation < s'.generation ∨
      (s'.generation = s.generation ∧
        (awaitsPlan s.phase = false → awaitsPlan s'.phase = false)) := by
  cases h with
  | revocationRequested | reactivated => exact .inl (Nat.lt_succ_self _)
  | hidden | consumed | exhausted | adjusted | entitled => exact .inr ⟨rfl, fun h => h⟩
  | paid trafficLimitBytes pending =>
      exact .inr ⟨rfl, fun h => by simp [pending, Provisioning.awaitsPlan] at h⟩
  | revocationBegun | unplaced => exact .inr ⟨rfl, fun _ => rfl⟩
  | probing desired phase | probed desired phase =>
      exact .inr ⟨rfl, fun h => by simp [phase, Provisioning.awaitsPlan] at h⟩

theorem Cell.Planned.updateSession {f : Session → Session} (hInv : c.Planned config)
    (hMove : ∀ s, c.session = some s → s.generation < (f s).generation ∨
      ((f s).generation = s.generation ∧
        (awaitsPlan s.phase = false → awaitsPlan (f s).phase = false))) :
    (c.updateSession f).Planned config where
  noSession hNone := hInv.noSession (Option.map_eq_none_iff.1 hNone)
  made := by
    intro s' hs' generation hPlan
    obtain ⟨s, hs, rfl⟩ := Option.map_eq_some_iff.1 hs'
    rcases hMove s hs with hLater | ⟨hSame, hKept⟩
    · rcases hInv.made s hs generation hPlan with hOld | ⟨rfl, -⟩
      · exact .inl (hOld.trans hLater)
      · exact .inl hLater
    · rw [hSame]
      exact (hInv.made s hs generation hPlan).imp_right fun h => ⟨h.1, hKept h.2⟩
  hasKey := hInv.hasKey

theorem Cell.Planned.pass (hInv : c.Planned config) (h : CellPass id c c') : c'.Planned config := by
  have hKept : c'.session = c.session → c'.plan = c.plan → c'.Planned config := by
    intro hSession hPlan
    exact ⟨by rw [hSession, hPlan]; exact hInv.noSession, by rw [hSession, hPlan]; exact hInv.made,
      by rw [hPlan]; exact hInv.hasKey⟩
  cases h with
  | created accountId clientProtocol awaitsPayment configGrant missing =>
      have hNone := hInv.noSession missing
      exact ⟨nofun, fun s _ generation hPlan => by simp [hNone] at hPlan,
        fun generation plan hPlan => by simp [hNone] at hPlan⟩
  | deleted => constructor <;> simp
  | moved s s' session move =>
      have hCell : { c with session := some s' } = c.updateSession fun _ => s' := by
        rw [Cell.updateSession, session]
        rfl
      rw [hCell]
      refine hInv.updateSession fun t ht => ?_
      rw [session] at ht
      cases ht
      exact move.awaitsPlan
  | committed s a n session phase plan assignment prepared =>
      have hTouched := hInv.updateSession (f := (·.touch c.now)) fun t _ => .inr ⟨rfl, fun h => h⟩
      exact ⟨by rw [Cell.commit_session, Cell.commit_plan]; exact hTouched.noSession,
        by rw [Cell.commit_session, Cell.commit_plan]; exact hTouched.made,
        by rw [Cell.commit_plan]; exact hInv.hasKey⟩
  | repaired => exact hKept Cell.repair_session Cell.repair_plan
  | revocationEnqueued | orphanCleaned => exact hKept Cell.revoke_session Cell.revoke_plan
  | drifted | requeued | archived => exact hKept rfl rfl

theorem Cell.Planned.schedule {s : Session} {gateId : GateId} {draw : TunnelDraw}
    {address : ClientAddress} {n : JobId} (hInv : c.Planned config) (hSession : c.session = some s)
    (hPhase : s.phase = .scheduling) :
    (c.schedule config id s gateId draw address n).Planned config := by
  have hFree : c.plan s.generation = none := by
    by_contra hPlan
    rcases hInv.made s hSession s.generation (Option.isSome_iff_ne_none.2 hPlan) with
      hLt | ⟨-, hMade⟩
    · exact lt_irrefl _ hLt
    · simp [hPhase, awaitsPlan] at hMade
  constructor
  · intro hNone
    rw [Cell.schedule_session, hSession] at hNone
    cases hNone
  · intro s' hs' generation hPlan
    rw [Option.mem_def, Cell.schedule_session, hSession] at hs'
    cases hs'
    rw [Cell.schedule_plan] at hPlan
    by_cases hNew : generation = s.generation
    · exact .inr ⟨hNew, rfl⟩
    · simp only [Function.update_of_ne hNew] at hPlan
      exact .inl ((hInv.made s hSession generation hPlan).resolve_right fun h => hNew h.1)
  · intro generation plan hPlan
    rw [Option.mem_def, Cell.schedule_plan] at hPlan
    by_cases hNew : generation = s.generation
    · subst hNew
      simp only [Function.update_self, hFree, Option.elim_none] at hPlan
      cases hPlan
      exact hasKey_renderWireGuardPlan
    · simp only [Function.update_of_ne hNew] at hPlan
      exact hInv.hasKey generation plan hPlan

end

namespace ProvisioningDb

variable {config : SessionReconcileConfig} {db db' : ProvisioningDb} {id : AssignmentId}
  {s : Session} {es : List Event}

theorem CellChange.planned {action : Action} {c : Cell} (h : db.CellChange config id action c)
    (hSound : (db.cell id).Sound id) (hInv : (db.cell id).Planned config) : c.Planned config := by
  have hMove : ∀ {phase : SessionPhase} {observed : Session → Option Nat},
      awaitsPlan phase = false →
      ((db.cell id).updateSession fun s => s.setPhase db.now phase (observed s)).Planned config :=
    fun hMade => hInv.updateSession fun _ _ => .inr ⟨rfl, fun _ => hMade⟩
  cases h with
  | passed _ _ passes =>
      exact CellPasses.invariant (fun _ _ _ hInv hPass => hInv.pass hPass) passes hSound hInv
  | exhaustedHidden locked s found session =>
      have hExhausted := hInv.updateSession (f := (·.setEntitlement (·.exhaust db.now)))
        fun t _ => .inr ⟨rfl, fun h => h⟩
      rw [Cell.updateSession, session] at hExhausted
      exact hExhausted
  | claimed | reported => exact ⟨hInv.noSession, hInv.made, hInv.hasKey⟩
  | scheduled outcome locked s gateId draw address n session desired phase =>
      exact hInv.schedule session phase
  | activated => exact hMove rfl
  | timedOut =>
      have hFailed := @hMove .failed (fun _ => none) rfl
      exact ⟨hFailed.noSession, hFailed.made, hFailed.hasKey⟩
  | revoked =>
      have hRevoked := @hMove .revoked (fun s => some s.generation) rfl
      exact ⟨hRevoked.noSession, hRevoked.made, hRevoked.hasKey⟩

theorem planned_emptyDb : (emptyDb.cell id).Planned config := by
  constructor <;> simp [emptyDb, cell, session?, plan?, Table.find?]

/-- What holds of the cells of every state that a transaction finds or leaves. -/
structure Provisioned (config : SessionReconcileConfig) (db : ProvisioningDb) : Prop where
  sound : ∀ id, (db.cell id).Sound id
  planned : ∀ id, (db.cell id).Planned config

theorem provisioned_emptyDb : emptyDb.Provisioned config :=
  ⟨fun _ => sound_emptyDb, fun _ => planned_emptyDb⟩

theorem Provisioned.atTime {now : Timestamp} (h : db.Provisioned config) (hNow : db.now < now) :
    (db.atTime now).Provisioned config :=
  ⟨fun id => (Ticked.of_sound (h.sound id) hNow).sound,
    fun id => ⟨(h.planned id).noSession, (h.planned id).made, (h.planned id).hasKey⟩⟩

theorem Provisioned.step {e : Event} (h : db.Provisioned config)
    (hStep : step config db e = some db') :
    db'.Provisioned config := by
  constructor <;> intro id <;> obtain ⟨hTicked, hChange⟩ := cellChange_step (h.sound id) hStep
  · exact hChange.sound hTicked.sound hTicked.earlier
  · exact hChange.planned hTicked.sound ((h.atTime (step_eq_some hStep).1).planned id)

theorem provisioned_run (hRun : run (step config) emptyDb es = some db) : db.Provisioned config :=
  run_invariant (fun _ _ _ h hStep => h.step hStep) provisioned_emptyDb hRun

/-! ### Configs -/

/-- The ingress gate of the session has reported what the config of its plan needs. -/
def IngressFits (db : ProvisioningDb) (s : Session) : Prop :=
  ∃ plan ∈ db.plan? (s.id, s.generation), ∃ ingress ∈ db.assignment? (s.id, .ingress),
    MaterialFits ingress.localMaterial plan.clientTunnel

/-- Nothing is missing for the config of the session. -/
def Renderable (config : SessionReconcileConfig) (db : ProvisioningDb) (s : Session) : Prop :=
  ∃ plan ∈ db.plan? (s.id, s.generation), ∃ ingress ∈ db.assignment? (s.id, .ingress),
    (db.assignment? (s.id, .egress)).isSome ∧
      MaterialFits ingress.localMaterial plan.clientTunnel ∧ plan.HasKey config

theorem prepareClientConfigArtifact_isOk_iff :
    (∃ db', db.prepareClientConfigArtifact config s = .ok db') ↔ db.Renderable config s := by
  rw [prepareClientConfigArtifact, Renderable]
  cases hPlan : db.plan? (s.id, s.generation) with
  | none => simp [throw, throwThe, MonadExceptOf.throw]
  | some plan =>
      cases hIngress : db.assignment? (s.id, .ingress) with
      | none => simp [throw, throwThe, MonadExceptOf.throw]
      | some ingress =>
          cases hEgress : db.assignment? (s.id, .egress) with
          | none => simp [throw, throwThe, MonadExceptOf.throw]
          | some egress =>
              simp only [bind, Except.bind, MaterialFits]
              constructor
              · rintro ⟨db', h⟩
                split at h
                · cases h
                · rename_i tunnel hTunnel
                  split at h
                  · cases h
                  · rename_i hSame
                    split at h
                    · cases h
                    · rename_i hKey
                      split at h
                      · rename_i listenPort hPort
                        split at h
                        · cases h
                        · rename_i key hValid
                          exact ⟨plan, rfl, ingress, rfl, rfl,
                            ⟨hTunnel.trans (congrArg _ (not_not.1 hSame)), hKey, listenPort, hPort⟩,
                            key, hValid⟩
                      · cases h
              · rintro ⟨plan', hp, ingress', hi, -, ⟨hTunnel, hKey, n, hPort⟩, key, hValid⟩
                cases hp
                cases hi
                simp [hTunnel, hKey, hPort, hValid, pure, Except.pure]

theorem completeProvisionedSession_isOk_iff :
    (∃ db', db.completeProvisionedSession config s = .ok db') ↔
      (db.hasActiveClientConfigArtifact s.id = false → db.Renderable config s) := by
  rw [completeProvisionedSession]
  cases hActive : db.hasActiveClientConfigArtifact s.id with
  | true => exact ⟨fun _ h => (by cases h), fun _ => ⟨_, rfl⟩⟩
  | false =>
      rw [← prepareClientConfigArtifact_isOk_iff]
      cases hPrepared : db.prepareClientConfigArtifact config s with
      | error e => simp [bind, Except.bind]
      | ok prepared => exact ⟨fun _ _ => ⟨_, rfl⟩, fun _ => ⟨_, rfl⟩⟩

theorem completeProvisionedSession_others (h : db.completeProvisionedSession config s = .ok db') :
    db'.plans = db.plans ∧ db'.assignments = db.assignments ∧
      ∀ sid, sid ≠ s.id →
        db'.hasActiveClientConfigArtifact sid = db.hasActiveClientConfigArtifact sid := by
  rw [completeProvisionedSession] at h
  split at h
  · cases h
    exact ⟨rfl, rfl, fun _ _ => rfl⟩
  · cases hPrepared : db.prepareClientConfigArtifact config s with
    | error e =>
        rw [hPrepared] at h
        cases h
    | ok prepared =>
        obtain ⟨artifact, hId, rfl⟩ := prepareClientConfigArtifact_eq_ok hPrepared
        rw [hPrepared] at h
        cases h
        refine ⟨rfl, rfl, fun sid hOther => ?_⟩
        have hArtifacts : (((db.insertClientConfigArtifact artifact).touchSessionStatus
            s.id).updateSessionStatusPhase s.id .active (some s.generation)).artifacts =
              db.artifacts ++ [artifact] := rfl
        rw [hasActiveClientConfigArtifact, hArtifacts, List.any_append, List.any_cons, List.any_nil,
          hId, decide_eq_false hOther.symm, Bool.false_and, Bool.or_false, Bool.or_false]
        rfl

theorem completeProvisionedSessions_isOk_iff {locked : List SessionId} :
    (∃ db', db.completeProvisionedSessions config locked = .ok db') ↔
      ∀ s ∈ db.listProvisionedSessionsForActivation locked,
        db.hasActiveClientConfigArtifact s.id = false → db.Renderable config s := by
  have hNodup : ((db.listProvisionedSessionsForActivation locked).map Session.id).Nodup :=
    nodup_selectForUpdate db.sessions.keysNodup
  refine foldlM_isOk_iff (fun db s _ => completeProvisionedSession_isOk_iff) ?_
  refine (List.pairwise_map.1 hNodup).imp fun {s t} hNe db db' hDone => ?_
  obtain ⟨hPlans, hAssignments, hArtifacts⟩ := completeProvisionedSession_others hDone
  rw [hArtifacts t.id hNe.symm, Renderable, Renderable, plan?, plan?, assignment?, assignment?,
    assignment?, assignment?, hPlans, hAssignments]

/-! ### Calls -/

/-- A session that a pass has listed is in the phase that the pass is for. -/
def ReachesPhase (db : ProvisioningDb) (phase : SessionPhase) (s : Session) : Prop :=
  ∃ t ∈ db.session? s.id, t.phase = phase

/-- The passes that end a provisioning or a revocation have handled all sessions they list. -/
def PassDone (config : SessionReconcileConfig) (db : ProvisioningDb) (action : Action) : Prop :=
  match action with
  | .completeProvisioned locked => ∀ s ∈ db.listProvisionedSessionsForActivation locked,
      (db.perform config action).ReachesPhase .active s
  | .failTimedOut locked =>
    ∀ s ∈ db.listTimedOutProvisioningSessions config.provisioningTimeoutSeconds locked,
      (db.perform config action).ReachesPhase .failed s
  | .completeRevoked locked => ∀ s ∈ db.listSessionsReadyToMarkRevoked locked,
      (db.perform config action).ReachesPhase .revoked s
  | _ => True

/-- The gates have reported what the configs of the sessions that are to be activated need. -/
def MaterialsFit (db : ProvisioningDb) : Action → Prop
  | .completeProvisioned locked => ∀ s ∈ db.listProvisionedSessionsForActivation locked,
      db.hasActiveClientConfigArtifact s.id = false → db.IngressFits s
  | _ => True

/-- No pass of the call throws, and each one does what it is for. -/
def RoundCompletes (config : SessionReconcileConfig) (db : ProvisioningDb) (i : RoundInput) :
    Prop :=
  (∃ db', reconcileOnce config db i = .ok db') ∧
    StepsMeet (roundStep config)
      (fun db s => s.ours → (db.atTime s.event.now).PassDone config s.event.action) db i.steps

theorem renderable_iff {locked : List SessionId} (h : db.Provisioned config)
    (hListed : s ∈ db.listProvisionedSessionsForActivation locked) :
    db.Renderable config s ↔ db.IngressFits s := by
  constructor
  · rintro ⟨plan, hPlan, ingress, hIngress, -, hFits, -⟩
    exact ⟨plan, hPlan, ingress, hIngress, hFits⟩
  · rintro ⟨plan, hPlan, ingress, hIngress, hFits⟩
    have hSession : (db.cell (s.id, .egress)).session = some s :=
      cell_session_eq_some (mem_of_mem_selectForUpdate hListed) rfl
    have hPlaced : s.phase.isPlaced := by
      rw [(wanted_of_mem_selectForUpdate hListed).1]
      rfl
    have hEgress := ((h.sound (s.id, .egress)).placed s hSession hPlaced).2
    have hKey := (h.planned (s.id, .egress)).hasKey s.generation plan hPlan
    exact ⟨plan, hPlan, ingress, hIngress, hEgress, hFits, hKey⟩

theorem performOrThrow_eq_ok {action : Action} (h : db.performOrThrow config action = .ok db') :
    db.perform config action = db' := by
  cases action with
  | completeProvisioned locked =>
      rw [performOrThrow] at h
      rw [perform, h]
      rfl
  | _ =>
      cases h
      rfl

theorem completeProvisioned_passDone {locked : List SessionId}
    (h : db.completeProvisionedSessions config locked = .ok db') :
    db.PassDone config (.completeProvisioned locked) := by
  intro s hListed
  rw [@performOrThrow_eq_ok _ _ _ (.completeProvisioned locked) h]
  rcases @cell_completeProvisionedSessions db config (s.id, .ingress) locked db' h with
    ⟨hNone, -⟩ | ⟨t, -, hSession, -, -, hCell⟩
  · exact absurd rfl (hNone s hListed)
  · have hFound := congrArg Cell.session hCell
    rw [Cell.activate, Cell.updateSession, hSession] at hFound
    exact ⟨_, hFound, rfl⟩

theorem failTimedOut_passDone {locked : List SessionId} (h : db.Provisioned config) :
    db.PassDone config (.failTimedOut locked) := by
  intro s hListed
  rcases @cell_failTimedOutProvisioningSessions db config (s.id, .ingress) locked
    (h.sound _).jobSession with ⟨hNone, -⟩ | ⟨t, -, hSession, -, hCell⟩
  · exact absurd rfl (hNone s hListed)
  · have hFound := congrArg Cell.session hCell
    simp only [Cell.failTimedOut, hSession, Option.map_some] at hFound
    exact ⟨_, hFound, rfl⟩

theorem completeRevoked_passDone {locked : List SessionId} :
    db.PassDone config (.completeRevoked locked) := by
  intro s hListed
  rcases @cell_completeRevokedSessions db (s.id, .ingress) locked with
    ⟨hNone, -⟩ | ⟨t, -, hSession, -, hCell⟩
  · exact absurd rfl (hNone s hListed)
  · have hFound := congrArg Cell.session hCell
    simp only [Cell.completeRevoked, hSession, Option.map_some] at hFound
    exact ⟨_, hFound, rfl⟩

theorem pass_iff {action : Action} (h : db.Provisioned config) :
    (∃ db', db.performOrThrow config action = .ok db') ∧ db.PassDone config action ↔
      db.MaterialsFit action := by
  cases action with
  | completeProvisioned locked =>
      have hOk : (∃ db', db.performOrThrow config (.completeProvisioned locked) = .ok db') ↔
          db.MaterialsFit (.completeProvisioned locked) :=
        completeProvisionedSessions_isOk_iff.trans
          (forall₂_congr fun s hListed => imp_congr_right fun _ => renderable_iff h hListed)
      refine Iff.trans (and_iff_left_of_imp ?_) hOk
      rintro ⟨db', hDone⟩
      exact completeProvisioned_passDone hDone
  | failTimedOut => exact ⟨fun _ => trivial, fun _ => ⟨⟨_, rfl⟩, failTimedOut_passDone h⟩⟩
  | completeRevoked => exact ⟨fun _ => trivial, fun _ => ⟨⟨_, rfl⟩, completeRevoked_passDone⟩⟩
  | _ => exact ⟨fun _ => trivial, fun _ => ⟨⟨_, rfl⟩, trivial⟩⟩

theorem roundBody_iff {step : RoundStep} (h : (db.atTime step.event.now).Provisioned config) :
    (∃ db', roundBody config db step = .ok db') ∧
        (step.ours → (db.atTime step.event.now).PassDone config step.event.action) ↔
      (step.ours → (db.atTime step.event.now).MaterialsFit step.event.action) := by
  cases hOurs : step.ours with
  | true =>
      have hBody : roundBody config db step =
          (db.atTime step.event.now).performOrThrow config step.event.action := by
        rw [roundBody, hOurs]
        rfl
      rw [hBody, forall_prop_of_true rfl, forall_prop_of_true rfl]
      exact pass_iff h
  | false =>
      have hBody : roundBody config db step =
          .ok ((db.atTime step.event.now).perform config step.event.action) := by
        rw [roundBody, hOurs]
        rfl
      exact ⟨fun _ => nofun, fun _ => ⟨⟨_, hBody⟩, nofun⟩⟩

theorem roundBody_eq_ok {s : RoundStep} {db₁ : ProvisioningDb}
    (hStep : roundStep config db s = some db') (h : roundBody config db s = .ok db₁) :
    db₁ = db' := by
  rw [(step_eq_some hStep).2]
  rw [roundBody] at h
  split at h
  · exact (performOrThrow_eq_ok h).symm
  · cases h
    rfl

theorem roundSteps_iff {steps : List RoundStep} (h : db.Provisioned config)
    (hRuns : run (roundStep config) db steps = some db') :
    (∃ db', steps.foldlM (roundBody config) db = .ok db') ∧
        StepsMeet (roundStep config)
          (fun db s => s.ours → (db.atTime s.event.now).PassDone config s.event.action) db steps ↔
      StepsMeet (roundStep config)
        (fun db s => s.ours → (db.atTime s.event.now).MaterialsFit s.event.action) db steps := by
  induction steps generalizing db with
  | nil => exact ⟨fun _ => trivial, fun _ => ⟨⟨db, rfl⟩, trivial⟩⟩
  | cons s steps ih =>
      obtain ⟨db₁, hStep, hRest⟩ := run_cons.1 hRuns
      have hNow := (step_eq_some hStep).1
      have hIff := @roundBody_iff config db s (h.atTime hNow)
      have hTail := ih (h.step hStep) hRest
      rw [stepsMeet_cons hStep, stepsMeet_cons hStep, ← hIff, ← hTail]
      constructor
      · rintro ⟨⟨db₂, hLoop⟩, hDone, hDones⟩
        obtain ⟨found, hBody, hLoop'⟩ := foldlM_cons_eq_ok.1 hLoop
        cases roundBody_eq_ok hStep hBody
        exact ⟨⟨⟨db₁, hBody⟩, hDone⟩, ⟨db₂, hLoop'⟩, hDones⟩
      · rintro ⟨⟨⟨found, hBody⟩, hDone⟩, ⟨db₂, hLoop⟩, hDones⟩
        cases roundBody_eq_ok hStep hBody
        exact ⟨⟨db₂, foldlM_cons_eq_ok.2 ⟨db₁, hBody, hLoop⟩⟩, hDone, hDones⟩

/-- From every state that the control plane reaches, a call completes exactly when the pass that
activates sessions finds material that fits for each of them. -/
theorem roundCompletes_iff {i : RoundInput} (hRun : run (step config) emptyDb es = some db)
    (hRuns : run (roundStep config) db i.steps = some db') :
    db.RoundCompletes config i ↔
      StepsMeet (roundStep config)
        (fun db s => s.ours → (db.atTime s.event.now).MaterialsFit s.event.action) db i.steps :=
  roundSteps_iff (provisioned_run hRun) hRuns

/-- A call in which no other transaction runs and no row is held. -/
def quietRound (now : Timestamp) : RoundInput where
  others _ := []
  times n := now + n
  lockedSessions _ := []
  lockedAssignments _ := []
  outcome := samplePath
  expired := []
  gates := [1, 2]

/-- Two sessions are prepared and committed; this is what the ingress gate reports of the second
one. -/
def committedRun (second : GateJobReport) : List Event :=
  [⟨1, .createSession 1 7 .wireguard false (some 100)⟩,
    ⟨2, .createSession 2 8 .wireguard false (some 100)⟩, ⟨3, .beginProbing []⟩,
    ⟨4, .advanceProbed []⟩, ⟨5, .schedule (fun _ => .path 1 2 [10, 11] sampleDraw) []⟩,
    ⟨6, .claim 1 none []⟩, ⟨7, .report 1 0 prepares⟩, ⟨8, .claim 1 none []⟩,
    ⟨9, .report 1 2 second⟩, ⟨10, .claim 2 none []⟩, ⟨11, .report 2 1 prepares⟩,
    ⟨12, .claim 2 none []⟩, ⟨13, .report 2 3 prepares⟩, ⟨14, .enqueueCommits []⟩,
    ⟨15, .claim 1 none []⟩, ⟨16, .report 1 4 (succeeds "commit")⟩, ⟨17, .claim 1 none []⟩,
    ⟨18, .report 1 6 (succeeds "commit")⟩, ⟨19, .claim 2 none []⟩,
    ⟨20, .report 2 5 (succeeds "commit")⟩, ⟨21, .claim 2 none []⟩,
    ⟨22, .report 2 7 (succeeds "commit")⟩]

/-- The call finds both sessions to be activated, and activates them. -/
theorem roundCompletes_iff_sample : ∃ db db',
    run (step sampleConfig) emptyDb (committedRun prepares) = some db ∧
    run (roundStep sampleConfig) db (quietRound 30).steps = some db' ∧
    (db.listProvisionedSessionsForActivation []).map Session.id = [1, 2] ∧
    (∀ s ∈ db'.sessions.rows, s.phase = .active) ∧
    (db.RoundCompletes sampleConfig (quietRound 30) ↔
      StepsMeet (roundStep sampleConfig)
        (fun db s => s.ours → (db.atTime s.event.now).MaterialsFit s.event.action) db
        (quietRound 30).steps) := by
  have hRun : ∃ db ∈ run (step sampleConfig) emptyDb (committedRun prepares),
      (db.listProvisionedSessionsForActivation []).map Session.id = [1, 2] ∧
      ∃ db' ∈ run (roundStep sampleConfig) db (quietRound 30).steps,
        ∀ s ∈ db'.sessions.rows, s.phase = .active := by
    decide +kernel
  obtain ⟨db, hRun, hListed, db', hRuns, hActive⟩ := hRun
  exact ⟨db, db', hRun, hRuns, hListed, hActive, roundCompletes_iff hRun hRuns⟩

/-- The ingress gate has prepared the second session without reporting a key: both sessions are
listed for activation, and the call throws because of the second one. -/
theorem not_roundCompletes : ∃ es db db' i, run (step sampleConfig) emptyDb es = some db ∧
    run (roundStep sampleConfig) db i.steps = some db' ∧ ¬ db.RoundCompletes sampleConfig i := by
  have hRun : ∃ db ∈ run (step sampleConfig) emptyDb (committedRun (succeeds "prepare")),
      (db.listProvisionedSessionsForActivation []).map Session.id = [1, 2] ∧
      (run (roundStep sampleConfig) db (quietRound 30).steps).isSome ∧
      (reconcileOnce sampleConfig db (quietRound 30)).toOption.isNone := by
    decide +kernel
  obtain ⟨db, hRun, -, hRuns, hThrown⟩ := hRun
  obtain ⟨db', hRuns⟩ := Option.isSome_iff_exists.1 hRuns
  refine ⟨_, db, db', quietRound 30, hRun, hRuns, ?_⟩
  rintro ⟨⟨after, hDone⟩, -⟩
  rw [hDone] at hThrown
  cases hThrown

end ProvisioningDb

end Hyperspace.Provisioning
