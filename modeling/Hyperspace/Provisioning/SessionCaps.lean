import Hyperspace.Provisioning.HiddenSessions

/-!
# The cap on the sessions of an account

`createRequestedSessionWithAbuseControls` counts the sessions of the account under a lock and
refuses to go beyond the cap. Nothing else counts: a request to revoke a failed session brings it
back as a revoking one, and an adjustment of its quota schedules a revoked session again. In between
no transaction adds to the count, so the cap holds where these two find room.
-/

namespace Hyperspace.Provisioning

open Hyperspace.Billing (AccountId SessionId Timestamp)
open Hyperspace.ControlPlane Hyperspace.Foundations

/-- The fields of `SessionAbuseControlConfig` that creating a session reads. -/
structure SessionAbuseControlConfig where
  maxActiveSessionsPerAccount : Nat
  maxSessionCreatesPerWindow : Nat
  sessionCreateWindowSeconds : Nat

/-- A visible session that is neither revoked nor failed. -/
def Session.Counts (s : Session) : Prop := s.hiddenAt = none ∧ ¬ s.IsOver

instance : DecidablePred Session.Counts := fun _ => inferInstanceAs (Decidable (_ ∧ _))

/-- Why a session is not created. -/
inductive CreateSessionRejection where
  | sessionQuotaExceeded
  | sessionCreateRateLimited
  deriving DecidableEq, Repr

namespace ProvisioningDb

variable (db : ProvisioningDb)

def countNonTerminalSessionsForAccount (accountId : AccountId) : Nat :=
  (db.sessions.rows.filter fun s => s.accountId = some accountId && s.Counts).length

def countRecentSessionCreatesForAccount (accountId : AccountId) (windowSeconds : Nat) : Nat :=
  (db.sessions.rows.filter fun s =>
    s.accountId = some accountId && db.now - windowSeconds * second ≤ s.createdAt).length

/-- The repetition of a create request is answered with its session, and a session for which there
is no route is refused; neither changes anything, so both are left out. -/
def createRequestedSessionWithAbuseControls (limits : SessionAbuseControlConfig) (id : SessionId)
    (accountId : AccountId) (clientProtocol : ClientProtocol) (initialPhase : SessionPhase)
    (configGrant : Option Int) : Except CreateSessionRejection ProvisioningDb :=
  if limits.maxActiveSessionsPerAccount ≤ db.countNonTerminalSessionsForAccount accountId then
    .error .sessionQuotaExceeded
  else if limits.maxSessionCreatesPerWindow ≤
      db.countRecentSessionCreatesForAccount accountId limits.sessionCreateWindowSeconds then
    .error .sessionCreateRateLimited
  else .ok (db.insertRequestedSession id accountId clientProtocol initialPhase configGrant)

/-- `perform` with the controls that every creation goes through. -/
def performControlled (limits : SessionAbuseControlConfig) (config : SessionReconcileConfig) :
    Action → ProvisioningDb
  | .createSession id accountId clientProtocol awaitsPayment configGrant =>
    (db.createRequestedSessionWithAbuseControls limits id accountId clientProtocol
      (if awaitsPayment then .paymentPending else .requested) configGrant).toOption.getD db
  | action => db.perform config action

def controlledStep (limits : SessionAbuseControlConfig) (config : SessionReconcileConfig)
    (db : ProvisioningDb) (e : Event) : Option ProvisioningDb :=
  if db.now < e.now then some ((db.atTime e.now).performControlled limits config e.action) else none

/-- The transaction brings a session back that is over. -/
def Revives (s : Session) : Action → Prop
  | .revokeByOwner accountId id => s.id = id ∧ s.accountId = some accountId ∧ s.phase = .failed
  | .revokeExpired ids | .suspendAccount ids => s.id ∈ ids ∧ s.phase = .failed
  | .adjustQuota id includedBytes =>
    s.id = id ∧ db.reactivation s = .requested ∧
      ∃ e ∈ s.entitlement, e.consumedBytes < includedBytes
  | _ => False

instance (s : Session) : DecidablePred (db.Revives s) := fun action => by
  apply Action.casesOn (motive := fun action => Decidable (db.Revives s action)) action
  all_goals
    intros
    dsimp only [Revives]
    infer_instance

/-- How many sessions of the account the transaction brings back. -/
def countRevived (accountId : AccountId) (action : Action) : Nat :=
  (db.sessions.rows.filter fun s =>
    s.accountId = some accountId && s.hiddenAt.isNone && db.Revives s action).length

/-- There is room for the sessions that the transaction brings back. -/
def RevivesWithinCap (limits : SessionAbuseControlConfig) (action : Action) : Prop :=
  ∀ s ∈ db.sessions.rows, ∀ accountId ∈ s.accountId, s.hiddenAt = none → db.Revives s action →
    db.countNonTerminalSessionsForAccount accountId + db.countRevived accountId action ≤
      limits.maxActiveSessionsPerAccount

instance (limits : SessionAbuseControlConfig) (action : Action) :
    Decidable (db.RevivesWithinCap limits action) :=
  inferInstanceAs (Decidable (∀ s ∈ db.sessions.rows, ∀ accountId ∈ s.accountId, _))

/-! ### Transactions that bring nothing back -/

variable {db} {db' : ProvisioningDb} {config : SessionReconcileConfig} {action : Action}

/-- Every session that counts has counted before. -/
def RevivesNone (db db' : ProvisioningDb) : Prop :=
  ∀ sid, ∀ s' ∈ db'.session? sid, s'.Counts →
    ∃ s ∈ db.session? sid, s.Counts ∧ s'.accountId = s.accountId

theorem RevivesNone.of_sessions (h : db'.sessions = db.sessions) : db.RevivesNone db' :=
  fun sid s' hs' hCounts => ⟨s', by rwa [session?, ← h], hCounts, rfl⟩

instance : IsPreorder ProvisioningDb RevivesNone where
  refl _ := .of_sessions rfl
  trans _ _ _ h h' := by
    intro sid s'' hs'' hCounts
    obtain ⟨s', hs', hCounts', hAccount'⟩ := h' sid s'' hs'' hCounts
    obtain ⟨s, hs, hCounts, hAccount⟩ := h sid s' hs' hCounts'
    exact ⟨s, hs, hCounts, hAccount'.trans hAccount⟩

theorem revivesNone_updateSession {sid : SessionId} {f : Session → Session}
    {hf : ∀ s, (f s).id = s.id} (hAccount : ∀ s, (f s).accountId = s.accountId)
    (hCounts : ∀ s ∈ db.session? sid, (f s).Counts → s.Counts) :
    db.RevivesNone (db.updateSession sid f hf) := by
  intro sid' s' hs' hCounts'
  rw [Option.mem_def, session?_updateSession] at hs'
  split at hs'
  · rename_i hMine
    subst hMine
    obtain ⟨s, hs, rfl⟩ := Option.map_eq_some_iff.1 hs'
    exact ⟨s, hs, hCounts s hs hCounts', hAccount s⟩
  · exact ⟨s', hs', hCounts', rfl⟩

theorem revivesNone_updateSessionStatusPhase {sid : SessionId} {phase : SessionPhase}
    {observed : Option Nat} (h : ∀ s ∈ db.session? sid, ¬ s.IsOver) :
    db.RevivesNone (db.updateSessionStatusPhase sid phase observed) :=
  revivesNone_updateSession (fun _ => rfl) fun s hs hCounts => ⟨hCounts.1, h s hs⟩

/-- No row of a session is written but this one, and its owner and visibility are kept. -/
def WritesRow (sid : SessionId) (db db' : ProvisioningDb) : Prop :=
  ∃ (f : Session → Session) (hf : ∀ t, (f t).id = t.id),
    (∀ t : Session, t.Kept (f t)) ∧ db'.sessions = db.sessions.update sid f hf

theorem WritesRow.updateSession {sid : SessionId} {f : Session → Session}
    {hf : ∀ s, (f s).id = s.id} (hKept : ∀ t : Session, t.Kept (f t))
    (hSame : db'.sessions = db.sessions) : WritesRow sid db (db'.updateSession sid f hf) := by
  refine ⟨f, hf, hKept, ?_⟩
  rw [← hSame]
  rfl

theorem WritesRow.of_sessions {sid : SessionId} (h : db'.sessions = db.sessions) :
    WritesRow sid db db' := by
  refine ⟨id, fun _ => rfl, fun _ => ⟨rfl, rfl, rfl, rfl, rfl, rfl⟩, ?_⟩
  rw [h, Table.update]
  have hSame : (fun r : Session => if r.id = sid then id r else r) = id := by
    funext r
    exact ite_self _
  simp only [hSame, Table.modify_id]

theorem WritesRow.setPhase {sid : SessionId} {phase : SessionPhase} {observed : Option Nat}
    (hSame : db'.sessions = db.sessions) :
    WritesRow sid db (db'.updateSessionStatusPhase sid phase observed) :=
  .updateSession (fun _ => ⟨rfl, rfl, rfl, rfl, rfl, rfl⟩) hSame

theorem revivesNone_forEachSession {wanted : Session → Prop} [DecidablePred wanted]
    {before : Session → Session → Prop} [DecidableRel before] {limit : Nat}
    {locked : List SessionId} {body : ProvisioningDb → Session → ProvisioningDb}
    (hWanted : ∀ s, wanted s → ¬ s.IsOver) (hBody : ∀ db s, WritesRow s.id db (body db s)) :
    db.RevivesNone ((selectForUpdate Session.id wanted before limit locked
      db.sessions.rows).foldl body db) := by
  have hView : ∀ db s sid, (body db s).session? sid = db.session? sid ∨
      sid = s.id ∧ ∃ f : Session → Session, (∀ t : Session, t.Kept (f t)) ∧
        (body db s).session? sid = (db.session? sid).map f := by
    intro db s sid
    obtain ⟨f, hf, hKept, hSessions⟩ := hBody db s
    have hFind : (body db s).session? sid = (db.updateSession s.id f hf).session? sid := by
      rw [session?, hSessions]
      rfl
    rw [hFind, session?_updateSession]
    split
    · exact .inr ⟨‹_›, f, hKept, rfl⟩
    · exact .inl rfl
  intro sid s' hs' hCounts
  let rows := selectForUpdate Session.id wanted before limit locked db.sessions.rows
  have hNodup : (rows.map Session.id).Nodup := nodup_selectForUpdate db.sessions.keysNodup
  have hUnique : rows.Pairwise fun r r' => ¬ (r.id = sid ∧ r'.id = sid) :=
    (List.pairwise_map.1 hNodup).imp fun hNe hBoth => hNe (hBoth.1.trans hBoth.2.symm)
  rcases @foldl_view _ _ rows db _ body (fun db => db.session? sid) (fun r => r.id = sid)
    (fun _ => True) (fun _ _ _ _ => trivial)
    (fun b _ r _ hOther => (hView b r sid).resolve_right fun hMine => hOther hMine.1.symm) hUnique
    trivial with ⟨-, hSame⟩ | ⟨r, hr, rfl, db₁, -, hFound, hEq⟩
  · exact ⟨s', hSame ▸ hs', hCounts, rfl⟩
  · have hRow : db.session? r.id = some r :=
      Table.find?_eq_some_iff.2 ⟨mem_of_mem_selectForUpdate hr, rfl⟩
    have hs₁ : (body db₁ r).session? r.id = some s' := hEq.symm.trans hs'
    rcases hView db₁ r r.id with hSame | ⟨-, f, hKept, hMap⟩
    · exact ⟨s', (hSame.trans hFound).symm.trans hs₁, hCounts, rfl⟩
    · rw [hMap, hFound, hRow] at hs₁
      cases hs₁
      have hVisible : r.hiddenAt = none := (hKept r).hiddenAt ▸ hCounts.1
      exact ⟨r, hRow, ⟨hVisible, hWanted r (wanted_of_mem_selectForUpdate hr)⟩, (hKept r).accountId⟩

theorem writesRow_scheduleSession {outcome : SessionId → PathOutcome} {s : Session} :
    WritesRow s.id db (db.scheduleSession config outcome s) := by
  rw [scheduleSession]
  split
  · exact .setPhase rfl
  · split
    · exact .setPhase rfl
    · rename_i clientAddress leased hLeased
      refine .setPhase ?_
      have hLease : leased.sessions = db.sessions := by
        rw [ensureClientAddressLease] at hLeased
        split at hLeased
        · cases hLeased
          rfl
        · obtain ⟨address, -, hEq⟩ := Option.map_eq_some_iff.1 hLeased
          cases hEq
          rfl
      have hCreate : ∀ {db : ProvisioningDb} {sid gateId role planId},
          (db.createAssignment sid gateId role planId).sessions = db.sessions := by
        intro db sid gateId role planId
        rw [createAssignment]
        split <;> rfl
      have hPlan : ∀ {db : ProvisioningDb} {plan}, (db.upsertRenderedPlan plan).sessions =
          db.sessions := by
        intro db plan
        rw [upsertRenderedPlan]
        split <;> rfl
      rw [sessions_insertApplyAssignmentJob, sessions_insertApplyAssignmentJob, hCreate, hCreate,
        hPlan, hLease]

theorem writesRow_commitPreparedSession {s : Session} :
    WritesRow s.id db (db.commitPreparedSession s) := by
  rw [commitPreparedSession]
  split
  · refine .updateSession (fun _ => ⟨rfl, rfl, rfl, rfl, rfl, rfl⟩) ?_
    rw [enqueueCommitJobs]
    exact sessions_insertApplyAssignmentJob.trans sessions_insertApplyAssignmentJob
  · exact .of_sessions rfl
  · exact .of_sessions rfl
  · exact .of_sessions rfl

theorem not_isOver_of_phase {phase : SessionPhase} {s : Session} (h : s.phase = phase)
    (hRevoked : phase ≠ .revoked) (hFailed : phase ≠ .failed) : ¬ s.IsOver := by
  subst h
  exact fun hOver => hOver.elim hRevoked hFailed

theorem sessions_revokeAssignment {a : GateAssignment} :
    (db.revokeAssignment a).sessions = db.sessions := by
  rw [revokeAssignment, insertRevokeAssignmentJob]
  split <;> rfl

theorem sessions_foldl {ρ : Type} {rows : List ρ} {body : ProvisioningDb → ρ → ProvisioningDb}
    (hBody : ∀ db r, (body db r).sessions = db.sessions) :
    (rows.foldl body db).sessions = db.sessions :=
  @foldl_invariant _ _ rows db body (fun db' => db'.sessions = db.sessions)
    (fun db' r _ hSame => (hBody db' r).trans hSame) rfl

theorem sessions_reconcileDrift {gates : List GateId} {locks : DriftLocks} :
    (db.reconcileDrift gates locks).sessions = db.sessions := by
  refine sessions_foldl fun db gate => ?_
  rw [reconcileGateDrift]
  split
  · rfl
  · dsimp only
    split
    · rfl
    · refine (sessions_foldl fun _ _ => sessions_revokeAssignment).trans ?_
      exact (sessions_foldl fun _ _ => sessions_repairSession).trans rfl

theorem revivesNone_completeProvisionedSessions {locked : List SessionId} :
    db.RevivesNone ((db.completeProvisionedSessions config locked).toOption.getD db) := by
  cases hDone : db.completeProvisionedSessions config locked with
  | error e => exact refl_of RevivesNone db
  | ok db' =>
      intro sid s' hs' hCounts
      rw [Except.toOption, Option.getD_some] at hs'
      rcases @cell_completeProvisionedSessions db config (sid, .ingress) locked db' hDone with
        ⟨-, hSame⟩ | ⟨s, -, hSession, hPhase, -, hEq⟩
      · have hRow : db'.session? sid = db.session? sid := congrArg Cell.session hSame
        exact ⟨s', hRow ▸ hs', hCounts, rfl⟩
      · have hRow : db'.session? sid = ((db.cell (sid, .ingress)).activate).session :=
          congrArg Cell.session hEq
        rw [Option.mem_def, hRow, Cell.activate, Cell.updateSession, hSession] at hs'
        cases hs'
        exact ⟨s, hSession, ⟨hCounts.1, not_isOver_of_phase hPhase (by decide) (by decide)⟩, rfl⟩

theorem revivesNone_activatePaidSession {accountId : AccountId} {sid : SessionId}
    {trafficLimitBytes : Option Int} :
    db.RevivesNone (db.activatePaidSession accountId sid trafficLimitBytes) := by
  rw [activatePaidSession]
  split
  · rename_i s hSession
    split
    · have hEntitled : db.RevivesNone (db.updateSession sid (·.entitle db.now trafficLimitBytes)
          fun _ => Session.entitle_id) :=
        revivesNone_updateSession (fun _ => rfl) fun _ _ hCounts => hCounts
      dsimp only
      split
      · rename_i hPending
        refine trans_of RevivesNone hEntitled (revivesNone_updateSessionStatusPhase fun t ht => ?_)
        rw [Option.mem_def, session?_updateSession, if_pos rfl, hSession] at ht
        cases ht
        have hPhase : (s.entitle db.now trafficLimitBytes).phase = .paymentPending := hPending
        exact not_isOver_of_phase hPhase (by decide) (by decide)
      · exact hEntitled
    · exact refl_of RevivesNone db
  · exact refl_of RevivesNone db

theorem revivesNone_deleteUnpaidSession {accountId : AccountId} {sid : SessionId} :
    db.RevivesNone (db.deleteUnpaidSession accountId sid) := by
  rw [deleteUnpaidSession]
  split
  · split
    · intro sid' s' hs' hCounts
      obtain ⟨hRow, hId⟩ := Table.find?_eq_some_iff.1 hs'
      exact ⟨s', Table.find?_eq_some_iff.2 ⟨(Table.mem_filter.1 hRow).1, hId⟩, hCounts, rfl⟩
    · exact refl_of RevivesNone db
  · exact refl_of RevivesNone db

theorem revivesNone_enforceSessionTrafficQuota {locked : List SessionId} :
    db.RevivesNone ((db.enforceSessionTrafficQuota locked).getD db) := by
  rw [enforceSessionTrafficQuota]
  cases hFound : db.findExhaustedSessionTrafficEntitlementForUpdate locked with
  | none => exact refl_of RevivesNone db
  | some s =>
      have hListed := List.mem_of_head? hFound
      have hSession : db.session? s.id = some s :=
        Table.find?_eq_some_iff.2 ⟨mem_of_mem_selectForUpdate hListed, rfl⟩
      obtain ⟨-, -, -, -, hRevoked, hFailed⟩ : Exhausted s := wanted_of_mem_selectForUpdate hListed
      have hRequested : db.RevivesNone
          ((db.requestSystemSessionRevocation s.id .trafficQuotaExhausted).getD db) := by
        rw [requestSystemSessionRevocation, hSession]
        dsimp only
        split
        · have hDesired : db.RevivesNone (db.updateSessionDesiredState s.id .revoked true) :=
            revivesNone_updateSession (fun _ => rfl) fun _ _ hCounts => hCounts
          refine trans_of RevivesNone hDesired (revivesNone_updateSessionStatusPhase fun t ht => ?_)
          rw [updateSessionDesiredState, Option.mem_def, session?_updateSession, if_pos rfl,
            hSession] at ht
          cases ht
          exact fun hOver => hOver.elim hRevoked hFailed
        · exact refl_of RevivesNone db
      rw [Option.map_some, Option.getD_some, markSessionTrafficEntitlementExhausted]
      refine trans_of RevivesNone hRequested ?_
      exact revivesNone_updateSession (fun _ => rfl) fun _ _ hCounts => hCounts

/-- The transactions that bring no session back and create none. -/
def RevivesNothing : Action → Prop
  | .createSession .. | .revokeByOwner .. | .revokeExpired .. | .suspendAccount ..
  | .adjustQuota .. => False
  | _ => True

theorem revivesNone_perform (hAction : RevivesNothing action) :
    db.RevivesNone (db.perform config action) := by
  have hOver : ∀ {phase : SessionPhase}, phase ≠ .revoked → phase ≠ .failed →
      ∀ s : Session, s.desiredState = .active ∧ s.phase = phase → ¬ s.IsOver :=
    fun hRevoked hFailed s hWanted => not_isOver_of_phase hWanted.2 hRevoked hFailed
  cases action with
  | createSession | revokeByOwner | revokeExpired | suspendAccount | adjustQuota =>
      exact hAction.elim
  | activatePaidSession => exact revivesNone_activatePaidSession
  | deleteUnpaidSession => exact revivesNone_deleteUnpaidSession
  | beginHide =>
      refine .of_sessions ?_
      simp only [perform, beginHidingSession]
      split
      · split <;> rfl
      · rfl
  | finishHide sid =>
      simp only [perform, finishHidingSession]
      split
      · have hHidden : db.RevivesNone (db.hideOwnedSession sid) :=
          revivesNone_updateSession (fun _ => rfl) fun s _ hCounts => by cases hCounts.1
        exact hHidden
      · exact refl_of RevivesNone db
  | enforceQuota => exact revivesNone_enforceSessionTrafficQuota
  | claim => exact .of_sessions sessions_claimGateJob
  | report => exact .of_sessions sessions_recordGateJobReport
  | requeueExpired | archiveJobs | otherJob | snapshot | deleteSnapshots => exact .of_sessions rfl
  | usage => exact revivesNone_updateSession (fun _ => rfl) fun _ _ hCounts => hCounts
  | beginRevocation locked =>
      refine revivesNone_forEachSession (fun s hWanted hOver => ?_) fun db s => ?_
      · exact hOver.elim hWanted.2.2.1 hWanted.2.2.2
      · cases beginRevokingTransition s.phase with
        | none => exact .of_sessions rfl
        | some phase => exact .setPhase rfl
  | enqueueRevocations => exact .of_sessions (sessions_foldl fun _ _ => sessions_revokeAssignment)
  | beginProbing | advanceProbed =>
      exact revivesNone_forEachSession (hOver (by decide) (by decide)) fun _ _ => .setPhase rfl
  | schedule =>
      exact revivesNone_forEachSession (hOver (by decide) (by decide))
        fun _ _ => writesRow_scheduleSession
  | enqueueCommits =>
      refine revivesNone_forEachSession (fun s hWanted => ?_) fun _ _ =>
        writesRow_commitPreparedSession
      exact not_isOver_of_phase hWanted.2.1 (by decide) (by decide)
  | completeProvisioned => exact revivesNone_completeProvisionedSessions
  | failTimedOut =>
      refine revivesNone_forEachSession (fun s hWanted => ?_) fun _ _ => ?_
      · exact not_isOver_of_phase hWanted.2.1 (by decide) (by decide)
      · exact .setPhase rfl
  | completeRevoked =>
      refine revivesNone_forEachSession (fun s hWanted => ?_) fun _ _ => ?_
      · exact not_isOver_of_phase hWanted.1 (by decide) (by decide)
      · exact .setPhase rfl
  | drift => exact .of_sessions sessions_reconcileDrift

/-! ### Transactions that bring sessions back -/

/-- The transaction requests the revocation of the visible sessions in `ids` at most. -/
def RequestsRevocation (ids : List SessionId) (db db' : ProvisioningDb) : Prop :=
  ∀ sid, ∀ s' ∈ db'.session? sid, ∃ s ∈ db.session? sid,
    s'.accountId = s.accountId ∧ s'.hiddenAt = s.hiddenAt ∧
      (s'.phase = s.phase ∨ sid ∈ ids ∧ s'.phase = requestRevocationPhase s.phase)

theorem requestRevocationPhase_idem {phase : SessionPhase} :
    requestRevocationPhase (requestRevocationPhase phase) = requestRevocationPhase phase := by
  cases phase <;> rfl

instance (ids : List SessionId) : IsPreorder ProvisioningDb (RequestsRevocation ids) where
  refl _ := fun _ s hs => ⟨s, hs, rfl, rfl, .inl rfl⟩
  trans _ _ _ h h' := by
    intro sid s'' hs''
    obtain ⟨s', hs', hAccount', hHidden', hPhase'⟩ := h' sid s'' hs''
    obtain ⟨s, hs, hAccount, hHidden, hPhase⟩ := h sid s' hs'
    refine ⟨s, hs, hAccount'.trans hAccount, hHidden'.trans hHidden, ?_⟩
    rcases hPhase with hSame | ⟨hMem, hRequested⟩
    · rwa [hSame] at hPhase'
    · rcases hPhase' with hSame | ⟨-, hAgain⟩
      · exact .inr ⟨hMem, hSame.trans hRequested⟩
      · exact .inr ⟨hMem, by rw [hAgain, hRequested, requestRevocationPhase_idem]⟩

theorem requestsRevocation_requestRevocation {ids : List SessionId} {s : Session}
    {reason : RevokeReason} (hSession : db.session? s.id = some s) (hMem : s.id ∈ ids) :
    RequestsRevocation ids db (db.requestRevocation s reason) := by
  intro sid s' hs'
  have hWritten : ((db.updateSessionDesiredState s.id .revoked true).updateSessionStatusPhase s.id
      (requestRevocationPhase s.phase) none).session? sid = some s' := hs'
  rw [updateSessionStatusPhase, updateSessionDesiredState, session?_updateSession,
    session?_updateSession] at hWritten
  split at hWritten
  · rename_i hMine
    subst hMine
    rw [hSession] at hWritten
    cases hWritten
    exact ⟨s, hSession, rfl, rfl, .inr ⟨hMem, rfl⟩⟩
  · exact ⟨s', hWritten, rfl, rfl, .inl rfl⟩

theorem requestsRevocation_requestOwnedSessionRevocation {accountId : AccountId} {id : SessionId} :
    RequestsRevocation [id] db ((db.requestOwnedSessionRevocation accountId id).getD db) := by
  rw [requestOwnedSessionRevocation]
  split
  · rename_i s hSession
    have hId : s.id = id := session?_id hSession
    subst hId
    split
    · exact requestsRevocation_requestRevocation hSession List.mem_cons_self
    · exact refl_of (RequestsRevocation _) db
  · exact refl_of (RequestsRevocation _) db

theorem requestsRevocation_requestSystemRevocations {ids : List SessionId} {reason : RevokeReason} :
    RequestsRevocation ids db (db.requestSystemRevocations ids reason) := by
  refine @foldl_invariant _ _ ids db _ (RequestsRevocation ids db) (fun db' id hMem hSoFar => ?_)
    (refl_of (RequestsRevocation ids) db)
  refine trans_of (RequestsRevocation ids) hSoFar ?_
  rw [requestSystemSessionRevocation]
  split
  · rename_i s hSession
    have hId : s.id = id := session?_id hSession
    subst hId
    split
    · exact requestsRevocation_requestRevocation hSession hMem
    · exact refl_of (RequestsRevocation ids) db'
  · exact refl_of (RequestsRevocation ids) db'

/-- Every session that counts has counted before, or the transaction brings it back. -/
def RevivesOnly (action : Action) (db db' : ProvisioningDb) : Prop :=
  ∀ sid, ∀ s' ∈ db'.session? sid, s'.Counts →
    ∃ s ∈ db.session? sid, s'.accountId = s.accountId ∧
      (s.Counts ∨ s.hiddenAt = none ∧ db.Revives s action)

theorem RevivesNone.revivesOnly (h : db.RevivesNone db') : RevivesOnly action db db' := by
  intro sid s' hs' hCounts
  obtain ⟨s, hs, hBefore, hAccount⟩ := h sid s' hs' hCounts
  exact ⟨s, hs, hAccount, .inl hBefore⟩

theorem RequestsRevocation.revivesOnly {ids : List SessionId} (h : RequestsRevocation ids db db')
    (hRevives : ∀ sid ∈ ids, ∀ s ∈ db.session? sid, s.hiddenAt = none → s.phase = .failed →
      (∃ s' ∈ db'.session? sid, s'.phase ≠ s.phase) → db.Revives s action) :
    RevivesOnly action db db' := by
  intro sid s' hs' hCounts
  obtain ⟨s, hs, hAccount, hHidden, hPhase⟩ := h sid s' hs'
  have hVisible : s.hiddenAt = none := hHidden.symm.trans hCounts.1
  refine ⟨s, hs, hAccount, ?_⟩
  by_cases hSame : s'.phase = s.phase
  · exact .inl ⟨hVisible, fun hOver => hCounts.2 (by rwa [Session.IsOver, hSame])⟩
  · obtain ⟨hMem, hRequested⟩ := hPhase.resolve_left hSame
    by_cases hFailed : s.phase = .failed
    · exact .inr ⟨hVisible, hRevives sid hMem s hs hVisible hFailed ⟨s', hs', hSame⟩⟩
    · refine .inl ⟨hVisible, fun hOver => ?_⟩
      have hRevoked : s.phase = .revoked := hOver.resolve_right hFailed
      exact hSame (by rw [hRequested, hRevoked]; rfl)

theorem revivesOnly_requestOwnedSessionRevocation {accountId : AccountId} {id : SessionId} :
    RevivesOnly (.revokeByOwner accountId id) db
      ((db.requestOwnedSessionRevocation accountId id).getD db) := by
  refine requestsRevocation_requestOwnedSessionRevocation.revivesOnly
    fun sid hMem s hs _ hFailed ⟨s', hs', hChanged⟩ => ?_
  obtain rfl := List.mem_singleton.1 hMem
  refine ⟨session?_id hs, ?_, hFailed⟩
  by_contra hOther
  rw [requestOwnedSessionRevocation, hs] at hs'
  simp only [hOther, false_and, if_false, Option.getD_none, Option.mem_def] at hs'
  cases hs.symm.trans hs'
  exact hChanged rfl

theorem revivesOnly_adjustSessionTrafficQuota {id : SessionId} {includedBytes : Int} :
    RevivesOnly (.adjustQuota id includedBytes) db
      (db.adjustSessionTrafficQuota id includedBytes).1 := by
  have hSame : RevivesOnly (.adjustQuota id includedBytes) db db :=
    (refl_of RevivesNone db).revivesOnly
  rw [adjustSessionTrafficQuota]
  split
  · exact hSame
  · rename_i s hSession
    have hId : s.id = id := session?_id hSession
    split
    · exact hSame
    · rename_i hVisible
      rw [ne_eq, not_not] at hVisible
      split
      · exact hSame
      · split
        · exact hSame
        · rename_i e hEntitled
          split
          · exact hSame
          · rename_i hMore
            dsimp only
            intro sid s' hs' hCounts
            rw [Option.mem_def, session?_updateSession] at hs'
            by_cases hMine : sid = id
            · subst hMine
              refine ⟨s, hSession, ?_⟩
              rw [if_pos rfl] at hs'
              by_cases hRequested : db.reactivation s = .requested
              · rw [if_pos hRequested, updateSessionStatusPhase, updateSessionDesiredState,
                  session?_updateSession, if_pos rfl, session?_updateSession, if_pos rfl,
                  hSession] at hs'
                cases hs'
                exact ⟨rfl, .inr ⟨hVisible, hId, hRequested, e, hEntitled, lt_of_not_ge hMore⟩⟩
              · rw [if_neg hRequested, hSession] at hs'
                cases hs'
                exact ⟨rfl, .inl hCounts⟩
            · rw [if_neg hMine] at hs'
              have hKept : db.session? sid = some s' := by
                split at hs'
                · rwa [updateSessionStatusPhase, updateSessionDesiredState, session?_updateSession,
                    if_neg hMine, session?_updateSession, if_neg hMine] at hs'
                · exact hs'
              exact ⟨s', hKept, rfl, .inl hCounts⟩

theorem revivesOnly_perform (hAction : ∀ id accountId clientProtocol awaitsPayment configGrant,
    action ≠ .createSession id accountId clientProtocol awaitsPayment configGrant) :
    RevivesOnly action db (db.perform config action) := by
  cases action with
  | createSession => exact absurd rfl (hAction _ _ _ _ _)
  | revokeByOwner => exact revivesOnly_requestOwnedSessionRevocation
  | revokeExpired | suspendAccount =>
      exact requestsRevocation_requestSystemRevocations.revivesOnly
        fun _ hMem _ hs _ hFailed _ => ⟨session?_id hs ▸ hMem, hFailed⟩
  | adjustQuota => exact revivesOnly_adjustSessionTrafficQuota
  | _ =>
      refine RevivesNone.revivesOnly (revivesNone_perform ?_)
      trivial

/-! ### Counting -/

theorem nodup_filter_ids {p : Session → Bool} :
    ((db.sessions.rows.filter p).map Session.id).Nodup :=
  db.sessions.keysNodup.sublist (List.filter_sublist.map Session.id)

/-- What the transaction adds to the count of an account is what it brings back. -/
theorem countNonTerminalSessionsForAccount_le {accountId : AccountId}
    (h : RevivesOnly action db db') :
    db'.countNonTerminalSessionsForAccount accountId ≤
      db.countNonTerminalSessionsForAccount accountId + db.countRevived accountId action := by
  let counted := db.sessions.rows.filter fun s => s.accountId = some accountId && s.Counts
  let revived := db.sessions.rows.filter fun s =>
    s.accountId = some accountId && s.hiddenAt.isNone && db.Revives s action
  let after := db'.sessions.rows.filter fun s => s.accountId = some accountId && s.Counts
  have hSubset : after.map Session.id ⊆ (counted ++ revived).map Session.id := by
    intro sid hsid
    obtain ⟨s', hs', rfl⟩ := List.mem_map.1 hsid
    obtain ⟨hRow, hMatches⟩ := List.mem_filter.1 hs'
    obtain ⟨hAccount', hCounts⟩ := Bool.and_eq_true_iff.1 hMatches
    have hFound : db'.session? s'.id = some s' := Table.find?_eq_some_iff.2 ⟨hRow, rfl⟩
    obtain ⟨s, hs, hAccount, hBefore⟩ := h s'.id s' hFound (of_decide_eq_true hCounts)
    obtain ⟨hMem, hId⟩ := Table.find?_eq_some_iff.1 hs
    have hMine : s.accountId = some accountId := hAccount.symm.trans (of_decide_eq_true hAccount')
    rw [← hId]
    refine List.mem_map_of_mem (List.mem_append.2 ?_)
    rcases hBefore with hCounted | ⟨hVisible, hRevived⟩
    · exact .inl (List.mem_filter.2 ⟨hMem, by simp [hMine, hCounted]⟩)
    · exact .inr (List.mem_filter.2 ⟨hMem, by simp [hMine, hVisible, hRevived]⟩)
  have hLength : (after.map Session.id).length ≤ ((counted ++ revived).map Session.id).length :=
    (List.subperm_of_subset nodup_filter_ids hSubset).length_le
  rw [List.length_map, List.length_map, List.length_append] at hLength
  exact hLength

theorem countNonTerminalSessionsForAccount_insertRequestedSession {id : SessionId}
    {accountId accountId' : AccountId} {clientProtocol : ClientProtocol}
    {initialPhase : SessionPhase} {configGrant : Option Int} :
    (db.insertRequestedSession id accountId clientProtocol initialPhase
        configGrant).countNonTerminalSessionsForAccount accountId' ≤
      db.countNonTerminalSessionsForAccount accountId' +
        if accountId' = accountId then 1 else 0 := by
  rw [insertRequestedSession]
  split
  · rename_i sessions hInsert
    have hRows := (Table.insert_eq_some hInsert).2
    simp only [countNonTerminalSessionsForAccount, hRows, List.filter_append, List.length_append]
    refine Nat.add_le_add_left ?_ _
    split
    · exact List.length_filter_le _ _
    · rename_i hOther
      have hAccount : ¬ (Session.create db.now id accountId clientProtocol initialPhase
          configGrant).accountId = some accountId' :=
            fun hSame => hOther (Option.some.inj hSame).symm
      simp [hAccount]
  · exact Nat.le_add_right _ _

/-! ### The cap -/

variable {limits : SessionAbuseControlConfig} {e : Event} {es : List Event}

/-- Every account has as many visible sessions that are neither revoked nor failed as it may. -/
def WithinCap (limits : SessionAbuseControlConfig) (db : ProvisioningDb) : Prop :=
  ∀ accountId, db.countNonTerminalSessionsForAccount accountId ≤ limits.maxActiveSessionsPerAccount

theorem withinCap_performControlled (hCap : db.WithinCap limits)
    (hRoom : db.RevivesWithinCap limits action) :
    (db.performControlled limits config action).WithinCap limits := by
  intro accountId
  have hOther : (∀ id accountId clientProtocol awaitsPayment configGrant,
      action ≠ .createSession id accountId clientProtocol awaitsPayment configGrant) →
      (db.perform config action).countNonTerminalSessionsForAccount accountId ≤
        limits.maxActiveSessionsPerAccount := by
    intro hAction
    have hBound := @countNonTerminalSessionsForAccount_le db _ action accountId
      (@revivesOnly_perform db config action hAction)
    by_cases hNone : db.countRevived accountId action = 0
    · rw [hNone] at hBound
      exact hBound.trans (hCap accountId)
    · obtain ⟨s, hs⟩ := List.exists_mem_of_length_pos (Nat.pos_of_ne_zero hNone)
      obtain ⟨hRow, hMatches⟩ := List.mem_filter.1 hs
      simp only [Bool.and_eq_true, decide_eq_true_eq, Option.isNone_iff_eq_none] at hMatches
      obtain ⟨⟨hAccount, hVisible⟩, hRevived⟩ := hMatches
      exact hBound.trans (hRoom s hRow accountId hAccount hVisible hRevived)
  cases action with
  | createSession id creator clientProtocol awaitsPayment configGrant =>
      simp only [performControlled, createRequestedSessionWithAbuseControls]
      split
      · exact hCap accountId
      · rename_i hFree
        split
        · exact hCap accountId
        · rw [Except.toOption, Option.getD_some]
          refine countNonTerminalSessionsForAccount_insertRequestedSession.trans ?_
          split
          · rename_i hMine
            subst hMine
            exact Nat.lt_of_not_le hFree
          · exact hCap accountId
  | _ => exact hOther fun _ _ _ _ _ => nofun

theorem withinCap_controlledStep (hCap : db.WithinCap limits)
    (hRoom : (db.atTime e.now).RevivesWithinCap limits e.action)
    (hStep : controlledStep limits config db e = some db') : db'.WithinCap limits := by
  rw [controlledStep] at hStep
  split at hStep
  · cases hStep
    exact withinCap_performControlled hCap hRoom
  · cases hStep

/-- An account may have one session, and there is no route for its first. -/
def failedRun : List Event :=
  [⟨1, .createSession 1 7 .wireguard false none⟩, ⟨2, .beginProbing []⟩, ⟨3, .advanceProbed []⟩,
    ⟨4, .schedule (fun _ => .noPath) []⟩]

end ProvisioningDb

end Hyperspace.Provisioning
