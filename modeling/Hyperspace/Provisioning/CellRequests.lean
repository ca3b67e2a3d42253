import Mathlib.Logic.Relation
import Hyperspace.Provisioning.Cells

/-!
# What a request does to a cell

`CellPass` lists all that requests and passes do to a cell, with what the statements have checked
before. The exceptions are the claims and reports of gates, the enforcement of a quota on a hidden
session, and the passes that begin or end a provisioning or end a revocation: an invariant may hold
only of some of these, so each has its own equation.
-/

namespace Hyperspace.Provisioning

open Hyperspace.Billing (AccountId SessionId Timestamp)
open Hyperspace.ControlPlane Hyperspace.Foundations

/-- What a request or a pass makes of the row of a session. -/
inductive SessionMove (now : Timestamp) (s : Session) : Session → Prop where
  | revocationRequested (visible : s.hiddenAt = none) :
      SessionMove now s ((s.setDesiredState now .revoked true).setPhase now
        (requestRevocationPhase s.phase) none)
  | hidden : SessionMove now s (s.hide now)
  | consumed (bytes : Nat) : SessionMove now s (s.setEntitlement (·.consume now bytes))
  | exhausted (desired : s.desiredState = .revoked) :
      SessionMove now s (s.setEntitlement (·.exhaust now))
  | adjusted (includedBytes : Int) :
      SessionMove now s
        (s.setEntitlement (·.adjust now includedBytes (decide (s.desiredState = .active))))
  | reactivated (includedBytes : Int) (desired : s.desiredState = .revoked)
      (phase : s.phase = .revoked) (visible : s.hiddenAt = none) :
      SessionMove now s (((s.setDesiredState now .active true).setPhase now .scheduling
        none).setEntitlement (·.adjust now includedBytes true))
  | entitled (trafficLimitBytes : Option Int) : SessionMove now s (s.entitle now trafficLimitBytes)
  | paid (trafficLimitBytes : Option Int) (pending : s.phase = .paymentPending) :
      SessionMove now s ((s.entitle now trafficLimitBytes).setPhase now .requested none)
  | revocationBegun (desired : s.desiredState = .revoked)
      (begins : beginRevokingTransition s.phase = some .revoking) :
      SessionMove now s (s.setPhase now .revoking none)
  | probing (desired : s.desiredState = .active) (phase : s.phase = .requested) :
      SessionMove now s (s.setPhase now .probing none)
  | probed (desired : s.desiredState = .active) (phase : s.phase = .probing) :
      SessionMove now s (s.setPhase now .scheduling none)
  | unplaced (desired : s.desiredState = .active) (phase : s.phase = .scheduling) :
      SessionMove now s (s.setPhase now .failed none)

theorem SessionMove.placed {now : Timestamp} {s s' : Session} (h : SessionMove now s s')
    (hPlaced : s'.phase.isPlaced) :
    s'.phase = s.phase ∧ s'.generation = s.generation ∧ s'.desiredState = s.desiredState := by
  cases h with
  | revocationRequested =>
      simp only [Session.setPhase, requestRevocationPhase] at hPlaced
      split at hPlaced <;> simp [SessionPhase.isPlaced] at hPlaced
  | hidden | consumed | exhausted | adjusted | entitled => exact ⟨rfl, rfl, rfl⟩
  | reactivated | paid | revocationBegun | probing | probed | unplaced =>
      simp [Session.setPhase, Session.setEntitlement, SessionPhase.isPlaced] at hPlaced

namespace Cell

/-- The session of the cell is given a gate for the assignment, an address and a plan. -/
def schedule (config : SessionReconcileConfig) (id : AssignmentId) (s : Session) (gateId : GateId)
    (draw : TunnelDraw) (address : ClientAddress) (n : JobId) (c : Cell) : Cell :=
  (((({ c with address := some address }.upsertPlan
    (renderWireGuardPlan config s draw address)).createAssignment id gateId
    (s.id, s.generation)).insertApply .prepare
    (.createApply c.now id gateId .prepare (s.id, s.generation) n)).updateSession
    (·.setPhase c.now .provisioning (some s.generation)))

/-- A commit job for the assignment of the cell. -/
def repair (id : AssignmentId) (s : Session) (gateId : GateId) (n : JobId) (c : Cell) : Cell :=
  c.insertApply .commit (.createApply c.now id gateId .commit (s.id, s.generation) n)

/-- A commit job for the prepared assignment of the cell. -/
def commit (id : AssignmentId) (s : Session) (gateId : GateId) (n : JobId) (c : Cell) : Cell :=
  ((c.repair id s gateId n).updateAssignment (·.queueForCommit c.now)).updateSession
    (·.touch c.now)

/-- The assignment of the cell is to be revoked. -/
def revoke (id : AssignmentId) (gateId : GateId) (n : JobId) (c : Cell) : Cell :=
  (c.updateAssignment (·.requestRevocation c.now)).insertRevoke (.createRevoke c.now id gateId n)

end Cell

/-- What a request or a pass does to a cell. -/
inductive CellPass (id : AssignmentId) (c : Cell) : Cell → Prop where
  | created (accountId : AccountId) (clientProtocol : ClientProtocol)
      (awaitsPayment : Bool) (configGrant : Option Int) (missing : c.session = none) :
      CellPass id c
        { c with
          session := some (.create c.now id.1 accountId clientProtocol
            (if awaitsPayment then .paymentPending else .requested) configGrant) }
  | deleted (s : Session) (session : c.session = some s) (pending : s.phase = .paymentPending) :
      CellPass id c
        { c with
          session := none
          address := none
          plan := fun _ => none
          assignment := none
          jobs := [] }
  | moved (s s' : Session) (session : c.session = some s) (move : SessionMove c.now s s') :
      CellPass id c { c with session := some s' }
  | committed (s : Session) (a : GateAssignment) (n : JobId) (session : c.session = some s)
      (phase : s.phase = .provisioning) (plan : (c.plan s.generation).isSome)
      (assignment : c.assignment = some a) (prepared : a.phase = .prepared) :
      CellPass id c (c.commit id s a.gateId n)
  | repaired (s : Session) (a : GateAssignment) (n : JobId) (session : c.session = some s)
      (desired : s.desiredState = .active) (placed : s.phase.isPlaced)
      (plan : (c.plan s.generation).isSome) (assignment : c.assignment = some a) :
      CellPass id c (c.repair id s a.gateId n)
  | revocationEnqueued (s : Session) (a : GateAssignment) (n : JobId)
      (session : c.session = some s) (desired : s.desiredState = .revoked)
      (assignment : c.assignment = some a) :
      CellPass id c (c.revoke id a.gateId n)
  | orphanCleaned (a : GateAssignment) (n : JobId) (assignment : c.assignment = some a)
      (known : a.desiredState = .revoked ∨ a.phase = .revoking ∨ a.phase = .revoked ∨
        a.phase = .dead) :
      CellPass id c (c.revoke id a.gateId n)
  | drifted (a : GateAssignment) (assignment : c.assignment = some a)
      (desired : a.desiredState = .applied) (applied : a.phase = .applied) :
      CellPass id c (c.updateAssignment (·.setPhase c.now .drifted))
  | requeued : CellPass id c (c.modifyJobs (·.requeueExpired c.now))
  | archived (keep : Job → Bool)
      (old : ∀ j ∈ c.jobs, keep j = false → j.Archivable c.now) :
      CellPass id c { c with jobs := c.jobs.filter keep }

/-- Any number of passes. -/
abbrev CellPasses (id : AssignmentId) : Cell → Cell → Prop :=
  Relation.ReflTransGen (CellPass id)

namespace ProvisioningDb

variable {db : ProvisioningDb} {config : SessionReconcileConfig} {id : AssignmentId}

theorem cell_session_eq_some {s : Session} (h : s ∈ db.sessions.rows) (hId : s.id = id.1) :
    (db.cell id).session = some s :=
  Table.find?_eq_some_iff.2 ⟨h, hId⟩

theorem cell_assignment_eq_some {a : GateAssignment} (h : a ∈ db.assignments.rows)
    (hId : a.id = id) : (db.cell id).assignment = some a :=
  Table.find?_eq_some_iff.2 ⟨h, hId⟩

theorem mem_of_cell_session {s : Session} (h : (db.cell id).session = some s) :
    s ∈ db.sessions.rows ∧ s.id = id.1 :=
  Table.find?_eq_some_iff.1 h

theorem mem_of_cell_assignment {a : GateAssignment} (h : (db.cell id).assignment = some a) :
    a ∈ db.assignments.rows ∧ a.id = id :=
  Table.find?_eq_some_iff.1 h

/-! ### Loops -/

/-- A pass over rows with different keys does to a cell what it does for the row of its key. -/
theorem cell_forEach {ρ κ : Type} {rows : List ρ} {owner : ρ → κ} {key : κ}
    {body : ProvisioningDb → ρ → ProvisioningDb} (hNodup : (rows.map owner).Nodup)
    (hOther : ∀ db, ∀ r ∈ rows, owner r ≠ key → (body db r).cell id = db.cell id) :
    ((∀ r ∈ rows, owner r ≠ key) ∧ (rows.foldl body db).cell id = db.cell id) ∨
      ∃ r ∈ rows, owner r = key ∧ ∃ db', db'.cell id = db.cell id ∧
        (rows.foldl body db).cell id = (body db' r).cell id := by
  have hUnique : rows.Pairwise fun r r' => ¬ (owner r = key ∧ owner r' = key) :=
    (List.pairwise_map.1 hNodup).imp fun hNe hBoth => hNe (hBoth.1.trans hBoth.2.symm)
  rcases @foldl_view _ _ rows db _ body (·.cell id) _ (fun _ => True) (fun _ _ _ _ => trivial)
    (fun db _ => hOther db) hUnique trivial with hSame | ⟨r, hr, hMine, db', -, hCell, hEq⟩
  · exact .inl hSame
  · exact .inr ⟨r, hr, hMine, db', hCell, hEq⟩

theorem cell_forEachSession {wanted : Session → Prop} [DecidablePred wanted]
    {before : Session → Session → Prop} [DecidableRel before] {limit : Nat}
    {locked : List SessionId} {body : ProvisioningDb → Session → ProvisioningDb}
    (hOther : ∀ db s, s.id ≠ id.1 → (body db s).cell id = db.cell id) :
    let rows := selectForUpdate Session.id wanted before limit locked db.sessions.rows
    ((∀ s ∈ rows, s.id ≠ id.1) ∧ (rows.foldl body db).cell id = db.cell id) ∨
      ∃ s ∈ rows, wanted s ∧ ∃ db', db'.cell id = db.cell id ∧
        (db'.cell id).session = some s ∧ s.id = id.1 ∧
        (rows.foldl body db).cell id = (body db' s).cell id := by
  intro rows
  have hNodup : (rows.map Session.id).Nodup := nodup_selectForUpdate db.sessions.keysNodup
  rcases cell_forEach hNodup fun db s _ => hOther db s with hSame | ⟨s, hs, hMine, db', hCell, hEq⟩
  · exact .inl hSame
  · refine .inr ⟨s, hs, wanted_of_mem_selectForUpdate hs, db', hCell, ?_, hMine, hEq⟩
    rw [hCell]
    exact cell_session_eq_some (mem_of_mem_selectForUpdate hs) hMine

theorem passes_foldl {ρ : Type} {rows : List ρ} {body : ProvisioningDb → ρ → ProvisioningDb}
    (hBody : ∀ db, ∀ r ∈ rows, CellPasses id (db.cell id) ((body db r).cell id)) :
    CellPasses id (db.cell id) ((rows.foldl body db).cell id) :=
  @foldl_invariant _ _ rows db body (fun db' => CellPasses id (db.cell id) (db'.cell id))
    (fun db' r hr hPasses => hPasses.trans (hBody db' r hr)) .refl

/-! ### Requests -/

theorem passes_of_updateSession {db' : ProvisioningDb} {sid : SessionId} {f : Session → Session}
    (hCell : db'.cell id = if id.1 = sid then (db.cell id).updateSession f else db.cell id)
    (hMove : ∀ s, db.session? sid = some s → SessionMove db.now s (f s)) :
    CellPasses id (db.cell id) (db'.cell id) := by
  rw [hCell]
  split
  · rename_i hMine
    cases hSession : (db.cell id).session with
    | none =>
        have hSame : (db.cell id).updateSession f = db.cell id := by
          rw [Cell.updateSession, hSession]
          exact congrArg (fun session => { db.cell id with session }) hSession.symm
        rw [hSame]
    | some s =>
        have hMoved : (db.cell id).updateSession f = { db.cell id with session := some (f s) } := by
          rw [Cell.updateSession, hSession]
          rfl
        rw [hMoved]
        refine .single (.moved s (f s) hSession (hMove s ?_))
        rw [← hMine]
        exact hSession
  · exact .refl

theorem passes_updateSession {sid : SessionId} {f : Session → Session}
    {hf : ∀ s, (f s).id = s.id}
    (hMove : ∀ s, db.session? sid = some s → SessionMove db.now s (f s)) :
    CellPasses id (db.cell id) ((db.updateSession sid f hf).cell id) :=
  passes_of_updateSession cell_updateSession hMove

theorem cell_updateSession_of {db' : ProvisioningDb} {sid : SessionId} {f g : Session → Session}
    {hg : ∀ s, (g s).id = s.id}
    (hCell : db'.cell id = if id.1 = sid then (db.cell id).updateSession f else db.cell id) :
    (db'.updateSession sid g hg).cell id =
      if id.1 = sid then (db.cell id).updateSession (g ∘ f) else db.cell id := by
  rw [cell_updateSession, hCell]
  split
  · simp only [Cell.updateSession, Option.map_map]
  · rfl

theorem passes_requestRevocation {s : Session} {reason : RevokeReason}
    (hSession : db.session? s.id = some s) (hVisible : s.hiddenAt = none) :
    CellPasses id (db.cell id) ((db.requestRevocation s reason).cell id) := by
  have hCell : (db.requestRevocation s reason).cell id =
      ((db.updateSessionDesiredState s.id .revoked true).updateSessionStatusPhase s.id
        (requestRevocationPhase s.phase) none).cell id := rfl
  rw [hCell]
  refine passes_of_updateSession (cell_updateSession_of cell_updateSession) fun t ht => ?_
  rw [hSession] at ht
  cases ht
  exact .revocationRequested hVisible

theorem session?_id {sid : SessionId} {s : Session} (h : db.session? sid = some s) : s.id = sid :=
  (Table.find?_eq_some_iff.1 h).2

theorem passes_requestSystemSessionRevocation {sid : SessionId} {reason : RevokeReason} :
    CellPasses id (db.cell id)
      (((db.requestSystemSessionRevocation sid reason).getD db).cell id) := by
  rw [requestSystemSessionRevocation]
  cases hSession : db.session? sid with
  | none => exact .refl
  | some s =>
      dsimp only
      split
      · rename_i hVisible
        exact passes_requestRevocation (by rw [session?_id hSession, hSession]) hVisible
      · exact .refl

theorem passes_requestOwnedSessionRevocation {accountId : AccountId} {sid : SessionId} :
    CellPasses id (db.cell id)
      (((db.requestOwnedSessionRevocation accountId sid).getD db).cell id) := by
  rw [requestOwnedSessionRevocation]
  cases hSession : db.session? sid with
  | none => exact .refl
  | some s =>
      dsimp only
      split
      · rename_i hOwned
        exact passes_requestRevocation (by rw [session?_id hSession, hSession]) hOwned.2
      · exact .refl

theorem passes_requestSystemRevocations {ids : List SessionId} {reason : RevokeReason} :
    CellPasses id (db.cell id) ((db.requestSystemRevocations ids reason).cell id) :=
  passes_foldl fun _ _ _ => passes_requestSystemSessionRevocation

theorem passes_insertRequestedSession {sid : SessionId} {accountId : AccountId}
    {clientProtocol : ClientProtocol} {awaitsPayment : Bool} {configGrant : Option Int} :
    CellPasses id (db.cell id)
      ((db.insertRequestedSession sid accountId clientProtocol
        (if awaitsPayment then .paymentPending else .requested) configGrant).cell id) := by
  rw [insertRequestedSession]
  cases hInsert : db.sessions.insert (.create db.now sid accountId clientProtocol
    (if awaitsPayment then .paymentPending else .requested) configGrant) with
  | none => exact .refl
  | some sessions =>
      have hFind := @Table.find?_insert _ _ _ _ _ _ _ id.1 hInsert
      have hFree : db.session? sid = none :=
        Table.find?_eq_none.2 (Table.insert_eq_some hInsert).1
      have hCell : { db with sessions }.cell id =
          { db.cell id with session := sessions.find? id.1 } := rfl
      have hKey : (Session.create db.now sid accountId clientProtocol
          (if awaitsPayment then .paymentPending else .requested) configGrant).id = sid := rfl
      rw [hCell, hFind, hKey]
      by_cases hMine : id.1 = sid
      · rw [if_pos hMine]
        subst hMine
        exact .single (.created accountId clientProtocol awaitsPayment configGrant hFree)
      · rw [if_neg hMine]
        exact .refl

theorem passes_activatePaidSession {accountId : AccountId} {sid : SessionId}
    {trafficLimitBytes : Option Int} :
    CellPasses id (db.cell id)
      ((db.activatePaidSession accountId sid trafficLimitBytes).cell id) := by
  rw [activatePaidSession]
  cases hSession : db.session? sid with
  | none => exact .refl
  | some s =>
      dsimp only
      split
      · split
        · rename_i hPending
          refine passes_of_updateSession (cell_updateSession_of cell_updateSession) fun t ht => ?_
          rw [hSession] at ht
          cases ht
          exact .paid trafficLimitBytes hPending
        · exact passes_updateSession fun t _ => .entitled trafficLimitBytes
      · exact .refl

theorem cell_deleteSession {sid : SessionId} (hMine : id.1 = sid) :
    (db.deleteSession sid).cell id =
      { db.cell id with
        session := none
        address := none
        plan := fun _ => none
        assignment := none
        jobs := [] } := by
  have hSession : (db.deleteSession sid).session? id.1 = none :=
    Table.find?_filter_of_drop fun s hs => by simp [hs, hMine]
  have hPlan : ∀ generation, (db.deleteSession sid).plan? (id.1, generation) = none :=
    fun generation =>
    Table.find?_filter_of_drop fun p hp => by
      simp [show p.sessionId = sid from (congrArg Prod.fst hp).trans hMine]
  have hAssignment : (db.deleteSession sid).assignment? id = none :=
    Table.find?_filter_of_drop fun a ha => by
      simp [show a.sessionId = sid from (congrArg Prod.fst ha).trans hMine]
  have hAddress : (db.deleteSession sid).activeAddress? id.1 = none := by
    rw [activeAddress?, Option.map_eq_none_iff, List.find?_eq_none]
    intro l hl
    have hOther : l.sessionId ≠ sid := by simpa using (List.mem_filter.1 hl).2
    simp [hMine, hOther]
  have hJobs :
      (db.deleteSession sid).jobs.rows.filter (fun j => j.assignmentId = some id) = [] := by
    rw [List.filter_eq_nil_iff]
    intro j hj
    have hKept := (SerialTable.mem_filter.1 hj).2
    rw [Bool.and_eq_true] at hKept
    intro hAssigned
    rw [of_decide_eq_true hAssigned] at hKept
    simp [hMine] at hKept
  simp only [cell, hSession, hPlan, hAssignment, hAddress, hJobs]
  rfl

/-- The jobs of another session are not touched, as they carry the id of their session. -/
theorem cell_deleteSession_of_ne {sid : SessionId} (hOther : id.1 ≠ sid)
    (hOwned : ∀ j ∈ (db.cell id).jobs, j.sessionId = some id.1) :
    (db.deleteSession sid).cell id = db.cell id := by
  have hSession : (db.deleteSession sid).session? id.1 = db.session? id.1 :=
    Table.find?_filter_of_keep fun s hs => by simp [hs, hOther]
  have hPlan : ∀ generation, (db.deleteSession sid).plan? (id.1, generation) =
      db.plan? (id.1, generation) := fun generation =>
    Table.find?_filter_of_keep fun p hp => by
      simp [show p.sessionId = id.1 from congrArg Prod.fst hp, hOther]
  have hAssignment : (db.deleteSession sid).assignment? id = db.assignment? id :=
    Table.find?_filter_of_keep fun a ha => by
      simp [show a.sessionId = id.1 from congrArg Prod.fst ha, hOther]
  have hAddress : (db.deleteSession sid).activeAddress? id.1 = db.activeAddress? id.1 := by
    have hLeases : (db.deleteSession sid).leases = db.leases.filter (·.sessionId ≠ sid) := rfl
    simp only [activeAddress?, hLeases, List.find?_filter]
    congr 2
    funext l
    by_cases hl : l.sessionId = id.1
    · cases l.releasedAt <;> simp [hl, hOther]
    · simp [hl]
  have hJobs : (db.deleteSession sid).jobs.rows.filter (fun j => j.assignmentId = some id) =
      db.jobs.rows.filter fun j => j.assignmentId = some id := by
    have hRows : (db.deleteSession sid).jobs.rows = db.jobs.rows.filter fun j =>
        j.sessionId ≠ some sid && j.assignmentId.all fun a => a.1 ≠ sid := rfl
    rw [hRows, List.filter_filter]
    refine List.filter_congr fun j hj => ?_
    by_cases hMine : j.assignmentId = some id
    · have hSessionId := hOwned j (mem_cell_jobs.2 ⟨hj, hMine⟩)
      simp [hMine, hSessionId, hOther]
    · simp [hMine]
  simp only [cell, hSession, hPlan, hAssignment, hAddress, hJobs]
  rfl

theorem passes_deleteUnpaidSession {accountId : AccountId} {sid : SessionId}
    (hOwned : ∀ j ∈ (db.cell id).jobs, j.sessionId = some id.1) :
    CellPasses id (db.cell id) ((db.deleteUnpaidSession accountId sid).cell id) := by
  rw [deleteUnpaidSession]
  cases hSession : db.session? sid with
  | none => exact .refl
  | some s =>
      dsimp only
      split
      · rename_i hPending
        by_cases hMine : id.1 = sid
        · rw [cell_deleteSession hMine]
          subst hMine
          exact .single (.deleted s hSession hPending.2)
        · rw [cell_deleteSession_of_ne hMine hOwned]
      · exact .refl

theorem passes_finishHidingSession {sid : SessionId} :
    CellPasses id (db.cell id) ((db.finishHidingSession sid).cell id) := by
  rw [finishHidingSession]
  split
  · have hHide : CellPasses id (db.cell id) ((db.hideOwnedSession sid).cell id) :=
      passes_updateSession fun _ _ => .hidden
    exact hHide
  · exact .refl

theorem session?_updateSession {sid sid' : SessionId} {f : Session → Session}
    {hf : ∀ s, (f s).id = s.id} :
    (db.updateSession sid f hf).session? sid' =
      if sid' = sid then (db.session? sid').map f else db.session? sid' :=
  Table.find?_update hf

theorem desired_of_requestSystemSessionRevocation {reason : RevokeReason} {s t : Session}
    (hSession : db.session? s.id = some s) (hVisible : s.hiddenAt = none)
    (ht : ((db.requestSystemSessionRevocation s.id reason).getD db).session? s.id = some t) :
    t.desiredState = .revoked := by
  have hRows : (db.requestRevocation s reason).session? s.id =
      ((db.updateSessionDesiredState s.id .revoked true).updateSessionStatusPhase s.id
        (requestRevocationPhase s.phase) none).session? s.id := rfl
  rw [requestSystemSessionRevocation, hSession] at ht
  dsimp only at ht
  rw [if_pos hVisible, Option.getD_some, hRows, updateSessionStatusPhase, session?_updateSession,
    if_pos rfl, updateSessionDesiredState, session?_updateSession, if_pos rfl, hSession] at ht
  cases ht
  rfl

/-- The enforcement of a quota revokes the session it finds, or finds it hidden and only marks its
entitlement. -/
theorem cell_enforceSessionTrafficQuota {locked : List SessionId} :
    CellPasses id (db.cell id) (((db.enforceSessionTrafficQuota locked).getD db).cell id) ∨
      ∃ s, db.findExhaustedSessionTrafficEntitlementForUpdate locked = some s ∧
        (db.cell id).session = some s ∧ s.hiddenAt ≠ none ∧
        ((db.enforceSessionTrafficQuota locked).getD db).cell id =
          { db.cell id with session := some (s.setEntitlement (·.exhaust db.now)) } := by
  rw [enforceSessionTrafficQuota]
  cases hFound : db.findExhaustedSessionTrafficEntitlementForUpdate locked with
  | none => exact .inl .refl
  | some s =>
      have hRow : s ∈ db.sessions.rows := mem_of_mem_selectForUpdate (List.mem_of_head? hFound)
      have hSession : db.session? s.id = some s := Table.find?_eq_some_iff.2 ⟨hRow, rfl⟩
      by_cases hVisible : s.hiddenAt = none
      · refine .inl (passes_requestSystemSessionRevocation.trans (passes_updateSession
          fun t ht => .exhausted (desired_of_requestSystemSessionRevocation hSession hVisible ht)))
      · have hKept : db.requestSystemSessionRevocation s.id .trafficQuotaExhausted = none := by
          rw [requestSystemSessionRevocation, hSession]
          exact if_neg hVisible
        have hCell : ((db.requestSystemSessionRevocation s.id .trafficQuotaExhausted).getD
            db).markSessionTrafficEntitlementExhausted s.id =
            db.updateSession s.id (·.setEntitlement (·.exhaust db.now))
              fun _ => Session.setEntitlement_id := by
          rw [hKept]
          rfl
        rw [Option.map_some, Option.getD_some, hCell, cell_updateSession]
        by_cases hMine : id.1 = s.id
        · have hFoundCell : (db.cell id).session = some s := cell_session_eq_some hRow hMine.symm
          refine .inr ⟨s, rfl, hFoundCell, hVisible, ?_⟩
          rw [if_pos hMine, Cell.updateSession, hFoundCell]
          rfl
        · rw [if_neg hMine]
          exact .inl .refl

theorem reactivation_eq_requested {s : Session} (h : db.reactivation s = .requested) :
    db.quotaRevoked s.id ∧ s.desiredState = .revoked ∧ s.phase = .revoked := by
  rw [reactivation] at h
  split at h
  · assumption
  · split at h <;> simp at h

/-- Where nothing is reactivated, the exhaustion of an active session only is cleared. -/
theorem clearExhaustedAt_iff {s : Session} (h : db.reactivation s ≠ .requested) :
    (db.reactivation s ≠ .waitingForRevocation ∧
      (s.desiredState = .active ∨ db.reactivation s = .requested)) ↔ s.desiredState = .active := by
  constructor
  · rintro ⟨-, hActive | hRequested⟩
    · exact hActive
    · exact absurd hRequested h
  · intro hActive
    refine ⟨?_, .inl hActive⟩
    simp [reactivation, hActive]

theorem passes_adjustSessionTrafficQuota {sid : SessionId} {includedBytes : Int} :
    CellPasses id (db.cell id)
      ((db.adjustSessionTrafficQuota sid includedBytes).1.cell id) := by
  rw [adjustSessionTrafficQuota]
  cases hSession : db.session? sid with
  | none => exact .refl
  | some s =>
      dsimp only
      split
      · exact .refl
      · rename_i hVisible
        split
        · exact .refl
        · split
          · exact .refl
          · split
            · exact .refl
            · by_cases hRequested : db.reactivation s = .requested
              · obtain ⟨-, hDesired, hPhase⟩ := reactivation_eq_requested hRequested
                simp only [hRequested, if_true, ne_eq, reduceCtorEq, not_false_eq_true, or_true,
                  and_self, decide_true]
                refine passes_of_updateSession
                  (cell_updateSession_of (cell_updateSession_of cell_updateSession)) fun t ht => ?_
                rw [hSession] at ht
                cases ht
                exact .reactivated includedBytes hDesired hPhase (not_not.1 hVisible)
              · simp only [clearExhaustedAt_iff hRequested, if_neg hRequested]
                refine passes_updateSession fun t ht => ?_
                rw [hSession] at ht
                cases ht
                exact .adjusted includedBytes

end ProvisioningDb

end Hyperspace.Provisioning
