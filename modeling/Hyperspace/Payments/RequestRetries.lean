import Hyperspace.Payments.PaidRequests

/-!
# Retries of paid requests

A request that is repeated finds its session and its confirmed payment, so it charges nothing. The
activation then accepts a session in `requested` and no other phase, although the reconciler takes
the session on from there at once.
-/

namespace Hyperspace.Payments

open Hyperspace.Billing (AccountId SessionId Timestamp)
open Hyperspace.ControlPlane Hyperspace.Foundations Hyperspace.Provisioning

/-- The request is answered with the session, charges nothing and leaves the phase and the traffic
entitlement of the session. -/
def Idempotent (d : PaidDeployment) (s : PaidSessions) (ctx : RequestContext)
    (request : SessionRequest) (sessionId : SessionId) : Prop :=
  ∃ s', s.postSession d ctx request = some (.created sessionId, s') ∧ s'.payments = s.payments ∧
    (s'.db.session? sessionId).map (fun session => (session.phase, session.entitlement)) =
      (s.db.session? sessionId).map fun session => (session.phase, session.entitlement)

/-- The session was created by the request, and the payment of the request has activated it. -/
structure Activates (d : PaidDeployment) (s : PaidSessions) (now : Timestamp)
    (request : SessionRequest) (sessionId : SessionId) (s' : PaidSessions) : Prop where
  created : ∃ parsed, request.parsed = .ok parsed ∧ parsed.policyError = none ∧
    s.findSessionIdByCreateRequest request.accountId parsed.createRequestId = some sessionId
  activated : ∃ paymentId ∈ request.paymentRequestId, ∃ p ∈ (s.payments paymentId).row,
    p.Matches (d.paymentInput request.accountId sessionId) ∧ ∃ signature,
      s.activatePaidSession now request.accountId sessionId paymentId signature =
        (.activated, s'.db)
  others : s' = { s with db := s'.db }

/-! ### Sessions that are paid for -/

/-- What stays with a session that is paid for. -/
structure PaidSession (accountId : AccountId) (session : Session) : Prop where
  account : session.accountId = some accountId
  entitled : session.entitlement.isSome
  ungranted : session.configGrant = false
  paid : session.phase ≠ .paymentPending

/-- A session that awaits its payment is not granted. -/
def PendingUngranted (session : Session) : Prop :=
  session.phase = .paymentPending → session.configGrant = false

theorem PendingUngranted.of_phase {session : Session} (h : session.phase ≠ .paymentPending) :
    PendingUngranted session := fun hPending => absurd hPending h

theorem PendingUngranted.move {now : Timestamp} {session session' : Session}
    (hMove : SessionMove now session session') (h : PendingUngranted session) :
    PendingUngranted session' := by
  cases hMove with
  | revocationRequested =>
      apply PendingUngranted.of_phase
      simp only [Session.setPhase, requestRevocationPhase]
      split <;> simp
  | hidden | consumed | exhausted | adjusted | entitled => exact h
  | reactivated | paid | revocationBegun | probing | probed | unplaced =>
      exact .of_phase (by simp [Session.setPhase, Session.setEntitlement])

theorem PaidSession.move {now : Timestamp} {accountId : AccountId} {session session' : Session}
    (hMove : SessionMove now session session') (h : PaidSession accountId session) :
    PaidSession accountId session' := by
  obtain ⟨hAccount, hEntitled, hUngranted, hPaid⟩ := h
  cases hMove with
  | revocationRequested =>
      refine ⟨hAccount, hEntitled, hUngranted, ?_⟩
      simp only [Session.setPhase, requestRevocationPhase]
      split <;> simp
  | hidden => exact ⟨hAccount, hEntitled, hUngranted, hPaid⟩
  | consumed | exhausted | adjusted =>
      exact ⟨hAccount, by simpa [Session.setEntitlement] using hEntitled, hUngranted, hPaid⟩
  | reactivated =>
      exact ⟨hAccount,
        by simpa [Session.setPhase, Session.setDesiredState,
          Session.setEntitlement] using hEntitled,
        hUngranted, by simp [Session.setPhase, Session.setEntitlement]⟩
  | entitled => exact ⟨hAccount, by simp [Session.entitle, hEntitled], hUngranted, hPaid⟩
  | paid _ pending => exact absurd pending hPaid
  | revocationBegun | probing | probed | unplaced =>
      exact ⟨hAccount, hEntitled, hUngranted, by simp [Session.setPhase]⟩

/-- The session of the cell is paid for. -/
def PaidCell (accountId : AccountId) (c : Cell) : Prop :=
  ∃ session ∈ c.session, PaidSession accountId session

section

variable {accountId : AccountId} {id : AssignmentId} {c c' : Cell} {config : SessionReconcileConfig}
  {db : ProvisioningDb} {action : Action}

theorem PaidCell.updateSession {f : Session → Session} (h : PaidCell accountId c)
    (hSession : c'.session = c.session.map f)
    (hf : ∀ session, PaidSession accountId session → PaidSession accountId (f session)) :
    PaidCell accountId c' := by
  obtain ⟨session, hMem, hPaid⟩ := h
  exact ⟨f session, hSession ▸ Option.mem_map_of_mem f hMem, hf session hPaid⟩

theorem PaidCell.pass (h : PaidCell accountId c) (hPass : CellPass id c c') :
    PaidCell accountId c' := by
  obtain ⟨session, hMem, hPaid⟩ := h
  have hSame : c'.session = c.session → PaidCell accountId c' := fun hEq =>
    ⟨session, hEq ▸ hMem, hPaid⟩
  cases hPass with
  | created accountId clientProtocol awaitsPayment configGrant missing =>
      rw [missing] at hMem
      cases hMem
  | deleted t found pending =>
      rw [found] at hMem
      cases hMem
      exact absurd pending hPaid.paid
  | moved t t' found move =>
      rw [found] at hMem
      cases hMem
      exact ⟨t', rfl, hPaid.move move⟩
  | committed t a n found phase =>
      refine PaidCell.updateSession ⟨session, hMem, hPaid⟩ Cell.commit_session ?_
      intro t hPaid
      exact ⟨hPaid.account, hPaid.entitled, hPaid.ungranted, hPaid.paid⟩
  | repaired => exact hSame Cell.repair_session
  | revocationEnqueued | orphanCleaned => exact hSame Cell.revoke_session
  | drifted | requeued | archived => exact hSame rfl

theorem PaidCell.change (hChange : db.CellChange config id action c)
    (hSound : (db.cell id).Sound id) (h : PaidCell accountId (db.cell id)) :
    PaidCell accountId c := by
  have hPhase : ∀ {phase : SessionPhase} {observed : Option Nat}, phase ≠ .paymentPending →
      ∀ session, PaidSession accountId session →
        PaidSession accountId (session.setPhase db.now phase observed) :=
    fun hne _ hPaid => ⟨hPaid.account, hPaid.entitled, hPaid.ungranted, hne⟩
  cases hChange with
  | passed _ _ passes => exact passes.invariant (fun _ _ _ hInv hPass => hInv.pass hPass) hSound h
  | exhaustedHidden locked s found session hidden =>
      obtain ⟨t, hMem, hPaid⟩ := h
      rw [session] at hMem
      cases hMem
      exact ⟨_, rfl, hPaid.account, by simpa [Session.setEntitlement] using hPaid.entitled,
        hPaid.ungranted, hPaid.paid⟩
  | claimed | reported => exact h
  | scheduled => exact h.updateSession Cell.schedule_session (hPhase (by decide))
  | activated | timedOut | revoked =>
      apply h.updateSession rfl
      intro _ hPaid
      exact ⟨hPaid.account, hPaid.entitled, hPaid.ungranted, by simp [Session.setPhase]⟩

theorem PendingUngranted.change (hChange : db.CellChange config id action c)
    (hSound : (db.cell id).Sound id)
    (h : ∀ session ∈ (db.cell id).session, PendingUngranted session) :
    ∀ session ∈ c.session, PendingUngranted session := by
  have hPass : ∀ c c', c.Sound id → (∀ session ∈ c.session, PendingUngranted session) →
      CellPass id c c' → ∀ session ∈ c'.session, PendingUngranted session := by
    intro c c' _ h hPass t ht
    rcases hPass.mem_session ht with ⟨-, _, _, grant, awaits, rfl⟩ | ⟨t, hOld, rfl | rfl | hMove⟩
    · cases grant with
      | none => exact fun _ => rfl
      | some bytes => exact .of_phase (by simp [Session.create])
    · exact h _ hOld
    · exact h t hOld
    · exact (h t hOld).move hMove
  have hUpdate : ∀ {c' : Cell} {f : Session → Session}, c'.session = (db.cell id).session.map f →
      (∀ t, (f t).phase ≠ .paymentPending) → ∀ session ∈ c'.session, PendingUngranted session := by
    intro c' f hSession hf t ht
    rw [hSession] at ht
    obtain ⟨t, -, rfl⟩ := Option.map_eq_some_iff.1 ht
    exact .of_phase (hf t)
  cases hChange with
  | passed _ _ passes => exact passes.invariant hPass hSound h
  | exhaustedHidden locked s found session hidden =>
      intro t ht
      cases ht
      exact h s session
  | claimed | reported => exact h
  | scheduled => exact hUpdate Cell.schedule_session fun _ => by simp [Session.setPhase]
  | activated | timedOut | revoked => exact hUpdate rfl fun _ => by simp [Session.setPhase]

/-- A session that awaits its payment is not granted, in every state. -/
theorem pendingUngranted_run {es : List Event}
    (hRun : run (ProvisioningDb.step config) emptyDb es = some db) :
    ∀ session ∈ (db.cell id).session, PendingUngranted session := by
  apply @ProvisioningDb.run_cell _ _ _ _ _
    (fun c => ∀ session ∈ c.session, PendingUngranted session)
    (fun _ _ => True) (fun _ _ _ h => h) ?_ ProvisioningDb.sound_emptyDb ?_ hRun
    (stepsMeet_of_forall fun _ _ _ => trivial)
  · intro db action c hTicked _ hInv hChange
    exact PendingUngranted.change hChange hTicked.sound hInv
  · simp [emptyDb, ProvisioningDb.cell, ProvisioningDb.session?, Table.find?]

/-- What is paid for stays paid for. -/
theorem paidCell_run {db' : ProvisioningDb} {es : List Event} (hSound : (db.cell id).Sound id)
    (hPaid : PaidCell accountId (db.cell id))
    (hRun : run (ProvisioningDb.step config) db es = some db') :
    PaidCell accountId (db'.cell id) := by
  apply @ProvisioningDb.run_cell _ _ _ _ _ (PaidCell accountId) (fun _ _ => True)
    (fun _ _ _ h => h) ?_ hSound hPaid hRun (stepsMeet_of_forall fun _ _ _ => trivial)
  intro db action c hTicked _ hInv hChange
  exact hInv.change hChange hTicked.sound

end

/-! ### A repetition -/

theorem charge_confirmed {d : PaidDeployment} {input : ConfigPaymentInput} {s : PaymentState}
    {p : SolanaConfigPayment} {signature : Transfer} (answers : List StepAnswer)
    (hAmount : input.amountLamports ≠ 0) (hRow : s.row = some p) (hMatches : p.Matches input)
    (hSession : p.sessionId = some input.sessionId) (hStatus : p.status = .confirmed)
    (hSignature : p.transactionSignature = some signature) :
    charge d input answers s =
      (s, .returned (.confirmed signature (p.feeLamports.getD 0))) := by
  have hRead : databaseSteps d input 6 (s, .insertPayment) =
      (s, .returned (.confirmed signature (p.feeLamports.getD 0))) := by
    obtain ⟨row, calls, chain, now, blockHeight⟩ := s
    subst hRow
    simp [databaseSteps, advance, hAmount, hMatches, hSession, recoverSubmittedPayment, hStatus,
      hSignature, PaymentState.execute]
  unfold charge
  rw [hRead]
  induction answers with
  | nil => rfl
  | cons answer answers ih => simpa [advance] using ih

section

variable {d : PaidDeployment} {s : PaidSessions} {ctx : RequestContext} {request : SessionRequest}
  {sessionId : SessionId} {session : Session} {now : Timestamp}

/-- What an activated session is found with by a repetition of its request. -/
structure Repeatable (d : PaidDeployment) (s : PaidSessions) (request : SessionRequest)
    (sessionId : SessionId) : Prop where
  created : ∀ ctx, s.createSession d ctx request = .ok (sessionId, s)
  payment : ∃ paymentId p signature, request.paymentRequestId = some paymentId ∧
    (s.payments paymentId).row = some p ∧
    p.Matches (d.paymentInput request.accountId sessionId) ∧ p.sessionId = some sessionId ∧
    p.status = .confirmed ∧ p.transactionSignature = some signature
  paid : ∃ session, s.db.session? sessionId = some session ∧
    PaidSession request.accountId session

theorem session?_activatePaidSession_of_paid {db : ProvisioningDb} {accountId : AccountId}
    {trafficLimitBytes : Option Int} (hSession : db.session? sessionId = some session)
    (hPaid : PaidSession accountId session) :
    (db.activatePaidSession accountId sessionId trafficLimitBytes).session? sessionId =
      some session := by
  have hEntitle : session.entitle db.now trafficLimitBytes = session := by
    obtain ⟨entitlement, hEntitlement⟩ := Option.isSome_iff_exists.1 hPaid.entitled
    have hKept : session.entitlement.or
        (trafficLimitBytes.map fun bytes => ⟨bytes, 0, none, db.now⟩) = session.entitlement := by
      simp [hEntitlement]
    simp only [Session.entitle, hKept]
  simp [ProvisioningDb.activatePaidSession, hSession, hPaid.account, hPaid.paid,
    ProvisioningDb.session?_updateSession, hEntitle]

/-- The payment of a repetition is found confirmed, and the activation looks at the phase. -/
theorem payAndActivate_confirmed {paymentId : PaymentId} {p : SolanaConfigPayment}
    {signature : Transfer} (hRow : (s.payments paymentId).row = some p)
    (hMatches : p.Matches (d.paymentInput request.accountId sessionId))
    (hPaySession : p.sessionId = some sessionId) (hStatus : p.status = .confirmed)
    (hSignature : p.transactionSignature = some signature)
    (hSession : s.db.session? sessionId = some session)
    (hPaid : PaidSession request.accountId session) :
    s.payAndActivate d ctx request.accountId sessionId paymentId = some (
      if session.phase = .requested then .created sessionId else .error .configPaymentUnavailable,
      { s with
        db := (s.db.atTime ctx.now).activatePaidSession request.accountId sessionId
          (some p.trafficLimitBytes) }) := by
  have hCharge := @charge_confirmed d _ _ p signature ctx.answers
    (Nat.ne_of_gt d.amountLamports_pos) hRow hMatches hPaySession hStatus hSignature
  have hActivate : s.activatePaidSession ctx.now request.accountId sessionId paymentId signature =
      (if session.phase = .requested then .alreadyActive else .invalidPhase,
        (s.db.atTime ctx.now).activatePaidSession request.accountId sessionId
          (some p.trafficLimitBytes)) := by
    have hAccount : p.accountId = request.accountId := hMatches.1
    simp [PaidSessions.activatePaidSession, hSession, hPaid.account, hRow, hPaySession, hAccount,
      hStatus, hSignature, hPaid.paid]
  simp only [PaidSessions.payAndActivate, hCharge, Function.update_eq_self, hActivate]
  by_cases hRequested : session.phase = .requested
  · simp only [if_pos hRequested]
  · simp only [if_neg hRequested]

theorem Repeatable.postSession (h : Repeatable d s request sessionId)
    (hSession : s.db.session? sessionId = some session) :
    ∃ db, db.session? sessionId = some session ∧
      s.postSession d ctx request = some (
        if d.enforcePositiveBalance && !ctx.hasBillingAdminAccess && !ctx.hasSufficientBalance then
          (.error .sessionRequiresPositiveBalance, s)
        else if ctx.hasBillingAdminAccess then (.error .configPaymentRequestConflict, s)
        else (if session.phase = .requested then .created sessionId
          else .error .configPaymentUnavailable, { s with db })) := by
  obtain ⟨paymentId, p, signature, hPaymentId, hRow, hMatches, hPaySession, hStatus, hSignature⟩ :=
    h.payment
  obtain ⟨session', hSession', hPaid⟩ := h.paid
  obtain rfl : session = session' := Option.some.inj (hSession.symm.trans hSession')
  have hUngranted : s.sessionHasConfigGrant request.accountId sessionId = false := by
    simp [PaidSessions.sessionHasConfigGrant, hSession, hPaid.ungranted]
  refine ⟨(s.db.atTime ctx.now).activatePaidSession request.accountId sessionId
    (some p.trafficLimitBytes), session?_activatePaidSession_of_paid hSession hPaid, ?_⟩
  have hPay := @payAndActivate_confirmed d s ctx request sessionId session _ _ _ hRow hMatches
    hPaySession hStatus hSignature hSession hPaid
  simp only [PaidSessions.postSession, hPaymentId, h.created, hUngranted]
  cases ctx.hasBillingAdminAccess with
  | true => simp
  | false =>
      by_cases hRefused : (d.enforcePositiveBalance && !ctx.hasSufficientBalance) = true
      · simp [hRefused]
      · simp [hRefused, hPay]

/-- A repetition is answered with the session exactly when the activation finds it in `requested`,
and the request passes the gates before it. -/
theorem Repeatable.idempotent_iff (h : Repeatable d s request sessionId)
    (hSession : s.db.session? sessionId = some session) :
    Idempotent d s ctx request sessionId ↔
      session.phase = .requested ∧ ctx.hasBillingAdminAccess = false ∧
        (d.enforcePositiveBalance = true → ctx.hasSufficientBalance = true) := by
  obtain ⟨db, hKept, hPost⟩ := @Repeatable.postSession d s ctx request sessionId session h hSession
  constructor
  · rintro ⟨s', hCreated, -, -⟩
    rw [hPost] at hCreated
    grind
  · rintro ⟨hRequested, hUser, hBalance⟩
    refine ⟨{ s with db }, ?_, rfl, by simp [hKept, hSession]⟩
    rw [hPost]
    grind

/-! ### After an activation -/

variable {s₁ : PaidSessions} {config : SessionReconcileConfig}

theorem activatePaidSession_eq_activated {accountId : AccountId} {paymentId : PaymentId}
    {p : SolanaConfigPayment} {signature : Transfer} {db : ProvisioningDb}
    (hRow : (s.payments paymentId).row = some p)
    (h : s.activatePaidSession now accountId sessionId paymentId signature = (.activated, db)) :
    ∃ session, s.db.session? sessionId = some session ∧ session.accountId = some accountId ∧
      session.phase = .paymentPending ∧ p.sessionId = some sessionId ∧ p.status = .confirmed ∧
      p.transactionSignature = some signature ∧
      db = (s.db.atTime now).activatePaidSession accountId sessionId
        (some p.trafficLimitBytes) := by
  rw [PaidSessions.activatePaidSession, hRow] at h
  cases hSession : s.db.session? sessionId with
  | none => simp [hSession] at h
  | some session =>
      rw [hSession] at h
      grind

theorem paidSession_activated {db : ProvisioningDb} {accountId : AccountId} {bytes : Int}
    (hSession : db.session? sessionId = some session)
    (hAccount : session.accountId = some accountId)
    (hPending : session.phase = .paymentPending) (hUngranted : session.configGrant = false) :
    ∃ session', (db.activatePaidSession accountId sessionId (some bytes)).session? sessionId =
      some session' ∧ PaidSession accountId session' := by
  refine ⟨(session.entitle db.now (some bytes)).setPhase db.now .requested none, ?_, ?_⟩
  · simp [ProvisioningDb.activatePaidSession, hSession, hAccount, hPending,
      ProvisioningDb.updateSessionStatusPhase, ProvisioningDb.session?_updateSession]
    rfl
  · exact ⟨hAccount, by simp [Session.entitle, Session.setPhase], hUngranted,
      by simp [Session.setPhase]⟩

/-- In every state that an activated session is brought to, a repetition of its request is
idempotent exactly when the session is still in `requested`, and the gates of the route let the
repetition pass. -/
theorem retry_idempotent_iff {before es : List Event} {db : ProvisioningDb}
    (hBefore : run (ProvisioningDb.step config) emptyDb before = some s.db) (hNow : s.db.now < now)
    (hActivates : Activates d s now request sessionId s₁)
    (hRun : run (ProvisioningDb.step config) s₁.db es = some db) (ctx : RequestContext) :
    ∃ session, db.session? sessionId = some session ∧
      (Idempotent d { s₁ with db } ctx request sessionId ↔
        session.phase = .requested ∧ ctx.hasBillingAdminAccess = false ∧
          (d.enforcePositiveBalance = true → ctx.hasSufficientBalance = true)) := by
  obtain ⟨⟨parsed, hParsed, hPolicy, hFound⟩, ⟨paymentId, hPaymentId, p, hRow, hMatches, signature,
    hActivated⟩, hOthers⟩ := hActivates
  obtain ⟨session₀, hSession₀, hAccount, hPending, hPaySession, hStatus, hSignature, hDb⟩ :=
    activatePaidSession_eq_activated hRow hActivated
  have hUngranted : session₀.configGrant = false :=
    @pendingUngranted_run (sessionId, .ingress) _ _ _ hBefore session₀ hSession₀ hPending
  have hStep : run (ProvisioningDb.step config) s.db
      [⟨now, .activatePaidSession request.accountId sessionId (some p.trafficLimitBytes)⟩] =
        some s₁.db := by
    rw [hDb]
    exact run_cons.2 ⟨_, if_pos hNow, rfl⟩
  have hSound : (s₁.db.cell (sessionId, .ingress)).Sound (sessionId, .ingress) :=
    ProvisioningDb.sound_run (ProvisioningDb.sound_run ProvisioningDb.sound_emptyDb hBefore) hStep
  have hActive : PaidCell request.accountId (s₁.db.cell (sessionId, .ingress)) := by
    rw [hDb]
    exact paidSession_activated hSession₀ hAccount hPending hUngranted
  obtain ⟨session, hSession, hPaid⟩ := paidCell_run hSound hActive hRun
  have hRepeatable : Repeatable d { s₁ with db } request sessionId := by
    rw [hOthers]
    refine ⟨fun ctx => ?_, ⟨paymentId, p, signature, hPaymentId, hRow, hMatches, hPaySession,
      hStatus, hSignature⟩, session, hSession, hPaid⟩
    have hFound' : { s with db }.findSessionIdByCreateRequest request.accountId
        parsed.createRequestId = some sessionId := hFound
    simp [PaidSessions.createSession, PaidSessions.issueSession, hParsed, hPolicy, hFound']
  exact ⟨session, hSession, hRepeatable.idempotent_iff hSession⟩

end

/-! ### A paid session -/

/-- A deployment that takes a million lamports for fifty gigabytes. -/
def sampleDeployment : PaidDeployment where
  enforcePositiveBalance := false
  limits := ⟨3, 10, 60⟩
  configTrafficLimitBytes := none
  treasuryAddress := 900
  walletAddress := id
  amountLamports := 1000000
  trafficLimitBytes := 50000000000
  lastValidBlockHeight := fun _ => 150
  amountLamports_pos := by decide

def sampleRequest : SessionRequest where
  accountId := 7
  parsed := .ok ⟨some 42, .wireguard, false, none⟩
  paymentRequestId := some 5

/-- The transfer is accepted, and found finalized. -/
def sampleContext (now : Timestamp) : RequestContext where
  now
  hasBillingAdminAccess := false
  hasSufficientBalance := false
  tradingRouteResolves := true
  hasPath := true
  newSessionId := 1
  answers := [.walletKey true, .treasury 2000000 900000, .blockhash 11, .fee (some 5000),
    .balance 9000000, .sendAccepted, .status .finalized]

/-- The session awaits its payment, and the payment is confirmed. -/
def paidSessions : PaidSessions where
  db := (run (ProvisioningDb.step sampleConfig) emptyDb
    [⟨1, .createSession 1 7 .wireguard true none⟩]).getD emptyDb
  createRequests := fun accountId requestId =>
    if accountId = 7 ∧ requestId = 42 then some 1 else none
  payments := fun _ =>
    (charge sampleDeployment (sampleDeployment.paymentInput 7 1) (sampleContext 1).answers
      noPayment).1

def activatedSessions : PaidSessions :=
  { paidSessions with db := (paidSessions.activatePaidSession 2 7 1 5 11).2 }

theorem activates_sample :
    Activates sampleDeployment paidSessions 2 sampleRequest 1 activatedSessions := by
  have hRow : ∃ p ∈ (paidSessions.payments 5).row,
      p.Matches (sampleDeployment.paymentInput 7 1) := by
    decide +kernel
  obtain ⟨p, hRow, hMatches⟩ := hRow
  refine ⟨⟨_, rfl, rfl, by decide⟩, ⟨5, rfl, p, hRow, hMatches, 11, ?_⟩, rfl⟩
  exact Prod.ext (by decide +kernel) rfl

/-- The reconciler has not come to the session yet. -/
theorem retry_idempotent_iff_sample : ∃ db,
    run (ProvisioningDb.step sampleConfig) activatedSessions.db [] = some db ∧
      Idempotent sampleDeployment { activatedSessions with db } (sampleContext 9) sampleRequest
        1 := by
  have hBefore : run (ProvisioningDb.step sampleConfig) emptyDb
      [⟨1, .createSession 1 7 .wireguard true none⟩] = some paidSessions.db := rfl
  obtain ⟨session, hSession, hIff⟩ := retry_idempotent_iff hBefore (by decide +kernel)
    activates_sample run_nil (sampleContext 9)
  have hRequested : ∀ session ∈ activatedSessions.db.session? 1, session.phase = .requested := by
    decide +kernel
  exact ⟨_, rfl, hIff.2 ⟨hRequested session hSession, rfl, nofun⟩⟩

/-- The reconciler takes the session on to `probing`, and the repetition is told that the session
could not be activated. -/
theorem retry_refused_while_probing : ∃ before es db session,
    run (ProvisioningDb.step sampleConfig) emptyDb before = some paidSessions.db ∧
      Activates sampleDeployment paidSessions 2 sampleRequest 1 activatedSessions ∧
      run (ProvisioningDb.step sampleConfig) activatedSessions.db es = some db ∧
      db.session? 1 = some session ∧ session.phase = .probing ∧ session.desiredState = .active ∧
      (({ activatedSessions with db } : PaidSessions).postSession sampleDeployment (sampleContext 9)
        sampleRequest).map Prod.fst = some (.error .configPaymentUnavailable) ∧
      ¬ Idempotent sampleDeployment { activatedSessions with db } (sampleContext 9)
        sampleRequest 1 := by
  have hRun : ∃ db ∈ run (ProvisioningDb.step sampleConfig) activatedSessions.db
      [⟨3, .beginProbing []⟩], ∃ session ∈ db.session? 1,
      session.phase = .probing ∧ session.desiredState = .active ∧
      (({ activatedSessions with db } : PaidSessions).postSession sampleDeployment (sampleContext 9)
        sampleRequest).map Prod.fst = some (.error .configPaymentUnavailable) := by
    decide +kernel
  obtain ⟨db, hRun, session, hSession, hProbing, hActive, hPost⟩ := hRun
  refine ⟨[⟨1, .createSession 1 7 .wireguard true none⟩], _, db, session, rfl, activates_sample,
    hRun, hSession, hProbing, hActive, hPost, ?_⟩
  rintro ⟨s', hCreated, -, -⟩
  rw [hCreated] at hPost
  cases hPost

end Hyperspace.Payments
