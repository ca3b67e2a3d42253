import Hyperspace.Payments.ConfigPayment
import Hyperspace.Provisioning.SessionCaps

/-!
# Paid session requests

`POST /v1/public/sessions` in a deployment that takes SOL for its configs. A request creates its
session, or finds the one it has created before, charges the payment it names and activates the
session. Each of these is a transaction or a call of its own, so a request that has stopped half
way can be repeated.
-/

namespace Hyperspace.Payments

open Hyperspace.Billing (AccountId SessionId Timestamp)
open Hyperspace.ControlPlane Hyperspace.Foundations Hyperspace.Provisioning

abbrev RequestId := Nat
abbrev PaymentId := Nat

/-- What the route reads of its deployment, where config payments are enabled. -/
structure PaidDeployment where
  enforcePositiveBalance : Bool
  limits : SessionAbuseControlConfig
  /-- The grant of a config that an administrator issues. -/
  configTrafficLimitBytes : Option Int
  treasuryAddress : Address
  walletAddress : AccountId → Address
  amountLamports : Nat
  trafficLimitBytes : Nat
  lastValidBlockHeight : Transfer → Nat
  amountLamports_pos : 0 < amountLamports

/-- What `parseSessionCreateBody` reads, and what `validateSessionAbusePolicy` says of it. -/
structure ParsedSession where
  createRequestId : Option RequestId
  clientProtocol : ClientProtocol
  namesTradingRoute : Bool
  policyError : Option String

/-- A parsed request for a session. -/
structure SessionRequest where
  accountId : AccountId
  parsed : Except String ParsedSession
  paymentRequestId : Option PaymentId

/-- What a request finds besides the tables, and the answers to the requests of its charge. -/
structure RequestContext where
  now : Timestamp
  hasBillingAdminAccess : Bool
  hasSufficientBalance : Bool
  tradingRouteResolves : Bool
  hasPath : Bool
  newSessionId : SessionId
  answers : List StepAnswer

/-- The control plane together with the payments it awaits. -/
structure PaidSessions where
  db : ProvisioningDb
  /-- `create_request_id` of `sessions`, which is unique for an account. -/
  createRequests : AccountId → RequestId → Option SessionId
  payments : PaymentId → PaymentState

/-- What a request for a session is refused with. -/
inductive RequestError where
  | sessionRequiresPositiveBalance
  | configPaymentRequestRequired
  | configPaymentRequestConflict
  | configPaymentUnavailable
  | configPaymentInProgress
  | insufficientSolanaFunds
  | invalid (error : String)
  deriving DecidableEq, Repr

/-- Status 201 with the session, or an application error. -/
inductive CreateSessionResponse where
  | created (sessionId : SessionId)
  | error (error : RequestError)
  deriving DecidableEq, Repr

/-- What `activatePaidSession` answers. -/
inductive ActivationResult where
  | activated
  | alreadyActive
  | notFound
  | invalidPhase
  | invalidPayment
  deriving DecidableEq, Repr

/-! ### The charge -/

def PaidDeployment.paymentInput (d : PaidDeployment) (accountId : AccountId)
    (sessionId : SessionId) : ConfigPaymentInput where
  accountId
  sessionId
  sourceWalletAddress := d.walletAddress accountId
  treasuryAddress := d.treasuryAddress
  amountLamports := d.amountLamports
  trafficLimitBytes := d.trafficLimitBytes

variable (d : PaidDeployment) (input : ConfigPaymentInput)

/-- The steps of a call up to its next request, which no call is more than six of them away from. -/
def databaseSteps : Nat → PaymentState × ChargeStep → PaymentState × ChargeStep
  | 0, call => call
  | count + 1, (s, step) =>
    match advance input s.row s.now step .database with
    | none => (s, step)
    | some (statement, next) =>
      databaseSteps count (s.execute d.lastValidBlockHeight statement, next)

/-- A call of `charge` with the answers to its requests. -/
def charge (answers : List StepAnswer) (s : PaymentState) : PaymentState × ChargeStep :=
  answers.foldl
    (fun (s, step) answer =>
      match advance input s.row s.now step answer with
      | none => (s, step)
      | some (statement, next) =>
        databaseSteps d input 6 (s.execute d.lastValidBlockHeight statement, next))
    (databaseSteps d input 6 (s, .insertPayment))

/-! ### The route -/

def CreateSessionRejection.code : CreateSessionRejection → String
  | .sessionQuotaExceeded => "session_quota_exceeded"
  | .sessionCreateRateLimited => "session_create_rate_limited"

namespace PaidSessions

variable (s : PaidSessions)

def findSessionIdByCreateRequest (accountId : AccountId) (createRequestId : Option RequestId) :
    Option SessionId :=
  createRequestId.bind (s.createRequests accountId)

/-- `createSession` from the abuse policy on. -/
def issueSession (ctx : RequestContext) (accountId : AccountId) (parsed : ParsedSession) :
    Except String (SessionId × PaidSessions) :=
  match parsed.policyError with
  | some error => .error error
  | none =>
    match s.findSessionIdByCreateRequest accountId parsed.createRequestId with
    | some existing => .ok (existing, s)
    | none =>
      match (s.db.atTime ctx.now).createRequestedSessionWithAbuseControls d.limits
          ctx.newSessionId accountId parsed.clientProtocol .paymentPending
          (if ctx.hasBillingAdminAccess then some (d.configTrafficLimitBytes.getD 50000000000)
            else none) with
      | .error rejection => .error (CreateSessionRejection.code rejection)
      | .ok db =>
        if ctx.hasPath then
          .ok (ctx.newSessionId,
            { s with
              db
              createRequests := Function.update s.createRequests accountId fun requestId =>
                if parsed.createRequestId = some requestId then some ctx.newSessionId
                else s.createRequests accountId requestId })
        else .error "route_policy_not_satisfied"

def createSession (ctx : RequestContext) (request : SessionRequest) :
    Except String (SessionId × PaidSessions) :=
  match request.parsed with
  | .error error => .error error
  | .ok parsed =>
    if parsed.namesTradingRoute then
      -- a retry resumes its session even if the route is no longer recommended
      match s.findSessionIdByCreateRequest request.accountId parsed.createRequestId with
      | some existing => .ok (existing, s)
      | none =>
        if ctx.tradingRouteResolves then s.issueSession d ctx request.accountId parsed
        else .error "route_policy_not_satisfied"
    else s.issueSession d ctx request.accountId parsed

def sessionHasConfigGrant (accountId : AccountId) (sessionId : SessionId) : Bool :=
  (s.db.session? sessionId).any fun session =>
    session.accountId = some accountId && session.configGrant

def activatePaidSession (now : Timestamp) (accountId : AccountId) (sessionId : SessionId)
    (paymentId : PaymentId) (transactionSignature : Transfer) : ActivationResult × ProvisioningDb :=
  match s.db.session? sessionId with
  | none => (.notFound, s.db)
  | some session =>
    if session.accountId = some accountId then
      match (s.payments paymentId).row with
      | none => (.invalidPayment, s.db)
      | some p =>
        if p.sessionId = some sessionId ∧ p.accountId = accountId ∧ p.status = .confirmed ∧
            p.transactionSignature = some transactionSignature then
          (if session.phase = .paymentPending then .activated
            else if session.phase = .requested then .alreadyActive else .invalidPhase,
            (s.db.atTime now).activatePaidSession accountId sessionId (some p.trafficLimitBytes))
        else (.invalidPayment, s.db)
    else (.notFound, s.db)

def deleteUnpaidSession (now : Timestamp) (accountId : AccountId) (sessionId : SessionId) :
    PaidSessions :=
  let db := (s.db.atTime now).deleteUnpaidSession accountId sessionId
  { s with
    db
    createRequests := fun accountId requestId =>
      (s.createRequests accountId requestId).filter fun id => (db.session? id).isSome }

/-- The part of the route that takes the payment; `none` while the charge waits for an answer. -/
def payAndActivate (ctx : RequestContext) (accountId : AccountId) (sessionId : SessionId)
    (paymentId : PaymentId) : Option (CreateSessionResponse × PaidSessions) :=
  let call := charge d (d.paymentInput accountId sessionId) ctx.answers (s.payments paymentId)
  let s := { s with payments := Function.update s.payments paymentId call.1 }
  match call.2 with
  | .thrown | .returned (.treasuryUnavailable _ _) | .returned (.failed _) =>
    some (.error .configPaymentUnavailable, s)
  | .returned (.insufficientFunds _ _) =>
    some (.error .insufficientSolanaFunds, s.deleteUnpaidSession ctx.now accountId sessionId)
  | .returned .inProgress => some (.error .configPaymentInProgress, s)
  | .returned (.confirmed signature _) =>
    match s.activatePaidSession ctx.now accountId sessionId paymentId signature with
    | (.activated, db) | (.alreadyActive, db) => some (.created sessionId, { s with db })
    | (_, db) => some (.error .configPaymentUnavailable, { s with db })
  | _ => none

/-- `POST /v1/public/sessions`. -/
def postSession (ctx : RequestContext) (request : SessionRequest) :
    Option (CreateSessionResponse × PaidSessions) :=
  let adminIssuance := ctx.hasBillingAdminAccess
  if d.enforcePositiveBalance && !adminIssuance && !ctx.hasSufficientBalance then
    some (.error .sessionRequiresPositiveBalance, s)
  else if !adminIssuance && request.paymentRequestId.isNone then
    some (.error .configPaymentRequestRequired, s)
  else
    match s.createSession d ctx request with
    | .error error => some (.error (.invalid error), s)
    | .ok (sessionId, s) =>
      if s.sessionHasConfigGrant request.accountId sessionId then some (.created sessionId, s)
      else
        -- a retry keeps the terms it was started with
        match adminIssuance, request.paymentRequestId with
        | false, some paymentId => s.payAndActivate d ctx request.accountId sessionId paymentId
        | _, _ => some (.error .configPaymentRequestConflict, s)

end PaidSessions

end Hyperspace.Payments
