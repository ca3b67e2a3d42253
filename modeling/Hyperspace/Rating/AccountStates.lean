import Hyperspace.Billing.History
import Hyperspace.Rating.Settlement
import Mathlib.Data.List.DropRight

/-!
# The billing states of accounts

An account whose balance is found negative has a period of grace, and is suspended when a later
pass of the settlement finds the balance negative still. Suspending asks for the revocation of the
sessions that the account has then; a pass over an account that is suspended already looks at no
session.
-/

namespace Hyperspace.Rating

open Hyperspace.Billing Hyperspace.ControlPlane Hyperspace.Foundations

/-- `state` of a row of `billing_account_states`. -/
inductive BillingState where
  | active
  | grace
  | suspended
  deriving DecidableEq, Repr

/-- A row of `billing_account_states`. -/
structure BillingAccountState where
  state : BillingState
  overdrawnAt : Option Timestamp
  suspensionDueAt : Option Timestamp
  suspendedAt : Option Timestamp
  withdrawalEligibleAt : Option Timestamp
  lastSettledAt : Option Timestamp
  updatedAt : Timestamp
  deriving DecidableEq, Repr

/-- The billing database with the states of the accounts. -/
structure BillingSystem where
  db : BillingDb
  states : AccountId → BillingAccountState
  /-- `hidden_at` is set. -/
  hidden : SessionId → Bool

/-- The rows that the account trigger inserts. -/
def BillingSystem.empty (usage : UsageTables) (now : Timestamp) : BillingSystem where
  db := emptyDb usage now
  states := fun _ => ⟨.active, none, none, none, none, none, now⟩
  hidden := fun _ => false

/-! ### Statements -/

def availableBillingBalance (buckets : BillingBucketsRow) : Int :=
  buckets.cashMinor + buckets.promotionalMinor - buckets.reservedWithdrawalMinor -
    buckets.debtMinor

/-- The columns of a row as the driver returns them. -/
def readBillingAccountState (row : BillingAccountState) : BillingAccountState :=
  { row with
    overdrawnAt := row.overdrawnAt.map jsDate
    suspensionDueAt := row.suspensionDueAt.map jsDate
    suspendedAt := row.suspendedAt.map jsDate
    withdrawalEligibleAt := row.withdrawalEligibleAt.map jsDate
    lastSettledAt := row.lastSettledAt.map jsDate }

/-- The statements of `reconcileBillingAccountState` that touch the billing tables. -/
def readBalanceAndPlan (accountId : AccountId) : Tx (BillingBucketsRow × BillingPlanVersion) := do
  ensurePrepaidBillingState accountId
  let buckets ← readBillingBuckets accountId
  let plan ← readCurrentBillingPlan accountId
  return (buckets, plan)

/-- `requestRevocationTransition`, on the columns that billing reads. -/
def requestRevocation (session : BilledSession) : BilledSession :=
  { session with desiredState := .revoked, phase := requestRevocationPhase session.phase }

/-- Rewrite the session with an identifier. -/
def updateSession (sessions : List BilledSession) (sessionId : SessionId)
    (f : BilledSession → BilledSession) : List BilledSession :=
  sessions.map fun session => if session.id = sessionId then f session else session

namespace BillingSystem

variable (s : BillingSystem)

def updateBillingAccountState (accountId : AccountId) (row : BillingAccountState) :
    BillingSystem :=
  { s with states := Function.update s.states accountId { row with updatedAt := s.db.now } }

/-- A hidden session is not found. -/
def requestSystemSessionRevocation (sessionId : SessionId) : BillingSystem :=
  if s.hidden sessionId then s
  else
    { s with
      db := { s.db with
        usage := { s.db.usage with
          sessions := updateSession s.db.usage.sessions sessionId requestRevocation } } }

/-- An account that is not active, by its place in the listing. -/
def stateCheckKey (accountId : AccountId) : Timestamp :=
  (s.states accountId).suspensionDueAt.getD (s.states accountId).updatedAt

def accountsNeedingStateCheck : List AccountId :=
  s.db.usage.accounts.filter fun accountId => (s.states accountId).state ≠ .active

def listBillingAccountsNeedingStateCheck (limit : Nat) : List AccountId :=
  (s.accountsNeedingStateCheck.insertionSort fun a b =>
    s.stateCheckKey a ≤ s.stateCheckKey b).take limit

/-! ### One account -/

/-- What one observation of a balance does to the state. -/
inductive BillingTransition where
  | unchanged
  | graceStarted
  | suspended
  | restored
  deriving DecidableEq, Repr

/-- `reconcileBillingAccountState` from the reads on. -/
def reconcileWith (accountId : AccountId) (now : Timestamp) (buckets : BillingBucketsRow)
    (plan : BillingPlanVersion) : BillingSystem × BillingTransition :=
  let state := readBillingAccountState (s.states accountId)
  let now := jsDate now
  if 0 ≤ availableBillingBalance buckets then
    (s.updateBillingAccountState accountId
        { state with
          state := .active, overdrawnAt := none, suspensionDueAt := none, suspendedAt := none
          lastSettledAt := some now },
      if state.state = .active then .unchanged else .restored)
  else if state.state = .active then
    (s.updateBillingAccountState accountId
        { state with
          state := .grace, overdrawnAt := some now
          suspensionDueAt := some (now + plan.gracePeriodSeconds * 1000000), suspendedAt := none
          withdrawalEligibleAt := none, lastSettledAt := some now },
      .graceStarted)
  else if state.state = .grace ∧ ∃ dueAt ∈ state.suspensionDueAt, dateParse dueAt ≤ now then
    let sessions := s.db.usage.nonTerminalAccountSessions accountId
    let revoked := (sessions.map (·.id)).foldl requestSystemSessionRevocation s
    (revoked.updateBillingAccountState accountId
        { state with
          state := .suspended, suspendedAt := some now
          withdrawalEligibleAt := some (now + plan.withdrawalCooldownSeconds * 1000000)
          lastSettledAt := some now },
      .suspended)
  else
    (s.updateBillingAccountState accountId { state with lastSettledAt := some now }, .unchanged)

/-- `none` when the transaction fails. -/
def reconcileBillingAccountState (accountId : AccountId) (now : Timestamp) :
    Option (BillingSystem × BillingTransition) :=
  match (readBalanceAndPlan accountId).run s.db with
  | .error _ => none
  | .ok ((buckets, plan), db) => some ({ s with db }.reconcileWith accountId now buckets plan)

end BillingSystem

/-! ### A pass -/

/-- The tally of a settlement run. -/
structure RetailBillingSettlementResult where
  ratedWindows : Nat
  postedMinor : Int
  graceStarted : Nat
  suspended : Nat
  restored : Nat
  deriving DecidableEq, Repr

/-- The counts of a pass with one more transition. -/
def RetailBillingSettlementResult.count (result : RetailBillingSettlementResult) :
    BillingSystem.BillingTransition → RetailBillingSettlementResult
  | .unchanged => result
  | .graceStarted => { result with graceStarted := result.graceStarted + 1 }
  | .suspended => { result with suspended := result.suspended + 1 }
  | .restored => { result with restored := result.restored + 1 }

/-- What a pass has done so far. -/
structure SettlementPass where
  system : BillingSystem
  result : RetailBillingSettlementResult
  touchedAccounts : List AccountId

/-- `add` of a set, which keeps the order of insertion. -/
def addAccount (accounts : List AccountId) (accountId : AccountId) : List AccountId :=
  if accountId ∈ accounts then accounts else accounts ++ [accountId]

/-- Settle one candidate. An error ends the pass and leaves what it has committed. -/
def SettlementPass.settle (config : RetailBillingRuntimeConfig) (pass : SettlementPass)
    (candidate : RetailRatingCandidate) : Except BillingSystem SettlementPass :=
  match transaction (settleRatingCandidate candidate config) pass.system.db with
  | (.error _, db) => .error { pass.system with db }
  | (.ok none, db) => .ok { pass with system := { pass.system with db } }
  | (.ok (some posted), db) =>
    .ok
      { system := { pass.system with db }
        result := { pass.result with
          ratedWindows := pass.result.ratedWindows + 1
          postedMinor := pass.result.postedMinor + posted }
        touchedAccounts := addAccount pass.touchedAccounts candidate.accountId }

/-- Reconcile one account. -/
def SettlementPass.reconcile (now : Timestamp) (pass : SettlementPass) (accountId : AccountId) :
    Except BillingSystem SettlementPass :=
  match pass.system.reconcileBillingAccountState accountId now with
  | none => .error pass.system
  | some (system, transition) =>
    .ok { pass with system, result := pass.result.count transition }

/-- The part of a pass after the settlement of its candidates. -/
def SettlementPass.reconcileTouched (config : RetailBillingRuntimeConfig) (now : Timestamp)
    (pass : SettlementPass) : Except BillingSystem SettlementPass :=
  match config.mode with
  | .shadow => .ok pass
  | .enforce =>
    ((pass.system.listBillingAccountsNeedingStateCheck config.batchSize).foldl addAccount
      pass.touchedAccounts).foldlM (SettlementPass.reconcile now) pass

/-- A pass that nothing interrupts. -/
def settleRetailBilling (config : RetailBillingRuntimeConfig) (now : Timestamp)
    (s : BillingSystem) : Except BillingSystem SettlementPass :=
  match (listRetailRatingCandidates (settlementCutoff config now) config.batchSize).run s.db with
  | .error _ => .error s
  | .ok (listed, _) => do
    let pass ← (listed.map ListedCandidate.toRow).foldlM (SettlementPass.settle config)
      ⟨s, ⟨0, 0, 0, 0, 0⟩, []⟩
    pass.reconcileTouched config now

/-- The system that a pass leaves, also when an error has ended it. -/
def passEnd : Except BillingSystem SettlementPass → BillingSystem
  | .ok pass => pass.system
  | .error s => s

/-! ### Sequences of operations -/

/-- Every transaction is an event of its own, also those of a pass. -/
inductive BillingEvent where
  | billing (op : BillingOp)
  | hideSessions (sessionIds : List SessionId)
  | reconcileBillingAccountState (accountId : AccountId) (now : Timestamp)

namespace BillingSystem

variable (s : BillingSystem)

def apply : BillingEvent → BillingSystem
  | .billing op => { s with db := op.apply s.db }
  | .hideSessions sessionIds =>
    { s with hidden := fun sessionId => s.hidden sessionId || sessionId ∈ sessionIds }
  | .reconcileBillingAccountState accountId now =>
    match s.reconcileBillingAccountState accountId now with
    | some (s, _) => s
    | none => s

def step (s : BillingSystem) (e : BillingEvent) : Option BillingSystem := some (s.apply e)

end BillingSystem

/-! ### What the passes see of an account -/

/-- What a pass finds when it reconciles the account. -/
structure Observation where
  now : Timestamp
  balance : Int
  gracePeriodSeconds : Int
  deriving DecidableEq, Repr

def observed (now : Timestamp) (buckets : BillingBucketsRow) (plan : BillingPlanVersion) :
    Observation := ⟨now, availableBillingBalance buckets, plan.gracePeriodSeconds⟩

/-- The due time of a period of grace that begins with the observation. -/
def Observation.dueAt (o : Observation) : Timestamp :=
  jsDate o.now + o.gracePeriodSeconds * 1000000

/-- The observations since the balance was last seen not to be negative. -/
def negativeSpell (observations : List Observation) : List Observation :=
  observations.rtakeWhile fun o => o.balance < 0

namespace BillingSystem

/-- The observation that an event makes of an account, if it reconciles it. -/
def observation (s : BillingSystem) (accountId : AccountId) : BillingEvent → Option Observation
  | .billing _ | .hideSessions _ => none
  | .reconcileBillingAccountState reconciled now =>
    if reconciled = accountId then
      match (readBalanceAndPlan accountId).run s.db with
      | .error _ => none
      | .ok ((buckets, plan), _) =>
        some (observed now buckets plan)
    else none

/-- The observations of an account in a sequence of events. -/
def observations (accountId : AccountId) : BillingSystem → List BillingEvent → List Observation
  | _, [] => []
  | s, e :: es => (s.observation accountId e).toList ++ observations accountId (s.apply e) es

end BillingSystem

/-! ### Consistent states -/

/-- Which times a state goes with. -/
structure BillingAccountState.Consistent (row : BillingAccountState) : Prop where
  active : row.state = .active →
    row.overdrawnAt = none ∧ row.suspensionDueAt = none ∧ row.suspendedAt = none
  grace : row.state = .grace →
    row.overdrawnAt.isSome ∧ row.suspensionDueAt.isSome ∧ row.suspendedAt = none
  suspended : row.state = .suspended → row.overdrawnAt.isSome ∧
    ∃ dueAt ∈ row.suspensionDueAt, ∃ suspendedAt ∈ row.suspendedAt, dateParse dueAt ≤ suspendedAt

namespace BillingSystem

variable (s : BillingSystem)

/-- The sessions of an account that are neither hidden, nor over, nor asked to be. -/
def visibleSessions (accountId : AccountId) : List BilledSession :=
  (s.db.usage.nonTerminalAccountSessions accountId).filter fun session => !s.hidden session.id

/-- While the account is suspended, nobody opens or revives a session of it. -/
def OpensNoSession (accountId : AccountId) (s : BillingSystem) : BillingEvent → Prop
  | .billing (.environment usage _) => (s.states accountId).state = .suspended →
    ∀ session ∈ usage.nonTerminalAccountSessions accountId, s.hidden session.id = false →
      ∃ before ∈ s.db.usage.nonTerminalAccountSessions accountId, before.id = session.id
  | .billing _ | .hideSessions _ | .reconcileBillingAccountState .. => True

end BillingSystem

end Hyperspace.Rating
