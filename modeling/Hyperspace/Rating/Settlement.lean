import Hyperspace.Billing.Operations
import Hyperspace.Foundations.Windows

/-!
# The settlement of retail usage

`listRetailRatingCandidates` and the loop of `settleRetailBilling`. A run lists its candidates once
and then settles them in one transaction each; any number of runs and the writers of the tables
the listing reads take their steps in any order.

The driver turns a `timestamptz` into a `Date`, so what a run inserts has whole milliseconds, while
the listing computes with the microseconds of the database.
-/

namespace Hyperspace.Rating

open Hyperspace.Billing Hyperspace.ControlPlane Hyperspace.Foundations

/-! ### The listing -/

/-- A row of `candidate_windows`. The plan assignment is known by its `starts_at`. -/
structure CandidateWindow where
  accountId : AccountId
  sessionId : SessionId
  planVersionId : Identifier
  activeConfigMonthlyMinor : Int
  trafficPerGbMinor : Int
  startsAt : Timestamp
  assignmentId : Identifier
  windowStart : Timestamp
  windowEnd : Timestamp
  deriving DecidableEq, Repr

/-- `LEAST(t, COALESCE(bound, 'infinity'))`. -/
def least (t : Timestamp) (bound : Option Timestamp) : Timestamp := bound.elim t (min t)

/-- The ends of the ratings of a session under a plan. -/
def ratedEnds (db : BillingDb) (sessionId : SessionId) (planVersionId : Identifier) :
    List Timestamp :=
  (db.ratings.rows.filter fun r => r.sessionId = sessionId && r.planVersionId = planVersionId).map
    (·.windowEnd)

/-- The join conditions of `candidate_windows`. -/
structure Joined (cutoff appliedAt : Timestamp) (session : BilledSession)
    (assignment : BilledAssignment) (planAssignment : PlanAssignment) (plan : BillingPlanVersion) :
    Prop where
  session_eq : assignment.sessionId = session.id
  egress : assignment.role = .egress
  applied : assignment.appliedAt = some appliedAt
  account_eq : session.accountId = some planAssignment.accountId
  started : planAssignment.startsAt < assignment.revokedAt.getD cutoff
  open_when_applied : ∀ endsAt ∈ planAssignment.endsAt, appliedAt < endsAt
  plan_eq : plan.id = planAssignment.planVersionId

theorem joined_iff {cutoff appliedAt : Timestamp} {session : BilledSession}
    {assignment : BilledAssignment} {planAssignment : PlanAssignment} {plan : BillingPlanVersion} :
    Joined cutoff appliedAt session assignment planAssignment plan ↔
      assignment.sessionId = session.id ∧ assignment.role = .egress ∧
      assignment.appliedAt = some appliedAt ∧ session.accountId = some planAssignment.accountId ∧
      planAssignment.startsAt < assignment.revokedAt.getD cutoff ∧
      (∀ endsAt ∈ planAssignment.endsAt, appliedAt < endsAt) ∧
      plan.id = planAssignment.planVersionId :=
  ⟨fun h => ⟨h.1, h.2, h.3, h.4, h.5, h.6, h.7⟩,
    fun ⟨h₁, h₂, h₃, h₄, h₅, h₆, h₇⟩ => ⟨h₁, h₂, h₃, h₄, h₅, h₆, h₇⟩⟩

instance (cutoff appliedAt : Timestamp) (session : BilledSession) (assignment : BilledAssignment)
    (planAssignment : PlanAssignment) (plan : BillingPlanVersion) :
    Decidable (Joined cutoff appliedAt session assignment planAssignment plan) :=
  decidable_of_iff' _ joined_iff

/-- The window of a session under one of its account's plan assignments. -/
def candidateWindow (db : BillingDb) (cutoff appliedAt : Timestamp) (session : BilledSession)
    (assignment : BilledAssignment) (planAssignment : PlanAssignment) (plan : BillingPlanVersion) :
    CandidateWindow where
  accountId := planAssignment.accountId
  sessionId := session.id
  planVersionId := plan.id
  activeConfigMonthlyMinor := plan.activeConfigMonthlyMinor
  trafficPerGbMinor := plan.trafficPerGbMinor
  startsAt := planAssignment.startsAt
  assignmentId := assignment.id
  windowStart :=
    (ratedEnds db session.id plan.id).foldl max (max planAssignment.startsAt appliedAt)
  windowEnd := least (least cutoff planAssignment.endsAt) assignment.revokedAt

/-- The groups of the CTE are told apart by session, plan assignment and plan. -/
def candidateWindows (db : BillingDb) (cutoff : Timestamp) : List CandidateWindow :=
  db.usage.sessions.flatMap fun session =>
    db.usage.assignments.flatMap fun assignment =>
      db.usage.planAssignments.flatMap fun planAssignment =>
        db.usage.planVersions.filterMap fun plan =>
          assignment.appliedAt.bind fun appliedAt =>
            if Joined cutoff appliedAt session assignment planAssignment plan then
              some (candidateWindow db cutoff appliedAt session assignment planAssignment plan)
            else none

/-- The join with `gate_assignment_usage_deltas`. -/
def CandidateWindow.Covers (w : CandidateWindow) (delta : UsageDelta) : Prop :=
  delta.assignmentId = w.assignmentId ∧ delta.role = .egress ∧ w.windowStart < delta.windowEnd ∧
    delta.windowStart < w.windowEnd

instance (w : CandidateWindow) (delta : UsageDelta) : Decidable (w.Covers delta) :=
  inferInstanceAs (Decidable (_ ∧ _))

/-- `FLOOR(bytes * overlap / NULLIF(duration, 0))`, where `SUM` passes over null. -/
def CandidateWindow.bytesOf (w : CandidateWindow) (delta : UsageDelta) (bytes : Nat) : Int :=
  let overlap := min delta.windowEnd w.windowEnd - max delta.windowStart w.windowStart
  let duration := delta.windowEnd - delta.windowStart
  if duration = 0 then 0 else (bytes * overlap).fdiv duration

/-- A candidate with the deltas it was joined with. -/
structure ListedCandidate extends CandidateWindow where
  deltas : List UsageDelta
  deriving DecidableEq

/-- What a candidate bills of a delta, in the direction of the given bytes. -/
def ListedCandidate.billed (c : ListedCandidate) (bytes : UsageDelta → Nat) (delta : UsageDelta) :
    Int :=
  if delta ∈ c.deltas then c.bytesOf delta (bytes delta) else 0

/-- `FLOOR(EXTRACT(EPOCH FROM window_end - window_start))`. -/
def CandidateWindow.activeSeconds (w : CandidateWindow) : Int :=
  (w.windowEnd - w.windowStart) / 1000000

/-- The row as the driver returns it. -/
def ListedCandidate.toRow (c : ListedCandidate) : RetailRatingCandidate where
  accountId := c.accountId
  sessionId := c.sessionId
  planVersionId := c.planVersionId
  activeConfigMonthlyMinor := c.activeConfigMonthlyMinor
  trafficPerGbMinor := c.trafficPerGbMinor
  windowStart := jsDate c.windowStart
  windowEnd := jsDate c.windowEnd
  activeSeconds := c.activeSeconds
  bytesToDestination :=
    (c.deltas.map fun delta => c.bytesOf delta delta.forwardedToDestinationBytes).sum
  bytesFromDestination :=
    (c.deltas.map fun delta => c.bytesOf delta delta.forwardedFromDestinationBytes).sum

/-- The candidates before `ORDER BY` and `LIMIT`. -/
def ratingCandidates (db : BillingDb) (cutoff : Timestamp) : List ListedCandidate :=
  ((candidateWindows db cutoff).filter fun w => w.windowStart < w.windowEnd).map fun w =>
    ⟨w, db.usage.usageDeltas.filter fun delta => w.Covers delta⟩

/-- `ORDER BY window_end, session_id`. -/
def ListedCandidate.ListedBefore (c c' : ListedCandidate) : Prop :=
  c.windowEnd < c'.windowEnd ∨ (c.windowEnd = c'.windowEnd ∧ c.sessionId ≤ c'.sessionId)

instance : DecidableRel ListedCandidate.ListedBefore :=
  fun c c' => inferInstanceAs (Decidable (c.windowEnd < c'.windowEnd ∨ _))

def listRetailRatingCandidates (cutoff : Timestamp) (limit : Nat) : Tx (List ListedCandidate) := do
  let db ← get
  let candidates := ratingCandidates db cutoff
  require (∀ c ∈ candidates, FitsInt c.activeConfigMonthlyMinor ∧ FitsInt c.trafficPerGbMinor ∧
    FitsInt c.activeSeconds) .numericValueOutOfRange
  return (candidates.insertionSort ListedCandidate.ListedBefore).take limit

/-! ### Plan assignments -/

/-- `SET ends_at = now()` on the open assignment of an account. -/
def closePlan (accountId : AccountId) (now : Timestamp) (p : PlanAssignment) :
    PlanAssignment :=
  if p.accountId = accountId ∧ p.endsAt = none then { p with endsAt := some now } else p

def assignBillingPlan (accountId : AccountId) (planCode : String) (planVersion : Int) :
    Tx Unit := do
  let db ← get
  match db.usage.planVersions.find? fun p =>
      p.code = planCode && p.version = planVersion && p.retiredAt.isNone with
  | none => throw (.error "billing plan not found")
  | some plan =>
    require (∀ p ∈ db.usage.planAssignments, p.accountId = accountId → p.endsAt = none →
      p.startsAt < db.now) .checkViolation
    require (accountId ∈ db.usage.accounts) .foreignKeyViolation
    let opened : PlanAssignment := ⟨accountId, plan.id, db.now, none⟩
    set { db with
      usage := { db.usage with
        planAssignments :=
          db.usage.planAssignments.map (closePlan accountId db.now) ++ [opened] } }

/-! ### Runs of the settlement -/

abbrev RunId := Nat

/-- Where a settlement run stands. -/
inductive SettlementStep where
  | idle
  | settling (remaining : List ListedCandidate)
  /-- The pass of `reconcileBillingAccountState` over the touched accounts. -/
  | reconciling
  /-- An exception ended the run before that pass. -/
  | failed
  deriving DecidableEq

/-- A settlement run with the candidates it has listed. -/
structure SettlementRun where
  config : RetailBillingRuntimeConfig
  step : SettlementStep
  listed : List ListedCandidate
  /-- The windows that were rated when the run listed its candidates. -/
  seen : List (SessionId × Timestamp × Timestamp)

/-- The billing database, the clock and the settlement runs under way. -/
structure RatingState where
  db : BillingDb
  clock : Timestamp
  runs : RunId → SettlementRun
  /-- The candidate that a rated window was inserted for. -/
  ratedAs : SessionId × Timestamp × Timestamp → Option ListedCandidate

inductive RatingEvent where
  /-- An account with the plan its trigger assigns. -/
  | openAccount (accountId : AccountId)
  | createPlan (plan : BillingPlanVersion)
  | assignBillingPlan (accountId : AccountId) (planCode : String) (planVersion : Int)
  /-- A transaction that makes sure of the billing rows of an account. -/
  | readBilling (accountId : AccountId)
  /-- Deposits, credits and withdrawals move money. -/
  | moveMoney (books : Books)
  | openSession (session : BilledSession)
  | assignGate (id : Identifier) (sessionId : SessionId) (role : GateAssignmentRole)
  | reportApplied (assignmentId : Identifier)
  | reportRevoked (assignmentId : Identifier)
  | recordUsage (delta : UsageDelta)
  | settleRetailBilling (run : RunId) (config : RetailBillingRuntimeConfig) (now : Timestamp)
  /-- The run settles its next candidate or leaves the loop. -/
  | settleNext (run : RunId)
  | reconciled (run : RunId)
  | timePasses (microseconds : Nat)

/-- `now` less the lag, as an ISO text with milliseconds. -/
def settlementCutoff (config : RetailBillingRuntimeConfig) (now : Timestamp) : Timestamp :=
  jsDate now - max 60 config.settlementLagSeconds * 1000000

/-- The database as a transaction that starts now sees it. -/
def RatingState.database (s : RatingState) : BillingDb := { s.db with now := s.clock }

def RatingState.setRun (s : RatingState) (run : RunId) (r : SettlementRun) : RatingState :=
  { s with runs := Function.update s.runs run r }

def RatingState.setUsage (s : RatingState) (usage : UsageTables) : RatingState :=
  { s with db := { s.db with usage } }

/-- The unique key of the rating that is inserted for a candidate. -/
def ListedCandidate.key (c : ListedCandidate) : SessionId × Timestamp × Timestamp :=
  (c.sessionId, jsDate c.windowStart, jsDate c.windowEnd)

/-- List the candidates of a run; an error ends it. -/
def RatingState.list (s : RatingState) (run : RunId) (config : RetailBillingRuntimeConfig)
    (cutoff : Timestamp) : RatingState :=
  match transaction (listRetailRatingCandidates cutoff config.batchSize) s.database with
  | (.ok listed, _) =>
    s.setRun run
      ⟨config, .settling listed, listed, s.db.ratings.rows.map RetailUsageRating.key⟩
  | (.error _, _) => s.setRun run ⟨config, .failed, [], []⟩

/-- Settle one candidate; an error ends the run. -/
def RatingState.settle (s : RatingState) (run : RunId) (c : ListedCandidate)
    (rest : List ListedCandidate) : RatingState :=
  match transaction (settleRatingCandidate c.toRow (s.runs run).config) s.database with
  | (.ok posted, db) =>
    { s with
      db
      ratedAs := if posted.isSome then Function.update s.ratedAs c.key (some c) else s.ratedAs
      }.setRun run { s.runs run with step := .settling rest }
  | (.error _, db) => { s with db }.setRun run { s.runs run with step := .failed }

/-- Only a run that enforces goes on to the account states. -/
def afterSettling : RatingMode → SettlementStep
  | .shadow => .idle
  | .enforce => .reconciling

def applyAssignment (now : Timestamp) (a : BilledAssignment) : BilledAssignment :=
  { a with appliedAt := some now }

def revokeAssignment (now : Timestamp) (a : BilledAssignment) : BilledAssignment :=
  { a with revokedAt := some now }

/-- Rewrite the assignment with an identifier. -/
def updateAssignment (assignments : List BilledAssignment) (id : Identifier)
    (f : BilledAssignment → BilledAssignment) : List BilledAssignment :=
  assignments.map fun a => if a.id = id then f a else a

def step (s : RatingState) : RatingEvent → Option RatingState
  | .openAccount accountId =>
    match s.db.usage.pilotPlan with
    | some pilot =>
      if accountId ∉ s.db.usage.accounts then
        some (s.setUsage { s.db.usage with
          accounts := s.db.usage.accounts ++ [accountId]
          planAssignments := s.db.usage.planAssignments ++ [⟨accountId, pilot.id, s.clock, none⟩] })
      else none
    | none => none
  | .createPlan plan =>
    if ∃ p ∈ s.db.usage.planVersions, p.id = plan.id ∨
      (p.code = plan.code ∧ p.version = plan.version)
    then none
    else some (s.setUsage { s.db.usage with planVersions := s.db.usage.planVersions ++ [plan] })
  | .assignBillingPlan accountId planCode planVersion =>
    some { s with
      db := (transaction (Rating.assignBillingPlan accountId planCode planVersion) s.database).2 }
  | .readBilling accountId =>
    some { s with db := (transaction (ensurePrepaidBillingState accountId) s.database).2 }
  | .moveMoney books => some { s with db := { s.db with books } }
  | .openSession session =>
    if (∃ s' ∈ s.db.usage.sessions, s'.id = session.id) ∨
        ∃ accountId ∈ session.accountId, accountId ∉ s.db.usage.accounts then none
    else some (s.setUsage { s.db.usage with sessions := s.db.usage.sessions ++ [session] })
  | .assignGate id sessionId role =>
    if (∃ a ∈ s.db.usage.assignments, a.id = id ∨ (a.sessionId = sessionId ∧ a.role = role)) ∨
        ¬ ∃ s' ∈ s.db.usage.sessions, s'.id = sessionId then none
    else some (s.setUsage { s.db.usage with
      assignments := s.db.usage.assignments ++ [⟨id, sessionId, role, none, none⟩] })
  | .reportApplied assignmentId =>
    some (s.setUsage { s.db.usage with
      assignments := updateAssignment s.db.usage.assignments assignmentId
        (applyAssignment s.clock) })
  | .reportRevoked assignmentId =>
    some (s.setUsage { s.db.usage with
      assignments := updateAssignment s.db.usage.assignments assignmentId
        (revokeAssignment s.clock) })
  | .recordUsage delta =>
    if ∃ d ∈ s.db.usage.usageDeltas, d.sampleId = delta.sampleId then none
    else some (s.setUsage { s.db.usage with usageDeltas := s.db.usage.usageDeltas ++ [delta] })
  | .settleRetailBilling run config now =>
    if (s.runs run).step = .idle then some (s.list run config (settlementCutoff config now))
    else none
  | .settleNext run =>
    match (s.runs run).step with
    | .settling [] =>
      some (s.setRun run
        { s.runs run with step := afterSettling (s.runs run).config.mode })
    | .settling (c :: rest) => some (s.settle run c rest)
    | _ => none
  | .reconciled run =>
    if (s.runs run).step = .reconciling then
      some (s.setRun run { s.runs run with step := .idle })
    else none
  | .timePasses microseconds => some { s with clock := s.clock + microseconds }

end Hyperspace.Rating
