import Hyperspace.ControlPlane.Phases
import Hyperspace.Foundations.Tables

/-!
# The billing tables

Identifiers, signatures, addresses and other texts that the code only compares are numbers.
Timestamps count microseconds, the precision of `timestamptz`. A row carries the CHECK
constraints and column types of its table as a field, so a row that the database would refuse
cannot be built.
-/

namespace Hyperspace.Billing

open Hyperspace.ControlPlane
open Hyperspace.Foundations

abbrev AccountId := Nat
abbrev SessionId := Nat
abbrev Identifier := Nat
abbrev Mint := Nat

/-- Microseconds since the epoch. -/
abbrev Timestamp := Int

/-- What a JavaScript `Date` keeps of a timestamp: whole milliseconds. -/
def jsDate (t : Timestamp) : Timestamp := t / 1000 * 1000

/-- `Date.parse` of a `Date`, which it reads as the text of the date: whole seconds. -/
def dateParse (t : Timestamp) : Timestamp := t / 1000000 * 1000000

theorem dateParse_le {t : Timestamp} : dateParse t ≤ t :=
  Int.ediv_mul_le t (by decide)

/-- The range of an `int` cast or column. -/
def FitsInt (n : Int) : Prop := -2 ^ 31 ≤ n ∧ n < 2 ^ 31

/-- The range of a `bigint` column. -/
def FitsBigint (n : Int) : Prop := -2 ^ 63 ≤ n ∧ n < 2 ^ 63

instance (n : Int) : Decidable (FitsInt n) := inferInstanceAs (Decidable (_ ∧ _))
instance (n : Int) : Decidable (FitsBigint n) := inferInstanceAs (Decidable (_ ∧ _))

/-- A `bigint` column with `CHECK (column >= 0)`. -/
def IsAmount (n : Int) : Prop := 0 ≤ n ∧ FitsBigint n

instance (n : Int) : Decidable (IsAmount n) := inferInstanceAs (Decidable (_ ∧ _))

/-- `source_type` of ledger entries, rated events and cash sweeps. -/
inductive SourceType where
  | adminManualCredit
  | solanaDirectDeposit
  | retailUsageRating
  | withdrawalRequest
  | ratedUsageEvent
  | doublezeroUsageRecord
  | directDepositDebtRepayment
  | other (name : Identifier)
  deriving DecidableEq, Repr

/-- `entry_type` of a ledger entry. -/
inductive EntryType where
  | topup
  | manualCredit
  | usageCharge
  | withdrawal
  | usage
  deriving DecidableEq, Repr

/-- The four balances of an account as the code reads and writes them. -/
structure BillingBucketsRow where
  cashMinor : Int
  promotionalMinor : Int
  reservedWithdrawalMinor : Int
  debtMinor : Int
  deriving DecidableEq, Repr

/-- The constraints of `billing_balance_buckets`. -/
def BillingBucketsRow.Valid (b : BillingBucketsRow) : Prop :=
  IsAmount b.cashMinor ∧ IsAmount b.promotionalMinor ∧ IsAmount b.reservedWithdrawalMinor ∧
    IsAmount b.debtMinor ∧ b.reservedWithdrawalMinor ≤ b.cashMinor

instance (b : BillingBucketsRow) : Decidable b.Valid := inferInstanceAs (Decidable (_ ∧ _))

/-- A stored row of `billing_balance_buckets`. -/
abbrev StoredBuckets := { b : BillingBucketsRow // b.Valid }

/-- The row the account trigger inserts. -/
def emptyBuckets : StoredBuckets := ⟨⟨0, 0, 0, 0⟩, by decide⟩

/-- A stored non-negative `bigint`. -/
abbrev StoredAmount := { n : Int // IsAmount n }

def zeroAmount : StoredAmount := ⟨0, by decide⟩

/-- A row of `balance_ledger_entries`. -/
structure LedgerEntry where
  accountId : AccountId
  entryType : EntryType
  amountMinor : Int
  currency : String
  sourceType : SourceType
  sourceId : Identifier
  deriving DecidableEq, Repr

/-- `balance_ledger_entries_source_idx`. -/
def LedgerEntry.key (entry : LedgerEntry) : SourceType × Identifier :=
  (entry.sourceType, entry.sourceId)

/-- `rating_mode`: whether a rating is charged or only recorded. -/
inductive RatingMode where
  | shadow
  | enforce
  deriving DecidableEq, Repr

/-- A row of `retail_usage_ratings`. -/
structure RetailUsageRating where
  id : Identifier
  accountId : AccountId
  sessionId : SessionId
  planVersionId : Identifier
  windowStart : Timestamp
  windowEnd : Timestamp
  activeSeconds : Int
  bytesToDestination : Int
  bytesFromDestination : Int
  chargeMicrominor : Int
  postedChargeMinor : Int
  mode : RatingMode
  window_nonempty : windowStart < windowEnd
  activeSeconds_valid : 0 ≤ activeSeconds ∧ FitsInt activeSeconds
  bytes_valid : IsAmount bytesToDestination ∧ IsAmount bytesFromDestination
  charge_valid : IsAmount chargeMicrominor

/-- `UNIQUE (session_id, window_start, window_end)`. -/
def RetailUsageRating.key (rating : RetailUsageRating) : SessionId × Timestamp × Timestamp :=
  (rating.sessionId, rating.windowStart, rating.windowEnd)

/-- `status` of a cash sweep. -/
inductive CashSweepStatus where
  | pending
  | processing
  | submitted
  | confirmed
  | failed
  | cancelled
  deriving DecidableEq, Repr

/-- A row of `billing_cash_sweep_requests`, which is named by its source; see `key`. -/
structure CashSweepRequest where
  accountId : AccountId
  sourceType : SourceType
  sourceId : Identifier
  amountMinor : Int
  tokenMint : Mint
  tokenAmountBaseUnits : Int
  status : CashSweepStatus
  transactionSignature : Option Identifier
  attemptCount : Nat
  nextAttemptAt : Timestamp
  createdAt : Timestamp
  submittedAt : Option Timestamp
  amount_valid : 0 < amountMinor ∧ FitsBigint amountMinor
  token_valid : 0 < tokenAmountBaseUnits ∧ FitsBigint tokenAmountBaseUnits

/-- `UNIQUE (source_type, source_id)`. No row has two sources, so the source stands for `id`. -/
def CashSweepRequest.key (sweep : CashSweepRequest) : SourceType × Identifier :=
  (sweep.sourceType, sweep.sourceId)

/-- A row of `solana_payment_receipts`; its `source_id` is the signature once more. -/
structure SolanaPaymentReceipt where
  transactionSignature : Identifier
  accountId : AccountId
  tokenMint : Mint
  amountBaseUnits : Int
  creditedAmountMinor : Int
  amount_valid : 0 < amountBaseUnits ∧ FitsBigint amountBaseUnits
  credited_valid : IsAmount creditedAmountMinor

/-- `status` of a withdrawal request. -/
inductive WithdrawalStatus where
  | cooldown
  | ready
  | processing
  | submitted
  | confirmed
  | rejected
  | cancelled
  | failed
  deriving DecidableEq, Repr

/-- The amount of the withdrawal is still reserved. -/
def WithdrawalStatus.isReserved : WithdrawalStatus → Bool
  | .cooldown | .ready | .processing | .submitted | .failed => true
  | .confirmed | .rejected | .cancelled => false

/-- A row of `withdrawal_requests`. -/
structure WithdrawalRequest where
  id : Identifier
  accountId : AccountId
  requestedByUserId : Identifier
  status : WithdrawalStatus
  amountMinor : Int
  currency : String
  tokenMint : Mint
  tokenAmountBaseUnits : Int
  destinationAddress : Identifier
  eligibleAt : Timestamp
  transactionSignature : Option Identifier
  requestedAt : Timestamp
  updatedAt : Timestamp
  submittedAt : Option Timestamp
  amount_valid : 0 < amountMinor ∧ FitsBigint amountMinor
  token_valid : 0 < tokenAmountBaseUnits ∧ FitsBigint tokenAmountBaseUnits

/-- A row of `rated_usage_events`. -/
structure RatedUsageEvent where
  id : Identifier
  accountId : AccountId
  sessionId : Option SessionId
  sourceType : SourceType
  sourceId : Identifier
  windowStart : Timestamp
  windowEnd : Timestamp
  bytesIn : Int
  bytesOut : Int
  costMinor : Int
  markupBps : Int
  chargeMinor : Int
  currency : String

/-- `rated_usage_events_source_idx`. -/
def RatedUsageEvent.key (event : RatedUsageEvent) : SourceType × Identifier :=
  (event.sourceType, event.sourceId)

/-- The columns of `sessions` and `session_status` that billing reads. -/
structure BilledSession where
  id : SessionId
  accountId : Option AccountId
  desiredState : DesiredSessionState
  phase : SessionPhase
  deriving DecidableEq, Repr

/-- The columns of `gate_assignments` and `gate_assignment_status` that billing reads. -/
structure BilledAssignment where
  id : Identifier
  sessionId : SessionId
  role : GateAssignmentRole
  appliedAt : Option Timestamp
  revokedAt : Option Timestamp
  deriving DecidableEq, Repr

/-- A row of `gate_assignment_usage_deltas`. -/
structure UsageDelta where
  sampleId : Identifier
  assignmentId : Identifier
  role : GateAssignmentRole
  windowStart : Timestamp
  windowEnd : Timestamp
  forwardedToDestinationBytes : Nat
  forwardedFromDestinationBytes : Nat
  deriving DecidableEq, Repr

/-- A row of `billing_plan_versions`. -/
structure BillingPlanVersion where
  id : Identifier
  code : String
  version : Int
  activeConfigMonthlyMinor : Int
  trafficPerGbMinor : Int
  gracePeriodSeconds : Int
  withdrawalCooldownSeconds : Int
  minimumWithdrawalMinor : Int
  retiredAt : Option Timestamp
  deriving DecidableEq, Repr

/-- A row of `billing_account_plan_assignments`. -/
structure PlanAssignment where
  accountId : AccountId
  planVersionId : Identifier
  startsAt : Timestamp
  endsAt : Option Timestamp
  deriving DecidableEq, Repr

/-- The tables that hold money or a claim on it. -/
structure Books where
  buckets : AccountId → StoredBuckets
  ledger : Table LedgerEntry.key
  sweeps : Table CashSweepRequest.key
  receipts : Table SolanaPaymentReceipt.transactionSignature
  depositRemainders : AccountId → Mint → StoredAmount
  withdrawals : Table WithdrawalRequest.id

/-- The tables other parts of the control plane write and billing reads. -/
structure UsageTables where
  accounts : List AccountId
  users : List Identifier
  sessions : List BilledSession
  assignments : List BilledAssignment
  usageDeltas : List UsageDelta
  planVersions : List BillingPlanVersion
  planAssignments : List PlanAssignment

/-- The billing tables. -/
structure BillingDb where
  books : Books
  accruals : AccountId → StoredAmount
  ratings : Table RetailUsageRating.key
  ratedUsageEvents : Table RatedUsageEvent.key
  usage : UsageTables
  /-- Row identifiers below this one are taken. -/
  nextId : Identifier
  /-- The transaction timestamp `now()`. -/
  now : Timestamp

/-- The ledger balance of an account. -/
def Books.ledgerBalance (books : Books) (accountId : AccountId) : Int :=
  books.ledger.sum fun entry => if entry.accountId = accountId then entry.amountMinor else 0

end Hyperspace.Billing
