import Hyperspace.Billing.History
import Hyperspace.Payments.Chain

/-!
# The withdrawal and revenue sweep workers

`runOnce` of `createSolanaWithdrawalLoop` and of `createSolanaRevenueSweepLoop`. The two loops
take the same steps against different tables: list the submitted requests, ask for the statuses of
their signatures, fail or confirm them one by one, then claim one request, sign a transfer for it,
record its signature and send it. Any number of workers run at once; a step of a worker is one
transaction or one RPC request. A worker that crashes takes no further step.
-/

namespace Hyperspace.Payouts

open Hyperspace.Billing Hyperspace.Foundations Hyperspace.Payments

abbrev WorkerId := Nat

/-- The worker that pays a request. -/
inductive PayoutKind where
  | withdrawal
  | sweep
  deriving DecidableEq, Repr

/-- A row of either table, by its key. -/
inductive PayoutRequest where
  | withdrawal (id : Identifier)
  | sweep (source : SourceType × Identifier)
  deriving DecidableEq

/-- A signed transfer; everything in it but the blockhash comes from the request. -/
structure PayoutTransfer where
  request : PayoutRequest
  recentBlockhash : Nat
  deriving DecidableEq

/-- Different transfers have different signatures. -/
structure Signing where
  signatureOf : PayoutTransfer → Identifier
  injective : Function.Injective signatureOf

/-- What a confirmation pass keeps of a listed request. -/
structure SubmittedPayout where
  request : PayoutRequest
  accountId : AccountId
  transactionSignature : Option Identifier
  submittedAt : Option Timestamp
  deriving DecidableEq

/-! ### The transactions of the two loops -/

def listConfirmations : PayoutKind → Tx (List SubmittedPayout)
  | .withdrawal => do
    let withdrawals ← listSubmittedWithdrawals 100
    return withdrawals.map fun w =>
      ⟨.withdrawal w.id, w.accountId, w.transactionSignature, w.submittedAt⟩
  | .sweep => do
    let sweeps ← listSubmittedCashSweeps 100
    return sweeps.map fun sweep =>
      ⟨.sweep sweep.key, sweep.accountId, sweep.transactionSignature, sweep.submittedAt⟩

def PayoutRequest.withdrawalId : PayoutRequest → Option Identifier
  | .withdrawal id => some id
  | .sweep _ => none

def PayoutRequest.sweepSource : PayoutRequest → Option (SourceType × Identifier)
  | .withdrawal _ => none
  | .sweep source => some source

/-- The claimed request, where `locked` are the rows other transactions hold. -/
def claimSigningJob (kind : PayoutKind) (locked : List PayoutRequest) (key : CustodialKey) :
    Tx (Option PayoutRequest) :=
  match kind with
  | .withdrawal => do
    let job ← claimWithdrawalSigningJob (locked.filterMap (·.withdrawalId)) key
    return job.map fun w => .withdrawal w.id
  | .sweep => do
    let job ← claimCashSweepSigningJob (locked.filterMap (·.sweepSource)) key
    return job.map fun sweep => .sweep sweep.key

def recordSubmission (request : PayoutRequest) (signature : Identifier) : Tx Unit :=
  match request with
  | .withdrawal id => recordWithdrawalSubmission id signature
  | .sweep source => recordCashSweepSubmission source signature

def failSubmission : PayoutRequest → Tx Unit
  | .withdrawal id => failWithdrawalSubmission id
  | .sweep source => failCashSweep source

def confirmSubmission (accountId : AccountId) : PayoutRequest → Tx Unit
  | .withdrawal id => confirmWithdrawal accountId id
  | .sweep source => confirmCashSweep source

/-! ### What a request holds -/

/-- Where a payout stands; `waiting` is any other status. -/
inductive PayoutStatus where
  | waiting
  | processing
  | submitted
  | confirmed
  | cancelled
  deriving DecidableEq, Repr

/-- The columns of a request that decide whether it is paid. -/
structure Payout where
  status : PayoutStatus
  signature : Option Identifier
  deriving DecidableEq, Repr

def withdrawalPayout (w : WithdrawalRequest) : Payout where
  status :=
    match w.status with
    | .cooldown | .ready | .rejected | .failed => .waiting
    | .processing => .processing
    | .submitted => .submitted
    | .confirmed => .confirmed
    | .cancelled => .cancelled
  signature := w.transactionSignature

def sweepPayout (sweep : CashSweepRequest) : Payout where
  status :=
    match sweep.status with
    | .pending | .failed => .waiting
    | .processing => .processing
    | .submitted => .submitted
    | .confirmed => .confirmed
    | .cancelled => .cancelled
  signature := sweep.transactionSignature

def payoutOf (books : Books) : PayoutRequest → Option Payout
  | .withdrawal id => (books.withdrawals.find? id).map withdrawalPayout
  | .sweep source => (books.sweeps.find? source).map sweepPayout

/-! ### A worker -/

/-- Where a pass of a worker stands. -/
inductive WorkerStep where
  | idle
  | listing
  | askingStatuses (items : List SubmittedPayout)
  | examining (items : List (SubmittedPayout × SignatureStatus))
  | failing (item : SubmittedPayout) (rest : List (SubmittedPayout × SignatureStatus))
  | confirming (item : SubmittedPayout) (rest : List (SubmittedPayout × SignatureStatus))
  | claiming
  | building (request : PayoutRequest)
  | recording (transfer : PayoutTransfer)
  | sending (transfer : PayoutTransfer)
  /-- The `catch` block of a submission that was not recorded. -/
  | failingClaim (request : PayoutRequest)
  deriving DecidableEq

structure Worker where
  kind : PayoutKind
  step : WorkerStep
  deriving DecidableEq

/-- `Date.now() - Date.parse(submittedAt) > 10 * 60 * 1000`. -/
def Unobserved (now : Timestamp) (submittedAt : Option Timestamp) : Prop :=
  ∃ t ∈ submittedAt, 600000000 < jsDate now - dateParse t

instance (now : Timestamp) (submittedAt : Option Timestamp) :
    Decidable (Unobserved now submittedAt) :=
  inferInstanceAs (Decidable (∃ t ∈ submittedAt, 600000000 < jsDate now - dateParse t))

/-- The decision of the confirmation pass on one request. -/
def examine (now : Timestamp) (item : SubmittedPayout) (status : SignatureStatus)
    (rest : List (SubmittedPayout × SignatureStatus)) : WorkerStep :=
  match status with
  | .err => .failing item rest
  | .finalized => .confirming item rest
  | .notFinalized => .examining rest
  | .notFound => if Unobserved now item.submittedAt then .failing item rest else .examining rest

/-! ### The system -/

/-- Billing with the workers that pay out and the chain they pay on. -/
structure PayoutState where
  db : BillingDb
  /-- The clock of the database and of the workers. -/
  clock : Timestamp
  workers : WorkerId → Worker
  /-- What became of the transfer with a signature. -/
  chain : Identifier → Fate
  /-- When a signature was last recorded as submitted. -/
  recordedAt : Identifier → Option Timestamp

/-- What comes back from the request a step makes. -/
inductive WorkerAnswer where
  | database
  /-- The transaction was committed and its answer lost. -/
  | databaseLost
  | statuses (statuses : List SignatureStatus)
  | clock
  | claim (locked : List PayoutRequest) (key : CustodialKey)
  | blockhash (recentBlockhash : Nat)
  | sendAccepted
  | sendLost
  | sendRejected
  deriving DecidableEq

inductive PayoutEvent where
  | runOnce (worker : WorkerId) (kind : PayoutKind)
  | proceed (worker : WorkerId) (answer : WorkerAnswer)
  | exception (worker : WorkerId)
  /-- A transaction of another part of billing. -/
  | billing (op : BillingOp)
  /-- The tables that billing only reads change. -/
  | usage (usage : UsageTables)
  | timePasses (microseconds : Nat)
  | land (signature : Identifier) (successful : Bool)
  | finalize (signature : Identifier)

/-- The operations of users, deposits and rating; they make requests and cancel them. -/
def Foreign : BillingOp → Prop
  | .applyBillingCredit input => input.sourceType ≠ .withdrawalRequest
  | .settleRatingCandidate _ _ | .creditDirectDeposit _ _ _ _ | .createWithdrawalRequest _ _ _
  | .cancelOwnedWithdrawal _ _ => True
  | .claimWithdrawalSigningJob _ _ | .recordWithdrawalSubmission _ _
  | .failWithdrawalSubmission _ | .confirmWithdrawal _ _ | .importDoubleZeroUsage _ _
  | .environment _ _ => False

instance : (op : BillingOp) → Decidable (Foreign op)
  | .applyBillingCredit input =>
    inferInstanceAs (Decidable (input.sourceType ≠ .withdrawalRequest))
  | .settleRatingCandidate _ _ | .creditDirectDeposit _ _ _ _ | .createWithdrawalRequest _ _ _
  | .cancelOwnedWithdrawal _ _ => inferInstanceAs (Decidable True)
  | .claimWithdrawalSigningJob _ _ | .recordWithdrawalSubmission _ _
  | .failWithdrawalSubmission _ | .confirmWithdrawal _ _ | .importDoubleZeroUsage _ _
  | .environment _ _ => inferInstanceAs (Decidable False)

/-- The database as a transaction that starts now sees it. -/
def PayoutState.database (s : PayoutState) : BillingDb := { s.db with now := s.clock }

def PayoutState.goto (s : PayoutState) (worker : WorkerId) (next : WorkerStep) : PayoutState :=
  { s with workers := Function.update s.workers worker { s.workers worker with step := next } }

def PayoutState.setFate (s : PayoutState) (signature : Identifier) (fate : Fate) : PayoutState :=
  { s with chain := Function.update s.chain signature fate }

def PayoutState.send (s : PayoutState) (signature : Identifier) : PayoutState :=
  if s.chain signature = .unsent then s.setFate signature .sent else s

/-- No more than ten minutes have passed since the signature was recorded as submitted. -/
def PayoutState.InTime (s : PayoutState) (signature : Identifier) : Prop :=
  ∀ t ∈ s.recordedAt signature, s.clock ≤ t + 600000000

instance (s : PayoutState) (signature : Identifier) : Decidable (s.InTime signature) :=
  inferInstanceAs (Decidable (∀ t ∈ s.recordedAt signature, s.clock ≤ t + 600000000))

/-- A transfer lands in time or never. -/
def PayoutState.MayLand (s : PayoutState) (signature : Identifier) : Prop :=
  s.chain signature = .sent ∧ s.InTime signature

instance (s : PayoutState) (signature : Identifier) : Decidable (s.MayLand signature) :=
  inferInstanceAs (Decidable (_ ∧ _))

/-- Run a transaction of a worker and go on by what it returns. -/
def PayoutState.transact {α : Type} (s : PayoutState) (worker : WorkerId) (body : Tx α)
    (next : α → WorkerStep) (onError : WorkerStep) : PayoutState :=
  match transaction body s.database with
  | (.ok a, db) => { s with db }.goto worker (next a)
  | (.error _, db) => { s with db }.goto worker onError

/-- `recordedAt` after an update of a request that it finds in `processing`. -/
def PayoutState.recorded (s : PayoutState) (request : PayoutRequest) (signature : Identifier) :
    Identifier → Option Timestamp :=
  if ∃ p ∈ payoutOf s.db.books request, p.status = .processing then
    Function.update s.recordedAt signature (some s.clock)
  else s.recordedAt

/-- Record a signed transfer; whether the update finds the request is not looked at. -/
def PayoutState.record (s : PayoutState) (worker : WorkerId) (transfer : PayoutTransfer)
    (signature : Identifier) (next : WorkerStep) : PayoutState :=
  match transaction (recordSubmission transfer.request signature) s.database with
  | (.ok (), db) =>
    { s with db, recordedAt := s.recorded transfer.request signature }.goto worker next
  | (.error _, db) => { s with db }.goto worker (.failingClaim transfer.request)

/-- The signature of the status query is the empty text where there is none. -/
def TruthfulStatus (chain : Identifier → Fate) (item : SubmittedPayout)
    (status : SignatureStatus) : Prop :=
  match item.transactionSignature with
  | some signature => (chain signature).AgreesWithHistory status
  | none => status = .notFound

instance (chain : Identifier → Fate) (item : SubmittedPayout) (status : SignatureStatus) :
    Decidable (TruthfulStatus chain item status) :=
  match h : item.transactionSignature with
  | some signature =>
    decidable_of_iff ((chain signature).AgreesWithHistory status) (by rw [TruthfulStatus, h])
  | none => decidable_of_iff (status = .notFound) (by rw [TruthfulStatus, h])

variable (signing : Signing)

/-- One step of `runOnce`. -/
def proceed (s : PayoutState) (worker : WorkerId) : WorkerStep → WorkerAnswer → Option PayoutState
  | .listing, .database =>
    some (s.transact worker (listConfirmations (s.workers worker).kind)
      (fun items => if items.isEmpty then .claiming else .askingStatuses items) .idle)
  | .askingStatuses items, .statuses statuses =>
    if List.Forall₂ (TruthfulStatus s.chain) items statuses then
      some (s.goto worker (.examining (items.zip statuses)))
    else none
  | .examining [], .clock => some (s.goto worker .claiming)
  | .examining ((item, status) :: rest), .clock =>
    some (s.goto worker (examine s.clock item status rest))
  | .failing item rest, .database =>
    some (s.transact worker (failSubmission item.request) (fun _ => .examining rest) .idle)
  | .confirming item rest, .database =>
    some (s.transact worker (confirmSubmission item.accountId item.request)
      (fun _ => .examining rest) .idle)
  | .claiming, .claim locked key =>
    some (s.transact worker (claimSigningJob (s.workers worker).kind locked key)
      (fun job => match job with
        | none => .idle
        | some request => .building request) .idle)
  | .building request, .blockhash recentBlockhash =>
    some (s.goto worker (.recording ⟨request, recentBlockhash⟩))
  | .recording transfer, .database =>
    some (s.record worker transfer (signing.signatureOf transfer) (.sending transfer))
  | .recording transfer, .databaseLost =>
    some (s.record worker transfer (signing.signatureOf transfer) (.failingClaim transfer.request))
  | .sending transfer, .sendAccepted | .sending transfer, .sendLost =>
    some ((s.send (signing.signatureOf transfer)).goto worker .idle)
  | .sending _, .sendRejected => some (s.goto worker .idle)
  | .failingClaim request, .database =>
    some (s.transact worker (failSubmission request) (fun _ => .idle) .idle)
  | _, _ => none

/-- Where an exception leads: to the `catch` block, or out of `runOnce`. -/
def WorkerStep.onException : WorkerStep → Option WorkerStep
  | .idle => none
  | .building request => some (.failingClaim request)
  | .recording transfer => some (.failingClaim transfer.request)
  | _ => some .idle

def step (s : PayoutState) : PayoutEvent → Option PayoutState
  | .runOnce worker kind =>
    if (s.workers worker).step = .idle then
      some { s with workers := Function.update s.workers worker ⟨kind, .listing⟩ }
    else none
  | .proceed worker answer => proceed signing s worker (s.workers worker).step answer
  | .exception worker => (s.workers worker).step.onException.map (s.goto worker)
  | .billing op => if Foreign op then some { s with db := op.apply s.database } else none
  | .usage usage => some { s with db := { s.db with usage } }
  | .timePasses microseconds => some { s with clock := s.clock + microseconds }
  | .land signature successful =>
    if s.MayLand signature then
      some (s.setFate signature (if successful then .landed else .failed))
    else none
  | .finalize signature =>
    if s.chain signature = .landed then some (s.setFate signature .finalized) else none

/-- No request has been made and no worker has run. -/
def noPayouts (usage : UsageTables) (now : Timestamp) : PayoutState where
  db := emptyDb usage now
  clock := now
  workers := fun _ => ⟨.withdrawal, .idle⟩
  chain := fun _ => .unsent
  recordedAt := fun _ => none

end Hyperspace.Payouts
