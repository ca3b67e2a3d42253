import Hyperspace.Billing.Schema
import Hyperspace.Foundations.Runs
import Hyperspace.Payments.Chain

/-!
# Native SOL config payments

`charge` of `createSolanaConfigPaymentService` for one payment id, with any number of calls in
flight. A step of a call is one database statement or one RPC request; it brings the call from one
`ChargeStep` to the next. The source wallet, the treasury, the amount and the memo are the same in
every call that gets past `ensureSolanaConfigPayment`, so a signed transfer, and its signature, are
determined by its blockhash.
-/

namespace Hyperspace.Payments

open Hyperspace.Billing Hyperspace.Foundations

/-- A signed transfer of the payment, named by its recent blockhash. -/
abbrev Transfer := Nat
abbrev CallId := Nat
abbrev Address := Nat

/-- `status` of a config payment. -/
inductive SolanaConfigPaymentStatus where
  | pending
  | processing
  | submitted
  | confirmed
  | failed
  deriving DecidableEq, Repr

/-- `failure_code` of a config payment. -/
inductive FailureCode where
  | unsupportedWalletKey
  | treasuryNotInitialized
  | insufficientFunds
  | transactionFailed
  | transactionSimulationFailed
  | paymentError
  deriving DecidableEq, Repr

/-- What `ensureSolanaConfigPayment` is called with. -/
structure ConfigPaymentInput where
  accountId : AccountId
  sessionId : SessionId
  sourceWalletAddress : Address
  treasuryAddress : Address
  amountLamports : Nat
  trafficLimitBytes : Nat
  deriving DecidableEq, Repr

/-- A row of `solana_config_payments`. -/
structure SolanaConfigPayment where
  accountId : AccountId
  sessionId : Option SessionId
  sourceWalletAddress : Address
  treasuryAddress : Address
  amountLamports : Nat
  trafficLimitBytes : Nat
  feeLamports : Option Nat
  status : SolanaConfigPaymentStatus
  transactionSignature : Option Transfer
  rawTransaction : Option Transfer
  lastValidBlockHeight : Option Nat
  failureCode : Option FailureCode
  processingStartedAt : Option Timestamp
  deriving DecidableEq, Repr

/-! ### The statements -/

/-- `ensureSolanaConfigPayment`: the row that is inserted where there is none. -/
def ConfigPaymentInput.newPayment (input : ConfigPaymentInput) : SolanaConfigPayment where
  accountId := input.accountId
  sessionId := some input.sessionId
  sourceWalletAddress := input.sourceWalletAddress
  treasuryAddress := input.treasuryAddress
  amountLamports := input.amountLamports
  trafficLimitBytes := input.trafficLimitBytes
  feeLamports := none
  status := .pending
  transactionSignature := none
  rawTransaction := none
  lastValidBlockHeight := none
  failureCode := none
  processingStartedAt := none

def SolanaConfigPayment.linkSession (p : SolanaConfigPayment) (sessionId : SessionId) :
    SolanaConfigPayment :=
  if p.sessionId = none then { p with sessionId := some sessionId } else p

/-- The `WHERE` of `claimSolanaConfigPaymentProcessing`. -/
def SolanaConfigPayment.Claimable (p : SolanaConfigPayment) (now : Timestamp) : Prop :=
  p.status = .pending ∨ p.status = .failed ∨
    (p.status = .processing ∧ ∃ t ∈ p.processingStartedAt, t < now - 120000000)

instance (p : SolanaConfigPayment) (now : Timestamp) : Decidable (p.Claimable now) :=
  inferInstanceAs (Decidable (_ ∨ _ ∨ (_ ∧ ∃ t ∈ p.processingStartedAt, t < now - 120000000)))

def SolanaConfigPayment.claim (p : SolanaConfigPayment) (now : Timestamp) : SolanaConfigPayment :=
  { p with status := .processing, processingStartedAt := some now, failureCode := none }

def SolanaConfigPayment.recordSubmission (p : SolanaConfigPayment) (transfer : Transfer)
    (lastValidBlockHeight feeLamports : Nat) : SolanaConfigPayment :=
  { p with
    status := .submitted
    transactionSignature := some transfer
    rawTransaction := some transfer
    lastValidBlockHeight := some lastValidBlockHeight
    feeLamports := some feeLamports }

def SolanaConfigPayment.recordFeeEstimate (p : SolanaConfigPayment) (feeLamports : Nat) :
    SolanaConfigPayment :=
  { p with feeLamports := some feeLamports }

def SolanaConfigPayment.confirm (p : SolanaConfigPayment) : SolanaConfigPayment :=
  { p with status := .confirmed }

def SolanaConfigPayment.fail (p : SolanaConfigPayment) (code : FailureCode) :
    SolanaConfigPayment :=
  { p with status := .failed, failureCode := some code }

/-! ### A call -/

/-- What a call for a payment answers. -/
inductive ConfigPaymentResult where
  | confirmed (signature : Transfer) (feeLamports : Nat)
  | insufficientFunds (availableLamports requiredLamports : Nat)
  | treasuryUnavailable (availableLamports requiredLamports : Nat)
  | inProgress
  | failed (reason : FailureCode)
  deriving DecidableEq, Repr

/-- The errors of a submission that the code tells apart. -/
inductive ChargeError where
  | alreadyProcessed
  | simulationFailure
  | other
  deriving DecidableEq, Repr

/-- What a call does next. `guarded` tells whether an exception is caught. -/
inductive ChargeStep where
  | insertPayment
  | readPayment
  | linkSession
  | readLinkedPayment
  | recoverStatus (payment : SolanaConfigPayment) (signature : Transfer)
  | recoverBlockHeight (payment : SolanaConfigPayment) (signature raw : Transfer)
      (lastValidBlockHeight : Nat)
  | recoverSend (payment : SolanaConfigPayment) (signature raw : Transfer)
  /-- The status after a send that found the transfer already processed. -/
  | recheckStatus (signature : Transfer) (feeLamports : Nat)
  | claim
  | readUnclaimed
  | unlockKey
  | readTreasury
  | latestBlockhash (rentExemption : Nat)
  | feeForMessage (rentExemption : Nat) (transfer : Transfer)
  | recordFeeEstimate (rentExemption : Nat) (transfer : Transfer) (feeLamports : Nat)
  | sourceBalance (rentExemption : Nat) (transfer : Transfer) (feeLamports : Nat)
  | recordSubmission (transfer : Transfer) (feeLamports : Nat)
  | send (transfer : Transfer) (feeLamports : Nat)
  | awaitStatus (transfer : Transfer) (feeLamports : Nat)
  | fail (code : FailureCode) (guarded : Bool) (result : ConfigPaymentResult)
  | confirm (signature : Transfer) (guarded : Bool) (result : ConfigPaymentResult)
  | readAfterError (error : ChargeError)
  | returned (result : ConfigPaymentResult)
  | thrown
  deriving DecidableEq, Repr

/-- What comes back from the request a step makes. -/
inductive StepAnswer where
  | database
  | status (status : SignatureStatus)
  | blockHeight (height : Nat)
  | walletKey (supported : Bool)
  | treasury (balance rentExemption : Nat)
  | blockhash (transfer : Transfer)
  | fee (lamports : Option Nat)
  | balance (lamports : Nat)
  | sendAccepted
  /-- The request was sent and its answer lost. -/
  | sendLost
  | sendAlreadyProcessed
  | sendSimulationFailed
  deriving DecidableEq, Repr

/-- What a step does to the row or the chain. -/
inductive Statement where
  | read
  | insertPayment (input : ConfigPaymentInput)
  | linkSession (sessionId : SessionId)
  | claim
  | recordFeeEstimate (feeLamports : Nat)
  | recordSubmission (transfer : Transfer) (feeLamports : Nat)
  | confirm
  | fail (code : FailureCode)
  | send (transfer : Transfer)
  deriving DecidableEq, Repr

def requiredConfigPaymentLamports (amountLamports feeLamports accountRentReserveLamports : Nat) :
    Option Nat :=
  if amountLamports = 0 then none
  else some (amountLamports + feeLamports + accountRentReserveLamports)

/-- The checks of `ensureSolanaConfigPayment` against the parameters of the row. -/
def SolanaConfigPayment.Matches (p : SolanaConfigPayment) (input : ConfigPaymentInput) : Prop :=
  p.accountId = input.accountId ∧ p.sourceWalletAddress = input.sourceWalletAddress ∧
    p.treasuryAddress = input.treasuryAddress ∧ p.amountLamports = input.amountLamports ∧
    p.trafficLimitBytes = input.trafficLimitBytes

instance (p : SolanaConfigPayment) (input : ConfigPaymentInput) : Decidable (p.Matches input) :=
  inferInstanceAs (Decidable (_ ∧ _ ∧ _ ∧ _ ∧ _))

/-- `recoverSubmittedPayment` up to its first request, and the claim where it returns null. -/
def recoverSubmittedPayment (p : SolanaConfigPayment) : ChargeStep :=
  match p.status, p.transactionSignature with
  | .confirmed, some signature => .returned (.confirmed signature (p.feeLamports.getD 0))
  | .submitted, some signature => .recoverStatus p signature
  | _, _ => .claim

/-- The same decision is made wherever the status of a transfer was asked for. -/
def afterStatus (status : SignatureStatus) (signature : Transfer) (feeLamports : Nat)
    (guarded : Bool) (otherwise : ChargeStep) : ChargeStep :=
  match status with
  | .err => .fail .transactionFailed guarded (.failed .transactionFailed)
  | .finalized => .confirm signature guarded (.confirmed signature feeLamports)
  | .notFound | .notFinalized => otherwise

/-- The `catch` block after `current` was read. -/
def afterError (error : ChargeError) (current : Option SolanaConfigPayment) : ChargeStep :=
  match current with
  | some p =>
    if p.status = .submitted then
      match error with
      | .alreadyProcessed =>
        match p.transactionSignature with
        | some signature => .recheckStatus signature (p.feeLamports.getD 0)
        | none => .returned .inProgress
      | .simulationFailure =>
        .fail .transactionSimulationFailed false (.failed .transactionSimulationFailed)
      | .other => .thrown
    else .fail .paymentError false (.failed .paymentError)
  | none => .fail .paymentError false (.failed .paymentError)

/-- The step a call takes on an answer: what it does, and what it does next. -/
def advance (input : ConfigPaymentInput) (row : Option SolanaConfigPayment) (now : Timestamp) :
    ChargeStep → StepAnswer → Option (Statement × ChargeStep)
  | .insertPayment, .database =>
    -- `CHECK (amount_lamports > 0)`
    if input.amountLamports = 0 then some (.read, .thrown)
    else some (.insertPayment input, .readPayment)
  | .readPayment, .database =>
    match row with
    | none => some (.read, .thrown)
    | some p =>
      if p.Matches input then
        match p.sessionId with
        | none => some (.read, .linkSession)
        | some sessionId =>
          if sessionId = input.sessionId then some (.read, recoverSubmittedPayment p)
          else some (.read, .thrown)
      else some (.read, .thrown)
  | .linkSession, .database => some (.linkSession input.sessionId, .readLinkedPayment)
  | .readLinkedPayment, .database =>
    match row with
    | none => some (.read, .thrown)
    | some p => some (.read, recoverSubmittedPayment p)
  | .recoverStatus p signature, .status status =>
    some (.read, afterStatus status signature (p.feeLamports.getD 0) false
      (match p.rawTransaction, p.lastValidBlockHeight with
        | some raw, some height => .recoverBlockHeight p signature raw height
        | _, _ => .returned .inProgress))
  | .recoverBlockHeight p signature raw lastValidBlockHeight, .blockHeight height =>
    if height ≤ lastValidBlockHeight then some (.read, .recoverSend p signature raw)
    else some (.read, .returned .inProgress)
  | .recoverSend _ _ raw, .sendAccepted => some (.send raw, .returned .inProgress)
  | .recoverSend _ _ raw, .sendLost => some (.send raw, .thrown)
  | .recoverSend p signature _, .sendAlreadyProcessed =>
    some (.read, .recheckStatus signature (p.feeLamports.getD 0))
  | .recoverSend _ _ _, .sendSimulationFailed => some (.read, .thrown)
  | .recheckStatus signature feeLamports, .status status =>
    some (.read, afterStatus status signature feeLamports false (.returned .inProgress))
  | .claim, .database =>
    if ∃ p ∈ row, p.Claimable now then some (.claim, .unlockKey)
    else some (.read, .readUnclaimed)
  | .readUnclaimed, .database =>
    match row with
    | some p =>
      match p.status, p.transactionSignature with
      | .confirmed, some signature =>
        some (.read, .returned (.confirmed signature (p.feeLamports.getD 0)))
      | _, _ => some (.read, .returned .inProgress)
    | none => some (.read, .returned .inProgress)
  | .unlockKey, .walletKey supported =>
    if supported then some (.read, .readTreasury)
    else some (.read, .fail .unsupportedWalletKey false (.failed .unsupportedWalletKey))
  | .readTreasury, .treasury balance rentExemption =>
    if rentExemption ≤ balance then some (.read, .latestBlockhash rentExemption)
    else some (.read,
      .fail .treasuryNotInitialized true (.treasuryUnavailable balance rentExemption))
  | .latestBlockhash rentExemption, .blockhash transfer =>
    some (.read, .feeForMessage rentExemption transfer)
  | .feeForMessage rentExemption transfer, .fee lamports =>
    match lamports with
    | none => some (.read, .readAfterError .other)
    | some feeLamports => some (.read, .recordFeeEstimate rentExemption transfer feeLamports)
  | .recordFeeEstimate rentExemption transfer feeLamports, .database =>
    some (.recordFeeEstimate feeLamports, .sourceBalance rentExemption transfer feeLamports)
  | .sourceBalance rentExemption transfer feeLamports, .balance availableLamports =>
    match requiredConfigPaymentLamports input.amountLamports feeLamports rentExemption with
    | none => some (.read, .readAfterError .other)
    | some requiredLamports =>
      if availableLamports < requiredLamports then
        some (.read,
          .fail .insufficientFunds true (.insufficientFunds availableLamports requiredLamports))
      else some (.read, .recordSubmission transfer feeLamports)
  | .recordSubmission transfer feeLamports, .database =>
    some (.recordSubmission transfer feeLamports, .send transfer feeLamports)
  | .send transfer feeLamports, .sendAccepted =>
    some (.send transfer, .awaitStatus transfer feeLamports)
  | .send transfer _, .sendLost => some (.send transfer, .readAfterError .other)
  | .send _ _, .sendAlreadyProcessed => some (.read, .readAfterError .alreadyProcessed)
  | .send _ _, .sendSimulationFailed => some (.read, .readAfterError .simulationFailure)
  | .awaitStatus transfer feeLamports, .status status =>
    some (.read, afterStatus status transfer feeLamports true (.returned .inProgress))
  | .fail code _ result, .database => some (.fail code, .returned result)
  | .confirm _ _ result, .database => some (.confirm, .returned result)
  | .readAfterError error, .database => some (.read, afterError error row)
  | _, _ => none

/-- Where an exception leads that no answer tells of: into the `catch` block or out of the call. -/
def ChargeStep.onException : ChargeStep → Option ChargeStep
  | .returned _ | .thrown => none
  | .readTreasury | .latestBlockhash _ | .feeForMessage _ _ | .recordFeeEstimate _ _ _
  | .sourceBalance _ _ _ | .recordSubmission _ _ | .send _ _ | .awaitStatus _ _ =>
    some (.readAfterError .other)
  | .fail _ guarded _ | .confirm _ guarded _ =>
    some (if guarded then .readAfterError .other else .thrown)
  | _ => some .thrown

/-- The transfer whose status a step asks for, or which it sends. -/
def ChargeStep.transfer : ChargeStep → Option Transfer
  | .recoverStatus _ signature => some signature
  | .recoverSend _ _ raw => some raw
  | .recheckStatus signature _ => some signature
  | .send transfer _ => some transfer
  | .awaitStatus transfer _ => some transfer
  | _ => none

/-- Status queries, and the refusal of a transfer that was processed before, are truthful. -/
def StepAnswer.Truthful (chain : Transfer → Fate) (step : ChargeStep) : StepAnswer → Prop
  | .status found => ∀ t ∈ step.transfer, (chain t).Agrees found
  | .sendAlreadyProcessed => ∀ t ∈ step.transfer, chain t ≠ .unsent ∧ chain t ≠ .sent
  | _ => True

instance (chain : Transfer → Fate) (step : ChargeStep) :
    (answer : StepAnswer) → Decidable (answer.Truthful chain step)
  | .status found => inferInstanceAs (Decidable (∀ t ∈ step.transfer, (chain t).Agrees found))
  | .sendAlreadyProcessed =>
    inferInstanceAs (Decidable (∀ t ∈ step.transfer, chain t ≠ .unsent ∧ chain t ≠ .sent))
  | .database | .blockHeight _ | .walletKey _ | .treasury _ _ | .blockhash _ | .fee _ | .balance _
  | .sendAccepted | .sendLost | .sendSimulationFailed => inferInstanceAs (Decidable True)

/-! ### The system -/

/-- A running call: its argument and where it stands. -/
structure Call where
  input : ConfigPaymentInput
  step : ChargeStep
  deriving DecidableEq, Repr

/-- The row of one payment, the calls for it and the chain. -/
structure PaymentState where
  row : Option SolanaConfigPayment
  calls : CallId → Option Call
  chain : Transfer → Fate
  now : Timestamp
  blockHeight : Nat

inductive PaymentEvent where
  | charge (call : CallId) (input : ConfigPaymentInput)
  | proceed (call : CallId) (answer : StepAnswer)
  | exception (call : CallId)
  | timePasses (microseconds : Nat)
  | newBlock
  | land (transfer : Transfer) (successful : Bool)
  | finalize (transfer : Transfer)
  deriving DecidableEq, Repr

def PaymentState.setFate (s : PaymentState) (transfer : Transfer) (fate : Fate) : PaymentState :=
  { s with chain := Function.update s.chain transfer fate }

def PaymentState.setStep (s : PaymentState) (call : CallId) (input : ConfigPaymentInput)
    (step : ChargeStep) : PaymentState :=
  { s with calls := Function.update s.calls call (some ⟨input, step⟩) }

variable (lastValidBlockHeight : Transfer → Nat)

/-- A statement against the row, or a send. -/
def PaymentState.execute (s : PaymentState) : Statement → PaymentState
  | .read => s
  | .insertPayment input => { s with row := some (s.row.getD input.newPayment) }
  | .linkSession sessionId => { s with row := s.row.map (·.linkSession sessionId) }
  | .claim => { s with row := s.row.map (·.claim s.now) }
  | .recordFeeEstimate fee => { s with row := s.row.map (·.recordFeeEstimate fee) }
  | .recordSubmission transfer fee =>
    { s with row := s.row.map (·.recordSubmission transfer (lastValidBlockHeight transfer) fee) }
  | .confirm => { s with row := s.row.map (·.confirm) }
  | .fail code => { s with row := s.row.map (·.fail code) }
  | .send transfer => if s.chain transfer = .unsent then s.setFate transfer .sent else s

def step (s : PaymentState) : PaymentEvent → Option PaymentState
  | .charge call input =>
    match s.calls call with
    | none => some (s.setStep call input .insertPayment)
    | some _ => none
  | .proceed call answer =>
    match s.calls call with
    | none => none
    | some c =>
      if answer.Truthful s.chain c.step then
        match advance c.input s.row s.now c.step answer with
        | none => none
        | some (statement, next) =>
          some ((s.execute lastValidBlockHeight statement).setStep call c.input next)
      else none
  | .exception call =>
    match s.calls call with
    | none => none
    | some c => c.step.onException.map (s.setStep call c.input)
  | .timePasses microseconds => some { s with now := s.now + microseconds }
  | .newBlock => some { s with blockHeight := s.blockHeight + 1 }
  | .land transfer successful =>
    if s.chain transfer = .sent ∧ s.blockHeight ≤ lastValidBlockHeight transfer then
      some (s.setFate transfer (if successful then .landed else .failed))
    else none
  | .finalize transfer =>
    if s.chain transfer = .landed then some (s.setFate transfer .finalized) else none

/-- Before the first call with the payment id. -/
def noPayment : PaymentState where
  row := none
  calls := fun _ => none
  chain := fun _ => .unsent
  now := 0
  blockHeight := 0

end Hyperspace.Payments
