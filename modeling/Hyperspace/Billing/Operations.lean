import Hyperspace.Billing.Database

/-!
# The billing scenarios

The bodies of the transactions that move money, in the order their code runs the statements.
-/

namespace Hyperspace.Billing

open Hyperspace.Foundations

/-- What the deposits are paid in: a token or SOL itself. -/
inductive SolanaAssetKind where
  | spl
  | native
  deriving DecidableEq, Repr

/-- The fields of `BillingConfig` the scenarios read. -/
structure BillingConfig where
  currency : String
  solanaTokenMint : Mint
  solanaTokenBaseUnitsPerBillingMinor : Int
  usageMarkupBps : ℚ
  solanaAssetKind : SolanaAssetKind
  deriving DecidableEq

/-- The environment's settings of the rating worker. -/
structure RetailBillingRuntimeConfig where
  mode : RatingMode
  settlementLagSeconds : Int
  batchSize : Nat
  tokenMint : Mint
  tokenBaseUnitsPerBillingMinor : Int
  deriving DecidableEq, Repr

/-- A row of `listRetailRatingCandidates`. -/
structure RetailRatingCandidate where
  accountId : AccountId
  sessionId : SessionId
  planVersionId : Identifier
  activeConfigMonthlyMinor : Int
  trafficPerGbMinor : Int
  windowStart : Timestamp
  windowEnd : Timestamp
  activeSeconds : Int
  bytesToDestination : Int
  bytesFromDestination : Int
  deriving DecidableEq, Repr

/-- The authenticated owner a request acts for. -/
structure SessionOwner where
  id : Identifier
  accountId : AccountId
  deriving DecidableEq, Repr

/-! ### Credits and charges -/

/-- The argument of `applyBillingCredit`. -/
structure BillingCreditInput where
  accountId : AccountId
  amountMinor : ℚ
  kind : CreditKind
  sourceType : SourceType
  sourceId : Identifier

def applyBillingCredit (input : BillingCreditInput) : Tx Unit := do
  require (isSafeInteger input.amountMinor ∧ 0 < input.amountMinor)
    (.error "billing credit amount must be a positive integer")
  let amountMinor := input.amountMinor.num
  let buckets ← readBillingBuckets input.accountId
  let inserted ← insertLedgerEntry
    { accountId := input.accountId
      entryType := if input.kind = .cash then .topup else .manualCredit
      amountMinor, currency := "USD"
      sourceType := input.sourceType, sourceId := input.sourceId }
  if inserted then
    writeBillingBuckets input.accountId (applyBucketCredit buckets amountMinor input.kind)
  else
    return ()

def RetailRatingCandidate.chargeMicrominor (candidate : RetailRatingCandidate) : Int :=
  calculateRetailChargeMicrominor candidate.activeSeconds candidate.activeConfigMonthlyMinor
    candidate.bytesToDestination candidate.bytesFromDestination candidate.trafficPerGbMinor

def RetailRatingCandidate.toRatingInput (candidate : RetailRatingCandidate) (mode : RatingMode) :
    RatingInput where
  accountId := candidate.accountId
  sessionId := candidate.sessionId
  planVersionId := candidate.planVersionId
  windowStart := candidate.windowStart
  windowEnd := candidate.windowEnd
  activeSeconds := candidate.activeSeconds
  bytesToDestination := candidate.bytesToDestination
  bytesFromDestination := candidate.bytesFromDestination
  chargeMicrominor := candidate.chargeMicrominor
  mode

/-- The sweep of an amount in the tokens it is held in. -/
def cashSweep (accountId : AccountId) (sourceType : SourceType) (sourceId : Identifier)
    (amountMinor : Int) (tokenMint : Mint) (baseUnitsPerBillingMinor : Int) : CashSweepInput :=
  { accountId, sourceType, sourceId, amountMinor, tokenMint
    tokenAmountBaseUnits := amountMinor * baseUnitsPerBillingMinor }

/-- The part of `settleRatingCandidate` that posts a charge of at least one minor unit. -/
def postRatedCharge (candidate : RetailRatingCandidate) (config : RetailBillingRuntimeConfig)
    (ratingId : Identifier) (postedMinor : Int) : Tx Int := do
  let buckets ← readBillingBuckets candidate.accountId
  let inserted ← insertLedgerEntry
    { accountId := candidate.accountId, entryType := .usageCharge, amountMinor := -postedMinor
      currency := "USD", sourceType := .retailUsageRating, sourceId := ratingId }
  if inserted then
    let nextBuckets := consumeBillingCharge buckets postedMinor
    let cashSpentMinor := buckets.cashMinor - nextBuckets.cashMinor
    writeBillingBuckets candidate.accountId nextBuckets
    insertCashSweepRequest (cashSweep candidate.accountId .retailUsageRating ratingId
      cashSpentMinor config.tokenMint config.tokenBaseUnitsPerBillingMinor)
    markRatingPosted ratingId postedMinor
    return postedMinor
  else
    return 0

/-- What is posted for a candidate; `none` when its window is already rated. The quotient is
small enough for `Number` to keep it exactly. -/
def settleRatingCandidate (candidate : RetailRatingCandidate)
    (config : RetailBillingRuntimeConfig) : Tx (Option Int) := do
  let rating ← insertRetailUsageRating (candidate.toRatingInput config.mode)
  match rating with
  | none => return none
  | some ratingId =>
    if config.mode = .shadow then
      return some 0
    else
      let previousRemainder ← lockBillingAccrual candidate.accountId
      let accumulated := previousRemainder + candidate.chargeMicrominor
      let postedMinor := accumulated / microminorPerMinor
      updateBillingAccrual candidate.accountId (accumulated % microminorPerMinor)
      if postedMinor ≤ 0 then
        return some 0
      else
        let posted ← postRatedCharge candidate config ratingId postedMinor
        return some posted

/-! ### Deposits -/

structure DirectDepositResult where
  duplicate : Bool
  amountMinor : Int
  deriving DecidableEq, Repr

/-- The part of `creditDirectDeposit` that credits at least one minor unit. -/
def postDirectDeposit (accountId : AccountId) (transactionSignature : Identifier)
    (amountMinor : Int) (config : BillingConfig) : Tx DirectDepositResult := do
  let inserted ← insertLedgerEntry
    { accountId, entryType := .topup, amountMinor, currency := config.currency
      sourceType := .solanaDirectDeposit, sourceId := transactionSignature }
  require inserted (.error "direct deposit has a ledger entry without a payment receipt")
  let buckets ← readBillingBuckets accountId
  let nextBuckets := applyBucketCredit buckets amountMinor .cash
  let debtRepaidMinor := buckets.debtMinor - nextBuckets.debtMinor
  writeBillingBuckets accountId nextBuckets
  if config.solanaAssetKind = .native then
    return ⟨false, amountMinor⟩
  else
    insertCashSweepRequest (cashSweep accountId .directDepositDebtRepayment transactionSignature
      debtRepaidMinor config.solanaTokenMint config.solanaTokenBaseUnitsPerBillingMinor)
    return ⟨false, amountMinor⟩

/-- An `Except` computation as a step of a transaction. -/
def liftExcept {α : Type} (x : Except BillingError α) : Tx α := StateT.lift x

def creditDirectDeposit (accountId : AccountId) (transactionSignature : Identifier)
    (amountBaseUnits : Int) (config : BillingConfig) : Tx DirectDepositResult := do
  ensureBillingAccount accountId
  let previousRemainder ← readSolanaDepositRemainderForUpdate accountId config.solanaTokenMint
  let conversion ← liftExcept (convertDepositToBillingMinor previousRemainder amountBaseUnits
    config.solanaTokenBaseUnitsPerBillingMinor)
  let claimed ← claimSolanaPaymentReceipt
    { transactionSignature, accountId, tokenMint := config.solanaTokenMint, amountBaseUnits
      creditedAmountMinor := conversion.amountMinor }
  if claimed then
    writeSolanaDepositRemainder accountId config.solanaTokenMint conversion.remainderBaseUnits
    if conversion.amountMinor ≤ 0 then
      return ⟨false, 0⟩
    else
      postDirectDeposit accountId transactionSignature conversion.amountMinor config
  else
    return ⟨true, 0⟩

/-! ### Withdrawals -/

/-- What a request for a withdrawal answers. -/
inductive CreateWithdrawalResult where
  | created (withdrawal : WithdrawalRequest)
  | invalidWithdrawalAmount
  | invalidWithdrawalDestination
  | activeConfigsPresent
  | insufficientWithdrawableBalance

structure CreateWithdrawalInput where
  amountMinor : ℚ
  /-- What `normalizeSolanaPublicKey` makes of the requested address. -/
  destinationAddress : Option Identifier
  /-- The caller's clock. -/
  now : Timestamp

def createWithdrawalRequest (actor : SessionOwner) (input : CreateWithdrawalInput)
    (config : BillingConfig) : Tx CreateWithdrawalResult :=
  if !isSafeInteger input.amountMinor || input.amountMinor ≤ 0 then
    return .invalidWithdrawalAmount
  else
    match input.destinationAddress with
    | none => return .invalidWithdrawalDestination
    | some destinationAddress => do
      let amountMinor := input.amountMinor.num
      let sessions ← listNonTerminalAccountSessions actor.accountId
      if sessions.length > 0 then
        return .activeConfigsPresent
      else
        let buckets ← readBillingBuckets actor.accountId
        let plan ← readCurrentBillingPlan actor.accountId
        let withdrawable := buckets.cashMinor - buckets.reservedWithdrawalMinor
        if buckets.debtMinor > 0 ∨ amountMinor < plan.minimumWithdrawalMinor ∨
            amountMinor > withdrawable then
          return .insufficientWithdrawableBalance
        else
          let withdrawal ← insertWithdrawalRequest
            { accountId := actor.accountId, userId := actor.id, amountMinor
              tokenMint := config.solanaTokenMint
              tokenAmountBaseUnits := amountMinor * config.solanaTokenBaseUnitsPerBillingMinor
              destinationAddress
              eligibleAt := jsDate input.now + plan.withdrawalCooldownSeconds * 1000000 }
          writeBillingBuckets actor.accountId
            { buckets with
              reservedWithdrawalMinor := buckets.reservedWithdrawalMinor + amountMinor }
          return .created withdrawal

/-- What the cancellation of a withdrawal answers. -/
inductive CancelWithdrawalResult where
  | cancelled
  | notFound
  | notCancellable
  deriving DecidableEq, Repr

def cancelOwnedWithdrawal (actor : SessionOwner) (withdrawalId : Identifier) :
    Tx CancelWithdrawalResult := do
  match ← findWithdrawalForUpdate actor.accountId withdrawalId with
  | none => return .notFound
  | some withdrawal =>
    if withdrawal.status ∉ [.cooldown, .ready, .failed] then
      return .notCancellable
    else
      let buckets ← readBillingBuckets actor.accountId
      cancelWithdrawalRequest withdrawal.id
      writeBillingBuckets actor.accountId
        { buckets with
          reservedWithdrawalMinor :=
            max 0 (buckets.reservedWithdrawalMinor - withdrawal.amountMinor) }
      return .cancelled

/-- The part of `confirmWithdrawal` that debits a submitted withdrawal. -/
def debitWithdrawal (accountId : AccountId) (locked : WithdrawalRequest) : Tx Unit := do
  let buckets ← readBillingBuckets accountId
  require (¬ (buckets.cashMinor < locked.amountMinor ∨
    buckets.reservedWithdrawalMinor < locked.amountMinor))
    (.error "withdrawal reservation invariant failed")
  let inserted ← insertLedgerEntry
    { accountId, entryType := .withdrawal, amountMinor := -locked.amountMinor
      currency := locked.currency, sourceType := .withdrawalRequest, sourceId := locked.id }
  if inserted then
    writeBillingBuckets accountId
      { buckets with
        cashMinor := buckets.cashMinor - locked.amountMinor
        reservedWithdrawalMinor := buckets.reservedWithdrawalMinor - locked.amountMinor }
  else
    pure ()
  markWithdrawalConfirmed locked.id

def confirmWithdrawal (accountId : AccountId) (withdrawalId : Identifier) : Tx Unit := do
  match ← findWithdrawalForUpdate accountId withdrawalId with
  | none => return ()
  | some locked =>
    if locked.status = .confirmed then
      return ()
    else
      require (locked.status = .submitted) (.error "withdrawal is not submitted")
      debitWithdrawal accountId locked

/-- What reading and decrypting the custodial wallet key of a claimed withdrawal can give. -/
inductive CustodialKey where
  | missing
  | undecryptable
  | unsupportedFormat
  | usable
  deriving DecidableEq, Repr

def claimWithdrawalSigningJob (locked : List Identifier) (key : CustodialKey) :
    Tx (Option WithdrawalRequest) := do
  advanceWithdrawalCooldowns
  match ← claimReadyWithdrawal locked with
  | none => return none
  | some withdrawal =>
    match key with
    | .missing | .unsupportedFormat =>
      markWithdrawalFailed withdrawal.id
      return none
    | .undecryptable => throw (.error "decryption failed")
    | .usable => return some withdrawal

def claimCashSweepSigningJob (locked : List (SourceType × Identifier)) (key : CustodialKey) :
    Tx (Option CashSweepRequest) := do
  match ← claimCashSweepRequest locked with
  | none => return none
  | some sweep =>
    match key with
    | .missing | .unsupportedFormat =>
      markCashSweepFailed sweep.key
      return none
    | .undecryptable => throw (.error "decryption failed")
    | .usable => return some sweep

def recordWithdrawalSubmission (withdrawalId transactionSignature : Identifier) : Tx Unit :=
  markWithdrawalSubmitted withdrawalId transactionSignature

def failWithdrawalSubmission (withdrawalId : Identifier) : Tx Unit :=
  markWithdrawalFailed withdrawalId

def recordCashSweepSubmission (sweepKey : SourceType × Identifier)
    (transactionSignature : Identifier) : Tx Unit :=
  markCashSweepSubmitted sweepKey transactionSignature

def failCashSweep (sweepKey : SourceType × Identifier) : Tx Unit := markCashSweepFailed sweepKey

def confirmCashSweep (sweepKey : SourceType × Identifier) : Tx Unit :=
  markCashSweepConfirmed sweepKey

/-! ### DoubleZero usage -/

/-- A usage record of DoubleZero, as parsed. -/
structure DoubleZeroUsageRecord where
  /-- The trimmed record id; `none` when nothing is left. -/
  recordId : Option Identifier
  accountId : Option AccountId
  sessionId : Option SessionId
  windowStart : Timestamp
  windowEnd : Timestamp
  bytesIn : Option ℚ
  bytesOut : Option ℚ
  doubleZeroCostMinor : ℚ
  currency : Option String

/-- Why a usage record is not imported. -/
inductive RejectReason where
  | missingRecordId
  | invalidDoublezeroCostMinor
  | accountNotFound
  | currencyMismatch
  deriving DecidableEq, Repr

/-- The tally of an import. -/
structure DoubleZeroUsageImportResult where
  imported : Nat
  duplicates : Nat
  rejected : List (Option Identifier × RejectReason)
  totalChargeMinor : Int
  currency : String
  deriving DecidableEq, Repr

def nonNegativeInteger (value : Option ℚ) : Int :=
  match value with
  | some q => if isInteger q && 0 ≤ q then q.num else 0
  | none => 0

/-- The account of a record: the one it names, else the one of its session. -/
def resolveRecordAccount (record : DoubleZeroUsageRecord) : Tx (Option AccountId) :=
  match record.accountId, record.sessionId with
  | some accountId, _ => findAccountId accountId
  | none, some sessionId => findAccountIdForSession sessionId
  | none, none => return none

/-- Rate one accepted record and debit the ledger; the charge, or `none` for a duplicate. -/
def rateDoubleZeroRecord (config : BillingConfig) (recordId : Identifier) (accountId : AccountId)
    (record : DoubleZeroUsageRecord) : Tx (Option Int) := do
  ensureBillingAccount accountId
  let markupBps := normalizeMarkupBps config.usageMarkupBps
  let chargeMinor ← liftExcept (calculateMarkedUpChargeMinor record.doubleZeroCostMinor markupBps)
  let rated ← insertRatedUsageEvent
    { accountId, sessionId := record.sessionId, sourceId := recordId
      windowStart := record.windowStart, windowEnd := record.windowEnd
      bytesIn := nonNegativeInteger record.bytesIn, bytesOut := nonNegativeInteger record.bytesOut
      costMinor := record.doubleZeroCostMinor.num, markupBps, chargeMinor
      currency := config.currency }
  match rated with
  | none => return none
  | some ratedId =>
    let _ ← insertLedgerEntry
      { accountId, entryType := .usage, amountMinor := -chargeMinor, currency := config.currency
        sourceType := .ratedUsageEvent, sourceId := ratedId }
    return some chargeMinor

/-- One pass of the record loop: why the record is rejected, or what it is charged. -/
def importDoubleZeroRecord (config : BillingConfig) (record : DoubleZeroUsageRecord) :
    Tx (Except RejectReason (Option Int)) :=
  match record.recordId with
  | none => return .error .missingRecordId
  | some recordId =>
    if !isInteger record.doubleZeroCostMinor || record.doubleZeroCostMinor < 0 then
      return .error .invalidDoublezeroCostMinor
    else do
      match ← resolveRecordAccount record with
      | none => return .error .accountNotFound
      | some accountId =>
        if record.currency.getD config.currency ≠ config.currency then
          return .error .currencyMismatch
        else
          let charge ← rateDoubleZeroRecord config recordId accountId record
          return .ok charge

def DoubleZeroUsageImportResult.add (result : DoubleZeroUsageImportResult)
    (record : DoubleZeroUsageRecord) : Except RejectReason (Option Int) →
    DoubleZeroUsageImportResult
  | .error reason => { result with rejected := result.rejected ++ [(record.recordId, reason)] }
  | .ok none => { result with duplicates := result.duplicates + 1 }
  | .ok (some charge) =>
    { result with
      imported := result.imported + 1
      totalChargeMinor := addDouble result.totalChargeMinor charge }

def importDoubleZeroRecords (config : BillingConfig) :
    List DoubleZeroUsageRecord → DoubleZeroUsageImportResult → Tx DoubleZeroUsageImportResult
  | [], result => return result
  | record :: records, result => do
    let outcome ← importDoubleZeroRecord config record
    importDoubleZeroRecords config records (result.add record outcome)

def importDoubleZeroUsage (records : List DoubleZeroUsageRecord) (config : BillingConfig) :
    Tx DoubleZeroUsageImportResult := do
  let _ ← insertDoubleZeroUsageImport
  importDoubleZeroRecords config records
    { imported := 0, duplicates := 0, rejected := [], totalChargeMinor := 0
      currency := config.currency }

end Hyperspace.Billing
