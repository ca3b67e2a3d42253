import Hyperspace.Billing.Charges
import Mathlib.Data.List.Sort
import Mathlib.Logic.Function.Basic

/-!
# Statements of the billing repository

Each definition is one repository function: the rows it reads, the constraints PostgreSQL checks
and the rows it writes. A statement that fails ends the transaction it is in, and a failed
transaction leaves the database as it was.
-/

namespace Hyperspace.Billing

open Hyperspace.ControlPlane
open Hyperspace.Foundations

/-- The body of a transaction. -/
abbrev Tx (α : Type) := StateT BillingDb (Except BillingError) α

/-- `db.transaction`: commit the body, or roll back and pass its error on. -/
def transaction {α : Type} (body : Tx α) (db : BillingDb) : Except BillingError α × BillingDb :=
  match body.run db with
  | .ok (a, db') => (.ok a, db')
  | .error e => (.error e, db)

/-- End the transaction unless the condition holds. -/
def require (p : Prop) [Decidable p] (e : BillingError) : Tx Unit :=
  if p then pure () else throw e

/-- `gen_random_uuid()`. -/
def freshId : Tx Identifier := do
  let db ← get
  set { db with nextId := db.nextId + 1 }
  return db.nextId

def modifyBooks (f : Books → Books) : Tx Unit :=
  modify fun db => { db with books := f db.books }

section Rows

/-! ### Updates of a single row -/

def WithdrawalRequest.cancel (now : Timestamp) (w : WithdrawalRequest) : WithdrawalRequest :=
  { w with status := .cancelled, updatedAt := now }

def WithdrawalRequest.markConfirmed (now : Timestamp) (w : WithdrawalRequest) :
    WithdrawalRequest :=
  { w with status := .confirmed, updatedAt := now }

def WithdrawalRequest.claim (now : Timestamp) (w : WithdrawalRequest) : WithdrawalRequest :=
  { w with status := .processing, updatedAt := now }

/-- Guarded by `status = 'processing'`. -/
def WithdrawalRequest.markSubmitted (now : Timestamp) (signature : Identifier)
    (w : WithdrawalRequest) : WithdrawalRequest :=
  if w.status = .processing then
    { w with
      status := .submitted, transactionSignature := some signature, updatedAt := now
      submittedAt := some now }
  else w

/-- Guarded by `status IN ('processing', 'submitted')`. -/
def WithdrawalRequest.markFailed (now : Timestamp) (w : WithdrawalRequest) : WithdrawalRequest :=
  if w.status = .processing ∨ w.status = .submitted then
    { w with status := .failed, updatedAt := now }
  else w

theorem WithdrawalRequest.cancel_id (now : Timestamp) (w : WithdrawalRequest) :
    (w.cancel now).id = w.id := rfl

theorem WithdrawalRequest.markConfirmed_id (now : Timestamp) (w : WithdrawalRequest) :
    (w.markConfirmed now).id = w.id := rfl

theorem WithdrawalRequest.claim_id (now : Timestamp) (w : WithdrawalRequest) :
    (w.claim now).id = w.id := rfl

theorem WithdrawalRequest.markSubmitted_id (now : Timestamp) (signature : Identifier)
    (w : WithdrawalRequest) : (w.markSubmitted now signature).id = w.id := by
  simp only [WithdrawalRequest.markSubmitted]
  split <;> rfl

theorem WithdrawalRequest.markFailed_id (now : Timestamp) (w : WithdrawalRequest) :
    (w.markFailed now).id = w.id := by
  simp only [WithdrawalRequest.markFailed]
  split <;> rfl

def CashSweepRequest.claim (sweep : CashSweepRequest) : CashSweepRequest :=
  { sweep with status := .processing }

/-- Guarded by `status = 'processing'`. -/
def CashSweepRequest.markSubmitted (now : Timestamp) (signature : Identifier)
    (sweep : CashSweepRequest) : CashSweepRequest :=
  if sweep.status = .processing then
    { sweep with
      status := .submitted, transactionSignature := some signature, submittedAt := some now }
  else sweep

/-- Guarded by `status IN ('processing', 'submitted')`. -/
def CashSweepRequest.markFailed (now : Timestamp) (sweep : CashSweepRequest) : CashSweepRequest :=
  if sweep.status = .processing ∨ sweep.status = .submitted then
    { sweep with
      status := .failed, attemptCount := sweep.attemptCount + 1
      nextAttemptAt := now + min 3600 (15 * 2 ^ min sweep.attemptCount 8) * 1000000 }
  else sweep

/-- Guarded by `status = 'submitted'`. -/
def CashSweepRequest.markConfirmed (sweep : CashSweepRequest) : CashSweepRequest :=
  if sweep.status = .submitted then { sweep with status := .confirmed } else sweep

theorem CashSweepRequest.claim_key (sweep : CashSweepRequest) : sweep.claim.key = sweep.key := rfl

theorem CashSweepRequest.markSubmitted_key (now : Timestamp) (signature : Identifier)
    (sweep : CashSweepRequest) : (sweep.markSubmitted now signature).key = sweep.key := by
  simp only [CashSweepRequest.markSubmitted]
  split <;> rfl

theorem CashSweepRequest.markFailed_key (now : Timestamp) (sweep : CashSweepRequest) :
    (sweep.markFailed now).key = sweep.key := by
  simp only [CashSweepRequest.markFailed]
  split <;> rfl

theorem CashSweepRequest.markConfirmed_key (sweep : CashSweepRequest) :
    sweep.markConfirmed.key = sweep.key := by
  simp only [CashSweepRequest.markConfirmed]
  split <;> rfl

end Rows

/-! ### Accounts, plans and sessions -/

/-- The account trigger has made the billing row, so only the foreign key is left to check. -/
def ensureBillingAccount (accountId : AccountId) : Tx Unit := do
  let db ← get
  require (accountId ∈ db.usage.accounts) .foreignKeyViolation

/-- The open plan assignment of an account; a partial unique index allows at most one. -/
def UsageTables.openPlanAssignment (usage : UsageTables) (accountId : AccountId) :
    Option PlanAssignment :=
  usage.planAssignments.find? fun p => p.accountId = accountId && p.endsAt.isNone

def UsageTables.pilotPlan (usage : UsageTables) : Option BillingPlanVersion :=
  usage.planVersions.find? fun p => p.code = "pilot" && p.version = 1

/-- An account without an open plan assignment gets the pilot plan from now on. -/
def UsageTables.ensureOpenPlan (usage : UsageTables) (accountId : AccountId) (now : Timestamp) :
    UsageTables :=
  match usage.openPlanAssignment accountId, usage.pilotPlan with
  | none, some pilot =>
    { usage with
      planAssignments := usage.planAssignments ++ [⟨accountId, pilot.id, now, none⟩] }
  | _, _ => usage

def ensurePrepaidBillingState (accountId : AccountId) : Tx Unit := do
  let db ← get
  require (accountId ∈ db.usage.accounts) .foreignKeyViolation
  set { db with usage := db.usage.ensureOpenPlan accountId db.now }

def readCurrentBillingPlan (accountId : AccountId) : Tx BillingPlanVersion := do
  ensurePrepaidBillingState accountId
  let db ← get
  match db.usage.openPlanAssignment accountId with
  | none => throw (.error "expected database row")
  | some assignment =>
    match db.usage.planVersions.find? (·.id = assignment.planVersionId) with
    | none => throw (.error "expected database row")
    | some plan =>
      require (FitsInt plan.activeConfigMonthlyMinor ∧ FitsInt plan.trafficPerGbMinor ∧
        FitsInt plan.minimumWithdrawalMinor) .numericValueOutOfRange
      return plan

def UsageTables.nonTerminalAccountSessions (usage : UsageTables) (accountId : AccountId) :
    List BilledSession :=
  usage.sessions.filter fun s =>
    s.accountId = some accountId && s.phase.isNonTerminal s.desiredState

def listNonTerminalAccountSessions (accountId : AccountId) : Tx (List BilledSession) := do
  let db ← get
  return db.usage.nonTerminalAccountSessions accountId

def findAccountId (accountId : AccountId) : Tx (Option AccountId) := do
  let db ← get
  return if accountId ∈ db.usage.accounts then some accountId else none

def findAccountIdForSession (sessionId : SessionId) : Tx (Option AccountId) := do
  let db ← get
  return (db.usage.sessions.find? (·.id = sessionId)).bind (·.accountId)

/-! ### Ledger and buckets -/

/-- Whether a row was inserted: `false` when the source is already in the ledger. -/
def insertLedgerEntry (entry : LedgerEntry) : Tx Bool := do
  require (FitsBigint entry.amountMinor) .numericValueOutOfRange
  let db ← get
  match db.books.ledger.insert entry with
  | none => return false
  | some ledger =>
    require (entry.accountId ∈ db.usage.accounts) .foreignKeyViolation
    modifyBooks fun books => { books with ledger }
    return true

def readBillingBuckets (accountId : AccountId) : Tx BillingBucketsRow := do
  ensurePrepaidBillingState accountId
  let db ← get
  let row := (db.books.buckets accountId).val
  require (FitsInt row.cashMinor ∧ FitsInt row.promotionalMinor ∧
    FitsInt row.reservedWithdrawalMinor ∧ FitsInt row.debtMinor) .numericValueOutOfRange
  return row

def writeBillingBuckets (accountId : AccountId) (row : BillingBucketsRow) : Tx Unit :=
  if h : row.Valid then
    modifyBooks fun books =>
      { books with buckets := Function.update books.buckets accountId ⟨row, h⟩ }
  else
    throw .checkViolation

/-! ### Ratings and accruals -/

def lockBillingAccrual (accountId : AccountId) : Tx Int := do
  ensurePrepaidBillingState accountId
  let db ← get
  return (db.accruals accountId).val

def updateBillingAccrual (accountId : AccountId) (remainder : Int) : Tx Unit :=
  if h : IsAmount remainder then
    modify fun db => { db with accruals := Function.update db.accruals accountId ⟨remainder, h⟩ }
  else
    throw .checkViolation

/-- What `settleRatingCandidate` passes to the insert. -/
structure RatingInput where
  accountId : AccountId
  sessionId : SessionId
  planVersionId : Identifier
  windowStart : Timestamp
  windowEnd : Timestamp
  activeSeconds : Int
  bytesToDestination : Int
  bytesFromDestination : Int
  chargeMicrominor : Int
  mode : RatingMode
  deriving DecidableEq, Repr

/-- The column types and CHECK constraints of `retail_usage_ratings`. -/
structure RatingInput.Valid (input : RatingInput) : Prop where
  window_nonempty : input.windowStart < input.windowEnd
  activeSeconds_valid : 0 ≤ input.activeSeconds ∧ FitsInt input.activeSeconds
  bytes_valid : IsAmount input.bytesToDestination ∧ IsAmount input.bytesFromDestination
  charge_valid : IsAmount input.chargeMicrominor

theorem RatingInput.valid_iff {input : RatingInput} :
    input.Valid ↔ input.windowStart < input.windowEnd ∧
      (0 ≤ input.activeSeconds ∧ FitsInt input.activeSeconds) ∧
      (IsAmount input.bytesToDestination ∧ IsAmount input.bytesFromDestination) ∧
      IsAmount input.chargeMicrominor :=
  ⟨fun h => ⟨h.1, h.2, h.3, h.4⟩, fun h => ⟨h.1, h.2.1, h.2.2.1, h.2.2.2⟩⟩

instance (input : RatingInput) : Decidable input.Valid := decidable_of_iff' _ RatingInput.valid_iff

def RatingInput.toRating (input : RatingInput) (id : Identifier) (h : input.Valid) :
    RetailUsageRating where
  id
  accountId := input.accountId
  sessionId := input.sessionId
  planVersionId := input.planVersionId
  windowStart := input.windowStart
  windowEnd := input.windowEnd
  activeSeconds := input.activeSeconds
  bytesToDestination := input.bytesToDestination
  bytesFromDestination := input.bytesFromDestination
  chargeMicrominor := input.chargeMicrominor
  postedChargeMinor := 0
  mode := input.mode
  window_nonempty := h.window_nonempty
  activeSeconds_valid := h.activeSeconds_valid
  bytes_valid := h.bytes_valid
  charge_valid := h.charge_valid

/-- The identifier of the inserted rating; `none` when the window is already rated. CHECK
constraints are tested before the conflict, foreign keys after the insert. -/
def insertRetailUsageRating (input : RatingInput) : Tx (Option Identifier) :=
  if h : input.Valid then do
    let id ← freshId
    let db ← get
    match db.ratings.insert (input.toRating id h) with
    | none => return none
    | some ratings =>
      require (input.accountId ∈ db.usage.accounts ∧
        (∃ s ∈ db.usage.sessions, s.id = input.sessionId) ∧
        ∃ p ∈ db.usage.planVersions, p.id = input.planVersionId) .foreignKeyViolation
      set { db with ratings }
      return some id
  else
    throw .checkViolation

def markRatingPosted (ratingId : Identifier) (chargeMinor : Int) : Tx Unit :=
  modify fun db => { db with
    ratings := db.ratings.modify
      (fun r => if r.id = ratingId then { r with postedChargeMinor := chargeMinor } else r)
      fun r => by split <;> rfl }

/-! ### Deposits and cash sweeps -/

/-- The argument of `insertCashSweepRequest`. -/
structure CashSweepInput where
  accountId : AccountId
  sourceType : SourceType
  sourceId : Identifier
  amountMinor : Int
  tokenMint : Mint
  tokenAmountBaseUnits : Int

def insertCashSweepRequest (input : CashSweepInput) : Tx Unit :=
  if hPositive : 0 < input.amountMinor ∧ 0 < input.tokenAmountBaseUnits then
    if hBigint : FitsBigint input.amountMinor ∧ FitsBigint input.tokenAmountBaseUnits then do
      let db ← get
      let sweep : CashSweepRequest :=
        { accountId := input.accountId, sourceType := input.sourceType
          sourceId := input.sourceId, amountMinor := input.amountMinor
          tokenMint := input.tokenMint, tokenAmountBaseUnits := input.tokenAmountBaseUnits
          status := .pending, transactionSignature := none, attemptCount := 0
          nextAttemptAt := db.now, createdAt := db.now, submittedAt := none
          amount_valid := ⟨hPositive.1, hBigint.1⟩, token_valid := ⟨hPositive.2, hBigint.2⟩ }
      match db.books.sweeps.insert sweep with
      | none => return ()
      | some sweeps =>
        require (input.accountId ∈ db.usage.accounts) .foreignKeyViolation
        modifyBooks fun books => { books with sweeps }
    else
      throw .numericValueOutOfRange
  else
    return ()

/-- `ORDER BY next_attempt_at, created_at`. -/
def CashSweepRequest.DueBefore (x y : CashSweepRequest) : Prop :=
  x.nextAttemptAt < y.nextAttemptAt ∨
    (x.nextAttemptAt = y.nextAttemptAt ∧ x.createdAt ≤ y.createdAt)

instance : DecidableRel CashSweepRequest.DueBefore :=
  fun x y => inferInstanceAs (Decidable (x.nextAttemptAt < y.nextAttemptAt ∨ _))

/-- The sweep that is due for the longest time, leaving out the rows others have locked. -/
def claimCashSweepRequest (locked : List (SourceType × Identifier)) :
    Tx (Option CashSweepRequest) := do
  let db ← get
  let due := db.books.sweeps.rows.filter fun sweep =>
    (sweep.status = .pending || sweep.status = .failed) && sweep.nextAttemptAt ≤ db.now &&
      sweep.key ∉ locked
  match due.insertionSort CashSweepRequest.DueBefore with
  | [] => return none
  | candidate :: _ =>
    modifyBooks fun books => { books with
      sweeps := books.sweeps.update candidate.key (·.claim) CashSweepRequest.claim_key }
    return some candidate.claim

def markCashSweepSubmitted (sweepKey : SourceType × Identifier) (signature : Identifier) :
    Tx Unit := do
  let db ← get
  require (¬ ∃ sweep ∈ db.books.sweeps.rows,
    sweep.key ≠ sweepKey ∧ sweep.transactionSignature = some signature) .uniqueViolation
  modifyBooks fun books => { books with
    sweeps := books.sweeps.update sweepKey (·.markSubmitted db.now signature)
      (CashSweepRequest.markSubmitted_key db.now signature) }

def markCashSweepFailed (sweepKey : SourceType × Identifier) : Tx Unit := do
  let db ← get
  modifyBooks fun books => { books with
    sweeps := books.sweeps.update sweepKey (·.markFailed db.now)
      (CashSweepRequest.markFailed_key db.now) }

def markCashSweepConfirmed (sweepKey : SourceType × Identifier) : Tx Unit :=
  modifyBooks fun books => { books with
    sweeps := books.sweeps.update sweepKey (·.markConfirmed) CashSweepRequest.markConfirmed_key }

/-- `ORDER BY submitted_at`, with null at the end. -/
def SubmittedBefore : Option Timestamp → Option Timestamp → Prop
  | some t, some u => t ≤ u
  | some _, none => True
  | none, some _ => False
  | none, none => True

instance : DecidableRel SubmittedBefore
  | some t, some u => inferInstanceAs (Decidable (t ≤ u))
  | some _, none => inferInstanceAs (Decidable True)
  | none, some _ => inferInstanceAs (Decidable False)
  | none, none => inferInstanceAs (Decidable True)

def listSubmittedCashSweeps (limit : Nat) : Tx (List CashSweepRequest) := do
  let db ← get
  let submitted := db.books.sweeps.rows.filter fun sweep => sweep.status = .submitted
  return (submitted.insertionSort fun x y => SubmittedBefore x.submittedAt y.submittedAt).take limit

/-- The argument of `claimSolanaPaymentReceipt`. -/
structure ReceiptInput where
  transactionSignature : Identifier
  accountId : AccountId
  tokenMint : Mint
  amountBaseUnits : Int
  creditedAmountMinor : Int

/-- Whether the receipt is new. Both branches return the credited amount cast to `int`. -/
def claimSolanaPaymentReceipt (input : ReceiptInput) : Tx Bool :=
  if hAmount : 0 < input.amountBaseUnits ∧ FitsBigint input.amountBaseUnits then
    if hCredited : IsAmount input.creditedAmountMinor then do
      let db ← get
      let receipt : SolanaPaymentReceipt :=
        { transactionSignature := input.transactionSignature, accountId := input.accountId
          tokenMint := input.tokenMint, amountBaseUnits := input.amountBaseUnits
          creditedAmountMinor := input.creditedAmountMinor
          amount_valid := hAmount, credited_valid := hCredited }
      match db.books.receipts.insert receipt with
      | some receipts =>
        require (FitsInt input.creditedAmountMinor) .numericValueOutOfRange
        require (input.accountId ∈ db.usage.accounts) .foreignKeyViolation
        modifyBooks fun books => { books with receipts }
        return true
      | none =>
        match db.books.receipts.find? input.transactionSignature with
        | none => throw (.error "expected database row")
        | some existing =>
          require (FitsInt existing.creditedAmountMinor) .numericValueOutOfRange
          return false
    else
      throw .checkViolation
  else
    throw .checkViolation

def readSolanaDepositRemainderForUpdate (accountId : AccountId) (tokenMint : Mint) : Tx Int := do
  let db ← get
  require (accountId ∈ db.usage.accounts) .foreignKeyViolation
  return (db.books.depositRemainders accountId tokenMint).val

def writeSolanaDepositRemainder (accountId : AccountId) (tokenMint : Mint)
    (remainderBaseUnits : Int) : Tx Unit :=
  if h : IsAmount remainderBaseUnits then
    modifyBooks fun books => { books with
      depositRemainders := Function.update books.depositRemainders accountId
        (Function.update (books.depositRemainders accountId) tokenMint ⟨remainderBaseUnits, h⟩) }
  else
    throw .checkViolation

/-! ### Withdrawals -/

/-- The argument of `insertWithdrawalRequest`. -/
structure WithdrawalInput where
  accountId : AccountId
  userId : Identifier
  amountMinor : Int
  tokenMint : Mint
  tokenAmountBaseUnits : Int
  destinationAddress : Identifier
  eligibleAt : Timestamp

def insertWithdrawalRequest (input : WithdrawalInput) : Tx WithdrawalRequest :=
  if hAmount : 0 < input.amountMinor ∧ FitsBigint input.amountMinor then
    if hToken : 0 < input.tokenAmountBaseUnits ∧ FitsBigint input.tokenAmountBaseUnits then do
      let id ← freshId
      let db ← get
      let withdrawal : WithdrawalRequest :=
        { id, accountId := input.accountId, requestedByUserId := input.userId
          status := .cooldown, amountMinor := input.amountMinor, currency := "USD"
          tokenMint := input.tokenMint, tokenAmountBaseUnits := input.tokenAmountBaseUnits
          destinationAddress := input.destinationAddress, eligibleAt := input.eligibleAt
          transactionSignature := none, requestedAt := db.now, updatedAt := db.now
          submittedAt := none
          amount_valid := hAmount, token_valid := hToken }
      match db.books.withdrawals.insert withdrawal with
      | none => throw .uniqueViolation
      | some withdrawals =>
        require (FitsInt input.amountMinor) .numericValueOutOfRange
        require (input.accountId ∈ db.usage.accounts ∧ input.userId ∈ db.usage.users)
          .foreignKeyViolation
        modifyBooks fun books => { books with withdrawals }
        return withdrawal
    else
      throw .checkViolation
  else
    throw .checkViolation

def findWithdrawalForUpdate (accountId : AccountId) (withdrawalId : Identifier) :
    Tx (Option WithdrawalRequest) := do
  let db ← get
  match db.books.withdrawals.find? withdrawalId with
  | none => return none
  | some withdrawal =>
    if withdrawal.accountId = accountId then
      require (FitsInt withdrawal.amountMinor) .numericValueOutOfRange
      return some withdrawal
    else
      return none

def cancelWithdrawalRequest (withdrawalId : Identifier) : Tx Unit := do
  let db ← get
  modifyBooks fun books => { books with
    withdrawals := books.withdrawals.update withdrawalId (·.cancel db.now)
      (WithdrawalRequest.cancel_id db.now) }

def markWithdrawalConfirmed (withdrawalId : Identifier) : Tx Unit := do
  let db ← get
  modifyBooks fun books => { books with
    withdrawals := books.withdrawals.update withdrawalId (·.markConfirmed db.now)
      (WithdrawalRequest.markConfirmed_id db.now) }

def markWithdrawalSubmitted (withdrawalId signature : Identifier) : Tx Unit := do
  let db ← get
  require (¬ ∃ w ∈ db.books.withdrawals.rows,
    w.id ≠ withdrawalId ∧ w.transactionSignature = some signature) .uniqueViolation
  modifyBooks fun books => { books with
    withdrawals := books.withdrawals.update withdrawalId (·.markSubmitted db.now signature)
      (WithdrawalRequest.markSubmitted_id db.now signature) }

def markWithdrawalFailed (withdrawalId : Identifier) : Tx Unit := do
  let db ← get
  modifyBooks fun books => { books with
    withdrawals := books.withdrawals.update withdrawalId (·.markFailed db.now)
      (WithdrawalRequest.markFailed_id db.now) }

/-- The two updates of `advanceWithdrawalCooldowns` on one row. -/
def WithdrawalRequest.advanceCooldown (db : BillingDb) (w : WithdrawalRequest) :
    WithdrawalRequest :=
  let hasSessions := !(db.usage.nonTerminalAccountSessions w.accountId).isEmpty
  let plan := (db.usage.openPlanAssignment w.accountId).bind fun assignment =>
    db.usage.planVersions.find? (·.id = assignment.planVersionId)
  match plan, hasSessions with
  | some plan, true =>
    if w.status = .cooldown ∨ w.status = .ready then
      { w with
        eligibleAt := db.now + plan.withdrawalCooldownSeconds * 1000000, updatedAt := db.now }
    else w
  | _, true => w
  | _, false =>
    if (w.status = .cooldown ∨ w.status = .failed) ∧ w.eligibleAt ≤ db.now ∧
        w.updatedAt < db.now - 60 * 1000000 then
      { w with status := .ready, updatedAt := db.now }
    else w

def advanceWithdrawalCooldowns : Tx Unit := do
  let db ← get
  modifyBooks fun books => { books with
    withdrawals := books.withdrawals.modify (·.advanceCooldown db) fun w => by
      simp only [WithdrawalRequest.advanceCooldown]
      split <;> (try split) <;> rfl }

/-- `ORDER BY eligible_at, requested_at`. -/
def WithdrawalRequest.DueBefore (w w' : WithdrawalRequest) : Prop :=
  w.eligibleAt < w'.eligibleAt ∨ (w.eligibleAt = w'.eligibleAt ∧ w.requestedAt ≤ w'.requestedAt)

instance : DecidableRel WithdrawalRequest.DueBefore :=
  fun w w' => inferInstanceAs (Decidable (w.eligibleAt < w'.eligibleAt ∨ _))

/-- The oldest ready withdrawal, leaving out the rows other transactions have locked. -/
def claimReadyWithdrawal (locked : List Identifier) : Tx (Option WithdrawalRequest) := do
  let db ← get
  let ready := db.books.withdrawals.rows.filter fun w => w.status = .ready && w.id ∉ locked
  match ready.insertionSort WithdrawalRequest.DueBefore with
  | [] => return none
  | candidate :: _ =>
    modifyBooks fun books => { books with
      withdrawals := books.withdrawals.update candidate.id (·.claim db.now)
        (WithdrawalRequest.claim_id db.now) }
    return some (candidate.claim db.now)

def listSubmittedWithdrawals (limit : Nat) : Tx (List WithdrawalRequest) := do
  let db ← get
  let submitted := db.books.withdrawals.rows.filter fun w =>
    w.status = .submitted && w.transactionSignature.isSome
  return (submitted.insertionSort fun w w' => SubmittedBefore w.submittedAt w'.submittedAt).take
    limit

/-! ### DoubleZero usage records -/

def insertDoubleZeroUsageImport : Tx Identifier := freshId

/-- The argument of `insertRatedUsageEvent`. -/
structure RatedUsageInput where
  accountId : AccountId
  sessionId : Option SessionId
  sourceId : Identifier
  windowStart : Timestamp
  windowEnd : Timestamp
  bytesIn : Int
  bytesOut : Int
  costMinor : Int
  markupBps : Int
  chargeMinor : Int
  currency : String

/-- The identifier of the inserted event; `none` when the record is already rated. -/
def insertRatedUsageEvent (input : RatedUsageInput) : Tx (Option Identifier) := do
  require (FitsBigint input.bytesIn ∧ FitsBigint input.bytesOut ∧ FitsBigint input.costMinor ∧
    FitsBigint input.chargeMinor) .numericValueOutOfRange
  let id ← freshId
  let db ← get
  let event : RatedUsageEvent :=
    { id, accountId := input.accountId, sessionId := input.sessionId
      sourceType := .doublezeroUsageRecord, sourceId := input.sourceId
      windowStart := input.windowStart, windowEnd := input.windowEnd
      bytesIn := input.bytesIn, bytesOut := input.bytesOut, costMinor := input.costMinor
      markupBps := input.markupBps, chargeMinor := input.chargeMinor, currency := input.currency }
  match db.ratedUsageEvents.insert event with
  | none => return none
  | some ratedUsageEvents =>
    require (input.accountId ∈ db.usage.accounts ∧
      ∀ s ∈ input.sessionId, ∃ row ∈ db.usage.sessions, row.id = s) .foreignKeyViolation
    set { db with ratedUsageEvents }
    return some id

end Hyperspace.Billing
