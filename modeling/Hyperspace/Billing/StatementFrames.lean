import Hyperspace.Billing.OperationSpecs
import Hyperspace.Foundations.Frames

/-!
# Frames of the scenarios

A scenario keeps every frame that its statements keep. A frame is checked once for each statement,
and this module puts the scenarios together.
-/

namespace Hyperspace.Billing

open Hyperspace.Foundations

section

variable {R : BillingDb → BillingDb → Prop} [IsPreorder BillingDb R] {config : BillingConfig}
  {a : AccountId}

theorem keeps_require {p : Prop} [Decidable p] {e : BillingError} : Keeps R (require p e) :=
  .ite .pure .throw

theorem keeps_ensureBillingAccount : Keeps R (ensureBillingAccount a) :=
  Keeps.get.bind fun _ => keeps_require

theorem keeps_importDoubleZeroUsage {records : List DoubleZeroUsageRecord}
    (hFresh : Keeps R freshId) (hEvent : ∀ input, Keeps R (insertRatedUsageEvent input))
    (hEntry : ∀ entry, entry.sourceType = .ratedUsageEvent → Keeps R (insertLedgerEntry entry)) :
    Keeps R (importDoubleZeroUsage records config) := by
  have hResolve : ∀ record, Keeps R (resolveRecordAccount record) := by
    intro record
    rw [resolveRecordAccount]
    split
    · exact Keeps.get.bind fun _ => .pure
    · exact Keeps.get.bind fun _ => .pure
    · exact .pure
  have hRate : ∀ recordId a record, Keeps R (rateDoubleZeroRecord config recordId a record) := by
    intro recordId a record
    refine keeps_ensureBillingAccount.bind fun _ => Keeps.lift.bind fun _ => ?_
    refine (hEvent _).bind fun rated => ?_
    cases rated with
    | none => exact .pure
    | some ratedId => exact (hEntry _ rfl).bind fun _ => .pure
  have hRecord : ∀ record, Keeps R (importDoubleZeroRecord config record) := by
    intro record
    rw [importDoubleZeroRecord]
    cases record.recordId with
    | none => exact .pure
    | some recordId =>
        refine .ite .pure ((hResolve record).bind fun found => ?_)
        cases found with
        | none => exact .pure
        | some a => exact .ite .pure ((hRate _ _ _).bind fun _ => .pure)
  have hRecords : ∀ result, Keeps R (importDoubleZeroRecords config records result) := by
    induction records with
    | nil => exact fun result => .pure
    | cons record records ih => exact fun result => (hRecord record).bind fun _ => ih _
  exact hFresh.bind fun _ => hRecords _

/-- The writing statements of the scenarios, apart from the worker's pass. -/
structure StatementsKeep (R : BillingDb → BillingDb → Prop) : Prop where
  freshId : Keeps R freshId
  readBillingBuckets : ∀ a, Keeps R (readBillingBuckets a)
  readCurrentBillingPlan : ∀ a, Keeps R (readCurrentBillingPlan a)
  lockBillingAccrual : ∀ a, Keeps R (lockBillingAccrual a)
  updateBillingAccrual : ∀ a remainder, Keeps R (updateBillingAccrual a remainder)
  insertLedgerEntry : ∀ entry, Keeps R (insertLedgerEntry entry)
  writeBillingBuckets : ∀ a row, Keeps R (writeBillingBuckets a row)
  insertCashSweepRequest : ∀ input, Keeps R (insertCashSweepRequest input)
  insertRetailUsageRating : ∀ input, Keeps R (insertRetailUsageRating input)
  markRatingPosted : ∀ id posted, Keeps R (markRatingPosted id posted)
  insertRatedUsageEvent : ∀ input, Keeps R (insertRatedUsageEvent input)
  claimSolanaPaymentReceipt : ∀ input, Keeps R (claimSolanaPaymentReceipt input)
  writeSolanaDepositRemainder : ∀ a mint remainder,
    Keeps R (writeSolanaDepositRemainder a mint remainder)
  insertWithdrawalRequest : ∀ input, Keeps R (insertWithdrawalRequest input)
  cancelWithdrawalRequest : ∀ id, Keeps R (cancelWithdrawalRequest id)
  markWithdrawalConfirmed : ∀ id, Keeps R (markWithdrawalConfirmed id)
  markWithdrawalSubmitted : ∀ id signature, Keeps R (markWithdrawalSubmitted id signature)
  markWithdrawalFailed : ∀ id, Keeps R (markWithdrawalFailed id)

/-- The writing statements of the scenarios that rate no usage. Of ledger entries, only those with
a source that satisfies `P` are written. -/
structure UnratedStatementsKeep (R : BillingDb → BillingDb → Prop) (P : SourceType → Prop) :
    Prop where
  freshId : Keeps R freshId
  readBillingBuckets : ∀ a, Keeps R (readBillingBuckets a)
  readCurrentBillingPlan : ∀ a, Keeps R (readCurrentBillingPlan a)
  insertLedgerEntry : ∀ entry, P entry.sourceType → Keeps R (insertLedgerEntry entry)
  writeBillingBuckets : ∀ a row, Keeps R (writeBillingBuckets a row)
  insertCashSweepRequest : ∀ input, Keeps R (insertCashSweepRequest input)
  insertRatedUsageEvent : ∀ input, Keeps R (insertRatedUsageEvent input)
  claimSolanaPaymentReceipt : ∀ input, Keeps R (claimSolanaPaymentReceipt input)
  writeSolanaDepositRemainder : ∀ a mint remainder,
    Keeps R (writeSolanaDepositRemainder a mint remainder)
  insertWithdrawalRequest : ∀ input, Keeps R (insertWithdrawalRequest input)
  cancelWithdrawalRequest : ∀ id, Keeps R (cancelWithdrawalRequest id)
  markWithdrawalConfirmed : ∀ id, Keeps R (markWithdrawalConfirmed id)

omit [IsPreorder BillingDb R] in
theorem StatementsKeep.unrated (h : StatementsKeep R) :
    UnratedStatementsKeep R fun _ => True where
  freshId := h.freshId
  readBillingBuckets := h.readBillingBuckets
  readCurrentBillingPlan := h.readCurrentBillingPlan
  insertLedgerEntry entry _ := h.insertLedgerEntry entry
  writeBillingBuckets := h.writeBillingBuckets
  insertCashSweepRequest := h.insertCashSweepRequest
  insertRatedUsageEvent := h.insertRatedUsageEvent
  claimSolanaPaymentReceipt := h.claimSolanaPaymentReceipt
  writeSolanaDepositRemainder := h.writeSolanaDepositRemainder
  insertWithdrawalRequest := h.insertWithdrawalRequest
  cancelWithdrawalRequest := h.cancelWithdrawalRequest
  markWithdrawalConfirmed := h.markWithdrawalConfirmed

/-- The withdrawals, the clock and the accounts are left alone. -/
structure WithdrawalsLeft (db db' : BillingDb) : Prop where
  withdrawals : db'.books.withdrawals = db.books.withdrawals
  now : db'.now = db.now
  accounts : db'.usage.accounts = db.usage.accounts

theorem ensureOpenPlan_accounts {usage : UsageTables} {now : Timestamp} :
    (usage.ensureOpenPlan a now).accounts = usage.accounts := by
  rw [UsageTables.ensureOpenPlan]
  split <;> rfl

theorem ensureOpenPlan_sessions {usage : UsageTables} {now : Timestamp} :
    (usage.ensureOpenPlan a now).sessions = usage.sessions := by
  rw [UsageTables.ensureOpenPlan]
  split <;> rfl

/-- And so are the sessions. -/
structure WithdrawalsSessionsLeft (db db' : BillingDb) : Prop extends WithdrawalsLeft db db' where
  sessions : db'.usage.sessions = db.usage.sessions

/-- Of the writing statements, five write a withdrawal. A frame that contains
`WithdrawalsSessionsLeft` is kept by all the others. -/
theorem statementsKeep_of_withdrawalsSessions {R : BillingDb → BillingDb → Prop}
    (hLeft : ∀ db db', WithdrawalsSessionsLeft db db' → R db db')
    (hInsert : ∀ input, Keeps R (insertWithdrawalRequest input))
    (hCancel : ∀ id, Keeps R (cancelWithdrawalRequest id))
    (hConfirmed : ∀ id, Keeps R (markWithdrawalConfirmed id))
    (hSubmitted : ∀ id signature, Keeps R (markWithdrawalSubmitted id signature))
    (hFailed : ∀ id, Keeps R (markWithdrawalFailed id)) : StatementsKeep R where
  freshId := by
    intro db id db' h
    cases freshId_eq_ok.1 h
    exact hLeft _ _ ⟨⟨rfl, rfl, rfl⟩, rfl⟩
  readBillingBuckets := by
    intro a db buckets db' h
    cases (readBillingBuckets_spec h).1
    exact hLeft _ _ ⟨⟨rfl, rfl, ensureOpenPlan_accounts⟩, ensureOpenPlan_sessions⟩
  readCurrentBillingPlan := by
    intro a db plan db' h
    cases (readCurrentBillingPlan_spec h).1
    exact hLeft _ _ ⟨⟨rfl, rfl, ensureOpenPlan_accounts⟩, ensureOpenPlan_sessions⟩
  lockBillingAccrual := by
    intro a db remainder db' h
    cases lockBillingAccrual_spec h
    exact hLeft _ _ ⟨⟨rfl, rfl, ensureOpenPlan_accounts⟩, ensureOpenPlan_sessions⟩
  updateBillingAccrual := by
    intro a remainder db _ db' h
    obtain ⟨hAmount, hr⟩ := updateBillingAccrual_spec h
    cases hr
    exact hLeft _ _ ⟨⟨rfl, rfl, rfl⟩, rfl⟩
  insertLedgerEntry := by
    intro entry db inserted db' h
    rcases insertLedgerEntry_spec h with ⟨hr, -⟩ | ⟨ledger, -, hr⟩
    · cases hr
      exact hLeft _ _ ⟨⟨rfl, rfl, rfl⟩, rfl⟩
    · cases hr
      exact hLeft _ _ ⟨⟨rfl, rfl, rfl⟩, rfl⟩
  writeBillingBuckets := by
    intro a row db _ db' h
    obtain ⟨hValid, hr⟩ := writeBillingBuckets_spec h
    cases hr
    exact hLeft _ _ ⟨⟨rfl, rfl, rfl⟩, rfl⟩
  insertCashSweepRequest := by
    intro input db _ db' h
    obtain ⟨sweeps, -, hr⟩ := insertCashSweepRequest_spec h
    cases hr
    exact hLeft _ _ ⟨⟨rfl, rfl, rfl⟩, rfl⟩
  insertRetailUsageRating := by
    intro input db rating db' h
    obtain ⟨hValid, hr | ⟨ratings, -, hr⟩⟩ := insertRetailUsageRating_spec h
    · cases hr
      exact hLeft _ _ ⟨⟨rfl, rfl, rfl⟩, rfl⟩
    · cases hr
      exact hLeft _ _ ⟨⟨rfl, rfl, rfl⟩, rfl⟩
  markRatingPosted := by
    intro id posted db _ db' h
    obtain ⟨ratings, hr⟩ := markRatingPosted_spec h
    cases hr
    exact hLeft _ _ ⟨⟨rfl, rfl, rfl⟩, rfl⟩
  insertRatedUsageEvent := by
    intro input db rated db' h
    rcases insertRatedUsageEvent_spec h with ⟨hr, -⟩ | ⟨event, events, -, -, hr⟩
    · cases hr
      exact hLeft _ _ ⟨⟨rfl, rfl, rfl⟩, rfl⟩
    · cases hr
      exact hLeft _ _ ⟨⟨rfl, rfl, rfl⟩, rfl⟩
  claimSolanaPaymentReceipt := by
    intro input db claimed db' h
    rcases claimSolanaPaymentReceipt_spec h with ⟨hr, -⟩ | ⟨receipt, receipts, -, -, -, -, -, hr⟩
    · cases hr
      exact hLeft _ _ ⟨⟨rfl, rfl, rfl⟩, rfl⟩
    · cases hr
      exact hLeft _ _ ⟨⟨rfl, rfl, rfl⟩, rfl⟩
  writeSolanaDepositRemainder := by
    intro a mint remainder db _ db' h
    obtain ⟨hAmount, hr⟩ := writeSolanaDepositRemainder_spec h
    cases hr
    exact hLeft _ _ ⟨⟨rfl, rfl, rfl⟩, rfl⟩
  insertWithdrawalRequest := hInsert
  cancelWithdrawalRequest := hCancel
  markWithdrawalConfirmed := hConfirmed
  markWithdrawalSubmitted := hSubmitted
  markWithdrawalFailed := hFailed

theorem statementsKeep_of_withdrawals {R : BillingDb → BillingDb → Prop}
    (hLeft : ∀ db db', WithdrawalsLeft db db' → R db db')
    (hInsert : ∀ input, Keeps R (insertWithdrawalRequest input))
    (hCancel : ∀ id, Keeps R (cancelWithdrawalRequest id))
    (hConfirmed : ∀ id, Keeps R (markWithdrawalConfirmed id))
    (hSubmitted : ∀ id signature, Keeps R (markWithdrawalSubmitted id signature))
    (hFailed : ∀ id, Keeps R (markWithdrawalFailed id)) : StatementsKeep R :=
  statementsKeep_of_withdrawalsSessions (fun _ _ h => hLeft _ _ h.toWithdrawalsLeft) hInsert hCancel
    hConfirmed hSubmitted hFailed

theorem keeps_findWithdrawalForUpdate {id : Identifier} :
    Keeps R (findWithdrawalForUpdate a id) := by
  refine Keeps.get.bind fun db => ?_
  cases db.books.withdrawals.find? id with
  | none => exact .pure
  | some w => exact .ite (keeps_require.bind fun _ => .pure) .pure

namespace UnratedStatementsKeep

variable {P : SourceType → Prop} (h : UnratedStatementsKeep R P)

include h

theorem applyBillingCredit {input : BillingCreditInput} (hSource : P input.sourceType) :
    Keeps R (applyBillingCredit input) := by
  refine keeps_require.bind fun _ => (h.readBillingBuckets _).bind fun _ => ?_
  exact (h.insertLedgerEntry _ hSource).bind fun _ => .ite (h.writeBillingBuckets _ _) .pure

theorem creditDirectDeposit {signature : Identifier} {amountBaseUnits : Int}
    (hSource : P .solanaDirectDeposit) :
    Keeps R (creditDirectDeposit a signature amountBaseUnits config) := by
  have hRemainder : Keeps R (readSolanaDepositRemainderForUpdate a config.solanaTokenMint) :=
    Keeps.get.bind fun _ => keeps_require.bind fun _ => .pure
  have hPost : ∀ {amountMinor}, Keeps R (postDirectDeposit a signature amountMinor config) := by
    intro amountMinor
    refine (h.insertLedgerEntry _ hSource).bind fun _ => keeps_require.bind fun _ => ?_
    refine (h.readBillingBuckets _).bind fun _ => (h.writeBillingBuckets _ _).bind fun _ => ?_
    exact .ite .pure ((h.insertCashSweepRequest _).bind fun _ => .pure)
  refine keeps_ensureBillingAccount.bind fun _ => hRemainder.bind fun _ => ?_
  refine Keeps.lift.bind fun _ => (h.claimSolanaPaymentReceipt _).bind fun _ => ?_
  exact .ite ((h.writeSolanaDepositRemainder _ _ _).bind fun _ => .ite .pure hPost) .pure

theorem importDoubleZeroUsage {records : List DoubleZeroUsageRecord}
    (hSource : P .ratedUsageEvent) :
    Keeps R (importDoubleZeroUsage records config) :=
  keeps_importDoubleZeroUsage h.freshId h.insertRatedUsageEvent
    fun entry hEntry => h.insertLedgerEntry entry (hEntry ▸ hSource)

theorem createWithdrawalRequest {actor : SessionOwner} {input : CreateWithdrawalInput} :
    Keeps R (createWithdrawalRequest actor input config) := by
  rw [Billing.createWithdrawalRequest]
  refine .ite .pure ?_
  cases input.destinationAddress with
  | none => exact .pure
  | some destinationAddress =>
      have hList : Keeps R (listNonTerminalAccountSessions actor.accountId) :=
        Keeps.get.bind fun _ => .pure
      refine hList.bind fun _ => .ite .pure ((h.readBillingBuckets _).bind fun _ => ?_)
      refine (h.readCurrentBillingPlan _).bind fun _ => .ite .pure ?_
      refine (h.insertWithdrawalRequest _).bind fun _ => ?_
      exact (h.writeBillingBuckets _ _).bind fun _ => .pure

theorem cancelOwnedWithdrawal {actor : SessionOwner} {id : Identifier} :
    Keeps R (cancelOwnedWithdrawal actor id) := by
  refine keeps_findWithdrawalForUpdate.bind fun found => ?_
  cases found with
  | none => exact .pure
  | some w =>
      refine .ite .pure ((h.readBillingBuckets _).bind fun _ => ?_)
      refine (h.cancelWithdrawalRequest _).bind fun _ => ?_
      exact (h.writeBillingBuckets _ _).bind fun _ => .pure

theorem confirmWithdrawal {id : Identifier} (hSource : P .withdrawalRequest) :
    Keeps R (confirmWithdrawal a id) := by
  refine keeps_findWithdrawalForUpdate.bind fun found => ?_
  cases found with
  | none => exact .pure
  | some w =>
      refine .ite .pure (keeps_require.bind fun _ => ?_)
      refine (h.readBillingBuckets _).bind fun _ => keeps_require.bind fun _ => ?_
      refine (h.insertLedgerEntry _ hSource).bind fun _ => ?_
      exact .ite ((h.writeBillingBuckets _ _).bind fun _ => h.markWithdrawalConfirmed _)
        (h.markWithdrawalConfirmed _)

end UnratedStatementsKeep

namespace StatementsKeep

variable (h : StatementsKeep R)

include h

theorem applyBillingCredit {input : BillingCreditInput} : Keeps R (applyBillingCredit input) :=
  h.unrated.applyBillingCredit trivial

theorem settleRatingCandidate {candidate : RetailRatingCandidate}
    {config : RetailBillingRuntimeConfig} :
    Keeps R (settleRatingCandidate candidate config) := by
  have hPost : ∀ {id posted}, Keeps R (postRatedCharge candidate config id posted) := by
    intro id posted
    refine (h.readBillingBuckets _).bind fun _ => (h.insertLedgerEntry _).bind fun _ => ?_
    refine .ite ((h.writeBillingBuckets _ _).bind fun _ => ?_) .pure
    exact (h.insertCashSweepRequest _).bind fun _ => (h.markRatingPosted _ _).bind fun _ => .pure
  refine (h.insertRetailUsageRating _).bind fun rating => ?_
  cases rating with
  | none => exact .pure
  | some ratingId =>
      refine .ite .pure ((h.lockBillingAccrual _).bind fun _ => ?_)
      exact (h.updateBillingAccrual _ _).bind fun _ => .ite .pure (hPost.bind fun _ => .pure)

theorem creditDirectDeposit {signature : Identifier} {amountBaseUnits : Int} :
    Keeps R (creditDirectDeposit a signature amountBaseUnits config) :=
  h.unrated.creditDirectDeposit trivial

theorem importDoubleZeroUsage {records : List DoubleZeroUsageRecord} :
    Keeps R (importDoubleZeroUsage records config) :=
  h.unrated.importDoubleZeroUsage trivial

theorem createWithdrawalRequest {actor : SessionOwner} {input : CreateWithdrawalInput} :
    Keeps R (createWithdrawalRequest actor input config) :=
  h.unrated.createWithdrawalRequest

theorem cancelOwnedWithdrawal {actor : SessionOwner} {id : Identifier} :
    Keeps R (cancelOwnedWithdrawal actor id) :=
  h.unrated.cancelOwnedWithdrawal

theorem confirmWithdrawal {id : Identifier} : Keeps R (confirmWithdrawal a id) :=
  h.unrated.confirmWithdrawal trivial

end StatementsKeep

theorem keeps_claimWithdrawalSigningJob {locked : List Identifier} {key : CustodialKey}
    (hAdvance : Keeps R advanceWithdrawalCooldowns)
    (hClaim : ∀ f : Books → Table WithdrawalRequest.id,
      Keeps R (modifyBooks fun books => { books with withdrawals := f books }))
    (hFailed : ∀ id, Keeps R (markWithdrawalFailed id)) :
    Keeps R (claimWithdrawalSigningJob locked key) := by
  have hReady : Keeps R (claimReadyWithdrawal locked) := by
    refine Keeps.get.bind fun db => ?_
    simp only
    split
    · exact .pure
    · exact (hClaim fun books => books.withdrawals.update _ _ _).bind fun _ => .pure
  refine hAdvance.bind fun _ => hReady.bind fun found => ?_
  cases found with
  | none => exact .pure
  | some w =>
      cases key with
      | usable => exact .pure
      | undecryptable => exact .throw
      | missing | unsupportedFormat => exact (hFailed _).bind fun _ => .pure

/-! ### What the scenarios leave of the usage tables -/

/-- The clock, the accounts and the sessions are left alone. -/
structure UsageLeft (db db' : BillingDb) : Prop where
  now : db'.now = db.now
  accounts : db'.usage.accounts = db.usage.accounts
  sessions : db'.usage.sessions = db.usage.sessions

instance : IsPreorder BillingDb UsageLeft where
  refl _ := ⟨rfl, rfl, rfl⟩
  trans _ _ _ h h' :=
    ⟨h'.now.trans h.now, h'.accounts.trans h.accounts, h'.sessions.trans h.sessions⟩

variable {S : BillingDb → BillingDb → Prop} (hLeft : ∀ db db', UsageLeft db db' → S db db')

include hLeft

theorem keeps_modifyBooks_of_usage {f : Books → Books} : Keeps S (modifyBooks f) := by
  intro db _ db' h
  cases modifyBooks_eq_ok.1 h
  exact hLeft _ _ ⟨rfl, rfl, rfl⟩

variable [IsPreorder BillingDb S]

theorem statementsKeep_of_usage : StatementsKeep S := by
  refine statementsKeep_of_withdrawalsSessions
    (fun _ _ h => hLeft _ _ ⟨h.now, h.accounts, h.sessions⟩) ?_
    (fun _ => Keeps.get.bind fun _ => keeps_modifyBooks_of_usage hLeft)
    (fun _ => Keeps.get.bind fun _ => keeps_modifyBooks_of_usage hLeft)
    (fun _ _ => Keeps.get.bind fun _ => keeps_require.bind fun _ =>
      keeps_modifyBooks_of_usage hLeft)
    (fun _ => Keeps.get.bind fun _ => keeps_modifyBooks_of_usage hLeft)
  intro input db w db' h
  obtain ⟨withdrawals, -, -, -, -, -, -, hr⟩ := insertWithdrawalRequest_spec h
  simp only at hr
  subst hr
  exact hLeft _ _ ⟨rfl, rfl, rfl⟩

theorem keeps_claimWithdrawalSigningJob_of_usage {locked : List Identifier} {key : CustodialKey} :
    Keeps S (claimWithdrawalSigningJob locked key) :=
  keeps_claimWithdrawalSigningJob (Keeps.get.bind fun _ => keeps_modifyBooks_of_usage hLeft)
    (fun _ => keeps_modifyBooks_of_usage hLeft) (statementsKeep_of_usage hLeft).markWithdrawalFailed

end

end Hyperspace.Billing
