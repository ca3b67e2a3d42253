import Hyperspace.Billing.DatabaseSpecs
import Hyperspace.Billing.Operations

/-!
# What the scenarios do to the books

For each scenario, the ways a committed transaction can change the books. The agreement and
custody proofs go by cases on these and never look into a scenario again.
-/

namespace Hyperspace.Billing

open Hyperspace.Foundations

/-- The books with a ledger and new balances for one account. -/
def Books.post (books : Books) (ledger : Table LedgerEntry.key) (a : AccountId)
    (buckets : StoredBuckets) : Books :=
  { books with ledger, buckets := Function.update books.buckets a buckets }

/-- A ledger entry of account `a` with this key and amount was added. -/
structure EntryAdded (ledger : Table LedgerEntry.key) (a : AccountId)
    (key : SourceType × Identifier) (n : Int) (ledger' : Table LedgerEntry.key) : Prop where
  intro ::
  added : ∃ entry, ledger.insert entry = some ledger' ∧ entry.accountId = a ∧ entry.key = key ∧
    entry.amountMinor = n

/-- The books before and after a credit whose source is new. -/
inductive CreditPosted (input : BillingCreditInput) (books : Books) : Books → Prop
  | mk {ledger} (hValid : (applyBucketCredit (books.buckets input.accountId).val
        input.amountMinor.num input.kind).Valid) :
      EntryAdded books.ledger input.accountId (input.sourceType, input.sourceId)
        input.amountMinor.num ledger →
      0 ≤ input.amountMinor.num → (books.buckets input.accountId).val.Read →
      CreditPosted input books (books.post ledger input.accountId ⟨_, hValid⟩)

/-- The books before and after a charge under a new rating: an entry, and a sweep of its cash. -/
inductive ChargePosted (config : RetailBillingRuntimeConfig) (a : AccountId)
    (ratingId : Identifier) (n : Int) (books : Books) : Books → Prop
  | mk {ledger sweeps} (hValid : (consumeBillingCharge (books.buckets a).val n).Valid) :
      EntryAdded books.ledger a (.retailUsageRating, ratingId) (-n) ledger →
      (books.buckets a).val.Read →
      SweepRecorded (cashSweep a .retailUsageRating ratingId
        ((books.buckets a).val.cashMinor - (consumeBillingCharge (books.buckets a).val n).cashMinor)
        config.tokenMint config.tokenBaseUnitsPerBillingMinor) books.sweeps sweeps →
      ChargePosted config a ratingId n books { books.post ledger a ⟨_, hValid⟩ with sweeps }

/-- A deposit that adds up to at least one minor unit. -/
inductive DepositPosted (config : BillingConfig) (a : AccountId) (signature : Identifier)
    (n : Int) (books : Books) : Books → Prop
  | mk {ledger sweeps} (hValid : (applyBucketCredit (books.buckets a).val n .cash).Valid) :
      EntryAdded books.ledger a (.solanaDirectDeposit, signature) n ledger →
      (books.buckets a).val.Read →
      (config.solanaAssetKind = .native ∧ sweeps = books.sweeps ∨
        config.solanaAssetKind = .spl ∧
        SweepRecorded (cashSweep a .directDepositDebtRepayment signature
          ((books.buckets a).val.debtMinor -
            (applyBucketCredit (books.buckets a).val n .cash).debtMinor)
          config.solanaTokenMint config.solanaTokenBaseUnitsPerBillingMinor)
          books.sweeps sweeps) →
      DepositPosted config a signature n books { books.post ledger a ⟨_, hValid⟩ with sweeps }

/-- A new receipt with the remainder its conversion leaves. -/
inductive ReceiptTaken (config : BillingConfig) (a : AccountId) (signature : Identifier)
    (amountBaseUnits : Int) (conversion : DepositConversion) (books : Books) : Books → Prop
  | mk {receipt receipts} (hRemainder : IsAmount conversion.remainderBaseUnits) :
      convertDepositToBillingMinor (books.depositRemainders a config.solanaTokenMint).val
        amountBaseUnits config.solanaTokenBaseUnitsPerBillingMinor = .ok conversion →
      books.receipts.insert receipt = some receipts →
      receipt.transactionSignature = signature → receipt.accountId = a →
      receipt.amountBaseUnits = amountBaseUnits → FitsInt conversion.amountMinor →
      ReceiptTaken config a signature amountBaseUnits conversion books
        { books with
          receipts
          depositRemainders := Function.update books.depositRemainders a
            (Function.update (books.depositRemainders a) config.solanaTokenMint
              ⟨_, hRemainder⟩) }

/-- The books before and after a deposit with a new signature. Below one billing unit only the
receipt is taken. -/
inductive DepositCredited (config : BillingConfig) (a : AccountId) (signature : Identifier)
    (amountBaseUnits : Int) (books : Books) : Books → Prop
  | below {conversion books'} :
      ReceiptTaken config a signature amountBaseUnits conversion books books' →
      conversion.amountMinor ≤ 0 →
      DepositCredited config a signature amountBaseUnits books books'
  | posted {conversion books' books''} :
      ReceiptTaken config a signature amountBaseUnits conversion books books' →
      0 < conversion.amountMinor →
      DepositPosted config a signature conversion.amountMinor books' books'' →
      DepositCredited config a signature amountBaseUnits books books''

/-- A new withdrawal in `cooldown` with its amount reserved. -/
inductive WithdrawalReserved (a : AccountId) (books : Books) (id : Identifier) : Books → Prop
  | mk {withdrawal : WithdrawalRequest} {withdrawals} (hValid : { (books.buckets a).val with
        reservedWithdrawalMinor := (books.buckets a).val.reservedWithdrawalMinor +
          withdrawal.amountMinor }.Valid) :
      books.withdrawals.insert withdrawal = some withdrawals → withdrawal.id = id →
      withdrawal.status = .cooldown → withdrawal.transactionSignature = none →
      withdrawal.accountId = a → (books.buckets a).val.debtMinor = 0 →
      WithdrawalReserved a books id
        { books with
          withdrawals, buckets := Function.update books.buckets a ⟨_, hValid⟩ }

/-- A withdrawal given up by its owner, its reservation released. -/
inductive WithdrawalReleased (a : AccountId) (id : Identifier) (now : Timestamp) (books : Books) :
    Books → Prop
  | mk {withdrawal : WithdrawalRequest} {reserved : Int} (hValid : { (books.buckets a).val with
        reservedWithdrawalMinor := reserved }.Valid) :
      books.withdrawals.find? id = some withdrawal →
      withdrawal.status ∈ [.cooldown, .ready, .failed] → withdrawal.accountId = a →
      reserved =
        max 0 ((books.buckets a).val.reservedWithdrawalMinor - withdrawal.amountMinor) →
      WithdrawalReleased a id now books
        { books with
          withdrawals := books.withdrawals.update id (·.cancel now)
            (WithdrawalRequest.cancel_id now)
          buckets := Function.update books.buckets a ⟨_, hValid⟩ }

/-- A submitted withdrawal confirmed: debited now, or already debited. -/
inductive WithdrawalDebited (a : AccountId) (id : Identifier) (now : Timestamp) (books : Books) :
    Books → Prop
  | debited {withdrawal : WithdrawalRequest} {ledger} (hValid : { (books.buckets a).val with
        cashMinor := (books.buckets a).val.cashMinor - withdrawal.amountMinor
        reservedWithdrawalMinor :=
          (books.buckets a).val.reservedWithdrawalMinor - withdrawal.amountMinor }.Valid) :
      books.withdrawals.find? id = some withdrawal → withdrawal.accountId = a →
      withdrawal.status = .submitted →
      EntryAdded books.ledger a (.withdrawalRequest, id) (-withdrawal.amountMinor) ledger →
      WithdrawalDebited a id now books
        { books.post ledger a ⟨_, hValid⟩ with
          withdrawals := books.withdrawals.update id (·.markConfirmed now)
            (WithdrawalRequest.markConfirmed_id now) }
  | alreadyDebited {withdrawal : WithdrawalRequest} :
      books.withdrawals.find? id = some withdrawal → withdrawal.status = .submitted →
      books.ledger.HasKey (.withdrawalRequest, id) →
      WithdrawalDebited a id now books
        { books with
          withdrawals := books.withdrawals.update id (·.markConfirmed now)
            (WithdrawalRequest.markConfirmed_id now) }

section

variable {db db' : BillingDb}

@[simp] theorem liftExcept_eq_ok {α : Type} {x : Except BillingError α} {r : α × BillingDb} :
    liftExcept x db = .ok r ↔ ∃ a, x = .ok a ∧ r = (a, db) := by
  cases x with
  | error e => simp [liftExcept, StateT.lift, bind, Except.bind]
  | ok b => simp [liftExcept, StateT.lift, bind, Except.bind, pure, Except.pure, eq_comm]

theorem EntryAdded.of_insert {ledger ledger' : Table LedgerEntry.key} {entry : LedgerEntry}
    (h : ledger.insert entry = some ledger') :
    EntryAdded ledger entry.accountId entry.key entry.amountMinor ledger' :=
  ⟨entry, h, rfl, rfl, rfl⟩

theorem applyBillingCredit_spec {input : BillingCreditInput}
    (h : applyBillingCredit input db = .ok ((), db')) :
    db'.nextId = db.nextId ∧
      ((db'.books = db.books ∧ db.books.ledger.HasKey (input.sourceType, input.sourceId)) ∨
        CreditPosted input db.books db'.books) := by
  simp only [applyBillingCredit, bind_eq_ok] at h
  obtain ⟨_, db₁, hAmount, buckets, db₂, hBuckets, inserted, db₃, hLedger, h⟩ := h
  obtain ⟨⟨-, hPositive⟩, hr⟩ := require_eq_ok.1 hAmount
  cases hr
  obtain ⟨hr, hRead⟩ := readBillingBuckets_spec hBuckets
  cases hr
  rcases insertLedgerEntry_spec hLedger with ⟨hr, hTaken⟩ | ⟨ledger, hInsert, hr⟩
  · cases hr
    rw [if_neg (by decide), pure_eq_ok] at h
    cases h
    exact ⟨rfl, .inl ⟨rfl, hTaken⟩⟩
  · cases hr
    rw [if_pos rfl] at h
    obtain ⟨hValid, hr⟩ := writeBillingBuckets_spec h
    cases hr
    exact ⟨rfl, .inr (.mk hValid (.of_insert hInsert) (Rat.num_nonneg.2 hPositive.le) hRead)⟩

theorem postRatedCharge_spec {candidate : RetailRatingCandidate}
    {config : RetailBillingRuntimeConfig} {ratingId : Identifier} {n posted : Int}
    (h : postRatedCharge candidate config ratingId n db = .ok (posted, db')) :
    db.nextId ≤ db'.nextId ∧ (db'.books = db.books ∨
      ChargePosted config candidate.accountId ratingId n db.books db'.books) := by
  simp only [postRatedCharge, bind_eq_ok] at h
  obtain ⟨buckets, db₁, hBuckets, inserted, db₂, hLedger, h⟩ := h
  obtain ⟨hr, hRead⟩ := readBillingBuckets_spec hBuckets
  cases hr
  rcases insertLedgerEntry_spec hLedger with ⟨hr, -⟩ | ⟨ledger, hInsert, hr⟩
  · cases hr
    rw [if_neg (by decide), pure_eq_ok] at h
    cases h
    exact ⟨Nat.le_refl _, .inl rfl⟩
  · cases hr
    rw [if_pos rfl] at h
    simp only [bind_eq_ok] at h
    obtain ⟨_, db₃, hWrite, _, db₄, hSweep, _, db₅, hPosted, h⟩ := h
    obtain ⟨hValid, hr⟩ := writeBillingBuckets_spec hWrite
    cases hr
    obtain ⟨sweeps, hRecorded, hr⟩ := insertCashSweepRequest_spec hSweep
    cases hr
    obtain ⟨ratings, hr⟩ := markRatingPosted_spec hPosted
    cases hr
    cases pure_eq_ok.1 h
    exact ⟨Nat.le_refl _, .inr (.mk hValid (.of_insert hInsert) hRead hRecorded)⟩

theorem posted_le {remainder charge : Int} (hRemainder : IsAmount remainder)
    (hCharge : IsAmount charge) : (remainder + charge) / microminorPerMinor ≤ 2 ^ 52 := by
  simp only [IsAmount, FitsBigint, microminorPerMinor] at *
  omega

/-- Settling a candidate leaves the books alone or posts one charge under the new rating. -/
theorem settleRatingCandidate_spec {candidate : RetailRatingCandidate}
    {config : RetailBillingRuntimeConfig} {posted : Option Int}
    (h : settleRatingCandidate candidate config db = .ok (posted, db')) :
    db.nextId < db'.nextId ∧ (db'.books = db.books ∨ ∃ n, 0 < n ∧ n ≤ 2 ^ 52 ∧
      ChargePosted config candidate.accountId db.nextId n db.books db'.books) := by
  simp only [settleRatingCandidate, bind_eq_ok] at h
  obtain ⟨rating, db₁, hRating, h⟩ := h
  obtain ⟨hRatingValid, hr | ⟨ratings, -, hr⟩⟩ := insertRetailUsageRating_spec hRating
  · cases hr
    cases pure_eq_ok.1 h
    exact ⟨Nat.lt_succ_self _, .inl rfl⟩
  · cases hr
    simp only at h
    split at h
    · cases pure_eq_ok.1 h
      exact ⟨Nat.lt_succ_self _, .inl rfl⟩
    · simp only [bind_eq_ok] at h
      obtain ⟨remainder, db₂, hLock, _, db₃, hAccrual, h⟩ := h
      cases lockBillingAccrual_spec hLock
      obtain ⟨hRemainder, hr⟩ := updateBillingAccrual_spec hAccrual
      cases hr
      split at h
      · cases pure_eq_ok.1 h
        exact ⟨Nat.lt_succ_self _, .inl rfl⟩
      · rename_i hPositive
        simp only [bind_eq_ok, pure_eq_ok] at h
        obtain ⟨n, db₄, hPost, h⟩ := h
        cases h
        obtain ⟨hNext, hBooks⟩ := postRatedCharge_spec hPost
        refine ⟨hNext, hBooks.imp_right fun hCharge => ⟨_, not_le.1 hPositive, ?_, hCharge⟩⟩
        exact posted_le (db.accruals candidate.accountId).2 hRatingValid.charge_valid

theorem postDirectDeposit_spec {a : AccountId} {signature : Identifier} {n : Int}
    {config : BillingConfig} {result : DirectDepositResult}
    (h : postDirectDeposit a signature n config db = .ok (result, db')) :
    db.nextId ≤ db'.nextId ∧ DepositPosted config a signature n db.books db'.books := by
  simp only [postDirectDeposit, bind_eq_ok] at h
  obtain ⟨inserted, db₁, hLedger, _, db₂, hInserted, buckets, db₃, hBuckets, _, db₄, hWrite, h⟩ := h
  rcases insertLedgerEntry_spec hLedger with ⟨hr, -⟩ | ⟨ledger, hInsert, hr⟩
  · cases hr
    simp at hInserted
  · cases hr
    cases (require_eq_ok.1 hInserted).2
    obtain ⟨hr, hRead⟩ := readBillingBuckets_spec hBuckets
    cases hr
    obtain ⟨hWritten, hr⟩ := writeBillingBuckets_spec hWrite
    cases hr
    have hValid : (applyBucketCredit (db.books.buckets a).val n .cash).Valid := hWritten
    split at h
    · rename_i hNative
      cases pure_eq_ok.1 h
      have hPosted : DepositPosted config a signature n db.books _ :=
        .mk hValid (.of_insert hInsert) hRead (.inl ⟨hNative, rfl⟩)
      exact ⟨Nat.le_refl _, hPosted⟩
    · rename_i hSpl
      simp only [bind_eq_ok, pure_eq_ok] at h
      obtain ⟨_, db₅, hSweep, h⟩ := h
      obtain ⟨sweeps, hRecorded, hr⟩ := insertCashSweepRequest_spec hSweep
      cases hr
      cases h
      have hKind : config.solanaAssetKind = .spl := by
        cases hKind : config.solanaAssetKind with
        | spl => rfl
        | native => exact absurd hKind hSpl
      have hPosted : DepositPosted config a signature n db.books _ :=
        .mk hValid (.of_insert hInsert) hRead (.inr ⟨hKind, hRecorded⟩)
      exact ⟨Nat.le_refl _, hPosted⟩

theorem creditDirectDeposit_spec {a : AccountId} {signature : Identifier} {amountBaseUnits : Int}
    {config : BillingConfig} {result : DirectDepositResult}
    (h : creditDirectDeposit a signature amountBaseUnits config db = .ok (result, db')) :
    db.nextId ≤ db'.nextId ∧
      ((db'.books = db.books ∧ db.books.receipts.HasKey signature) ∨
        DepositCredited config a signature amountBaseUnits db.books db'.books) := by
  simp only [creditDirectDeposit, bind_eq_ok] at h
  obtain ⟨_, db₁, hAccount, remainder, db₂, hRemainder, conversion, db₃, hConvert, claimed, db₄,
    hClaim, h⟩ := h
  cases (ensureBillingAccount_spec hAccount).2
  cases readSolanaDepositRemainderForUpdate_spec hRemainder
  obtain ⟨_, hConversion, hr⟩ := liftExcept_eq_ok.1 hConvert
  cases hr
  rcases claimSolanaPaymentReceipt_spec hClaim with
    ⟨hr, hTaken⟩ | ⟨receipt, receipts, hInsert, hSignature, hReceiptAccount, hAmount, hInt, hr⟩
  · cases hr
    rw [if_neg (by decide), pure_eq_ok] at h
    cases h
    exact ⟨Nat.le_refl _, .inl ⟨rfl, hTaken⟩⟩
  · cases hr
    rw [if_pos rfl] at h
    simp only [bind_eq_ok] at h
    obtain ⟨_, db₅, hWrite, h⟩ := h
    obtain ⟨hValid, hr⟩ := writeSolanaDepositRemainder_spec hWrite
    cases hr
    have hReceipt := ReceiptTaken.mk hValid hConversion hInsert hSignature hReceiptAccount hAmount
      hInt
    split at h
    · rename_i hBelow
      cases pure_eq_ok.1 h
      exact ⟨Nat.le_refl _, .inr (.below hReceipt hBelow)⟩
    · rename_i hPositive
      obtain ⟨hNext, hPosted⟩ := postDirectDeposit_spec h
      exact ⟨hNext, .inr (.posted hReceipt (not_le.1 hPositive) hPosted)⟩

theorem createWithdrawalRequest_spec {actor : SessionOwner} {input : CreateWithdrawalInput}
    {config : BillingConfig} {result : CreateWithdrawalResult}
    (h : createWithdrawalRequest actor input config db = .ok (result, db')) :
    db.nextId ≤ db'.nextId ∧ (db'.books = db.books ∨ db.nextId < db'.nextId ∧
      WithdrawalReserved actor.accountId db.books db.nextId db'.books ∧
      (db'.usage.currentPlan actor.accountId).isSome) := by
  rw [createWithdrawalRequest] at h
  split at h
  · cases pure_eq_ok.1 h
    exact ⟨Nat.le_refl _, .inl rfl⟩
  · cases hDestination : input.destinationAddress with
    | none =>
        rw [hDestination] at h
        cases pure_eq_ok.1 h
        exact ⟨Nat.le_refl _, .inl rfl⟩
    | some destinationAddress =>
        rw [hDestination] at h
        simp only [listNonTerminalAccountSessions, bind_eq_ok, get_eq_ok, pure_eq_ok] at h
        obtain ⟨sessions, db₁, ⟨_, _, hr₀, hr₁⟩, h⟩ := h
        cases hr₀
        cases hr₁
        split at h
        · cases pure_eq_ok.1 h
          exact ⟨Nat.le_refl _, .inl rfl⟩
        · simp only [bind_eq_ok] at h
          obtain ⟨buckets, db₂, hBuckets, plan, db₃, hPlan, h⟩ := h
          obtain ⟨hr, -⟩ := readBillingBuckets_spec hBuckets
          cases hr
          obtain ⟨hdb₃, hCurrent⟩ := readCurrentBillingPlan_spec hPlan
          simp only at hdb₃ hCurrent
          subst hdb₃
          split at h
          · cases pure_eq_ok.1 h
            exact ⟨Nat.le_refl _, .inl rfl⟩
          · rename_i hSufficient
            have hDebt : (db.books.buckets actor.accountId).val.debtMinor = 0 :=
              le_antisymm (not_lt.1 fun hOwed => hSufficient (.inl hOwed))
                (db.books.buckets actor.accountId).2.2.2.2.1.1
            simp only [bind_eq_ok, pure_eq_ok] at h
            obtain ⟨withdrawal, db₄, hInsert, _, db₅, hWrite, h⟩ := h
            obtain ⟨withdrawals, hInserted, hId, hStatus, hSignature, hAmount, hOwner, hr⟩ :=
              insertWithdrawalRequest_spec hInsert
            simp only at hr hId hAmount hOwner
            subst hr
            rw [← hAmount] at hWrite
            obtain ⟨hValid, hr⟩ := writeBillingBuckets_spec hWrite
            cases hr
            cases h
            have hReserved : WithdrawalReserved actor.accountId db.books db.nextId _ :=
              .mk hValid hInserted hId hStatus hSignature hOwner hDebt
            exact ⟨Nat.le_succ _,
              .inr ⟨Nat.lt_succ_self _, hReserved, Option.isSome_iff_exists.2 ⟨plan, hCurrent⟩⟩⟩

theorem cancelOwnedWithdrawal_spec {actor : SessionOwner} {id : Identifier}
    {result : CancelWithdrawalResult}
    (h : cancelOwnedWithdrawal actor id db = .ok (result, db')) :
    db'.nextId = db.nextId ∧ (db'.books = db.books ∨
      WithdrawalReleased actor.accountId id db.now db.books db'.books) := by
  simp only [cancelOwnedWithdrawal, bind_eq_ok] at h
  obtain ⟨found, db₁, hFind, h⟩ := h
  rcases findWithdrawalForUpdate_spec hFind with hr | ⟨w, hFound, hAccount, hr⟩
  · cases hr
    cases pure_eq_ok.1 h
    exact ⟨rfl, .inl rfl⟩
  · cases hr
    simp only at h
    split at h
    · cases pure_eq_ok.1 h
      exact ⟨rfl, .inl rfl⟩
    · rename_i hStatus
      simp only [cancelWithdrawalRequest, bind_eq_ok, get_eq_ok, modifyBooks_eq_ok,
        pure_eq_ok] at h
      obtain ⟨buckets, db₂, hBuckets, _, db₃, ⟨_, _, hr₁, hr₂⟩, _, db₄, hWrite, h⟩ := h
      obtain ⟨hr, -⟩ := readBillingBuckets_spec hBuckets
      cases hr
      cases hr₁
      cases hr₂
      obtain ⟨hValid, hr⟩ := writeBillingBuckets_spec hWrite
      cases hr
      cases h
      rw [(Table.find?_eq_some hFound).2]
      have hReleased : WithdrawalReleased actor.accountId id db.now db.books _ :=
        .mk hValid hFound (not_not.1 hStatus) hAccount rfl
      exact ⟨rfl, .inr hReleased⟩

theorem debitWithdrawal_spec {a : AccountId} {w : WithdrawalRequest}
    (hFound : db.books.withdrawals.find? w.id = some w) (hAccount : w.accountId = a)
    (hStatus : w.status = .submitted) (h : debitWithdrawal a w db = .ok ((), db')) :
    db'.nextId = db.nextId ∧ WithdrawalDebited a w.id db.now db.books db'.books := by
  simp only [debitWithdrawal, bind_eq_ok] at h
  obtain ⟨buckets, db₁, hBuckets, _, db₂, hCovered, inserted, db₃, hLedger, h⟩ := h
  obtain ⟨hr, -⟩ := readBillingBuckets_spec hBuckets
  cases hr
  cases (require_eq_ok.1 hCovered).2
  rcases insertLedgerEntry_spec hLedger with ⟨hr, hTaken⟩ | ⟨ledger, hInsert, hr⟩
  · cases hr
    rw [if_neg (by decide)] at h
    simp only [markWithdrawalConfirmed, bind_eq_ok, get_eq_ok, modifyBooks_eq_ok] at h
    obtain ⟨_, _, hr₁, hr₂⟩ := h
    cases hr₁
    cases hr₂
    have hDebited : WithdrawalDebited a w.id db.now db.books _ :=
      .alreadyDebited hFound hStatus hTaken
    exact ⟨rfl, hDebited⟩
  · cases hr
    rw [if_pos rfl] at h
    simp only [markWithdrawalConfirmed, bind_eq_ok, get_eq_ok, modifyBooks_eq_ok] at h
    obtain ⟨_, db₄, hWrite, _, _, hr₁, hr₂⟩ := h
    obtain ⟨hWritten, hr⟩ := writeBillingBuckets_spec hWrite
    cases hr
    cases hr₁
    cases hr₂
    have hDebited : WithdrawalDebited a w.id db.now db.books _ :=
      .debited hWritten hFound hAccount hStatus (.of_insert hInsert)
    exact ⟨rfl, hDebited⟩

theorem confirmWithdrawal_spec {a : AccountId} {id : Identifier}
    (h : confirmWithdrawal a id db = .ok ((), db')) :
    db'.nextId = db.nextId ∧ (db'.books = db.books ∨
      WithdrawalDebited a id db.now db.books db'.books) := by
  simp only [confirmWithdrawal, bind_eq_ok] at h
  obtain ⟨found, db₁, hFind, h⟩ := h
  rcases findWithdrawalForUpdate_spec hFind with hr | ⟨w, hFound, hAccount, hr⟩
  · cases hr
    cases pure_eq_ok.1 h
    exact ⟨rfl, .inl rfl⟩
  · cases hr
    simp only at h
    split at h
    · cases pure_eq_ok.1 h
      exact ⟨rfl, .inl rfl⟩
    · simp only [bind_eq_ok] at h
      obtain ⟨_, db₂, hSubmitted, h⟩ := h
      obtain ⟨hStatus, hr⟩ := require_eq_ok.1 hSubmitted
      cases hr
      obtain rfl := (Table.find?_eq_some hFound).2
      obtain ⟨hNext, hDebited⟩ := debitWithdrawal_spec hFound hAccount hStatus h
      exact ⟨hNext, .inr hDebited⟩

end

end Hyperspace.Billing
