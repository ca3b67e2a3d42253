import Hyperspace.Billing.History
import Mathlib.Algebra.Order.BigOperators.Group.List

/-!
# Reservations of withdrawals

The amount of a withdrawal is reserved from its creation until it is confirmed or cancelled, and
the bucket of its account holds exactly the sum of what is reserved.
-/

namespace Hyperspace.Billing

open Hyperspace.Foundations

/-- The amounts of the withdrawals of an account that are still reserved. -/
def Books.reservedMinor (books : Books) (a : AccountId) : Int :=
  books.withdrawals.sum fun w => if w.accountId = a ∧ w.status.isReserved then w.amountMinor else 0

/-- A withdrawal with a ledger entry is confirmed. -/
def Books.DebitsConfirmed (books : Books) : Prop :=
  ∀ id, books.ledger.HasKey (.withdrawalRequest, id) →
    ∃ w ∈ books.withdrawals.rows, w.id = id ∧ w.status = .confirmed

/-- The bucket of the account holds what its withdrawals reserve. -/
structure Books.Reserves (books : Books) (a : AccountId) : Prop where
  exact : (books.buckets a).val.reservedWithdrawalMinor = books.reservedMinor a
  debits : books.DebitsConfirmed

/-- Manual credits come from the admin route, the only caller of `applyBillingCredit`. -/
def AsRouted : BillingOp → Prop
  | .applyBillingCredit input => input.sourceType = .adminManualCredit
  | _ => True

section

variable {books books' : Books} {a a' : AccountId} {n : Int}

/-! ### Debits -/

theorem EntryAdded.hasKey_withdrawal {ledger ledger' : Table LedgerEntry.key} {id : Identifier}
    {key : SourceType × Identifier} (h : EntryAdded ledger a' key n ledger')
    (hSource : key.1 ≠ .withdrawalRequest) (hKey : ledger'.HasKey (.withdrawalRequest, id)) :
    ledger.HasKey (.withdrawalRequest, id) := by
  obtain ⟨entry, hInsert, -, rfl, -⟩ := h.added
  refine ((Table.hasKey_insert hInsert).1 hKey).resolve_right fun hEq => hSource ?_
  rw [← hEq]

theorem Books.DebitsConfirmed.mono (h : books.DebitsConfirmed)
    (hDebits : ∀ id, books'.ledger.HasKey (.withdrawalRequest, id) →
      books.ledger.HasKey (.withdrawalRequest, id))
    (hRows : ∀ w ∈ books.withdrawals.rows, w.status = .confirmed →
      ∃ w' ∈ books'.withdrawals.rows, w'.id = w.id ∧ w'.status = .confirmed) :
    books'.DebitsConfirmed := by
  intro id hKey
  obtain ⟨w, hMem, rfl, hConfirmed⟩ := h id (hDebits id hKey)
  exact hRows w hMem hConfirmed

theorem Books.DebitsConfirmed.of_withdrawals (h : books.DebitsConfirmed)
    (hDebits : ∀ id, books'.ledger.HasKey (.withdrawalRequest, id) →
      books.ledger.HasKey (.withdrawalRequest, id))
    (hSame : books'.withdrawals = books.withdrawals) : books'.DebitsConfirmed :=
  h.mono hDebits fun w hMem hConfirmed => ⟨w, hSame ▸ hMem, rfl, hConfirmed⟩

theorem Books.DebitsConfirmed.not_debited {id : Identifier} {withdrawal : WithdrawalRequest}
    (h : books.DebitsConfirmed) (hFound : books.withdrawals.find? id = some withdrawal)
    (hStatus : withdrawal.status ≠ .confirmed) :
    ¬ books.ledger.HasKey (.withdrawalRequest, id) := by
  intro hKey
  obtain ⟨w, hMem, hId, hConfirmed⟩ := h id hKey
  obtain ⟨hRow, hRowId⟩ := Table.find?_eq_some hFound
  exact hStatus (Table.row_unique hMem hRow (hId.trans hRowId.symm) ▸ hConfirmed)

theorem WithdrawalReserved.debitsConfirmed {id : Identifier}
    (hReserved : WithdrawalReserved a' books id books') (h : books.DebitsConfirmed) :
    books'.DebitsConfirmed := by
  cases hReserved with
  | mk hValid hInsert =>
      exact h.mono (fun _ hKey => hKey)
        fun w hMem hConfirmed => ⟨w, (Table.mem_insert hInsert).2 (.inl hMem), rfl, hConfirmed⟩

theorem WithdrawalReleased.debitsConfirmed {id : Identifier} {now : Timestamp}
    (hReleased : WithdrawalReleased a' id now books books') (h : books.DebitsConfirmed) :
    books'.DebitsConfirmed := by
  cases hReleased with
  | mk hValid hFound hStatus =>
      refine h.mono (fun _ hKey => hKey) fun w hMem hConfirmed =>
        ⟨w, (Table.mem_update (WithdrawalRequest.cancel_id now)).2 ⟨w, hMem, ?_⟩, rfl, hConfirmed⟩
      rw [if_neg]
      intro hSame
      obtain ⟨hRow, hRowId⟩ := Table.find?_eq_some hFound
      obtain rfl := Table.row_unique hMem hRow (hSame.trans hRowId.symm)
      simp [hConfirmed] at hStatus

theorem WithdrawalDebited.debitsConfirmed {id : Identifier} {now : Timestamp}
    (hDebited : WithdrawalDebited a' id now books books') (h : books.DebitsConfirmed) :
    books'.DebitsConfirmed := by
  cases hDebited with
  | @debited withdrawal ledger hValid hFound hAccount hStatus hEntry =>
      intro k hKey
      obtain ⟨hRow, hRowId⟩ := Table.find?_eq_some hFound
      have hMem := @Table.mem_update _ _ _ _ books.withdrawals id _
        (WithdrawalRequest.markConfirmed_id now)
      rcases eq_or_ne k id with rfl | hne
      · refine ⟨_, hMem.2 ⟨withdrawal, hRow, rfl⟩, ?_⟩
        rw [if_pos hRowId]
        exact ⟨hRowId, rfl⟩
      · have hOld : books.ledger.HasKey (.withdrawalRequest, k) := by
          obtain ⟨entry, hInsert, -, hEntryKey, -⟩ := hEntry.added
          refine ((Table.hasKey_insert hInsert).1 hKey).resolve_right fun hEq => hne ?_
          rw [hEntryKey] at hEq
          exact congrArg Prod.snd hEq
        obtain ⟨w, hw, hId, hConfirmed⟩ := h k hOld
        exact ⟨w, hMem.2 ⟨w, hw, if_neg (hId ▸ hne)⟩, hId, hConfirmed⟩
  | alreadyDebited hFound hStatus hTaken =>
      exact absurd hTaken (h.not_debited hFound (by simp [hStatus]))

theorem WithdrawalsMoved.debitsConfirmed (hMoved : WithdrawalsMoved books books')
    (h : books.DebitsConfirmed) : books'.DebitsConfirmed := by
  obtain ⟨f, hf, rfl, hRows⟩ := hMoved
  exact h.mono (fun _ hKey => hKey) fun w hMem hConfirmed =>
    ⟨f w, (Table.mem_modify hf).2 ⟨w, hMem, rfl⟩, hf w, (hRows w hMem).confirmed.2 hConfirmed⟩

/-! ### What each posting reserves -/

theorem reserved_update {buckets : StoredBuckets} :
    (Function.update books.buckets a' buckets a).val.reservedWithdrawalMinor =
      (books.buckets a).val.reservedWithdrawalMinor +
        if a' = a then buckets.val.reservedWithdrawalMinor -
          (books.buckets a').val.reservedWithdrawalMinor else 0 := by
  rcases eq_or_ne a' a with rfl | hne
  · rw [Function.update_self, if_pos rfl]
    omega
  · rw [Function.update_of_ne hne.symm, if_neg hne, Int.add_zero]

theorem Books.Reserves.post {key : SourceType × Identifier} {ledger : Table LedgerEntry.key}
    {buckets : StoredBuckets} {sweeps : Table CashSweepRequest.key} (h : books.Reserves a)
    (hEntry : EntryAdded books.ledger a' key n ledger) (hSource : key.1 ≠ .withdrawalRequest)
    (hSame : buckets.val.reservedWithdrawalMinor =
      (books.buckets a').val.reservedWithdrawalMinor) :
    Books.Reserves { books.post ledger a' buckets with sweeps } a := by
  refine ⟨?_, h.debits.of_withdrawals (fun id => hEntry.hasKey_withdrawal hSource) rfl⟩
  have hBucket := @reserved_update books a a' buckets
  rw [hSame, Int.sub_self, ite_self, Int.add_zero] at hBucket
  exact hBucket.trans h.exact

theorem CreditPosted.reserves {input : BillingCreditInput}
    (hPosted : CreditPosted input books books') (hSource : input.sourceType = .adminManualCredit)
    (h : books.Reserves a) : books'.Reserves a := by
  cases hPosted with
  | mk hValid hEntry => exact h.post hEntry (by simp [hSource]) rfl

theorem ChargePosted.reserves {config : RetailBillingRuntimeConfig} {ratingId : Identifier}
    (hPosted : ChargePosted config a' ratingId n books books') (h : books.Reserves a) :
    books'.Reserves a := by
  cases hPosted with
  | mk hValid hEntry => exact h.post hEntry (by simp) rfl

theorem DepositCredited.reserves {config : BillingConfig} {signature : Identifier}
    {amountBaseUnits : Int}
    (hCredited : DepositCredited config a' signature amountBaseUnits books books')
    (h : books.Reserves a) : books'.Reserves a := by
  have hTaken : ∀ {conversion books₁}, ReceiptTaken config a' signature amountBaseUnits conversion
      books books₁ → books₁.Reserves a := by
    intro conversion books₁ hReceipt
    cases hReceipt with
    | mk => exact ⟨h.exact, h.debits⟩
  cases hCredited with
  | below hReceipt => exact hTaken hReceipt
  | posted hReceipt hPositive hPosted =>
      cases hPosted with
      | mk hValid hEntry => exact (hTaken hReceipt).post hEntry (by simp) rfl

theorem WithdrawalReserved.reserves {id : Identifier}
    (hReserved : WithdrawalReserved a' books id books') (h : books.Reserves a) :
    books'.Reserves a := by
  refine ⟨?_, hReserved.debitsConfirmed h.debits⟩
  cases hReserved with
  | @mk withdrawal withdrawals hValid hInsert hId hStatus hSignature hAccount =>
      have hSum : Books.reservedMinor { books with
          withdrawals, buckets := Function.update books.buckets a' ⟨_, hValid⟩ } a =
          books.reservedMinor a + if a' = a then withdrawal.amountMinor else 0 := by
        simp [Books.reservedMinor, Table.sum_insert hInsert, hStatus, hAccount,
          WithdrawalStatus.isReserved]
      rw [hSum, ← h.exact]
      simp only [reserved_update]
      split <;> omega

theorem Books.amount_le_reservedMinor {w : WithdrawalRequest} (hMem : w ∈ books.withdrawals.rows)
    (hStatus : w.status.isReserved) : w.amountMinor ≤ books.reservedMinor w.accountId := by
  have hTerm := @List.single_le_sum _ _ _ _ (books.withdrawals.rows.map fun x =>
    if x.accountId = w.accountId ∧ x.status.isReserved then x.amountMinor else 0) (by
      simp only [List.mem_map]
      rintro _ ⟨x, -, rfl⟩
      split
      · exact x.amount_valid.1.le
      · exact le_refl _)
  refine hTerm _ (List.mem_map.2 ⟨w, hMem, ?_⟩)
  rw [if_pos ⟨rfl, hStatus⟩]

theorem isReserved_of_cancellable {status : WithdrawalStatus}
    (h : status ∈ [.cooldown, .ready, .failed]) : status.isReserved := by
  cases status with
  | cooldown | ready | failed => rfl
  | processing | submitted | confirmed | rejected | cancelled => simp at h

/-- A withdrawal that its owner may cancel is covered, so nothing is clamped. -/
theorem Books.Reserves.not_clamped (h : books.Reserves a) {w : WithdrawalRequest}
    (hMem : w ∈ books.withdrawals.rows) (hAccount : w.accountId = a)
    (hStatus : w.status ∈ [.cooldown, .ready, .failed]) :
    max 0 ((books.buckets a).val.reservedWithdrawalMinor - w.amountMinor) =
      (books.buckets a).val.reservedWithdrawalMinor - w.amountMinor := by
  have hCovered := Books.amount_le_reservedMinor hMem (isReserved_of_cancellable hStatus)
  rw [hAccount, ← h.exact] at hCovered
  exact max_eq_right (by omega)

theorem WithdrawalReleased.reserves {id : Identifier} {now : Timestamp}
    (hReleased : WithdrawalReleased a' id now books books') (h : books.Reserves a) :
    books'.Reserves a := by
  refine ⟨?_, hReleased.debitsConfirmed h.debits⟩
  cases hReleased with
  | @mk withdrawal reserved hValid hFound hStatus hAccount hReserved =>
      have hSum : Books.reservedMinor { books with
          withdrawals := books.withdrawals.update id (·.cancel now)
            (WithdrawalRequest.cancel_id now)
          buckets := Function.update books.buckets a' ⟨_, hValid⟩ } a =
          books.reservedMinor a - if a' = a then withdrawal.amountMinor else 0 := by
        have hWas := isReserved_of_cancellable hStatus
        have hIs : (withdrawal.cancel now).status.isReserved = false := rfl
        simp only [Books.reservedMinor, Table.sum_update hFound]
        simp [hWas, hIs, hAccount]
        ring
      rw [hSum, ← h.exact]
      simp only [reserved_update]
      split
      · rename_i hMine
        subst hMine
        rw [h.not_clamped (Table.find?_eq_some hFound).1 hAccount hStatus] at hReserved
        omega
      · omega

theorem WithdrawalDebited.reserves {id : Identifier} {now : Timestamp}
    (hDebited : WithdrawalDebited a' id now books books') (h : books.Reserves a) :
    books'.Reserves a := by
  refine ⟨?_, hDebited.debitsConfirmed h.debits⟩
  cases hDebited with
  | @debited withdrawal ledger hValid hFound hAccount hStatus hEntry =>
      have hSum : Books.reservedMinor { books.post ledger a' ⟨_, hValid⟩ with
          withdrawals := books.withdrawals.update id (·.markConfirmed now)
            (WithdrawalRequest.markConfirmed_id now) } a =
          books.reservedMinor a - if a' = a then withdrawal.amountMinor else 0 := by
        have hWas : withdrawal.status.isReserved := by simp [hStatus, WithdrawalStatus.isReserved]
        have hIs : (withdrawal.markConfirmed now).status.isReserved = false := rfl
        simp only [Books.reservedMinor, Table.sum_update hFound]
        simp [hWas, hIs, hAccount]
        ring
      rw [hSum, ← h.exact]
      simp only [Books.post, reserved_update]
      split <;> omega
  | alreadyDebited hFound hStatus hTaken =>
      exact absurd hTaken (h.debits.not_debited hFound (by simp [hStatus]))

theorem WithdrawalsMoved.reserves (hMoved : WithdrawalsMoved books books')
    (h : books.Reserves a) : books'.Reserves a := by
  refine ⟨?_, hMoved.debitsConfirmed h.debits⟩
  obtain ⟨f, hf, rfl, hRows⟩ := hMoved
  have hSum : Books.reservedMinor { books with
      withdrawals := books.withdrawals.modify f hf } a = books.reservedMinor a := by
    refine Table.sum_modify_of_eq hf fun w hw => ?_
    have hw := hRows w hw
    simp only [hw.account, hw.reserved, hw.amount]
  rw [hSum]
  exact h.exact

end

/-! ### The DoubleZero import -/

/-- Balances, withdrawals and the debits of withdrawals are as before. -/
structure ReservationsKept (db db' : BillingDb) : Prop where
  buckets : db'.books.buckets = db.books.buckets
  withdrawals : db'.books.withdrawals = db.books.withdrawals
  debits : ∀ id, db'.books.ledger.HasKey (.withdrawalRequest, id) →
    db.books.ledger.HasKey (.withdrawalRequest, id)

instance : IsPreorder BillingDb ReservationsKept where
  refl _ := ⟨rfl, rfl, fun _ hKey => hKey⟩
  trans _ _ _ h h' := ⟨h'.buckets.trans h.buckets, h'.withdrawals.trans h.withdrawals,
    fun id hKey => h.debits id (h'.debits id hKey)⟩

theorem ReservationsKept.reserves {db db' : BillingDb} {a : AccountId}
    (hKept : ReservationsKept db db') (h : db.books.Reserves a) : db'.books.Reserves a := by
  refine ⟨?_, h.debits.of_withdrawals hKept.debits hKept.withdrawals⟩
  rw [hKept.buckets, h.exact, Books.reservedMinor, Books.reservedMinor, hKept.withdrawals]

theorem reservationsKept_importDoubleZeroUsage {config : BillingConfig}
    {records : List DoubleZeroUsageRecord} :
    Keeps ReservationsKept (importDoubleZeroUsage records config) := by
  refine keeps_importDoubleZeroUsage ?_ ?_ ?_
  · intro db id db' h
    cases freshId_eq_ok.1 h
    exact ⟨rfl, rfl, fun _ hKey => hKey⟩
  · intro input db rated db' h
    rcases insertRatedUsageEvent_spec h with ⟨hr, -⟩ | ⟨event, events, -, -, hr⟩
    · cases hr
      exact ⟨rfl, rfl, fun _ hKey => hKey⟩
    · cases hr
      exact ⟨rfl, rfl, fun _ hKey => hKey⟩
  · intro entry hSource db inserted db' h
    rcases insertLedgerEntry_spec h with ⟨hr, -⟩ | ⟨ledger, hInsert, hr⟩
    · cases hr
      exact refl_of ReservationsKept db
    · cases hr
      have hAdded : EntryAdded db.books.ledger _ entry.key _ ledger := .of_insert hInsert
      exact ⟨rfl, rfl, fun id => hAdded.hasKey_withdrawal (by simp [LedgerEntry.key, hSource])⟩

/-! ### What a confirmation throws -/

/-- An error of the database, and not one that the code throws. -/
def OfDatabase (e : BillingError) : Prop := ∀ message, e ≠ .error message

theorem throws_require {p : Prop} [Decidable p] {P : BillingError → Prop} {e : BillingError}
    (h : P e) :
    Throws P (require p e) := .ite .pure (.throw h)

theorem throws_readBillingBuckets {a : AccountId} : Throws OfDatabase (readBillingBuckets a) := by
  have hEnsure : Throws OfDatabase (ensurePrepaidBillingState a) :=
    Throws.get.bind fun _ => (throws_require nofun).bind fun _ => .set
  exact hEnsure.bind fun _ => Throws.get.bind fun _ => (throws_require nofun).bind fun _ => .pure

theorem throws_insertLedgerEntry {entry : LedgerEntry} :
    Throws OfDatabase (insertLedgerEntry entry) := by
  refine (throws_require nofun).bind fun _ => Throws.get.bind fun db => ?_
  cases db.books.ledger.insert entry with
  | none => exact .pure
  | some ledger => exact (throws_require nofun).bind fun _ => Throws.modifyGet.bind fun _ => .pure

theorem throws_writeBillingBuckets {a : AccountId} {row : BillingBucketsRow} :
    Throws OfDatabase (writeBillingBuckets a row) := by
  rw [writeBillingBuckets]
  split
  · exact .modifyGet
  · exact .throw fun _ h => by cases h

theorem throws_findWithdrawalForUpdate {a : AccountId} {id : Identifier} :
    Throws OfDatabase (findWithdrawalForUpdate a id) := by
  refine Throws.get.bind fun db => ?_
  cases db.books.withdrawals.find? id with
  | none => exact .pure
  | some w => exact .ite ((throws_require nofun).bind fun _ => .pure) .pure

theorem debitWithdrawal_uncovered {db : BillingDb} {a : AccountId} {w : WithdrawalRequest}
    {message : String} (h : debitWithdrawal a w db = .error (.error message)) :
    (db.books.buckets a).val.cashMinor < w.amountMinor ∨
      (db.books.buckets a).val.reservedWithdrawalMinor < w.amountMinor := by
  have hMarked : Throws OfDatabase (markWithdrawalConfirmed w.id) :=
    Throws.get.bind fun _ => .modifyGet
  rw [debitWithdrawal, bind_eq_error] at h
  rcases h with h | ⟨buckets, db₁, hBuckets, h⟩
  · exact absurd rfl (throws_readBillingBuckets _ _ h message)
  · cases (readBillingBuckets_spec hBuckets).1
    rcases bind_eq_error.1 h with h | ⟨_, db₂, -, h⟩
    · by_contra hCovered
      rw [require, if_pos hCovered] at h
      cases h
    · refine absurd rfl (Throws.bind throws_insertLedgerEntry (fun inserted => ?_) _ _ h message)
      exact .ite (throws_writeBillingBuckets.bind fun _ => hMarked) hMarked

/-- A confirmation complains of a reservation only when it does not cover the withdrawal. -/
theorem confirmWithdrawal_uncovered {db : BillingDb} {a : AccountId} {id : Identifier}
    (h : confirmWithdrawal a id db = .error (.error "withdrawal reservation invariant failed")) :
    ∃ w ∈ db.books.withdrawals.rows, w.accountId = a ∧ w.status = .submitted ∧
      ((db.books.buckets a).val.cashMinor < w.amountMinor ∨
        (db.books.buckets a).val.reservedWithdrawalMinor < w.amountMinor) := by
  rw [confirmWithdrawal, bind_eq_error] at h
  rcases h with h | ⟨found, db₁, hFind, h⟩
  · exact absurd rfl (throws_findWithdrawalForUpdate _ _ h _)
  · rcases findWithdrawalForUpdate_spec hFind with hr | ⟨w, hFound, hAccount, hr⟩
    · cases hr
      cases h
    · cases hr
      simp only at h
      split at h
      · cases h
      · rcases bind_eq_error.1 h with h | ⟨_, db₂, hSubmitted, h⟩
        · -- the withdrawal is not submitted, which is another complaint
          rw [require] at h
          split at h
          · cases h
          · simp [throw, throwThe, MonadExceptOf.throw, StateT.lift, bind, Except.bind] at h
        · obtain ⟨hStatus, hr⟩ := require_eq_ok.1 hSubmitted
          cases hr
          exact ⟨w, (Table.find?_eq_some hFound).1, hAccount, hStatus, debitWithdrawal_uncovered h⟩

/-! ### Histories -/

section

variable {db : BillingDb} {a : AccountId}

theorem BillingOp.apply_reserves {op : BillingOp} (hRouted : AsRouted op)
    (h : db.books.Reserves a) : (op.apply db).books.Reserves a := by
  cases op with
  | applyBillingCredit input =>
      refine transaction_keeps (fun d => d.books.Reserves a) h fun _ db' hOk => ?_
      rcases (applyBillingCredit_spec hOk).2 with ⟨hSame, -⟩ | hPosted
      · exact hSame ▸ h
      · exact hPosted.reserves hRouted h
  | settleRatingCandidate candidate config =>
      refine transaction_keeps (fun d => d.books.Reserves a) h fun _ db' hOk => ?_
      rcases (settleRatingCandidate_spec hOk).2 with hSame | ⟨n, -, -, hPosted⟩
      · exact hSame ▸ h
      · exact hPosted.reserves h
  | creditDirectDeposit accountId signature amount config =>
      refine transaction_keeps (fun d => d.books.Reserves a) h fun _ db' hOk => ?_
      rcases (creditDirectDeposit_spec hOk).2 with ⟨hSame, -⟩ | hCredited
      · exact hSame ▸ h
      · exact hCredited.reserves h
  | importDoubleZeroUsage records config =>
      refine transaction_keeps (fun d => d.books.Reserves a) h fun _ db' hOk => ?_
      exact (reservationsKept_importDoubleZeroUsage _ _ _ hOk).reserves h
  | createWithdrawalRequest actor input config =>
      refine transaction_keeps (fun d => d.books.Reserves a) h fun _ db' hOk => ?_
      rcases (createWithdrawalRequest_spec hOk).2 with hSame | ⟨-, hReserved, -⟩
      · exact hSame ▸ h
      · exact hReserved.reserves h
  | cancelOwnedWithdrawal actor id =>
      refine transaction_keeps (fun d => d.books.Reserves a) h fun _ db' hOk => ?_
      rcases (cancelOwnedWithdrawal_spec hOk).2 with hSame | hReleased
      · exact hSame ▸ h
      · exact hReleased.reserves h
  | claimWithdrawalSigningJob locked key =>
      exact transaction_keeps (fun d => d.books.Reserves a) h
        fun _ db' hOk => (claimWithdrawalSigningJob_spec hOk).2.reserves h
  | recordWithdrawalSubmission id signature =>
      exact transaction_keeps (fun d => d.books.Reserves a) h
        fun _ db' hOk => (markWithdrawalSubmitted_spec hOk).2.reserves h
  | failWithdrawalSubmission id =>
      exact transaction_keeps (fun d => d.books.Reserves a) h
        fun _ db' hOk => (markWithdrawalFailed_spec hOk).2.reserves h
  | confirmWithdrawal accountId id =>
      refine transaction_keeps (fun d => d.books.Reserves a) h fun _ db' hOk => ?_
      rcases (confirmWithdrawal_spec hOk).2 with hSame | hDebited
      · exact hSame ▸ h
      · exact hDebited.reserves h
  | environment usage now => exact h

theorem reserves_after {usage : UsageTables} {now : Timestamp} {ops : List BillingOp}
    (hRouted : ∀ op ∈ ops, AsRouted op) : ((emptyDb usage now).after ops).books.Reserves a := by
  have hEmpty : (emptyDb usage now).books.Reserves a := by
    refine ⟨?_, fun id hKey => ?_⟩
    · simp [Books.reservedMinor, emptyDb, emptyBuckets]
    · simp [emptyDb, Table.HasKey] at hKey
  have hMeet : StepsMeet step (fun _ op => AsRouted op) (emptyDb usage now) ops :=
    stepsMeet_of_forall fun op hOp _ => hRouted op hOp
  have hStep : ∀ d op d', Books.Reserves d.books a → AsRouted op → step d op = some d' →
      Books.Reserves d'.books a := by
    intro d op d' hReserves hCond hOp
    cases hOp
    exact BillingOp.apply_reserves hCond hReserves
  exact run_invariant_of_stepsMeet hStep hEmpty run_step hMeet

/-- In every history the reservation of an account is the sum of its withdrawals in status
cooldown, ready, processing, submitted or failed and is covered by its cash, so a confirmation
never finds a withdrawal uncovered and a cancellation never clamps the reservation. -/
theorem reservations_exact {usage : UsageTables} {now : Timestamp} {ops : List BillingOp}
    (hRouted : ∀ op ∈ ops, AsRouted op) :
    let db := (emptyDb usage now).after ops
    let buckets := (db.books.buckets a).val
    buckets.reservedWithdrawalMinor = db.books.reservedMinor a ∧
      (0 ≤ buckets.reservedWithdrawalMinor ∧
        buckets.reservedWithdrawalMinor ≤ buckets.cashMinor ∧ 0 ≤ buckets.promotionalMinor ∧
        0 ≤ buckets.debtMinor) ∧
      (∀ id, (transaction (confirmWithdrawal a id) db).1 ≠
        .error (.error "withdrawal reservation invariant failed")) ∧
      ∀ w ∈ db.books.withdrawals.rows, w.accountId = a →
        w.status ∈ [.cooldown, .ready, .failed] →
        max 0 (buckets.reservedWithdrawalMinor - w.amountMinor) =
          buckets.reservedWithdrawalMinor - w.amountMinor := by
  intro db buckets
  have hReserves : db.books.Reserves a := reserves_after hRouted
  obtain ⟨-, ⟨hPromotional, -⟩, ⟨hReserved, -⟩, ⟨hDebt, -⟩, hCovered⟩ := (db.books.buckets a).2
  refine ⟨hReserves.exact, ⟨hReserved, hCovered, hPromotional, hDebt⟩, fun id hError => ?_,
    fun w hMem hAccount hStatus => hReserves.not_clamped hMem hAccount hStatus⟩
  have hThrown : confirmWithdrawal a id db =
      .error (.error "withdrawal reservation invariant failed") := by
    simp only [transaction, StateT.run] at hError
    split at hError
    · cases hError
    · rename_i hRun
      cases hError
      exact hRun
  obtain ⟨w, hMem, hAccount, hStatus, hUncovered⟩ := confirmWithdrawal_uncovered hThrown
  have hAmount :=
    Books.amount_le_reservedMinor hMem (by simp [hStatus, WithdrawalStatus.isReserved])
  rw [hAccount, ← hReserves.exact] at hAmount
  omega

/-- A withdrawal is requested, submitted and confirmed. -/
theorem reservations_exact_confirmed :
    let db := (emptyDb pilotAccount 0).after
      [.creditDirectDeposit 1 9 1000000 splConfig,
        .createWithdrawalRequest ⟨1, 1⟩ ⟨100, some 5, 0⟩ splConfig,
        .environment pilotAccount 86400000000, .claimWithdrawalSigningJob [] .usable,
        .recordWithdrawalSubmission 0 77, .confirmWithdrawal 1 0]
    let buckets := (db.books.buckets 1).val
    buckets.reservedWithdrawalMinor = db.books.reservedMinor 1 ∧
      (0 ≤ buckets.reservedWithdrawalMinor ∧
        buckets.reservedWithdrawalMinor ≤ buckets.cashMinor ∧ 0 ≤ buckets.promotionalMinor ∧
        0 ≤ buckets.debtMinor) ∧
      (∀ id, (transaction (confirmWithdrawal 1 id) db).1 ≠
        .error (.error "withdrawal reservation invariant failed")) ∧
      ∀ w ∈ db.books.withdrawals.rows, w.accountId = 1 →
        w.status ∈ [.cooldown, .ready, .failed] →
        max 0 (buckets.reservedWithdrawalMinor - w.amountMinor) =
          buckets.reservedWithdrawalMinor - w.amountMinor :=
  reservations_exact (by simp [AsRouted])

end

end Hyperspace.Billing
