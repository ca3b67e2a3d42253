import Hyperspace.Payouts.Workers

/-!
# What a transaction does to a request

The statements that a payout depends on, in terms of the status and the signature of one request.
Everything else in the two tables, and every other operation on the books, leaves a submitted or
confirmed request alone.
-/

namespace Hyperspace.Payouts

open Hyperspace.Billing Hyperspace.Foundations

variable {books books' books'' : Books} {db db' : BillingDb}

/-- The request holds this signature as submitted or confirmed. -/
def Payout.Holds (p : Payout) (signature : Identifier) : Prop :=
  (p.status = .submitted ∨ p.status = .confirmed) ∧ p.signature = some signature

/-- Guarded by `status IN ('processing', 'submitted')`. -/
def Payout.fail (p : Payout) : Payout :=
  if p.status = .processing ∨ p.status = .submitted then { p with status := .waiting } else p

/-- Guarded by `status = 'processing'`. -/
def Payout.record (signature : Identifier) (p : Payout) : Payout :=
  if p.status = .processing then ⟨.submitted, some signature⟩ else p

/-! ### Transactions that leave payouts alone -/

/-- No submitted or confirmed request changes, no signature appears, no withdrawal is debited. -/
structure PayoutsKept (books books' : Books) : Prop where
  kept : ∀ r p, payoutOf books r = some p → p.status = .submitted ∨ p.status = .confirmed →
    payoutOf books' r = some p
  signatures : ∀ r p', payoutOf books' r = some p' → ∀ signature ∈ p'.signature,
    ∃ p, payoutOf books r = some p ∧ p.signature = some signature
  debits : ∀ e ∈ books'.ledger.rows, e.sourceType = .withdrawalRequest → e ∈ books.ledger.rows

theorem PayoutsKept.refl : PayoutsKept books books :=
  ⟨fun _ _ h _ => h, fun _ p h _ hs => ⟨p, h, hs⟩, fun _ h _ => h⟩

theorem PayoutsKept.trans (h : PayoutsKept books books') (h' : PayoutsKept books' books'') :
    PayoutsKept books books'' := by
  constructor
  · intro r p hp hStatus
    exact h'.kept r p (h.kept r p hp hStatus) hStatus
  · intro r p'' hp'' signature hSignature
    obtain ⟨p', hp', hSignature'⟩ := h'.signatures r p'' hp'' signature hSignature
    exact h.signatures r p' hp' signature hSignature'
  · intro e he hType
    exact h.debits e (h'.debits e he hType) hType

theorem PayoutsKept.of_tables (hWithdrawals : books'.withdrawals = books.withdrawals)
    (hSweeps : books'.sweeps = books.sweeps)
    (hDebits : ∀ e ∈ books'.ledger.rows, e.sourceType = .withdrawalRequest →
      e ∈ books.ledger.rows) : PayoutsKept books books' := by
  have hPayout : payoutOf books' = payoutOf books := by
    funext r
    cases r with
    | withdrawal id => simp only [payoutOf, hWithdrawals]
    | sweep source => simp only [payoutOf, hSweeps]
  refine ⟨fun r p h _ => ?_, fun r p h signature hs => ?_, hDebits⟩
  · rw [hPayout]
    exact h
  · rw [hPayout] at h
    exact ⟨p, h, hs⟩

theorem PayoutsKept.modify_withdrawals {f : WithdrawalRequest → WithdrawalRequest}
    (hf : ∀ w, (f w).id = w.id)
    (hKept : ∀ w ∈ books.withdrawals.rows, w.status = .submitted ∨ w.status = .confirmed →
      f w = w)
    (hSignature : ∀ w, (f w).transactionSignature = w.transactionSignature) :
    PayoutsKept books { books with withdrawals := books.withdrawals.modify f hf } := by
  constructor
  · intro r p hp hStatus
    cases r with
    | sweep source => exact hp
    | withdrawal id =>
        obtain ⟨w, hw, rfl⟩ := Option.map_eq_some_iff.1 hp
        have hSame : f w = w := by
          refine hKept w (Table.find?_eq_some hw).1 ?_
          simp only [withdrawalPayout] at hStatus
          grind
        simp only [payoutOf, Table.find?_modify, hw, Option.map_some, hSame]
  · intro r p hp signature hs
    cases r with
    | sweep source => exact ⟨p, hp, hs⟩
    | withdrawal id =>
        simp only [payoutOf, Table.find?_modify, Option.map_map] at hp
        obtain ⟨w, hw, rfl⟩ := Option.map_eq_some_iff.1 hp
        refine ⟨withdrawalPayout w, ?_, ?_⟩
        · simp only [payoutOf, hw, Option.map_some]
        · rw [← hs]
          exact (hSignature w).symm
  · exact fun _ he _ => he

theorem PayoutsKept.modify_sweeps {f : CashSweepRequest → CashSweepRequest}
    (hf : ∀ sweep, (f sweep).key = sweep.key)
    (hKept : ∀ sweep ∈ books.sweeps.rows, sweep.status = .submitted ∨ sweep.status = .confirmed →
      f sweep = sweep)
    (hSignature : ∀ sweep, (f sweep).transactionSignature = sweep.transactionSignature) :
    PayoutsKept books { books with sweeps := books.sweeps.modify f hf } := by
  constructor
  · intro r p hp hStatus
    cases r with
    | withdrawal id => exact hp
    | sweep source =>
        obtain ⟨sweep, hSweep, rfl⟩ := Option.map_eq_some_iff.1 hp
        have hSame : f sweep = sweep := by
          refine hKept sweep (Table.find?_eq_some hSweep).1 ?_
          simp only [sweepPayout] at hStatus
          grind
        simp only [payoutOf, Table.find?_modify, hSweep, Option.map_some, hSame]
  · intro r p hp signature hs
    cases r with
    | withdrawal id => exact ⟨p, hp, hs⟩
    | sweep source =>
        simp only [payoutOf, Table.find?_modify, Option.map_map] at hp
        obtain ⟨sweep, hSweep, rfl⟩ := Option.map_eq_some_iff.1 hp
        refine ⟨sweepPayout sweep, ?_, ?_⟩
        · simp only [payoutOf, hSweep, Option.map_some]
        · rw [← hs]
          exact (hSignature sweep).symm
  · exact fun _ he _ => he

theorem PayoutsKept.insert_withdrawal {withdrawals : Table WithdrawalRequest.id}
    {w : WithdrawalRequest} (hInsert : books.withdrawals.insert w = some withdrawals)
    (hSignature : w.transactionSignature = none) :
    PayoutsKept books { books with withdrawals } := by
  constructor
  · intro r p hp hStatus
    cases r with
    | sweep source => exact hp
    | withdrawal id =>
        obtain ⟨w', hw', rfl⟩ := Option.map_eq_some_iff.1 hp
        have hOther : id ≠ w.id := by
          rintro rfl
          exact (Table.insert_eq_some hInsert).1
            ((Table.find?_eq_some hw').2 ▸ .of_mem (Table.find?_eq_some hw').1)
        simp only [payoutOf, Table.find?_insert hInsert, if_neg hOther, hw', Option.map_some]
  · intro r p hp signature hs
    cases r with
    | sweep source => exact ⟨p, hp, hs⟩
    | withdrawal id =>
        simp only [payoutOf, Table.find?_insert hInsert] at hp
        split at hp
        · cases hp
          simp only [withdrawalPayout, hSignature] at hs
          cases hs
        · exact ⟨p, hp, hs⟩
  · exact fun _ he _ => he

theorem PayoutsKept.insert_sweep {sweeps : Table CashSweepRequest.key} {sweep : CashSweepRequest}
    (hInsert : books.sweeps.insert sweep = some sweeps)
    (hSignature : sweep.transactionSignature = none) :
    PayoutsKept books { books with sweeps } := by
  constructor
  · intro r p hp hStatus
    cases r with
    | withdrawal id => exact hp
    | sweep source =>
        obtain ⟨sweep', hSweep, rfl⟩ := Option.map_eq_some_iff.1 hp
        have hOther : source ≠ sweep.key := by
          rintro rfl
          exact (Table.insert_eq_some hInsert).1
            ((Table.find?_eq_some hSweep).2 ▸ .of_mem (Table.find?_eq_some hSweep).1)
        simp only [payoutOf, Table.find?_insert hInsert, if_neg hOther, hSweep, Option.map_some]
  · intro r p hp signature hs
    cases r with
    | withdrawal id => exact ⟨p, hp, hs⟩
    | sweep source =>
        simp only [payoutOf, Table.find?_insert hInsert] at hp
        split at hp
        · cases hp
          simp only [sweepPayout, hSignature] at hs
          cases hs
        · exact ⟨p, hp, hs⟩
  · exact fun _ he _ => he

theorem PayoutsKept.of_sweepRecorded {input : CashSweepInput}
    {sweeps : Table CashSweepRequest.key} (h : SweepRecorded input books.sweeps sweeps) :
    PayoutsKept books { books with sweeps } := by
  cases h with
  | nothingToSweep _ => exact .refl
  | duplicate _ => exact .refl
  | recorded hInsert _ _ _ _ hSignature => exact .insert_sweep hInsert hSignature

theorem EntryAdded.not_debit {ledger ledger' : Table LedgerEntry.key} {a : AccountId}
    {key : SourceType × Identifier} {n : Int} (h : EntryAdded ledger a key n ledger')
    (hKey : key.1 ≠ .withdrawalRequest) :
    ∀ e ∈ ledger'.rows, e.sourceType = .withdrawalRequest → e ∈ ledger.rows := by
  obtain ⟨entry, hInsert, _, rfl, _⟩ := h.added
  intro e he hType
  rcases (Table.mem_insert hInsert).1 he with hOld | rfl
  · exact hOld
  · exact absurd hType hKey

theorem PayoutsKept.post {ledger : Table LedgerEntry.key} {a : AccountId} {buckets : StoredBuckets}
    {key : SourceType × Identifier} {n : Int} (h : EntryAdded books.ledger a key n ledger)
    (hKey : key.1 ≠ .withdrawalRequest) : PayoutsKept books (books.post ledger a buckets) :=
  .of_tables rfl rfl (EntryAdded.not_debit h hKey)

theorem PayoutsKept.of_chargePosted {config : RetailBillingRuntimeConfig} {a : AccountId}
    {ratingId : Identifier} {n : Int} (h : ChargePosted config a ratingId n books books') :
    PayoutsKept books books' := by
  cases h with
  | @mk ledger sweeps hValid hEntry hRead hSweep =>
      have hSwept : PayoutsKept books { books with sweeps } := .of_sweepRecorded hSweep
      exact hSwept.trans (.of_tables rfl rfl (EntryAdded.not_debit hEntry nofun))

theorem PayoutsKept.of_depositPosted {config : BillingConfig} {a : AccountId}
    {signature : Identifier} {n : Int} (h : DepositPosted config a signature n books books') :
    PayoutsKept books books' := by
  cases h with
  | @mk ledger sweeps hValid hEntry hRead hSweep =>
      have hSwept : PayoutsKept books { books with sweeps } := by
        rcases hSweep with ⟨_, rfl⟩ | ⟨_, hRecorded⟩
        · exact .refl
        · exact .of_sweepRecorded hRecorded
      exact hSwept.trans (.of_tables rfl rfl (EntryAdded.not_debit hEntry nofun))

theorem PayoutsKept.of_receiptTaken {config : BillingConfig} {a : AccountId}
    {signature : Identifier} {n : Int} {conversion : DepositConversion}
    (h : ReceiptTaken config a signature n conversion books books') :
    PayoutsKept books books' := by
  cases h with
  | mk _ _ _ _ _ _ => exact .of_tables rfl rfl fun _ he _ => he

theorem PayoutsKept.of_depositCredited {config : BillingConfig} {a : AccountId}
    {signature : Identifier} {n : Int} (h : DepositCredited config a signature n books books') :
    PayoutsKept books books' := by
  cases h with
  | below hReceipt _ => exact .of_receiptTaken hReceipt
  | posted hReceipt _ hPosted => exact (of_receiptTaken hReceipt).trans (.of_depositPosted hPosted)

theorem PayoutsKept.of_withdrawalReleased {a : AccountId} {id : Identifier} {now : Timestamp}
    (h : WithdrawalReleased a id now books books') : PayoutsKept books books' := by
  cases h with
  | @mk withdrawal reserved hValid hFound hStatus =>
      obtain ⟨hMem, hId⟩ := Table.find?_eq_some hFound
      have hCancelled : PayoutsKept books
          { books with
            withdrawals := books.withdrawals.update id (·.cancel now)
              (WithdrawalRequest.cancel_id now) } := by
        refine .modify_withdrawals _ (fun w hw hHeld => ?_) (fun w => ?_)
        · refine if_neg fun hSame => ?_
          cases Table.row_unique hw hMem (hSame.trans hId.symm)
          rcases hHeld with hHeld | hHeld
          all_goals
            rw [hHeld] at hStatus
            exact absurd hStatus (by decide)
        · dsimp only
          split
          all_goals rfl
      exact hCancelled.trans (.of_tables rfl rfl fun _ he _ => he)

theorem PayoutsKept.foreign {op : BillingOp} (h : Foreign op) :
    PayoutsKept db.books (op.apply db).books := by
  have hKeep : ∀ {α : Type} (body : Tx α),
      (∀ a db', body db = .ok (a, db') → PayoutsKept db.books db'.books) →
      PayoutsKept db.books (transaction body db).2.books :=
    fun body hCommit => transaction_keeps (fun db' => PayoutsKept db.books db'.books) .refl hCommit
  cases op with
  | applyBillingCredit input =>
      refine hKeep _ fun _ db' hOk => ?_
      rcases (applyBillingCredit_spec hOk).2 with ⟨hSame, -⟩ | hCredit
      · rw [hSame]
        exact .refl
      · generalize db'.books = books' at hCredit
        cases hCredit with
        | mk hValid hEntry _ _ => exact .post hEntry h
  | settleRatingCandidate candidate config =>
      refine hKeep _ fun _ db' hOk => ?_
      rcases (settleRatingCandidate_spec hOk).2 with hSame | ⟨n, _, _, hCharge⟩
      · rw [hSame]
        exact .refl
      · exact .of_chargePosted hCharge
  | creditDirectDeposit accountId signature amount config =>
      refine hKeep _ fun _ db' hOk => ?_
      rcases (creditDirectDeposit_spec hOk).2 with ⟨hSame, -⟩ | hDeposit
      · rw [hSame]
        exact .refl
      · exact .of_depositCredited hDeposit
  | createWithdrawalRequest actor input config =>
      refine hKeep _ fun _ db' hOk => ?_
      rcases (createWithdrawalRequest_spec hOk).2 with hSame | ⟨_, hReserved, -⟩
      · rw [hSame]
        exact .refl
      · generalize db'.books = books' at hReserved
        cases hReserved with
        | mk hValid hInsert _ _ hSignature =>
            exact (insert_withdrawal hInsert hSignature).trans
              (.of_tables rfl rfl fun _ he _ => he)
  | cancelOwnedWithdrawal actor id =>
      refine hKeep _ fun _ db' hOk => ?_
      rcases (cancelOwnedWithdrawal_spec hOk).2 with hSame | hReleased
      · rw [hSame]
        exact .refl
      · exact .of_withdrawalReleased hReleased
  | importDoubleZeroUsage records config => exact h.elim
  | claimWithdrawalSigningJob locked key => exact h.elim
  | recordWithdrawalSubmission id signature => exact h.elim
  | failWithdrawalSubmission id => exact h.elim
  | confirmWithdrawal accountId id => exact h.elim
  | environment usage now => exact h.elim

/-! ### Listing and claiming -/

theorem listConfirmations_spec {kind : PayoutKind} {items : List SubmittedPayout}
    (h : listConfirmations kind db = .ok (items, db')) :
    db' = db ∧ ∀ item ∈ items,
      ∃ p, payoutOf db.books item.request = some p ∧ p.signature = item.transactionSignature := by
  cases kind with
  | withdrawal =>
      simp only [listConfirmations, listSubmittedWithdrawals, bind_eq_ok, get_eq_ok,
        pure_eq_ok] at h
      obtain ⟨withdrawals, db₁, ⟨_, _, hr, hList⟩, h⟩ := h
      cases hr
      cases hList
      cases h
      refine ⟨rfl, fun item hItem => ?_⟩
      obtain ⟨w, hw, rfl⟩ := List.mem_map.1 hItem
      have hRow := (List.mem_filter.1 ((List.mem_insertionSort _).1 (List.mem_of_mem_take hw))).1
      refine ⟨withdrawalPayout w, ?_, rfl⟩
      simp only [payoutOf, Table.find?_of_mem hRow, Option.map_some]
  | sweep =>
      simp only [listConfirmations, listSubmittedCashSweeps, bind_eq_ok, get_eq_ok,
        pure_eq_ok] at h
      obtain ⟨sweeps, db₁, ⟨_, _, hr, hList⟩, h⟩ := h
      cases hr
      cases hList
      cases h
      refine ⟨rfl, fun item hItem => ?_⟩
      obtain ⟨sweep, hSweep, rfl⟩ := List.mem_map.1 hItem
      have hRow :=
        (List.mem_filter.1 ((List.mem_insertionSort _).1 (List.mem_of_mem_take hSweep))).1
      refine ⟨sweepPayout sweep, ?_, rfl⟩
      simp only [payoutOf, Table.find?_of_mem hRow, Option.map_some]

theorem advanceWithdrawalCooldowns_payouts (h : advanceWithdrawalCooldowns db = .ok ((), db')) :
    PayoutsKept db.books db'.books := by
  simp only [advanceWithdrawalCooldowns, bind_eq_ok, get_eq_ok, modifyBooks_eq_ok] at h
  obtain ⟨_, _, hr₁, hr₂⟩ := h
  cases hr₁
  cases hr₂
  refine .modify_withdrawals _ (fun w _ hHeld => ?_) (fun w => ?_)
  · simp only [WithdrawalRequest.advanceCooldown]
    grind
  · simp only [WithdrawalRequest.advanceCooldown]
    split
    all_goals first
      | rfl
      | split
        all_goals rfl

/-- A claimed withdrawal is the only one that changes, from `ready` to `processing`. -/
theorem claimReadyWithdrawal_payouts {locked : List Identifier} {job : Option WithdrawalRequest}
    (h : claimReadyWithdrawal locked db = .ok (job, db')) :
    PayoutsKept db.books db'.books ∧
      ∀ w ∈ job, ∃ w' ∈ db'.books.withdrawals.rows, w'.id = w.id ∧ w'.status = .processing := by
  simp only [claimReadyWithdrawal, bind_eq_ok, get_eq_ok] at h
  obtain ⟨_, _, hr₁, h⟩ := h
  cases hr₁
  generalize hReady : List.insertionSort WithdrawalRequest.DueBefore _ = ready at h
  cases ready with
  | nil =>
      cases pure_eq_ok.1 h
      exact ⟨.refl, fun _ hNone => absurd hNone (Option.not_mem_none _)⟩
  | cons candidate rest =>
      simp only [bind_eq_ok, modifyBooks_eq_ok, pure_eq_ok] at h
      obtain ⟨_, _, hr₂, h⟩ := h
      cases hr₂
      cases h
      have hMem : candidate ∈ db.books.withdrawals.rows.filter
          (fun w => w.status = .ready && w.id ∉ locked) := by
        rw [← List.mem_insertionSort WithdrawalRequest.DueBefore, hReady]
        exact List.mem_cons_self
      obtain ⟨hRow, hStatus⟩ := List.mem_filter.1 hMem
      simp only [Bool.and_eq_true, decide_eq_true_eq] at hStatus
      constructor
      · refine .modify_withdrawals _ (fun w hw hHeld => ?_) (fun w => ?_)
        · refine if_neg fun hSame => ?_
          cases Table.row_unique hw hRow hSame
          rw [hStatus.1] at hHeld
          rcases hHeld with hHeld | hHeld
          all_goals cases hHeld
        · dsimp only
          split
          all_goals rfl
      · rintro w ⟨⟩
        have hClaimed := (Table.mem_update (WithdrawalRequest.claim_id db.now)).2
          ⟨candidate, hRow, if_pos rfl⟩
        exact ⟨candidate.claim db.now, hClaimed, rfl, rfl⟩

theorem markWithdrawalFailed_processing {w : WithdrawalRequest}
    (hRow : w ∈ db.books.withdrawals.rows) (hStatus : w.status = .processing)
    (h : markWithdrawalFailed w.id db = .ok ((), db')) : PayoutsKept db.books db'.books := by
  simp only [markWithdrawalFailed, bind_eq_ok, get_eq_ok, modifyBooks_eq_ok] at h
  obtain ⟨_, _, hr₁, hr₂⟩ := h
  cases hr₁
  cases hr₂
  refine .modify_withdrawals _ (fun w' hw' hHeld => ?_) (fun w' => ?_)
  · refine if_neg fun hSame => ?_
    cases Table.row_unique hw' hRow hSame
    rw [hStatus] at hHeld
    rcases hHeld with hHeld | hHeld
    all_goals cases hHeld
  · dsimp only
    split
    · rw [WithdrawalRequest.markFailed]
      split
      all_goals rfl
    · rfl

theorem claimWithdrawalSigningJob_payouts {locked : List Identifier} {key : CustodialKey}
    {job : Option WithdrawalRequest}
    (h : claimWithdrawalSigningJob locked key db = .ok (job, db')) :
    PayoutsKept db.books db'.books := by
  simp only [claimWithdrawalSigningJob, bind_eq_ok] at h
  obtain ⟨_, db₁, hAdvance, claimed, db₂, hClaim, h⟩ := h
  obtain ⟨hClaimed, hProcessing⟩ := claimReadyWithdrawal_payouts hClaim
  have hKept := (advanceWithdrawalCooldowns_payouts hAdvance).trans hClaimed
  cases claimed with
  | none =>
      cases pure_eq_ok.1 h
      exact hKept
  | some w =>
      cases key with
      | usable =>
          cases pure_eq_ok.1 h
          exact hKept
      | undecryptable => simp at h
      | missing | unsupportedFormat =>
          simp only [bind_eq_ok, pure_eq_ok] at h
          obtain ⟨_, db₃, hFail, h⟩ := h
          cases h
          obtain ⟨w', hRow, hId, hStatus⟩ := hProcessing w rfl
          rw [← hId] at hFail
          exact hKept.trans (markWithdrawalFailed_processing hRow hStatus hFail)

theorem claimCashSweepRequest_payouts {locked : List (SourceType × Identifier)}
    {job : Option CashSweepRequest} (h : claimCashSweepRequest locked db = .ok (job, db')) :
    PayoutsKept db.books db'.books ∧
      ∀ x ∈ job, ∃ x' ∈ db'.books.sweeps.rows, x'.key = x.key ∧ x'.status = .processing := by
  simp only [claimCashSweepRequest, bind_eq_ok, get_eq_ok] at h
  obtain ⟨_, _, hr₁, h⟩ := h
  cases hr₁
  generalize hDue : List.insertionSort CashSweepRequest.DueBefore _ = due at h
  cases due with
  | nil =>
      cases pure_eq_ok.1 h
      exact ⟨.refl, fun _ hNone => absurd hNone (Option.not_mem_none _)⟩
  | cons candidate rest =>
      simp only [bind_eq_ok, modifyBooks_eq_ok, pure_eq_ok] at h
      obtain ⟨_, _, hr₂, h⟩ := h
      cases hr₂
      cases h
      have hMem : candidate ∈ db.books.sweeps.rows.filter (fun sweep =>
          (sweep.status = .pending || sweep.status = .failed) && sweep.nextAttemptAt ≤ db.now &&
            sweep.key ∉ locked) := by
        rw [← List.mem_insertionSort CashSweepRequest.DueBefore, hDue]
        exact List.mem_cons_self
      obtain ⟨hRow, hStatus⟩ := List.mem_filter.1 hMem
      simp only [Bool.and_eq_true, Bool.or_eq_true, decide_eq_true_eq] at hStatus
      constructor
      · refine .modify_sweeps _ (fun x hx hHeld => ?_) (fun x => ?_)
        · refine if_neg fun hSame => ?_
          cases Table.row_unique hx hRow hSame
          rcases hStatus.1.1 with hStatus | hStatus
          all_goals
            rw [hStatus] at hHeld
            rcases hHeld with hHeld | hHeld
            all_goals cases hHeld
        · dsimp only
          split
          all_goals rfl
      · rintro x ⟨⟩
        have hClaimed := (Table.mem_update CashSweepRequest.claim_key).2
          ⟨candidate, hRow, if_pos rfl⟩
        exact ⟨candidate.claim, hClaimed, rfl, rfl⟩

theorem markCashSweepFailed_processing {x : CashSweepRequest} (hRow : x ∈ db.books.sweeps.rows)
    (hStatus : x.status = .processing) (h : markCashSweepFailed x.key db = .ok ((), db')) :
    PayoutsKept db.books db'.books := by
  simp only [markCashSweepFailed, bind_eq_ok, get_eq_ok, modifyBooks_eq_ok] at h
  obtain ⟨_, _, hr₁, hr₂⟩ := h
  cases hr₁
  cases hr₂
  refine .modify_sweeps _ (fun x' hx' hHeld => ?_) (fun x' => ?_)
  · refine if_neg fun hSame => ?_
    cases Table.row_unique hx' hRow hSame
    rw [hStatus] at hHeld
    rcases hHeld with hHeld | hHeld
    all_goals cases hHeld
  · dsimp only
    split
    · rw [CashSweepRequest.markFailed]
      split
      all_goals rfl
    · rfl

theorem claimCashSweepSigningJob_payouts {locked : List (SourceType × Identifier)}
    {key : CustodialKey} {job : Option CashSweepRequest}
    (h : claimCashSweepSigningJob locked key db = .ok (job, db')) :
    PayoutsKept db.books db'.books := by
  simp only [claimCashSweepSigningJob, bind_eq_ok] at h
  obtain ⟨claimed, db₁, hClaim, h⟩ := h
  obtain ⟨hKept, hProcessing⟩ := claimCashSweepRequest_payouts hClaim
  cases claimed with
  | none =>
      cases pure_eq_ok.1 h
      exact hKept
  | some x =>
      cases key with
      | usable =>
          cases pure_eq_ok.1 h
          exact hKept
      | undecryptable => simp at h
      | missing | unsupportedFormat =>
          simp only [bind_eq_ok, pure_eq_ok] at h
          obtain ⟨_, db₂, hFail, h⟩ := h
          cases h
          obtain ⟨x', hRow, hKey, hStatus⟩ := hProcessing x rfl
          rw [← hKey] at hFail
          exact hKept.trans (markCashSweepFailed_processing hRow hStatus hFail)

/-- Claiming a request, and advancing the others, moves nothing that holds a transfer. -/
theorem claimSigningJob_payouts {kind : PayoutKind} {locked : List PayoutRequest}
    {key : CustodialKey} {job : Option PayoutRequest}
    (h : claimSigningJob kind locked key db = .ok (job, db')) : PayoutsKept db.books db'.books := by
  cases kind with
  | withdrawal =>
      simp only [claimSigningJob, bind_eq_ok, pure_eq_ok] at h
      obtain ⟨w, db₁, hClaim, h⟩ := h
      cases h
      exact claimWithdrawalSigningJob_payouts hClaim
  | sweep =>
      simp only [claimSigningJob, bind_eq_ok, pure_eq_ok] at h
      obtain ⟨x, db₁, hClaim, h⟩ := h
      cases h
      exact claimCashSweepSigningJob_payouts hClaim

/-! ### Recording, failing and confirming -/

/-- One request changes by `f`, and no debit appears. -/
structure PayoutUpdated (request : PayoutRequest) (f : Payout → Payout) (books books' : Books) :
    Prop where
  payouts : ∀ r, payoutOf books' r =
    if r = request then (payoutOf books r).map f else payoutOf books r
  ledger : books'.ledger = books.ledger

theorem PayoutUpdated.update_withdrawals {id : Identifier}
    {f : WithdrawalRequest → WithdrawalRequest} {g : Payout → Payout}
    (hf : ∀ w, (f w).id = w.id) (hPayout : ∀ w, withdrawalPayout (f w) = g (withdrawalPayout w)) :
    PayoutUpdated (.withdrawal id) g books
      { books with withdrawals := books.withdrawals.update id f hf } := by
  refine ⟨fun r => ?_, rfl⟩
  cases r with
  | sweep source => rw [if_neg nofun]; rfl
  | withdrawal id' =>
      simp only [payoutOf, Table.find?_update, PayoutRequest.withdrawal.injEq]
      split
      · simp only [Option.map_map]
        exact congrArg (fun h => Option.map h _) (funext hPayout)
      · rfl

theorem PayoutUpdated.update_sweeps {source : SourceType × Identifier}
    {f : CashSweepRequest → CashSweepRequest} {g : Payout → Payout}
    (hf : ∀ x, (f x).key = x.key) (hPayout : ∀ x, sweepPayout (f x) = g (sweepPayout x)) :
    PayoutUpdated (.sweep source) g books
      { books with sweeps := books.sweeps.update source f hf } := by
  refine ⟨fun r => ?_, rfl⟩
  cases r with
  | withdrawal id => rw [if_neg nofun]; rfl
  | sweep source' =>
      simp only [payoutOf, Table.find?_update, PayoutRequest.sweep.injEq]
      split
      · simp only [Option.map_map]
        exact congrArg (fun h => Option.map h _) (funext hPayout)
      · rfl

theorem recordSubmission_spec {request : PayoutRequest} {signature : Identifier}
    (h : recordSubmission request signature db = .ok ((), db')) :
    PayoutUpdated request (Payout.record signature) db.books db'.books := by
  cases request with
  | withdrawal id =>
      simp only [recordSubmission, recordWithdrawalSubmission, markWithdrawalSubmitted, bind_eq_ok,
        get_eq_ok, require_eq_ok, modifyBooks_eq_ok] at h
      obtain ⟨_, _, hr₁, _, _, ⟨-, hr₂⟩, hr₃⟩ := h
      cases hr₁
      cases hr₂
      cases hr₃
      refine .update_withdrawals _ fun w => ?_
      cases hStatus : w.status <;>
        simp [withdrawalPayout, WithdrawalRequest.markSubmitted, Payout.record, hStatus]
  | sweep source =>
      simp only [recordSubmission, recordCashSweepSubmission, markCashSweepSubmitted, bind_eq_ok,
        get_eq_ok, require_eq_ok, modifyBooks_eq_ok] at h
      obtain ⟨_, _, hr₁, _, _, ⟨-, hr₂⟩, hr₃⟩ := h
      cases hr₁
      cases hr₂
      cases hr₃
      refine .update_sweeps _ fun x => ?_
      cases hStatus : x.status <;>
        simp [sweepPayout, CashSweepRequest.markSubmitted, Payout.record, hStatus]

theorem failSubmission_spec {request : PayoutRequest}
    (h : failSubmission request db = .ok ((), db')) :
    PayoutUpdated request Payout.fail db.books db'.books := by
  cases request with
  | withdrawal id =>
      simp only [failSubmission, failWithdrawalSubmission, markWithdrawalFailed, bind_eq_ok,
        get_eq_ok, modifyBooks_eq_ok] at h
      obtain ⟨_, _, hr₁, hr₂⟩ := h
      cases hr₁
      cases hr₂
      refine .update_withdrawals _ fun w => ?_
      cases hStatus : w.status <;>
        simp [withdrawalPayout, WithdrawalRequest.markFailed, Payout.fail, hStatus]
  | sweep source =>
      simp only [failSubmission, failCashSweep, markCashSweepFailed, bind_eq_ok, get_eq_ok,
        modifyBooks_eq_ok] at h
      obtain ⟨_, _, hr₁, hr₂⟩ := h
      cases hr₁
      cases hr₂
      refine .update_sweeps _ fun x => ?_
      cases hStatus : x.status <;>
        simp [sweepPayout, CashSweepRequest.markFailed, Payout.fail, hStatus]

/-- Guarded by `status = 'submitted'`. -/
def Payout.confirm (p : Payout) : Payout :=
  if p.status = .submitted then { p with status := .confirmed } else p

/-- A confirmation changes one submitted request, and debits it if it is a withdrawal. -/
structure PayoutConfirmed (request : PayoutRequest) (books books' : Books) : Prop where
  payouts : ∀ r, payoutOf books' r =
    if r = request then (payoutOf books r).map Payout.confirm else payoutOf books r
  debits : ∀ e ∈ books'.ledger.rows, e.sourceType = .withdrawalRequest →
    e ∈ books.ledger.rows ∨ request = .withdrawal e.sourceId

theorem PayoutConfirmed.of_withdrawalDebited {a : AccountId} {id : Identifier} {now : Timestamp}
    (h : WithdrawalDebited a id now books books') :
    PayoutConfirmed (.withdrawal id) books books' := by
  have hPayouts : ∀ w, books.withdrawals.find? id = some w → w.status = .submitted →
      ∀ r, payoutOf { books with
          withdrawals := books.withdrawals.update id (·.markConfirmed now)
            (WithdrawalRequest.markConfirmed_id now) } r =
        if r = .withdrawal id then (payoutOf books r).map Payout.confirm else payoutOf books r := by
    intro w hFound hStatus r
    cases r with
    | sweep source => rw [if_neg nofun]; rfl
    | withdrawal id' =>
        simp only [payoutOf, Table.find?_update, PayoutRequest.withdrawal.injEq]
        split
        · rename_i hSame
          subst hSame
          simp [hFound, withdrawalPayout, WithdrawalRequest.markConfirmed, Payout.confirm, hStatus]
        · rfl
  cases h with
  | @debited w ledger hValid hFound hAccount hStatus hEntry =>
      refine ⟨hPayouts w hFound hStatus, fun e he hType => ?_⟩
      obtain ⟨entry, hInsert, _, hKey, _⟩ := hEntry.added
      rcases (Table.mem_insert hInsert).1 he with hOld | rfl
      · exact .inl hOld
      · exact .inr (congrArg PayoutRequest.withdrawal (congrArg Prod.snd hKey).symm)
  | @alreadyDebited w hFound hStatus hTaken =>
      exact ⟨hPayouts w hFound hStatus, fun e he _ => .inl he⟩

theorem confirmSubmission_spec {accountId : AccountId} {request : PayoutRequest}
    (h : confirmSubmission accountId request db = .ok ((), db')) :
    db'.books = db.books ∨ PayoutConfirmed request db.books db'.books := by
  cases request with
  | withdrawal id =>
      rcases (confirmWithdrawal_spec h).2 with hSame | hDebited
      · exact .inl hSame
      · exact .inr (.of_withdrawalDebited hDebited)
  | sweep source =>
      simp only [confirmSubmission, confirmCashSweep, markCashSweepConfirmed,
        modifyBooks_eq_ok] at h
      cases h
      have hUpdated : PayoutUpdated (.sweep source) Payout.confirm db.books
          { db.books with
            sweeps := db.books.sweeps.update source (·.markConfirmed)
              CashSweepRequest.markConfirmed_key } := by
        refine .update_sweeps _ fun x => ?_
        cases hStatus : x.status <;>
          simp [sweepPayout, CashSweepRequest.markConfirmed, Payout.confirm, hStatus]
      exact .inr ⟨hUpdated.payouts, fun e he _ => .inl he⟩

end Hyperspace.Payouts
