import Hyperspace.Deposits.Recipients

/-!
# The conversion of deposits

A deposit is counted in base units of its token and credited in billing units. What is left over
waits in the remainder of the account for the next deposit, and a signature that comes again finds
its receipt. Nothing is lost over any history, unless the numbers of a deposit do not fit or its
signature has paid another account before.
-/

namespace Hyperspace.Deposits

open Hyperspace.Billing Hyperspace.Foundations
open DepositSystem (twoAccounts)
open scoped BigOperators

/-- What a finalized transaction pays to each account, in base units of the token. -/
abbrev Payments := AccountId → Signature → Int

/-- The billing database and the calls that a conversion was asked for. -/
structure ConversionState where
  db : BillingDb
  /-- The accounts and signatures of the calls so far, whether they returned or threw. -/
  called : List (AccountId × Signature)

inductive ConversionEvent where
  | creditDirectDeposit (accountId : AccountId) (signature : Signature) (config : BillingConfig)
  /-- Any other use of the billing database. -/
  | billing (op : BillingOp)

/-- The deposits of the account are of one mint and converted at one rate. -/
def AtRate (a : AccountId) (mint : Mint) (u : Int) : ConversionEvent → Prop
  | .creditDirectDeposit accountId _ config => accountId = a →
    config.solanaTokenMint = mint ∧ config.solanaTokenBaseUnitsPerBillingMinor = u
  | .billing _ => True

namespace Payments

variable (pay : Payments)

def credit (accountId : AccountId) (signature : Signature) (config : BillingConfig) :
    Tx DirectDepositResult :=
  creditDirectDeposit accountId signature (pay accountId signature) config

def step (s : ConversionState) : ConversionEvent → Option ConversionState
  | .creditDirectDeposit accountId signature config =>
    some
      { db := (transaction (pay.credit accountId signature config) s.db).2
        called := (accountId, signature) :: s.called }
  | .billing op => if OfOtherCallers op then some { s with db := op.apply s.db } else none

/-- The signature of a call has no receipt of another account; and where it has none at all, the
numbers of the deposit fit. -/
def Creditable (s : ConversionState) : ConversionEvent → Prop
  | .creditDirectDeposit accountId signature config =>
    (∀ receipt ∈ s.db.books.receipts.rows, receipt.transactionSignature = signature →
      receipt.accountId = accountId) ∧
    (¬ s.db.books.receipts.HasKey signature →
      DepositFits s.db accountId (pay accountId signature) config)
  | .billing _ => True

instance (s : ConversionState) : DecidablePred (pay.Creditable s) := fun event => by
  cases event <;> simp only [Creditable] <;> infer_instance

/-- What the account was sent under distinct signatures. -/
def sentBaseUnits (s : ConversionState) (a : AccountId) : Int :=
  ∑ call ∈ s.called.toFinset with call.1 = a, pay call.1 call.2

end Payments

def noDeposits (usage : UsageTables) (now : Timestamp) : ConversionState where
  db := emptyDb usage now
  called := []

section

variable {books books' : Books} {a a' : AccountId} {n : Int} {config : BillingConfig}
  {signature : Signature}

/-! ### One call -/

theorem convertDepositToBillingMinor_remainder_lt {r d u : Int} {c : DepositConversion}
    (h : convertDepositToBillingMinor r d u = .ok c) : c.remainderBaseUnits < u := by
  unfold convertDepositToBillingMinor at h
  split at h
  · cases h
  · rename_i hInput
    simp only [not_or, not_lt, not_le] at hInput
    simp only at h
    split at h
    · cases h
    · cases h
      exact Int.emod_lt_of_pos _ hInput.2.2

theorem remainder_lt_of_receiptTaken {conversion : DepositConversion}
    (h : ReceiptTaken config a signature n conversion books books') :
    (books'.depositRemainders a config.solanaTokenMint).val <
      config.solanaTokenBaseUnitsPerBillingMinor := by
  cases h with
  | mk hRemainder hConversion =>
      simp only [Function.update_self]
      exact convertDepositToBillingMinor_remainder_lt hConversion

theorem remainder_lt_of_depositCredited (h : DepositCredited config a signature n books books') :
    (books'.depositRemainders a config.solanaTokenMint).val <
      config.solanaTokenBaseUnitsPerBillingMinor := by
  cases h with
  | below hReceipt => exact remainder_lt_of_receiptTaken hReceipt
  | posted hReceipt _ hPosted =>
      have hRemainder := remainder_lt_of_receiptTaken hReceipt
      cases hPosted with
      | mk => exact hRemainder

theorem remainders_of_receiptTaken {conversion : DepositConversion} (hne : a ≠ a')
    (h : ReceiptTaken config a signature n conversion books books') :
    books'.depositRemainders a' = books.depositRemainders a' := by
  cases h with
  | mk => exact Function.update_of_ne hne.symm _ _

theorem depositCredited_others (hne : a ≠ a')
    (h : DepositCredited config a signature n books books') :
    books'.depositRemainders a' = books.depositRemainders a' ∧
      depositedMinor books'.ledger a' = depositedMinor books.ledger a' := by
  cases h with
  | below hReceipt =>
      rw [(receipt_of_receiptTaken hReceipt).2.1]
      exact ⟨remainders_of_receiptTaken hne hReceipt, rfl⟩
  | posted hReceipt _ hPosted =>
      have hLedger := (receipt_of_receiptTaken hReceipt).2.1
      have hRemainders := remainders_of_receiptTaken hne hReceipt
      cases hPosted with
      | mk hValid hEntry =>
          refine ⟨hRemainders, ?_⟩
          rw [← hLedger]
          refine (depositedMinor_of_added hEntry).trans ?_
          rw [if_neg fun hSame => hne hSame.1, Int.add_zero]

theorem creditDirectDeposit_duplicate {db db' : BillingDb} {result : DirectDepositResult}
    (hKey : db.books.receipts.HasKey signature)
    (h : creditDirectDeposit a signature n config db = .ok (result, db')) :
    result = ⟨true, 0⟩ ∧ db' = db := by
  simp only [creditDirectDeposit, bind_eq_ok] at h
  obtain ⟨_, db₁, hAccount, remainder, db₂, hRemainder, conversion, db₃, hConvert, claimed, db₄,
    hClaim, h⟩ := h
  cases (ensureBillingAccount_spec hAccount).2
  cases readSolanaDepositRemainderForUpdate_spec hRemainder
  obtain ⟨_, -, hr⟩ := liftExcept_eq_ok.1 hConvert
  cases hr
  rcases claimSolanaPaymentReceipt_spec hClaim with
    ⟨hr, -⟩ | ⟨receipt, receipts, hInsert, hSignature, -, -, -, -⟩
  · cases hr
    rw [if_neg (by decide), pure_eq_ok] at h
    cases h
    exact ⟨rfl, rfl⟩
  · exact absurd (hSignature ▸ hKey) (Table.insert_eq_some hInsert).1

theorem transaction_duplicate {db : BillingDb} (hKey : db.books.receipts.HasKey signature) :
    (transaction (creditDirectDeposit a signature n config) db).2 = db := by
  cases hCall : creditDirectDeposit a signature n config db with
  | error e => simp only [transaction, StateT.run, hCall]
  | ok r =>
      obtain ⟨result, db'⟩ := r
      rw [transaction_of_ok hCall]
      exact (creditDirectDeposit_duplicate hKey hCall).2

end

/-! ### All calls -/

/-- What the account was sent is what it was credited and what remains; the receipts are those of
the calls. -/
structure Converted (pay : Payments) (a : AccountId) (mint : Mint) (u : Int)
    (s : ConversionState) : Prop where
  conserved : u * depositedMinor s.db.books.ledger a + (s.db.books.depositRemainders a mint).val =
    pay.sentBaseUnits s a
  remainder_lt : (s.db.books.depositRemainders a mint).val < u
  received : ∀ call ∈ s.called, s.db.books.receipts.HasKey call.2
  called : ∀ receipt ∈ s.db.books.receipts.rows,
    (receipt.accountId, receipt.transactionSignature) ∈ s.called
  entries : EntriesHaveReceipts s.db.books

section

variable {pay : Payments} {a a' : AccountId} {mint : Mint} {u : Int} {s s' : ConversionState}
  {signature : Signature} {config : BillingConfig} {db : BillingDb}

theorem Converted.kept (h : Converted pay a mint u s) (hKept : DepositsKept s.db.books db.books) :
    Converted pay a mint u { s with db } where
  conserved := by
    rw [hKept.deposited, hKept.remainders]
    exact h.conserved
  remainder_lt := by
    rw [hKept.remainders]
    exact h.remainder_lt
  received call hMem := by
    rw [hKept.receipts]
    exact h.received call hMem
  called := by
    rw [hKept.receipts]
    exact h.called
  entries σ hKey := by
    rw [hKept.receipts]
    exact h.entries σ (hKept.entries σ hKey)

theorem Converted.repeated (h : Converted pay a mint u s) (hMem : (a', signature) ∈ s.called) :
    Converted pay a mint u { s with called := (a', signature) :: s.called } := by
  have hSame : ((a', signature) :: s.called).toFinset = s.called.toFinset := by
    rw [List.toFinset_cons, Finset.insert_eq_of_mem (List.mem_toFinset.2 hMem)]
  refine ⟨?_, h.remainder_lt, fun call hCall => ?_, fun receipt hRow => ?_, h.entries⟩
  · rw [Payments.sentBaseUnits, hSame]
    exact h.conserved
  · rcases List.mem_cons.1 hCall with rfl | hCall
    · exact h.received _ hMem
    · exact h.received call hCall
  · exact List.mem_cons_of_mem _ (h.called receipt hRow)

theorem Converted.credited (h : Converted pay a mint u s)
    (hRate : AtRate a mint u (.creditDirectDeposit a' signature config))
    (hCredited : DepositCredited config a' signature (pay a' signature) s.db.books db.books) :
    Converted pay a mint u { db, called := (a', signature) :: s.called } := by
  have hEntries := h.entries.credited hCredited
  obtain ⟨⟨receipt, hInsert, rfl, rfl, -⟩, hUnits⟩ := converted_of_depositCredited hCredited
  have hNew : (receipt.accountId, receipt.transactionSignature) ∉ s.called := fun hOld =>
    (Table.insert_eq_some hInsert).1 (h.received _ hOld)
  have hSent : pay.sentBaseUnits
      { db, called := (receipt.accountId, receipt.transactionSignature) :: s.called } a =
        pay.sentBaseUnits s a + if receipt.accountId = a then
          pay receipt.accountId receipt.transactionSignature else 0 := by
    rw [Payments.sentBaseUnits, Payments.sentBaseUnits, List.toFinset_cons, Finset.filter_insert]
    split
    · rw [Finset.sum_insert (by simp [hNew]), Int.add_comm]
    · rw [Int.add_zero]
  refine ⟨?_, ?_, fun call hCall => ?_, fun r hRow => ?_, hEntries⟩
  · rw [hSent, ← h.conserved]
    by_cases ha : receipt.accountId = a
    · obtain ⟨rfl, rfl⟩ := hRate ha
      rw [if_pos ha]
      simpa only [if_pos ha] using hUnits a
    · obtain ⟨hRemainders, hDeposited⟩ := depositCredited_others ha hCredited
      rw [if_neg ha, hRemainders, hDeposited, Int.add_zero]
  · by_cases ha : receipt.accountId = a
    · obtain ⟨rfl, rfl⟩ := hRate ha
      exact ha ▸ remainder_lt_of_depositCredited hCredited
    · rw [(depositCredited_others ha hCredited).1]
      exact h.remainder_lt
  · rw [Table.hasKey_insert hInsert]
    rcases List.mem_cons.1 hCall with rfl | hCall
    · exact .inr rfl
    · exact .inl (h.received call hCall)
  · rcases (Table.mem_insert hInsert).1 hRow with hOld | rfl
    · exact List.mem_cons_of_mem _ (h.called r hOld)
    · exact List.mem_cons_self

theorem Converted.step {event : ConversionEvent} (h : Converted pay a mint u s)
    (hRate : AtRate a mint u event) (hCond : pay.Creditable s event)
    (hStep : pay.step s event = some s') : Converted pay a mint u s' := by
  cases event with
  | creditDirectDeposit a' signature config =>
      cases hStep
      obtain ⟨hOwn, hFits⟩ := hCond
      by_cases hKey : s.db.books.receipts.HasKey signature
      · obtain ⟨receipt, hRow, hSignature⟩ := Table.hasKey_iff.1 hKey
        have hMem : (a', signature) ∈ s.called := by
          rw [← hOwn receipt hRow hSignature, ← hSignature]
          exact h.called receipt hRow
        have hSame : (transaction (pay.credit a' signature config) s.db).2 = s.db :=
          transaction_duplicate hKey
        rw [hSame]
        exact h.repeated hMem
      · obtain ⟨⟨result, db'⟩, hCall⟩ := (hFits hKey).credited_ok h.entries hKey
        have hCommit : transaction (pay.credit a' signature config) s.db = (.ok result, db') :=
          transaction_of_ok hCall
        rw [hCommit]
        rcases (creditDirectDeposit_spec hCall).2 with ⟨-, hTaken⟩ | hCredited
        · exact absurd hTaken hKey
        · exact h.credited hRate hCredited
  | billing op =>
      simp only [Payments.step] at hStep
      split at hStep
      · rename_i hOther
        cases hStep
        exact h.kept (apply_depositsKept hOther)
      · cases hStep

theorem converted_noDeposits {usage : UsageTables} {now : Timestamp} (hu : 0 < u) :
    Converted pay a mint u (noDeposits usage now) := by
  refine ⟨?_, hu, by simp [noDeposits], by simp [noDeposits, emptyDb], ?_⟩
  · simp [noDeposits, emptyDb, depositedMinor, Payments.sentBaseUnits, zeroAmount]
  · simp [EntriesHaveReceipts, noDeposits, emptyDb, Table.HasKey]

/-- After any calls that meet the condition, the billing units credited to an account for deposits
and the stored remainder are what the distinct signatures of its calls paid it; the remainder is
less than a billing unit; and a call for a signature that was called for before changes no table. -/
theorem conversion_loses_nothing {usage : UsageTables} {now : Timestamp}
    {events : List ConversionEvent} (hu : 0 < u) (hRate : ∀ event ∈ events, AtRate a mint u event)
    (hRun : run pay.step (noDeposits usage now) events = some s)
    (hMeet : StepsMeet pay.step pay.Creditable (noDeposits usage now) events) :
    depositedMinor s.db.books.ledger a * u + (s.db.books.depositRemainders a mint).val =
        pay.sentBaseUnits s a ∧
      0 ≤ (s.db.books.depositRemainders a mint).val ∧
      (s.db.books.depositRemainders a mint).val < u ∧
      ∀ call ∈ s.called, ∀ config,
        (transaction (pay.credit call.1 call.2 config) s.db).2 = s.db := by
  have hAt : StepsMeet pay.step (fun _ event => AtRate a mint u event)
      (noDeposits usage now) events := stepsMeet_of_forall fun event hMem _ => hRate event hMem
  have h : Converted pay a mint u s := by
    refine run_invariant_of_stepsMeet ?_ (converted_noDeposits hu) hRun (stepsMeet_and hAt hMeet)
    intro t event t' hConverted hBoth hStep
    exact hConverted.step hBoth.1 hBoth.2 hStep
  refine ⟨?_, (s.db.books.depositRemainders a mint).2.1, h.remainder_lt, ?_⟩
  · rw [Int.mul_comm]
    exact h.conserved
  · intro call hCalled config
    exact transaction_duplicate (h.received call hCalled)

/-- The ninth signature pays two accounts, each of the others one. -/
def samplePayments : Payments := fun accountId signature =>
  if signature = 9 then accountId * 25000 else 7000

def samplePaymentEvents : List ConversionEvent :=
  [.creditDirectDeposit 1 9 splConfig, .creditDirectDeposit 1 9 splConfig,
    .creditDirectDeposit 2 8 splConfig, .creditDirectDeposit 1 7 splConfig]

/-- The first deposit is delivered twice; the last one is completed by its remainder. -/
theorem conversion_loses_nothing_sample :
    ∃ s, run samplePayments.step (noDeposits twoAccounts 0) samplePaymentEvents = some s ∧
      (depositedMinor s.db.books.ledger 1 = 3 ∧ samplePayments.sentBaseUnits s 1 = 32000) ∧
      depositedMinor s.db.books.ledger 1 * 10000 + (s.db.books.depositRemainders 1 1).val =
          samplePayments.sentBaseUnits s 1 ∧
        0 ≤ (s.db.books.depositRemainders 1 1).val ∧
        (s.db.books.depositRemainders 1 1).val < 10000 ∧
        ∀ call ∈ s.called, ∀ config,
          (transaction (samplePayments.credit call.1 call.2 config) s.db).2 = s.db := by
  have hRun : ∃ s ∈ run samplePayments.step (noDeposits twoAccounts 0) samplePaymentEvents,
      depositedMinor s.db.books.ledger 1 = 3 ∧ samplePayments.sentBaseUnits s 1 = 32000 := by
    decide +kernel
  have hRate : ∀ event ∈ samplePaymentEvents, AtRate 1 1 10000 event := by
    simp [samplePaymentEvents, AtRate, splConfig]
  have hMeet : StepsMeet samplePayments.step samplePayments.Creditable (noDeposits twoAccounts 0)
      samplePaymentEvents := by decide +kernel
  obtain ⟨s, hRun, hCredited⟩ := hRun
  exact ⟨s, hRun, hCredited, conversion_loses_nothing (by decide) hRate hRun hMeet⟩

/-- A deposit of 3 SOL at one lamport a billing unit is never credited; and of two accounts that one
signature pays only the first is. -/
theorem not_conversion_loses_nothing :
    (∃ s, run (Payments.step fun _ _ => 3000000000) (noDeposits twoAccounts 0)
        [.creditDirectDeposit 1 4
          { splConfig with solanaAssetKind := .native, solanaTokenBaseUnitsPerBillingMinor := 1 }] =
        some s ∧
      depositedMinor s.db.books.ledger 1 * 1 + (s.db.books.depositRemainders 1 1).val ≠
        Payments.sentBaseUnits (fun _ _ => 3000000000) s 1) ∧
    ∃ s, run samplePayments.step (noDeposits twoAccounts 0)
        [.creditDirectDeposit 1 9 splConfig, .creditDirectDeposit 2 9 splConfig] = some s ∧
      depositedMinor s.db.books.ledger 2 * 10000 + (s.db.books.depositRemainders 2 1).val ≠
        samplePayments.sentBaseUnits s 2 := by
  have hLarge : ∃ s ∈ run (Payments.step fun _ _ => 3000000000) (noDeposits twoAccounts 0)
        [.creditDirectDeposit 1 4
          { splConfig with solanaAssetKind := .native, solanaTokenBaseUnitsPerBillingMinor := 1 }],
      depositedMinor s.db.books.ledger 1 * 1 + (s.db.books.depositRemainders 1 1).val ≠
        Payments.sentBaseUnits (fun _ _ => 3000000000) s 1 := by
    decide +kernel
  have hShared : ∃ s ∈ run samplePayments.step (noDeposits twoAccounts 0)
        [.creditDirectDeposit 1 9 splConfig, .creditDirectDeposit 2 9 splConfig],
      depositedMinor s.db.books.ledger 2 * 10000 + (s.db.books.depositRemainders 2 1).val ≠
        samplePayments.sentBaseUnits s 2 := by
    decide +kernel
  exact ⟨hLarge, hShared⟩

end

end Hyperspace.Deposits
