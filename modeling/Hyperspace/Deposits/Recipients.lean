import Hyperspace.Deposits.Visits

/-!
# Every recipient of a transaction

The receipt that keeps a deposit from being credited twice is named by the signature alone, so the
first scan to come takes it for all the wallets that a transaction pays.
-/

namespace Hyperspace.Deposits

open Hyperspace.Billing Hyperspace.Foundations
open scoped BigOperators

/-! ### What a credited deposit adds -/

section

variable {books books' : Books} {a a' : AccountId} {key : SourceType × Identifier} {n : Int}

theorem depositedMinor_of_added {ledger ledger' : Table LedgerEntry.key}
    (hEntry : EntryAdded ledger a key n ledger') :
    depositedMinor ledger' a' =
      depositedMinor ledger a' + if a = a' ∧ key.1 = .solanaDirectDeposit then n else 0 := by
  obtain ⟨entry, hInsert, rfl, rfl, rfl⟩ := hEntry.added
  exact Table.sum_insert hInsert _

theorem depositedMinor_of_otherSource {ledger ledger' : Table LedgerEntry.key}
    (hEntry : EntryAdded ledger a key n ledger') (hSource : key.1 ≠ .solanaDirectDeposit) :
    depositedMinor ledger' a' = depositedMinor ledger a' := by
  rw [depositedMinor_of_added hEntry, if_neg (fun h => hSource h.2), Int.add_zero]

theorem receipt_of_receiptTaken {config : BillingConfig} {signature : Identifier}
    {conversion : DepositConversion}
    (h : ReceiptTaken config a signature n conversion books books') :
    (∃ receipt, books.receipts.insert receipt = some books'.receipts ∧
      receipt.transactionSignature = signature ∧ receipt.accountId = a ∧
      receipt.amountBaseUnits = n) ∧
    books'.ledger = books.ledger ∧ 0 ≤ conversion.amountMinor ∧
    ∀ a', config.solanaTokenBaseUnitsPerBillingMinor *
          (if a = a' then conversion.amountMinor else 0) +
        (books'.depositRemainders a' config.solanaTokenMint).val =
      (books.depositRemainders a' config.solanaTokenMint).val + if a = a' then n else 0 := by
  cases h with
  | mk hRemainder hConversion hInsert hSignature hAccount hAmount hInt =>
      obtain ⟨-, -, hMinor, hSplit⟩ := convertDepositToBillingMinor_spec hConversion
      refine ⟨⟨_, hInsert, hSignature, hAccount, hAmount⟩, rfl, hMinor, fun a' => ?_⟩
      rcases eq_or_ne a a' with rfl | hne
      · simpa only [Function.update_self, if_true] using hSplit
      · simp [Function.update_of_ne hne.symm, hne]

theorem converted_of_depositCredited {config : BillingConfig} {signature : Identifier}
    (h : DepositCredited config a signature n books books') :
    (∃ receipt, books.receipts.insert receipt = some books'.receipts ∧
      receipt.transactionSignature = signature ∧ receipt.accountId = a ∧
      receipt.amountBaseUnits = n) ∧
    ∀ a', config.solanaTokenBaseUnitsPerBillingMinor * depositedMinor books'.ledger a' +
          (books'.depositRemainders a' config.solanaTokenMint).val =
        config.solanaTokenBaseUnitsPerBillingMinor * depositedMinor books.ledger a' +
          (books.depositRemainders a' config.solanaTokenMint).val + if a = a' then n else 0 := by
  cases h with
  | below hReceipt hBelow =>
      obtain ⟨hRow, hLedger, hMinor, hSplit⟩ := receipt_of_receiptTaken hReceipt
      refine ⟨hRow, fun a' => ?_⟩
      have hNone := hSplit a'
      rw [le_antisymm hBelow hMinor, ite_self, mul_zero, zero_add] at hNone
      rw [hLedger, hNone]
      omega
  | posted hReceipt hPositive hPosted =>
      obtain ⟨hRow, hLedger, -, hSplit⟩ := receipt_of_receiptTaken hReceipt
      cases hPosted with
      | mk hValid hEntry hRead hSweep =>
          refine ⟨hRow, fun a' => ?_⟩
          have hAdded := @depositedMinor_of_added _ a' _ _ _ _ hEntry
          have hSome := hSplit a'
          simp only [and_true] at hAdded
          simp only [Books.post]
          rw [hAdded, hLedger, mul_add]
          omega

theorem EntriesHaveReceipts.credited {config : BillingConfig} {signature : Identifier}
    (hEntries : EntriesHaveReceipts books) (h : DepositCredited config a signature n books books') :
    EntriesHaveReceipts books' := by
  obtain ⟨⟨receipt, hInsert, rfl, -⟩, -⟩ := converted_of_depositCredited h
  intro σ hKey
  rw [Table.hasKey_insert hInsert]
  cases h with
  | below hReceipt =>
      rw [(receipt_of_receiptTaken hReceipt).2.1] at hKey
      exact .inl (hEntries σ hKey)
  | posted hReceipt _ hPosted =>
      have hLedger := (receipt_of_receiptTaken hReceipt).2.1
      cases hPosted with
      | mk hValid hEntry =>
          obtain ⟨entry, hAdded, -, hSame, -⟩ := hEntry.added
          rcases (Table.hasKey_insert hAdded).1 hKey with hOld | hNew
          · rw [hLedger] at hOld
            exact .inl (hEntries σ hOld)
          · rw [hSame] at hNew
            exact .inr (Prod.mk.inj hNew).2

theorem credited_of_depositCredited (sys : DepositSystem) {signature : Identifier}
    (h : DepositCredited sys.config a signature n books books') :
    (∃ receipt, books.receipts.insert receipt = some books'.receipts ∧
      receipt.transactionSignature = signature ∧ receipt.accountId = a ∧
      receipt.amountBaseUnits = n) ∧
    ∀ a', sys.creditedBaseUnits books' a' =
      sys.creditedBaseUnits books a' + if a = a' then n else 0 :=
  converted_of_depositCredited h

end

/-! ### Other uses of the database -/

/-- Receipts and what was credited for deposits are as before. -/
structure DepositsKept (books books' : Books) : Prop where
  receipts : books'.receipts = books.receipts
  remainders : books'.depositRemainders = books.depositRemainders
  deposited : ∀ a, depositedMinor books'.ledger a = depositedMinor books.ledger a
  entries : ∀ signature, books'.ledger.HasKey (.solanaDirectDeposit, signature) →
    books.ledger.HasKey (.solanaDirectDeposit, signature)

theorem depositsKept_of_sameLedger {books books' : Books}
    (hReceipts : books'.receipts = books.receipts)
    (hRemainders : books'.depositRemainders = books.depositRemainders)
    (hLedger : books'.ledger = books.ledger) : DepositsKept books books' :=
  ⟨hReceipts, hRemainders, fun _ => by rw [hLedger], fun _ h => by rwa [hLedger] at h⟩

theorem depositsKept_of_otherSource {books books' : Books} {a : AccountId}
    {key : SourceType × Identifier} {n : Int} (hReceipts : books'.receipts = books.receipts)
    (hRemainders : books'.depositRemainders = books.depositRemainders)
    (hEntry : EntryAdded books.ledger a key n books'.ledger)
    (hSource : key.1 ≠ .solanaDirectDeposit) : DepositsKept books books' := by
  refine ⟨hReceipts, hRemainders, fun _ => depositedMinor_of_otherSource hEntry hSource, ?_⟩
  intro signature hKey
  obtain ⟨entry, hInsert, -, rfl, -⟩ := hEntry.added
  refine ((Table.hasKey_insert hInsert).1 hKey).resolve_right fun hSame => hSource ?_
  rw [← hSame]

instance : IsPreorder BillingDb fun db db' => DepositsKept db.books db'.books where
  refl _ := ⟨rfl, rfl, fun _ => rfl, fun _ => id⟩
  trans _ _ _ h h' := ⟨h'.receipts.trans h.receipts, h'.remainders.trans h.remainders,
    fun a => (h'.deposited a).trans (h.deposited a),
    fun signature hKey => h.entries signature (h'.entries signature hKey)⟩

theorem depositsKept_importDoubleZeroUsage {config : BillingConfig}
    {records : List DoubleZeroUsageRecord} :
    Keeps (fun db db' : BillingDb => DepositsKept db.books db'.books)
      (importDoubleZeroUsage records config) := by
  refine keeps_importDoubleZeroUsage ?_ ?_ ?_
  · intro db id db' h
    cases freshId_eq_ok.1 h
    exact depositsKept_of_sameLedger rfl rfl rfl
  · intro input db rated db' h
    rcases insertRatedUsageEvent_spec h with ⟨hr, -⟩ | ⟨event, events, -, -, hr⟩
    · cases hr
      exact depositsKept_of_sameLedger rfl rfl rfl
    · cases hr
      exact depositsKept_of_sameLedger rfl rfl rfl
  · intro entry hSource db inserted db' h
    rcases insertLedgerEntry_spec h with ⟨hr, -⟩ | ⟨ledger, hInsert, hr⟩
    · cases hr
      exact depositsKept_of_sameLedger rfl rfl rfl
    · cases hr
      have hEntry : EntryAdded db.books.ledger _ entry.key _ ledger := .of_insert hInsert
      refine depositsKept_of_otherSource rfl rfl hEntry ?_
      simp [LedgerEntry.key, hSource]

section

variable {books books' : Books} {a : AccountId} {n : Int}

theorem depositsKept_of_creditPosted {input : BillingCreditInput}
    (h : CreditPosted input books books') (hSource : input.sourceType ≠ .solanaDirectDeposit) :
    DepositsKept books books' := by
  cases h with
  | mk hValid hEntry =>
      exact depositsKept_of_otherSource rfl rfl hEntry hSource

theorem depositsKept_of_chargePosted {config : RetailBillingRuntimeConfig} {ratingId : Identifier}
    (h : ChargePosted config a ratingId n books books') : DepositsKept books books' := by
  cases h with
  | mk hValid hEntry =>
      exact depositsKept_of_otherSource rfl rfl hEntry (by simp)

theorem depositsKept_of_withdrawalReserved {id : Identifier}
    (h : WithdrawalReserved a books id books') : DepositsKept books books' := by
  cases h with
  | mk => exact depositsKept_of_sameLedger rfl rfl rfl

theorem depositsKept_of_withdrawalReleased {id : Identifier} {now : Timestamp}
    (h : WithdrawalReleased a id now books books') : DepositsKept books books' := by
  cases h with
  | mk => exact depositsKept_of_sameLedger rfl rfl rfl

theorem depositsKept_of_withdrawalDebited {id : Identifier} {now : Timestamp}
    (h : WithdrawalDebited a id now books books') : DepositsKept books books' := by
  cases h with
  | debited hValid hFound hAccount hStatus hEntry =>
      exact depositsKept_of_otherSource rfl rfl hEntry (by simp)
  | alreadyDebited => exact depositsKept_of_sameLedger rfl rfl rfl

theorem depositsKept_of_withdrawalsMoved (h : WithdrawalsMoved books books') :
    DepositsKept books books' := by
  obtain ⟨f, hf, rfl, -⟩ := h
  exact depositsKept_of_sameLedger rfl rfl rfl

theorem apply_depositsKept {db : BillingDb} {op : BillingOp} (hOther : OfOtherCallers op) :
    DepositsKept db.books (op.apply db).books := by
  have hSame : DepositsKept db.books db.books := depositsKept_of_sameLedger rfl rfl rfl
  cases op with
  | applyBillingCredit input =>
      refine transaction_keeps (fun d => DepositsKept db.books d.books) hSame fun _ db' hOk => ?_
      rcases (applyBillingCredit_spec hOk).2 with ⟨hBooks, -⟩ | hPosted
      · exact hBooks ▸ hSame
      · exact depositsKept_of_creditPosted hPosted (of_decide_eq_true hOther)
  | settleRatingCandidate candidate config =>
      refine transaction_keeps (fun d => DepositsKept db.books d.books) hSame fun _ db' hOk => ?_
      rcases (settleRatingCandidate_spec hOk).2 with hBooks | ⟨m, -, -, hPosted⟩
      · exact hBooks ▸ hSame
      · exact depositsKept_of_chargePosted hPosted
  | creditDirectDeposit => cases hOther
  | importDoubleZeroUsage records config =>
      exact transaction_keeps (fun d => DepositsKept db.books d.books) hSame fun _ db' hOk =>
        depositsKept_importDoubleZeroUsage _ _ _ hOk
  | createWithdrawalRequest actor input config =>
      refine transaction_keeps (fun d => DepositsKept db.books d.books) hSame fun _ db' hOk => ?_
      rcases (createWithdrawalRequest_spec hOk).2 with hBooks | ⟨-, hReserved, -⟩
      · exact hBooks ▸ hSame
      · exact depositsKept_of_withdrawalReserved hReserved
  | cancelOwnedWithdrawal actor id =>
      refine transaction_keeps (fun d => DepositsKept db.books d.books) hSame fun _ db' hOk => ?_
      rcases (cancelOwnedWithdrawal_spec hOk).2 with hBooks | hReleased
      · exact hBooks ▸ hSame
      · exact depositsKept_of_withdrawalReleased hReleased
  | claimWithdrawalSigningJob locked key =>
      exact transaction_keeps (fun d => DepositsKept db.books d.books) hSame fun _ db' hOk =>
        depositsKept_of_withdrawalsMoved (claimWithdrawalSigningJob_spec hOk).2
  | recordWithdrawalSubmission id signature =>
      exact transaction_keeps (fun d => DepositsKept db.books d.books) hSame fun _ db' hOk =>
        depositsKept_of_withdrawalsMoved (markWithdrawalSubmitted_spec hOk).2
  | failWithdrawalSubmission id =>
      exact transaction_keeps (fun d => DepositsKept db.books d.books) hSame fun _ db' hOk =>
        depositsKept_of_withdrawalsMoved (markWithdrawalFailed_spec hOk).2
  | confirmWithdrawal accountId id =>
      refine transaction_keeps (fun d => DepositsKept db.books d.books) hSame fun _ db' hOk => ?_
      rcases (confirmWithdrawal_spec hOk).2 with hBooks | hDebited
      · exact hBooks ▸ hSame
      · exact depositsKept_of_withdrawalDebited hDebited
  | environment usage now => exact hSame

end

/-! ### Runs -/

namespace DepositSystem

variable {sys : DepositSystem} {s s' : DepositsState}

/-- What was handed over is credited once, with every receipt taken by a wallet that the transaction
pays. -/
structure HandedCredited (sys : DepositSystem) (db : BillingDb)
    (handed : AccountId → List Signature) : Prop where
  credited : ∀ wallet ∈ sys.wallets,
    (∀ signature ∈ handed wallet.accountId, ∃ receipt ∈ db.books.receipts.rows,
      receipt.transactionSignature = signature ∧ receipt.accountId = wallet.accountId ∧
        receipt.amountBaseUnits = sys.delta wallet signature) ∧
    sys.creditedBaseUnits db.books wallet.accountId =
      ∑ signature ∈ (handed wallet.accountId).toFinset, sys.delta wallet signature
  owned : ∀ receipt ∈ db.books.receipts.rows, ∃ wallet ∈ sys.wallets,
    receipt.transactionSignature ∈ handed wallet.accountId ∧
      0 < sys.delta wallet receipt.transactionSignature
  entries : EntriesHaveReceipts db.books

/-- What the visits so far have handed over is credited, and all of it that had to be. -/
structure DepositsInv (sys : DepositSystem) (s : DepositsState) : Prop where
  handed : HandedCredited sys s.db s.handed
  answered : ∀ wallet ∈ sys.wallets, ∀ signature ∈ s.answered wallet.accountId,
    0 < sys.delta wallet signature → signature ∈ s.handed wallet.accountId

theorem wallet_eq {wallet other : CustodialWallet} (hWallet : wallet ∈ sys.wallets)
    (hOther : other ∈ sys.wallets) (hAccount : wallet.accountId = other.accountId) :
    wallet = other :=
  List.inj_on_of_nodup_map sys.accounts_nodup hWallet hOther hAccount

theorem depositsInv_initial {usage : UsageTables} {now : Timestamp} :
    DepositsInv sys (initial usage now) := by
  refine ⟨⟨fun wallet _ => ⟨by simp [initial], ?_⟩, by simp [initial, emptyDb], ?_⟩,
    by simp [initial]⟩
  · simp [initial, emptyDb, creditedBaseUnits, depositedMinor, zeroAmount]
  · simp [EntriesHaveReceipts, initial, emptyDb, Table.HasKey]

section

variable {db db' : BillingDb} {handed handed' : AccountId → List Signature}
  {wallet : CustodialWallet} {signature : Signature}

theorem HandedCredited.billing (h : HandedCredited sys db handed)
    (hKept : DepositsKept db.books db'.books) : HandedCredited sys db' handed := by
  refine ⟨fun wallet hWallet => ?_, ?_, fun signature hKey => ?_⟩
  · obtain ⟨hReceived, hCredited⟩ := h.credited wallet hWallet
    refine ⟨hKept.receipts ▸ hReceived, ?_⟩
    rw [← hCredited, creditedBaseUnits, creditedBaseUnits, hKept.deposited, hKept.remainders]
  · rw [hKept.receipts]
    exact h.owned
  · rw [hKept.receipts]
    exact h.entries signature (hKept.entries signature hKey)

theorem HandedCredited.congr (h : HandedCredited sys db handed) (hBooks : db'.books = db.books)
    (hHanded : ∀ a signature, signature ∈ handed' a ↔ signature ∈ handed a) :
    HandedCredited sys db' handed' := by
  have hSets : ∀ a, (handed' a).toFinset = (handed a).toFinset := by
    intro a
    ext signature
    simp [hHanded]
  refine ⟨fun wallet hWallet => ?_, ?_, hBooks ▸ h.entries⟩
  · obtain ⟨hReceived, hCredited⟩ := h.credited wallet hWallet
    rw [hBooks, hSets]
    exact ⟨fun signature hMem => hReceived signature ((hHanded _ _).1 hMem), hCredited⟩
  · rw [hBooks]
    intro receipt hRow
    obtain ⟨wallet, hWallet, hMem, hPositive⟩ := h.owned receipt hRow
    exact ⟨wallet, hWallet, (hHanded _ _).2 hMem, hPositive⟩

theorem HandedCredited.credit (h : HandedCredited sys db handed) (hWallet : wallet ∈ sys.wallets)
    (hPositive : 0 < sys.delta wallet signature)
    (hCredited : DepositCredited sys.config wallet.accountId signature
      (sys.delta wallet signature) db.books db'.books) :
    HandedCredited sys db'
      (Function.update handed wallet.accountId (signature :: handed wallet.accountId)) := by
  have hEntries := h.entries.credited hCredited
  obtain ⟨⟨receipt, hInsert, hSignature, hAccount, hAmount⟩, hBalance⟩ :=
    credited_of_depositCredited sys hCredited
  have hFresh : signature ∉ handed wallet.accountId := by
    intro hMem
    obtain ⟨old, hOld, hOldSignature, -⟩ := (h.credited wallet hWallet).1 signature hMem
    have hTaken : db.books.receipts.HasKey receipt.transactionSignature := by
      rw [hSignature, ← hOldSignature]
      exact .of_mem hOld
    rw [Table.insert_eq_none.2 hTaken] at hInsert
    cases hInsert
  refine ⟨fun other hOther => ?_, fun r hRow => ?_, hEntries⟩
  · obtain ⟨hReceived, hOtherCredited⟩ := h.credited other hOther
    have hKept : ∀ σ ∈ handed other.accountId, ∃ r ∈ db'.books.receipts.rows,
        r.transactionSignature = σ ∧ r.accountId = other.accountId ∧
          r.amountBaseUnits = sys.delta other σ := by
      intro σ hMem
      obtain ⟨r, hRow, hRest⟩ := hReceived σ hMem
      exact ⟨r, (Table.mem_insert hInsert).2 (.inl hRow), hRest⟩
    by_cases hSame : wallet.accountId = other.accountId
    · obtain rfl := wallet_eq hWallet hOther hSame
      simp only [Function.update_self, List.toFinset_cons, List.forall_mem_cons]
      refine ⟨⟨⟨receipt, (Table.mem_insert hInsert).2 (.inr rfl), hSignature, hAccount, hAmount⟩,
        hKept⟩, ?_⟩
      rw [Finset.sum_insert (by simpa using hFresh), hBalance, if_pos rfl, hOtherCredited,
        add_comm]
    · simp only [Function.update_of_ne (Ne.symm hSame)]
      exact ⟨hKept, by rw [hBalance, if_neg hSame, add_zero, hOtherCredited]⟩
  · have hMono : ∀ a, handed a ⊆ Function.update handed wallet.accountId
        (signature :: handed wallet.accountId) a := by
      intro a
      by_cases hSame : a = wallet.accountId
      · subst hSame
        rw [Function.update_self]
        exact List.subset_cons_self _ _
      · rw [Function.update_of_ne hSame]
        exact List.Subset.refl _
    rcases (Table.mem_insert hInsert).1 hRow with hOld | rfl
    · obtain ⟨owner, hOwner, hMem, hOwnerPositive⟩ := h.owned r hOld
      exact ⟨owner, hOwner, hMono _ hMem, hOwnerPositive⟩
    · refine ⟨wallet, hWallet, ?_, hSignature ▸ hPositive⟩
      simp only [Function.update_self, hSignature]
      exact List.mem_cons_self

/-- Where the transaction pays no other wallet, its receipt is one of this wallet. -/
theorem HandedCredited.mem_of_hasKey (h : HandedCredited sys db handed)
    (hWallet : wallet ∈ sys.wallets) (hSole : sys.SoleRecipient signature)
    (hPositive : 0 < sys.delta wallet signature) (hTaken : db.books.receipts.HasKey signature) :
    signature ∈ handed wallet.accountId := by
  obtain ⟨receipt, hRow, rfl⟩ := Table.hasKey_iff.1 hTaken
  obtain ⟨owner, hOwner, hMem, hOwnerPositive⟩ := h.owned receipt hRow
  obtain rfl := hSole wallet hWallet owner hOwner hPositive hOwnerPositive
  exact hMem

end

section

variable {wallet : CustodialWallet} {signature : Signature} {firstScan : Bool}
  {answers : ReconcileAnswers}

theorem HandedCredited.visit (h : HandedCredited sys s.db s.handed) (hWallet : wallet ∈ sys.wallets)
    (hSole : sys.SoleRecipient signature) :
    HandedCredited sys (sys.visit s wallet signature firstScan answers).db
      (sys.visit s wallet signature firstScan answers).handed := by
  have hVisit := @scanRecord_committed (sys.deployment wallet) answers firstScan
    ⟨s.db, s.handed wallet.accountId, noResult⟩ ⟨signature, (sys.chain signature).blockTime⟩
  rw [DepositSystem.visit]
  generalize committed _ = p' at hVisit ⊢
  rcases hVisit with ⟨hDb, hHanded⟩ | ⟨result, hCredit, hPositive, hHanded⟩
  · simp only at hDb hHanded
    simp only [hDb, hHanded, Function.update_eq_self]
    exact h
  · simp only at hCredit hHanded
    simp only [hHanded]
    rcases (creditDirectDeposit_spec hCredit).2 with ⟨hBooks, hTaken⟩ | hCredited
    · -- the receipt was taken by a wallet that the transaction pays, so by this one
      have hMem := h.mem_of_hasKey hWallet hSole hPositive hTaken
      refine h.congr hBooks fun a σ => ?_
      by_cases hSame : a = wallet.accountId
      · subst hSame
        simp only [Function.update_self, List.mem_cons, or_iff_right_iff_imp]
        rintro rfl
        exact hMem
      · simp only [Function.update_of_ne hSame]
    · exact h.credit hWallet hPositive hCredited

theorem handed_subset_visit {a : AccountId} :
    s.handed a ⊆ (sys.visit s wallet signature firstScan answers).handed a := by
  have hVisit := @scanRecord_committed (sys.deployment wallet) answers firstScan
    ⟨s.db, s.handed wallet.accountId, noResult⟩ ⟨signature, (sys.chain signature).blockTime⟩
  rw [DepositSystem.visit]
  generalize committed _ = p' at hVisit ⊢
  by_cases hSame : a = wallet.accountId
  · subst hSame
    simp only [Function.update_self]
    rcases hVisit with ⟨-, hHanded⟩ | ⟨-, -, -, hHanded⟩
    · exact hHanded ▸ List.Subset.refl _
    · exact hHanded ▸ List.subset_cons_self _ _
  · simp only [Function.update_of_ne hSame]
    exact List.Subset.refl _

theorem HandedCredited.answered (h : HandedCredited sys s.db s.handed)
    (hWallet : wallet ∈ sys.wallets)
    (hCond : sys.VisitsCreditable s (.visit wallet signature firstScan answers))
    (hAnswered : sys.Answered wallet signature firstScan answers)
    (hPositive : 0 < sys.delta wallet signature) :
    signature ∈ (sys.visit s wallet signature firstScan answers).handed wallet.accountId := by
  by_cases hTaken : s.db.books.receipts.HasKey signature
  · exact handed_subset_visit (h.mem_of_hasKey hWallet hCond.1 hPositive hTaken)
  · obtain ⟨r, hCredit⟩ := (hCond.2 hTaken hPositive).credited_ok h.entries hTaken
    have hMem := @scanRecord_answered (sys.deployment wallet) answers firstScan
      ⟨s.db, s.handed wallet.accountId, noResult⟩ ⟨signature, (sys.chain signature).blockTime⟩ r
      hAnswered hPositive hCredit
    simp only [DepositSystem.visit, Function.update_self]
    exact hMem

theorem DepositsInv.visit (hInv : DepositsInv sys s) (hWallet : wallet ∈ sys.wallets)
    (hCond : sys.VisitsCreditable s (.visit wallet signature firstScan answers)) :
    DepositsInv sys (sys.visit s wallet signature firstScan answers) := by
  refine ⟨hInv.handed.visit hWallet hCond.1, fun other hOther σ hMem hPositive => ?_⟩
  simp only [DepositSystem.visit] at hMem
  split at hMem
  · rename_i hAnswered
    by_cases hSame : wallet.accountId = other.accountId
    · obtain rfl := wallet_eq hWallet hOther hSame
      rw [Function.update_self] at hMem
      rcases List.mem_cons.1 hMem with rfl | hOld
      · exact hInv.handed.answered hWallet hCond hAnswered hPositive
      · exact handed_subset_visit (hInv.answered wallet hWallet σ hOld hPositive)
    · rw [Function.update_of_ne (Ne.symm hSame)] at hMem
      exact handed_subset_visit (hInv.answered other hOther σ hMem hPositive)
  · exact handed_subset_visit (hInv.answered other hOther σ hMem hPositive)

end

theorem DepositsInv.step {event : DepositsEvent} (hInv : DepositsInv sys s)
    (hCond : sys.VisitsCreditable s event) (hStep : sys.step s event = some s') :
    DepositsInv sys s' := by
  cases event with
  | visit wallet signature firstScan answers =>
      simp only [DepositSystem.step] at hStep
      split at hStep
      · rename_i hWallet
        cases hStep
        exact hInv.visit hWallet hCond
      · cases hStep
  | billing op =>
      simp only [DepositSystem.step] at hStep
      split at hStep
      · rename_i hOther
        cases hStep
        exact ⟨hInv.handed.billing (apply_depositsKept hOther), hInv.answered⟩
      · cases hStep

/-- If scans only come to transactions that pay at most one of the wallets, and their numbers fit,
every deposit a scan comes to with its requests answered is credited once to the wallet's account,
with the wallet's own delta. -/
theorem recipients_credited {usage : UsageTables} {now : Timestamp} {events : List DepositsEvent}
    (hRun : run sys.step (initial usage now) events = some s)
    (hMeet : StepsMeet sys.step sys.VisitsCreditable (initial usage now) events) :
    sys.CreditedOnce s := by
  have hInv : DepositsInv sys s :=
    run_invariant_of_stepsMeet (fun _ _ _ hInv hCond hStep => hInv.step hCond hStep)
      depositsInv_initial hRun hMeet
  exact fun wallet hWallet => ⟨hInv.answered wallet hWallet, hInv.handed.credited wallet hWallet⟩

/-- A transaction that adds some lamports to each of the keys. -/
def paying (balances : List (TokenAccount × Nat)) : FinalizedTransaction where
  failed := false
  blockTime := some 100
  preTokenBalances := []
  postTokenBalances := []
  accounts := balances.map fun balance => ⟨balance.1, 0, balance.2⟩

/-- Two wallets in native mode; the ninth signature pays both, any other one of them. -/
def twoWallets : DepositSystem where
  chain signature :=
    if signature = 9 then paying [(7, 1000000), (8, 2000000)]
    else if signature % 2 = 0 then paying [(7, 1005000)]
    else paying [(8, 25000)]
  config := { splConfig with solanaAssetKind := .native }
  wallets := [⟨1, 7, 0⟩, ⟨2, 8, 0⟩]
  accounts_nodup := by decide
  keys_nodup := by decide

def twoAccounts : UsageTables := { soleAccount with accounts := [1, 2], users := [1, 2] }

/-- Two deposits of one wallet and one of the other; the second scan comes to one of them again. -/
theorem recipients_credited_twoWallets :
    ∃ s, twoWallets.CreditedOnce s ∧ s.answered 1 = [4, 2, 4] ∧ s.answered 2 = [5] := by
  let events : List DepositsEvent :=
    [.visit ⟨1, 7, 0⟩ 4 true everythingAnswered, .visit ⟨2, 8, 0⟩ 5 true everythingAnswered,
      .visit ⟨1, 7, 0⟩ 2 true everythingAnswered, .visit ⟨1, 7, 0⟩ 4 false everythingAnswered]
  have hMeet : StepsMeet twoWallets.step twoWallets.VisitsCreditable
      (initial twoAccounts 0) events := by decide +kernel
  refine ⟨_, recipients_credited rfl hMeet, ?_, ?_⟩
  · decide +kernel
  · decide +kernel

/-- Both scans come to the transaction, and only the first one credits its account. -/
theorem second_recipient_not_credited :
    ¬ ∀ (events : List DepositsEvent) (s : DepositsState),
      run twoWallets.step (initial twoAccounts 0) events = some s → twoWallets.CreditedOnce s := by
  intro hClaim
  have hCredited := (hClaim [.visit ⟨1, 7, 0⟩ 9 true everythingAnswered,
    .visit ⟨2, 8, 0⟩ 9 true everythingAnswered] _ rfl ⟨2, 8, 0⟩ (by decide)).2.2
  revert hCredited
  decide +kernel

end DepositSystem

end Hyperspace.Deposits
