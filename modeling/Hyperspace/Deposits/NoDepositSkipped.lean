import Hyperspace.Deposits.Pages
import Hyperspace.Foundations.Loops

/-!
# No finalized deposit is skipped

The recorded signature of an account promises that every deposit up to it was handed over. A scan
keeps the promise when its pages reach every deposit that was not handed over yet. They need not:
where the pages end early the recorded signature jumps over what lies behind.
-/

namespace Hyperspace.Deposits

open Hyperspace.Billing Hyperspace.Foundations

/-! ### One scan -/

/-- A deposit that a scan has to hand over. -/
def Due (d : Deployment) (s : Signature) : Prop :=
  (d.chain s).failed = false ∧ 0 < (d.chain s).recipientDelta ∧
    ¬ PredatesWallet d.wallet (d.chain s).blockTime

section Scan

variable {d : Deployment} {history : TokenAccount → List Signature}
  {cursor : Option SolanaDepositScanCursor} {options : ReconcileOptions}
  {answers : ReconcileAnswers} {firstScan : Bool}

theorem ReconcileOptions.pageSize_pos (options : ReconcileOptions) : 0 < options.pageSize := by
  rw [ReconcileOptions.pageSize]
  omega

theorem creditRecord_ok {p p' : ScanProgress} {s : Signature} {amount : Int}
    (h : creditRecord d answers p s amount = .ok p') : p'.handed = s :: p.handed := by
  rw [creditRecord] at h
  split at h
  · split at h
    · dsimp only at h
      split at h
      · cases h
        rfl
      · cases h
        rfl
    · cases h
  · cases h

theorem creditRecord_error {p p' : ScanProgress} {s : Signature} {amount : Int}
    (h : creditRecord d answers p s amount = .error p') : p' = p := by
  rw [creditRecord] at h
  split at h
  · split at h
    · dsimp only at h
      split at h
      · cases h
      · cases h
    · cases h
      rfl
  · cases h
    rfl

/-- Of the answers a verification can end with, only `invalid` skips the record. -/
theorem verifyDirectDepositTransaction_invalid {transaction : SolanaTransaction}
    {status : Option SignatureStatusAnswer} {answer : Option TransactionAnswer}
    (h : verifyDirectDepositTransaction transaction status answer = some .invalid) :
    transaction.failed = true ∨ transaction.recipientDelta ≤ 0 := by
  unfold verifyDirectDepositTransaction at h
  split at h
  · cases h
  · cases h
  · grind

/-- A round either hands its record over or leaves the record because it is not due. -/
theorem scanRecord_ok {p p' : ScanProgress} {r : SolanaAddressSignature}
    (hChain : r.blockTime = (d.chain r.signature).blockTime)
    (h : scanRecord d answers firstScan p r = .ok p') :
    p'.handed = r.signature :: p.handed ∨ (p'.handed = p.handed ∧ ¬ Due d r.signature) := by
  simp only [scanRecord] at h
  split at h
  · rename_i hOld
    cases h
    rw [hChain] at hOld
    exact .inr ⟨rfl, fun hDue => hDue.2.2 hOld.2⟩
  · split at h
    · cases h
    · cases h
    · rename_i hInvalid
      cases h
      refine .inr ⟨rfl, fun hDue => ?_⟩
      rcases verifyDirectDepositTransaction_invalid hInvalid with hFailed | hDelta
      · rw [hDue.1] at hFailed
        cases hFailed
      · exact absurd hDue.2.1 (not_lt.2 hDelta)
    · have hHanded := creditRecord_ok h
      exact .inl hHanded

theorem scanRecord_error {p p' : ScanProgress} {r : SolanaAddressSignature}
    (h : scanRecord d answers firstScan p r = .error p') : p'.handed = p.handed := by
  simp only [scanRecord] at h
  split at h
  · cases h
  · split at h
    · cases h
      rfl
    · cases h
      rfl
    · cases h
    · rw [creditRecord_error h]

theorem scanRecord_handed_subset {p p' : ScanProgress} {r : SolanaAddressSignature}
    (hChain : r.blockTime = (d.chain r.signature).blockTime)
    (h : scanRecord d answers firstScan p r = .ok p') : p.handed ⊆ p'.handed := by
  rcases scanRecord_ok hChain h with hHanded | ⟨hHanded, _⟩
  · rw [hHanded]
    exact List.subset_cons_self _ _
  · rw [hHanded]
    exact List.Subset.refl _

theorem scanRecords_ok {p p' : ScanProgress} {records : List SolanaAddressSignature}
    (hChain : ∀ r ∈ records, r.blockTime = (d.chain r.signature).blockTime)
    (h : records.foldlM (scanRecord d answers firstScan) p = .ok p') :
    p.handed ⊆ p'.handed ∧ ∀ r ∈ records, Due d r.signature → r.signature ∈ p'.handed := by
  constructor
  · refine @foldlM_invariant _ _ _ _ _ _ _ (fun q => p.handed ⊆ q.handed) ?_ (fun _ h => h) h
    intro q r hr q' hSubset hRound
    exact List.Subset.trans hSubset (scanRecord_handed_subset (hChain r hr) hRound)
  · refine @foldlM_each _ _ _ _ _ _ _ (fun r q => Due d r.signature → r.signature ∈ q.handed)
      ?_ ?_ h
    · intro q r hr q' hRound hDue
      rcases scanRecord_ok (hChain r hr) hRound with hHanded | ⟨_, hNotDue⟩
      · rw [hHanded]
        exact List.mem_cons_self
      · exact absurd hDue hNotDue
    · intro q r hr q' hRound r₀ hDone hDue
      exact scanRecord_handed_subset (hChain r hr) hRound (hDone hDue)

theorem scanRecords_error {p p' : ScanProgress} {records : List SolanaAddressSignature}
    (hChain : ∀ r ∈ records, r.blockTime = (d.chain r.signature).blockTime)
    (h : records.foldlM (scanRecord d answers firstScan) p = .error p') :
    p.handed ⊆ p'.handed := by
  refine @foldlM_error_invariant _ _ _ _ _ _ _ (fun q => p.handed ⊆ q.handed)
    (fun q => p.handed ⊆ q.handed) ?_ ?_ (fun _ h => h) h
  · intro q r hr q' hSubset hRound
    exact List.Subset.trans hSubset (scanRecord_handed_subset (hChain r hr) hRound)
  · intro q r _ q' hSubset hRound
    rw [scanRecord_error hRound]
    exact hSubset

/--
The pages of a scan reach every deposit it has to hand over: each lies within the page limit and
no transaction on the pages before its own failed.
-/
def PagesReach (d : Deployment) (handed history : List Signature) (latest : Option Signature)
    (options : ReconcileOptions) : Prop :=
  ∀ i s, (newerThan latest history)[i]? = some s → Due d s → s ∉ handed →
    i / options.pageSize < options.maxPages ∧
      ∀ t ∈ (newerThan latest history).take (i / options.pageSize * options.pageSize),
        (d.chain t).failed = false

/-- The first page holds nothing but failed transactions, so that the scan finds nothing at all. -/
def FirstPageFailed (d : Deployment) (history : List Signature) (latest : Option Signature)
    (options : ReconcileOptions) : Prop :=
  ∀ t ∈ (newerThan latest history).take options.pageSize, (d.chain t).failed = true

theorem FirstPageFailed.loadNewSignatures {history : List Signature} {latest : Option Signature}
    {answered : Nat → Bool} {records : List SolanaAddressSignature}
    (h : FirstPageFailed d history latest options)
    (hLoad : loadNewSignatures d.chain history latest options answered = some records) :
    records = [] := by
  have hEmpty : findFinalizedSolanaSignaturesForAddress d.chain history latest none
      options.pageSize = [] := by
    refine List.eq_nil_iff_forall_not_mem.2 fun r hr => ?_
    obtain ⟨t, ht, hOk, _⟩ := mem_batch.1 hr
    rw [h t ht] at hOk
    cases hOk
  have hPages : options.maxPages = options.maxPages - 1 + 1 := by
    rw [ReconcileOptions.maxPages]
    omega
  rw [Deposits.loadNewSignatures, hPages] at hLoad
  rcases loadPages_succ hLoad with ⟨_, hRecords⟩ | ⟨hFull, _⟩
  · rw [hRecords, hEmpty]
    rfl
  · rw [hEmpty] at hFull
    exact absurd hFull (Nat.not_le_of_lt options.pageSize_pos)

theorem of_mem_loadNewSignatures {chain : Signature → SolanaTransaction} {history : List Signature}
    {latest : Option Signature} {answered : Nat → Bool} {out : List SolanaAddressSignature}
    (hNodup : history.Nodup)
    (hLoad : loadNewSignatures chain history latest options answered = some out) :
    ∀ r ∈ out, r.signature ∈ history ∧ r.blockTime = (chain r.signature).blockTime := by
  intro r hr
  rcases of_mem_loadPages hNodup List.suffix_rfl options.pageSize_pos hLoad hr with
    hNil | ⟨hMem, hBlockTime⟩
  · cases hNil
  · exact ⟨(newerThan_initial history).subset hMem, hBlockTime⟩

/-- Every deposit of an account was handed over. -/
def AllHanded (d : Deployment) (history handed : List Signature) : Prop :=
  ∀ s ∈ history, Due d s → s ∈ handed

/-- Every deposit up to the recorded signature was handed over, and the signature is known. -/
def HandedUpTo (d : Deployment) (history handed : List Signature) (latest : Option Signature) :
    Prop :=
  ∀ signature ∈ latest, signature ∈ history ∧
    AllHanded d (history.dropWhile (· ≠ signature)) handed

theorem HandedUpTo.mono {history handed handed' : List Signature} {latest : Option Signature}
    (h : HandedUpTo d history handed latest) (hSubset : handed ⊆ handed') :
    HandedUpTo d history handed' latest := by
  intro signature hLatest
  obtain ⟨hMem, hAll⟩ := h signature hLatest
  exact ⟨hMem, fun s hs hDue => hSubset (hAll s hs hDue)⟩

theorem allHanded_of_scan {history : List Signature} {latest : Option Signature}
    {records : List SolanaAddressSignature} {answered : Nat → Bool} {p p' : ScanProgress}
    (hNodup : history.Nodup) (hUpTo : HandedUpTo d history p.handed latest)
    (hReach : PagesReach d p.handed history latest options)
    (hLoad : loadNewSignatures d.chain history latest options answered = some records)
    (hScan : records.reverse.foldlM (scanRecord d answers firstScan) p = .ok p') :
    AllHanded d history p'.handed := by
  have hChain : ∀ r ∈ records.reverse, r.blockTime = (d.chain r.signature).blockTime :=
    fun r hr => (of_mem_loadNewSignatures hNodup hLoad r (List.mem_reverse.1 hr)).2
  obtain ⟨hSubset, hEach⟩ := scanRecords_ok hChain hScan
  have hNewer : ∀ s ∈ newerThan latest history, Due d s → s ∈ p'.handed := by
    intro s hs hDue
    by_cases hHanded : s ∈ p.handed
    · exact hSubset hHanded
    · obtain ⟨i, hi⟩ := List.mem_iff_getElem?.1 hs
      obtain ⟨hReached, hBefore⟩ := hReach i s hi hDue hHanded
      have hRecord := mem_loadPages hNodup List.suffix_rfl options.pageSize_pos hLoad hi hReached
        hBefore hDue.1
      exact hEach _ (List.mem_reverse.2 hRecord) hDue
  intro s hs hDue
  cases latest with
  | none => exact hNewer s hs hDue
  | some signature =>
      have hParts : newerThan (some signature) history ++ history.dropWhile (· ≠ signature) =
          history := List.takeWhile_append_dropWhile
      rw [← hParts] at hs
      rcases List.mem_append.1 hs with hNew | hOld
      · exact hNewer s hNew hDue
      · exact hSubset ((hUpTo signature rfl).2 s hOld hDue)

theorem PagesReach.mono {handed handed' history : List Signature} {latest : Option Signature}
    (h : PagesReach d handed history latest options) (hSubset : handed ⊆ handed') :
    PagesReach d handed' history latest options :=
  fun i s hAt hDue hNew => h i s hAt hDue fun hOld => hNew (hSubset hOld)

/--
What holds between the accounts of a scan that began with `handed` and `latest₀`: an account either
still has the signature it began with, or has a new one and nothing left to hand over.
-/
def BetweenAccounts (d : Deployment) (history : TokenAccount → List Signature)
    (handed : List Signature) (latest₀ : TokenAccount → Option Signature)
    (progress : ScanProgress × (TokenAccount → Option Signature)) : Prop :=
  handed ⊆ progress.1.handed ∧
    ∀ account, progress.2 account = latest₀ account ∨
      ((∃ newest ∈ history account, progress.2 account = some newest) ∧
        AllHanded d (history account) progress.1.handed)

theorem BetweenAccounts.handedUpTo {handed : List Signature}
    {latest₀ : TokenAccount → Option Signature}
    {progress : ScanProgress × (TokenAccount → Option Signature)}
    (h : BetweenAccounts d history handed latest₀ progress)
    (hUpTo : ∀ account, HandedUpTo d (history account) handed (latest₀ account))
    (account : TokenAccount) :
    HandedUpTo d (history account) progress.1.handed (progress.2 account) := by
  rcases h.2 account with hSame | ⟨⟨newest, hMem, hNewest⟩, hAll⟩
  · rw [hSame]
    exact (hUpTo account).mono h.1
  · rw [hNewest]
    intro signature hSignature
    cases hSignature
    exact ⟨hMem, fun s hs => hAll s ((List.dropWhile_suffix _).subset hs)⟩

theorem scanTokenAccount_eq_ok
    {progress progress' : ScanProgress × (TokenAccount → Option Signature)}
    {account : TokenAccount}
    (hScan : scanTokenAccount d history options answers firstScan progress account =
      .ok progress') :
    ∃ records,
      loadNewSignatures d.chain (history account) (progress.2 account) options
        (answers.page account) = some records ∧
      records.reverse.foldlM (scanRecord d answers firstScan) progress.1 = .ok progress'.1 ∧
      (progress'.2 = progress.2 ∨
        ∃ newest ∈ records,
          progress'.2 = Function.update progress.2 account (some newest.signature)) := by
  rw [scanTokenAccount] at hScan
  cases hLoad : loadNewSignatures d.chain (history account) (progress.2 account) options
      (answers.page account) with
  | none =>
      rw [hLoad] at hScan
      cases hScan
  | some records =>
      rw [hLoad] at hScan
      cases hRecords : records.reverse.foldlM (scanRecord d answers firstScan) progress.1 with
      | error p =>
          simp only [hRecords, bind, Except.bind] at hScan
          cases hScan
      | ok p =>
          simp only [hRecords, bind, Except.bind] at hScan
          refine ⟨records, rfl, ?_⟩
          cases hHead : records.head? with
          | none =>
              rw [hHead] at hScan
              cases hScan
              exact ⟨hRecords, .inl rfl⟩
          | some newest =>
              rw [hHead] at hScan
              cases hScan
              exact ⟨hRecords, .inr ⟨newest, List.mem_of_head? hHead, rfl⟩⟩

theorem scanTokenAccount_eq_error {progress : ScanProgress × (TokenAccount → Option Signature)}
    {p : ScanProgress} {account : TokenAccount}
    (hScan : scanTokenAccount d history options answers firstScan progress account = .error p) :
    p = progress.1 ∨
      ∃ records,
        loadNewSignatures d.chain (history account) (progress.2 account) options
          (answers.page account) = some records ∧
        records.reverse.foldlM (scanRecord d answers firstScan) progress.1 = .error p := by
  rw [scanTokenAccount] at hScan
  cases hLoad : loadNewSignatures d.chain (history account) (progress.2 account) options
      (answers.page account) with
  | none =>
      rw [hLoad] at hScan
      cases hScan
      exact .inl rfl
  | some records =>
      rw [hLoad] at hScan
      refine .inr ⟨records, rfl, ?_⟩
      cases hRecords : records.reverse.foldlM (scanRecord d answers firstScan) progress.1 with
      | error p' =>
          simp only [hRecords, bind, Except.bind] at hScan
          cases hScan
          rfl
      | ok p' =>
          simp only [hRecords, bind, Except.bind] at hScan
          split at hScan
          · cases hScan
          · cases hScan

theorem blockTime_of_loaded {history : List Signature} {latest : Option Signature}
    {records : List SolanaAddressSignature} {answered : Nat → Bool} (hNodup : history.Nodup)
    (hLoad : loadNewSignatures d.chain history latest options answered = some records) :
    ∀ r ∈ records.reverse, r.blockTime = (d.chain r.signature).blockTime :=
  fun r hr => (of_mem_loadNewSignatures hNodup hLoad r (List.mem_reverse.1 hr)).2

theorem scanTokenAccount_handed_subset
    {progress progress' : ScanProgress × (TokenAccount → Option Signature)}
    {account : TokenAccount} (hNodup : (history account).Nodup)
    (hScan : scanTokenAccount d history options answers firstScan progress account =
      .ok progress') : progress.1.handed ⊆ progress'.1.handed := by
  obtain ⟨records, hLoad, hRecords, _⟩ := scanTokenAccount_eq_ok hScan
  exact (scanRecords_ok (blockTime_of_loaded hNodup hLoad) hRecords).1

theorem scanTokenAccount_error_subset
    {progress : ScanProgress × (TokenAccount → Option Signature)} {p : ScanProgress}
    {account : TokenAccount} (hNodup : (history account).Nodup)
    (hScan : scanTokenAccount d history options answers firstScan progress account = .error p) :
    progress.1.handed ⊆ p.handed := by
  rcases scanTokenAccount_eq_error hScan with rfl | ⟨records, hLoad, hRecords⟩
  · exact List.Subset.refl _
  · exact scanRecords_error (blockTime_of_loaded hNodup hLoad) hRecords

theorem BetweenAccounts.scanTokenAccount {handed : List Signature}
    {latest₀ : TokenAccount → Option Signature}
    {progress progress' : ScanProgress × (TokenAccount → Option Signature)}
    {account : TokenAccount} (hNodup : ∀ account, (history account).Nodup)
    (hUpTo : ∀ account, HandedUpTo d (history account) handed (latest₀ account))
    (hReach : PagesReach d handed (history account) (latest₀ account) options ∨
      FirstPageFailed d (history account) (latest₀ account) options)
    (hBetween : BetweenAccounts d history handed latest₀ progress)
    (hScan : scanTokenAccount d history options answers firstScan progress account =
      .ok progress') : BetweenAccounts d history handed latest₀ progress' := by
  have hGrown := scanTokenAccount_handed_subset (hNodup account) hScan
  obtain ⟨records, hLoad, hRecords, hLatest⟩ := scanTokenAccount_eq_ok hScan
  have hAll : records ≠ [] → AllHanded d (history account) progress'.1.handed := by
    intro hSome
    rcases hBetween.2 account with hSame | ⟨_, hAll⟩
    · rcases hReach with hReach | hFailed
      · refine allHanded_of_scan (hNodup account) (hBetween.handedUpTo hUpTo account) ?_ hLoad
          hRecords
        rw [hSame]
        exact hReach.mono hBetween.1
      · rw [← hSame] at hFailed
        exact absurd (hFailed.loadNewSignatures hLoad) hSome
    · exact fun s hs hDue => hGrown (hAll s hs hDue)
  have hOthers : ∀ other, progress.2 other = latest₀ other ∨
      ((∃ newest ∈ history other, progress.2 other = some newest) ∧
        AllHanded d (history other) progress'.1.handed) := by
    intro other
    rcases hBetween.2 other with hSame | ⟨hNewest, hOther⟩
    · exact .inl hSame
    · exact .inr ⟨hNewest, fun s hs hDue => hGrown (hOther s hs hDue)⟩
  refine ⟨List.Subset.trans hBetween.1 hGrown, fun other => ?_⟩
  rcases hLatest with hLatest | ⟨newest, hMem, hLatest⟩
  · rw [hLatest]
    exact hOthers other
  · rw [hLatest]
    by_cases hOther : other = account
    · subst hOther
      have hNewest := (of_mem_loadNewSignatures (hNodup other) hLoad newest hMem).1
      exact .inr ⟨⟨newest.signature, hNewest, Function.update_self _ _ _⟩,
        hAll (List.ne_nil_of_mem hMem)⟩
    · simp only [ne_eq, hOther, not_false_eq_true, Function.update_of_ne]
      exact hOthers other

theorem scanWallet_eq_ok {cursor : Option SolanaDepositScanCursor} {p p' : ScanProgress}
    {cursor' : SolanaDepositScanCursor}
    (hScan : scanWallet d history cursor options answers p = .ok (p', cursor')) :
    ∃ accounts, scannedAccounts d cursor answers = some accounts ∧
      accounts.foldlM (scanTokenAccount d history options answers cursor.isNone)
        (p, latestSignatures cursor) = .ok (p', cursor'.latestSignatures) := by
  rw [scanWallet] at hScan
  cases hAccounts : scannedAccounts d cursor answers with
  | none =>
      rw [hAccounts] at hScan
      cases hScan
  | some accounts =>
      rw [hAccounts] at hScan
      refine ⟨accounts, rfl, ?_⟩
      cases hLoop : accounts.foldlM (scanTokenAccount d history options answers cursor.isNone)
          (p, latestSignatures cursor) with
      | error p₁ =>
          simp only [hLoop, bind, Except.bind] at hScan
          cases hScan
      | ok progress =>
          simp only [hLoop, bind, Except.bind] at hScan
          cases hScan
          rfl

theorem scanWallet_eq_error {cursor : Option SolanaDepositScanCursor} {p p' : ScanProgress}
    (hScan : scanWallet d history cursor options answers p = .error p') :
    p' = p ∨
      ∃ accounts : List TokenAccount,
        accounts.foldlM (scanTokenAccount d history options answers cursor.isNone)
          (p, latestSignatures cursor) = .error p' := by
  rw [scanWallet] at hScan
  cases hAccounts : scannedAccounts d cursor answers with
  | none =>
      rw [hAccounts] at hScan
      cases hScan
      exact .inl rfl
  | some accounts =>
      rw [hAccounts] at hScan
      refine .inr ⟨accounts, ?_⟩
      cases hLoop : accounts.foldlM (scanTokenAccount d history options answers cursor.isNone)
          (p, latestSignatures cursor) with
      | error p₁ =>
          simp only [hLoop, bind, Except.bind] at hScan
          cases hScan
          rfl
      | ok progress =>
          simp only [hLoop, bind, Except.bind] at hScan
          cases hScan

theorem scanWallet_handed_subset {cursor : Option SolanaDepositScanCursor} {p p' : ScanProgress}
    {cursor' : SolanaDepositScanCursor} (hNodup : ∀ account, (history account).Nodup)
    (hScan : scanWallet d history cursor options answers p = .ok (p', cursor')) :
    p.handed ⊆ p'.handed := by
  obtain ⟨accounts, _, hLoop⟩ := scanWallet_eq_ok hScan
  refine @foldlM_invariant _ _ _ _ _ _ _ (fun q => p.handed ⊆ q.1.handed) ?_
    (List.Subset.refl _) hLoop
  intro q account _ q' hSubset hRound
  exact List.Subset.trans hSubset (scanTokenAccount_handed_subset (hNodup account) hRound)

theorem scanWallet_error_subset {cursor : Option SolanaDepositScanCursor} {p p' : ScanProgress}
    (hNodup : ∀ account, (history account).Nodup)
    (hScan : scanWallet d history cursor options answers p = .error p') :
    p.handed ⊆ p'.handed := by
  rcases scanWallet_eq_error hScan with rfl | ⟨accounts, hLoop⟩
  · exact List.Subset.refl _
  · refine @foldlM_error_invariant _ _ _ _ _ _ _ (fun q => p.handed ⊆ q.1.handed)
      (fun q => p.handed ⊆ q.handed) ?_ ?_ (List.Subset.refl _) hLoop
    · intro q account _ q' hSubset hRound
      exact List.Subset.trans hSubset (scanTokenAccount_handed_subset (hNodup account) hRound)
    · intro q account _ q' hSubset hRound
      exact List.Subset.trans hSubset (scanTokenAccount_error_subset (hNodup account) hRound)

/-- The signatures a scan records keep the promise when its pages reach every deposit. -/
theorem scanWallet_handedUpTo {cursor : Option SolanaDepositScanCursor} {p p' : ScanProgress}
    {cursor' : SolanaDepositScanCursor} (hNodup : ∀ account, (history account).Nodup)
    (hUpTo : ∀ account, HandedUpTo d (history account) p.handed (latestSignatures cursor account))
    (hReach : ∀ accounts ∈ scannedAccounts d cursor answers, ∀ account ∈ accounts,
      PagesReach d p.handed (history account) (latestSignatures cursor account) options ∨
        FirstPageFailed d (history account) (latestSignatures cursor account) options)
    (hScan : scanWallet d history cursor options answers p = .ok (p', cursor'))
    (account : TokenAccount) :
    HandedUpTo d (history account) p'.handed (cursor'.latestSignatures account) := by
  obtain ⟨accounts, hAccounts, hLoop⟩ := scanWallet_eq_ok hScan
  have hBetween : BetweenAccounts d history p.handed (latestSignatures cursor)
      (p', cursor'.latestSignatures) := by
    refine foldlM_invariant (fun q visited hMem q' hInv hRound => ?_)
      ⟨List.Subset.refl _, fun _ => .inl rfl⟩ hLoop
    exact hInv.scanTokenAccount hNodup hUpTo (hReach accounts hAccounts visited hMem) hRound
  exact hBetween.handedUpTo hUpTo account

end Scan

/-! ### Runs -/

section Runs

variable {d : Deployment}

/-- What every run keeps. -/
structure ScanInv (d : Deployment) (s : WalletState) : Prop where
  nodup : ∀ account, (s.history account).Nodup
  handedUpTo : ∀ account,
    HandedUpTo d (s.history account) s.handed (latestSignatures s.cursor account)

/-- The pages of every scan reach every deposit it has to hand over, or bring nothing at all. -/
def ScanReaches (d : Deployment) (s : WalletState) : DepositEvent → Prop
  | .reconcile options answers =>
    ∀ accounts ∈ scannedAccounts d s.cursor answers, ∀ account ∈ accounts,
      PagesReach d s.handed (s.history account) (latestSignatures s.cursor account) options ∨
        FirstPageFailed d (s.history account) (latestSignatures s.cursor account) options
  | _ => True

theorem scanInv_newWallet (db : BillingDb) : ScanInv d (newWallet db) where
  nodup _ := List.nodup_nil
  handedUpTo _ := fun _ h => nomatch h

theorem ScanInv.finalize {s : WalletState} {account : TokenAccount} {signature : Signature}
    (hInv : ScanInv d s) (hFresh : signature ∉ s.history account) :
    ScanInv d { s with
      history := Function.update s.history account (signature :: s.history account) } := by
  constructor
  · intro other
    by_cases hOther : other = account
    · subst hOther
      simp only [Function.update_self]
      exact List.nodup_cons.2 ⟨hFresh, hInv.nodup other⟩
    · simp only [ne_eq, hOther, not_false_eq_true, Function.update_of_ne]
      exact hInv.nodup other
  · intro other latest hLatest
    obtain ⟨hMem, hAll⟩ := hInv.handedUpTo other latest hLatest
    by_cases hOther : other = account
    · subst hOther
      simp only [Function.update_self]
      refine ⟨List.mem_cons_of_mem _ hMem, ?_⟩
      have hNe : signature ≠ latest := fun hEq => hFresh (hEq ▸ hMem)
      rw [List.dropWhile_cons_of_pos (by simpa using hNe)]
      exact hAll
    · simp only [ne_eq, hOther, not_false_eq_true, Function.update_of_ne]
      exact ⟨hMem, hAll⟩

theorem latestSignatures_failure (cursor : Option SolanaDepositScanCursor) (recorded : Bool) :
    latestSignatures
        (if recorded then some (recordSolanaDepositScanFailure cursor) else cursor) =
      latestSignatures cursor := by
  cases recorded with
  | false => rfl
  | true =>
      cases cursor with
      | none => rfl
      | some cursor => rfl

theorem ScanInv.reconcile {s : WalletState} {options : ReconcileOptions}
    {answers : ReconcileAnswers} (hInv : ScanInv d s)
    (hReach : ScanReaches d s (.reconcile options answers)) :
    ScanInv d (reconcileWallet d s options answers) := by
  simp only [reconcileWallet]
  cases hScan : scanWallet d s.history s.cursor options answers ⟨s.db, s.handed, noResult⟩ with
  | error p =>
      refine ⟨hInv.nodup, fun account => ?_⟩
      rw [latestSignatures_failure]
      exact (hInv.handedUpTo account).mono (scanWallet_error_subset hInv.nodup hScan)
  | ok outcome =>
      obtain ⟨p, cursor⟩ := outcome
      dsimp only
      split
      · have hPages : ∀ accounts ∈ scannedAccounts d s.cursor answers, ∀ account ∈ accounts,
            PagesReach d s.handed (s.history account) (latestSignatures s.cursor account) options ∨
              FirstPageFailed d (s.history account) (latestSignatures s.cursor account) options :=
          hReach
        exact ⟨hInv.nodup, scanWallet_handedUpTo hInv.nodup hInv.handedUpTo hPages hScan⟩
      · refine ⟨hInv.nodup, fun account => ?_⟩
        rw [latestSignatures_failure]
        exact (hInv.handedUpTo account).mono (scanWallet_handed_subset hInv.nodup hScan)

theorem ScanInv.step {s s' : WalletState} {event : DepositEvent} (hInv : ScanInv d s)
    (hReach : ScanReaches d s event) (hStep : step d s event = some s') : ScanInv d s' := by
  cases event with
  | finalize account signature =>
      simp only [Deposits.step] at hStep
      split at hStep
      · cases hStep
      · rename_i hFresh
        cases hStep
        exact hInv.finalize hFresh
  | billing op =>
      cases hStep
      exact ⟨hInv.nodup, hInv.handedUpTo⟩
  | reconcile options answers =>
      cases hStep
      exact hInv.reconcile hReach

/-- No deposit at or before the recorded signature of an account is left out. -/
def NoneSkipped (d : Deployment) (s : WalletState) : Prop :=
  ∀ account, ∀ latest ∈ latestSignatures s.cursor account,
    ∀ deposit ∈ (s.history account).dropWhile (· ≠ latest), Due d deposit → deposit ∈ s.handed

/-- Runs whose scans reach every deposit with their pages skip none. -/
theorem no_deposit_skipped {db : BillingDb} {events : List DepositEvent} {s : WalletState}
    (hRun : run (step d) (newWallet db) events = some s)
    (hReach : StepsMeet (step d) (ScanReaches d) (newWallet db) events) : NoneSkipped d s := by
  have hInv : ScanInv d s :=
    run_invariant_of_stepsMeet (fun _ _ _ hInv hCond hStep => hInv.step hCond hStep)
      (scanInv_newWallet db) hRun hReach
  intro account latest hLatest deposit hMem hDue
  exact (hInv.handedUpTo account latest hLatest).2 deposit hMem hDue

/-- A wallet in native mode; signatures divisible by three belong to failed transactions. -/
def nativeWallet : Deployment where
  chain signature := ⟨signature % 3 = 0, some 100, 5000⟩
  wallet := ⟨1, 7, 0⟩
  config := { splConfig with solanaAssetKind := .native }

/-- Every request is answered. -/
def everythingAnswered : ReconcileAnswers where
  tokenAccounts := some [7]
  page _ _ := true
  signatureStatus _ := some (.found true)
  transaction _ := some .found
  creditReachesDatabase _ := true
  successRecorded := true
  failureRecorded := true

theorem no_deposit_skipped_two_deposits :
    ∃ s, NoneSkipped nativeWallet s ∧ s.handed = [2, 1] ∧
      latestSignatures s.cursor 7 = some 2 := by
  let events : List DepositEvent :=
    [.finalize 7 1, .finalize 7 2, .reconcile ⟨some 2, some 10⟩ everythingAnswered]
  have hReach : StepsMeet (step nativeWallet) (ScanReaches nativeWallet)
      (newWallet (emptyDb soleAccount 0)) events := by
    refine ⟨trivial, trivial, ?_, trivial⟩
    intro accounts hAccounts account hAccount
    refine .inl fun i t hAt _ _ => ?_
    cases hAccounts
    obtain rfl : account = 7 := List.mem_singleton.1 hAccount
    have hLength : i < 2 := (List.getElem?_eq_some_iff.1 hAt).1
    have hFirstPage : i / 2 = 0 := Nat.div_eq_of_lt hLength
    change i / 2 < 10 ∧ ∀ t ∈ List.take (i / 2 * 2) [2, 1], _
    rw [hFirstPage]
    exact ⟨by decide, fun t ht => absurd ht List.not_mem_nil⟩
  refine ⟨_, no_deposit_skipped rfl hReach, ?_, ?_⟩
  · decide +kernel
  · decide +kernel

/-- One failed transaction makes a full page look short, and the deposit behind it is lost. -/
theorem failed_transaction_hides_deposit :
    ∃ s, run (step nativeWallet) (newWallet (emptyDb soleAccount 0))
        [.finalize 7 1, .finalize 7 2, .finalize 7 3,
          .reconcile ⟨some 2, some 10⟩ everythingAnswered] = some s ∧
      ¬ NoneSkipped nativeWallet s := by
  refine ⟨_, rfl, fun hNone => ?_⟩
  have hHanded : (1 : Signature) ∈ ([2] : List Signature) :=
    hNone 7 2 rfl 1 (by decide) ⟨rfl, by decide, by decide⟩
  exact absurd hHanded (by decide)

end Runs

end Hyperspace.Deposits
