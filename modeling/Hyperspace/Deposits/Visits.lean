import Hyperspace.Deposits.FittingDeposits
import Hyperspace.Deposits.NoDepositSkipped
import Mathlib.Algebra.BigOperators.Group.Finset.Basic

/-!
# Visits

A transaction can pay several custodial wallets, and each scan reads the delta of its own wallet. A
scan of one wallet is a run of visits to signatures, whatever the requests of a visit answer.
-/

namespace Hyperspace.Deposits

open Hyperspace.Billing Hyperspace.Foundations
open scoped BigOperators

/-! ### Balances of a transaction -/

/-- An entry of `preTokenBalances` or `postTokenBalances`. -/
structure TokenBalance where
  accountIndex : Nat
  owner : TokenAccount
  mint : Mint
  amount : Nat
  deriving DecidableEq

/-- A key of `accountKeys` with its lamports before and after. -/
structure LamportBalance where
  publicKey : TokenAccount
  preBalance : Nat
  postBalance : Nat
  deriving DecidableEq

/-- What the verifier reads of a finalized transaction. -/
structure FinalizedTransaction where
  failed : Bool
  blockTime : Option Int
  preTokenBalances : List TokenBalance
  postTokenBalances : List TokenBalance
  accounts : List LamportBalance

/-- The map holds the last entry of an index. -/
def tokenBalancesByAccount (values : List TokenBalance) (owner : TokenAccount) (mint : Mint)
    (accountIndex : Nat) : Option Nat :=
  ((values.filter fun b => b.owner = owner ∧ b.mint = mint).reverse.find?
    (·.accountIndex = accountIndex)).map (·.amount)

def tokenBalanceDelta (pre post : List TokenBalance) (owner : TokenAccount) (mint : Mint) : Int :=
  let indexes := (((pre ++ post).filter fun b => b.owner = owner ∧ b.mint = mint).map
    (·.accountIndex)).dedup
  (indexes.map fun i =>
    ((tokenBalancesByAccount post owner mint i).getD 0 : Int) -
      ((tokenBalancesByAccount pre owner mint i).getD 0 : Int)).sum

/-- `postBalance - preBalance` of the first key that is the recipient. -/
def lamportDelta (accounts : List LamportBalance) (owner : TokenAccount) : Int :=
  match accounts.find? (·.publicKey = owner) with
  | none => 0
  | some account => (account.postBalance : Int) - account.preBalance

def recipientDelta (config : BillingConfig) (transaction : FinalizedTransaction)
    (owner : TokenAccount) : Int :=
  match config.solanaAssetKind with
  | .spl =>
    tokenBalanceDelta transaction.preTokenBalances transaction.postTokenBalances owner
      config.solanaTokenMint
  | .native => lamportDelta transaction.accounts owner

/-! ### All wallets -/

/-- The custodial wallets with `UNIQUE (account_id, chain)` and `UNIQUE (chain, public_key)`. -/
structure DepositSystem where
  chain : Signature → FinalizedTransaction
  config : BillingConfig
  wallets : List CustodialWallet
  accounts_nodup : (wallets.map (·.accountId)).Nodup
  keys_nodup : (wallets.map (·.publicKey)).Nodup

/-- The database and what became of the visits so far. -/
structure DepositsState where
  db : BillingDb
  /-- By account, the signatures handed to a call of `creditDirectDeposit` that returned. -/
  handed : AccountId → List Signature
  /-- By account, the signatures a scan came to with all its requests answered. -/
  answered : AccountId → List Signature

inductive DepositsEvent where
  /-- A scan of the wallet comes to the signature. -/
  | visit (wallet : CustodialWallet) (signature : Signature) (firstScan : Bool)
      (answers : ReconcileAnswers)
  /-- Any other use of the billing database. -/
  | billing (op : BillingOp)

/-- Only scans credit deposits, and a manual credit has a source of its own. -/
def OfOtherCallers : BillingOp → Bool
  | .creditDirectDeposit _ _ _ _ => false
  | .applyBillingCredit input => input.sourceType ≠ .solanaDirectDeposit
  | _ => true

/-- What a round leaves, whether it returns or throws. -/
def committed : Except ScanProgress ScanProgress → ScanProgress
  | .ok p => p
  | .error p => p

/-- The billing units of an account's deposits. -/
def depositedMinor (ledger : Table LedgerEntry.key) (a : AccountId) : Int :=
  ledger.sum fun entry =>
    if entry.accountId = a ∧ entry.sourceType = .solanaDirectDeposit then entry.amountMinor else 0

namespace DepositSystem

variable (sys : DepositSystem)

/-- What the transaction brings the wallet. -/
def delta (wallet : CustodialWallet) (signature : Signature) : Int :=
  recipientDelta sys.config (sys.chain signature) wallet.publicKey

/-- What the scan of one wallet works with. -/
def deployment (wallet : CustodialWallet) : Deployment where
  chain signature :=
    ⟨(sys.chain signature).failed, (sys.chain signature).blockTime, sys.delta wallet signature⟩
  wallet := wallet
  config := sys.config

/-- A visit whose requests are all answered, to a finalized transaction that did not fail and that a
first scan does not pass over. -/
def Answered (wallet : CustodialWallet) (signature : Signature) (firstScan : Bool)
    (answers : ReconcileAnswers) : Prop :=
  ¬ (firstScan = true ∧ PredatesWallet wallet (sys.chain signature).blockTime) ∧
    (sys.chain signature).failed = false ∧
    answers.signatureStatus signature = some (.found true) ∧
    answers.transaction signature = some .found ∧ answers.creditReachesDatabase signature = true

instance (wallet : CustodialWallet) (signature : Signature) (firstScan : Bool)
    (answers : ReconcileAnswers) : Decidable (sys.Answered wallet signature firstScan answers) :=
  inferInstanceAs (Decidable (_ ∧ _))

def visit (s : DepositsState) (wallet : CustodialWallet) (signature : Signature)
    (firstScan : Bool) (answers : ReconcileAnswers) : DepositsState :=
  let p := committed (scanRecord (sys.deployment wallet) answers firstScan
    ⟨s.db, s.handed wallet.accountId, noResult⟩ ⟨signature, (sys.chain signature).blockTime⟩)
  { db := p.db
    handed := Function.update s.handed wallet.accountId p.handed
    answered :=
      if sys.Answered wallet signature firstScan answers then
        Function.update s.answered wallet.accountId (signature :: s.answered wallet.accountId)
      else s.answered }

def step (s : DepositsState) : DepositsEvent → Option DepositsState
  | .visit wallet signature firstScan answers =>
    if wallet ∈ sys.wallets then some (sys.visit s wallet signature firstScan answers) else none
  | .billing op => if OfOtherCallers op then some { s with db := op.apply s.db } else none

/-- No deposits yet. -/
def initial (usage : UsageTables) (now : Timestamp) : DepositsState where
  db := emptyDb usage now
  handed := fun _ => []
  answered := fun _ => []

/-- What the account was credited for deposits, in base units: whole billing units and remainder. -/
def creditedBaseUnits (books : Books) (a : AccountId) : Int :=
  sys.config.solanaTokenBaseUnitsPerBillingMinor * depositedMinor books.ledger a +
    (books.depositRemainders a sys.config.solanaTokenMint).val

/--
Every deposit that a scan came to with all its requests answered was handed over. Every deposit
handed over has a receipt of its wallet's account with its own delta, and the account was credited
the sum of these deltas, each of them once.
-/
def CreditedOnce (s : DepositsState) : Prop :=
  ∀ wallet ∈ sys.wallets,
    (∀ signature ∈ s.answered wallet.accountId, 0 < sys.delta wallet signature →
      signature ∈ s.handed wallet.accountId) ∧
    (∀ signature ∈ s.handed wallet.accountId, ∃ receipt ∈ s.db.books.receipts.rows,
      receipt.transactionSignature = signature ∧ receipt.accountId = wallet.accountId ∧
        receipt.amountBaseUnits = sys.delta wallet signature) ∧
    sys.creditedBaseUnits s.db.books wallet.accountId =
      ∑ signature ∈ (s.handed wallet.accountId).toFinset, sys.delta wallet signature

/-- The transaction pays at most one of the wallets. -/
def SoleRecipient (signature : Signature) : Prop :=
  ∀ wallet ∈ sys.wallets, ∀ other ∈ sys.wallets,
    0 < sys.delta wallet signature → 0 < sys.delta other signature → other = wallet

instance (signature : Signature) : Decidable (sys.SoleRecipient signature) :=
  inferInstanceAs (Decidable (∀ _ ∈ _, ∀ _ ∈ _, _))

/-- Scans come to transactions with a sole recipient, and the numbers of a new deposit fit. -/
def VisitsCreditable (s : DepositsState) : DepositsEvent → Prop
  | .visit wallet signature _ _ => sys.SoleRecipient signature ∧
      (¬ s.db.books.receipts.HasKey signature → 0 < sys.delta wallet signature →
        DepositFits s.db wallet.accountId (sys.delta wallet signature) sys.config)
  | .billing _ => True

instance (s : DepositsState) : (event : DepositsEvent) → Decidable (sys.VisitsCreditable s event)
  | .visit wallet signature _ _ => inferInstanceAs (Decidable (sys.SoleRecipient signature ∧
      (¬ s.db.books.receipts.HasKey signature → 0 < sys.delta wallet signature →
        DepositFits s.db wallet.accountId (sys.delta wallet signature) sys.config)))
  | .billing _ => inferInstanceAs (Decidable True)

end DepositSystem

/-! ### One visit -/

theorem verifyDirectDepositTransaction_verified {transaction : SolanaTransaction}
    {status : Option SignatureStatusAnswer} {answer : Option TransactionAnswer} {n : Int}
    (h : verifyDirectDepositTransaction transaction status answer = some (.verified n)) :
    n = transaction.recipientDelta ∧ 0 < n := by
  unfold verifyDirectDepositTransaction at h
  split at h
  · cases h
  · cases h
  · grind

theorem scanRecord_committed {d : Deployment} {answers : ReconcileAnswers} {firstScan : Bool}
    {p : ScanProgress} {r : SolanaAddressSignature} :
    let p' := committed (scanRecord d answers firstScan p r)
    (p'.db = p.db ∧ p'.handed = p.handed) ∨
      ∃ result, creditDirectDeposit d.wallet.accountId r.signature
          (d.chain r.signature).recipientDelta d.config p.db = .ok (result, p'.db) ∧
        0 < (d.chain r.signature).recipientDelta ∧ p'.handed = r.signature :: p.handed := by
  simp only [scanRecord]
  split
  · exact .inl ⟨rfl, rfl⟩
  · split
    · exact .inl ⟨rfl, rfl⟩
    · exact .inl ⟨rfl, rfl⟩
    · exact .inl ⟨rfl, rfl⟩
    · rename_i n hVerified
      obtain ⟨rfl, hPositive⟩ := verifyDirectDepositTransaction_verified hVerified
      rw [creditRecord]
      split
      · cases hCredit : creditDirectDeposit d.wallet.accountId r.signature
            (d.chain r.signature).recipientDelta d.config p.db with
        | error e =>
            simp only [Billing.transaction, StateT.run, hCredit]
            exact .inl ⟨rfl, rfl⟩
        | ok credited =>
            obtain ⟨result, db'⟩ := credited
            simp only [Billing.transaction, StateT.run, hCredit]
            refine .inr ⟨result, ?_, hPositive, ?_⟩
            · split <;> rfl
            · split <;> rfl
      · exact .inl ⟨rfl, rfl⟩

/-- Where every request is answered, a deposit that the database takes is handed over. -/
theorem scanRecord_answered {d : Deployment} {answers : ReconcileAnswers} {firstScan : Bool}
    {p : ScanProgress} {r : SolanaAddressSignature} {credited : DirectDepositResult × BillingDb}
    (hAnswered : ¬ (firstScan = true ∧ PredatesWallet d.wallet r.blockTime) ∧
      (d.chain r.signature).failed = false ∧
      answers.signatureStatus r.signature = some (.found true) ∧
      answers.transaction r.signature = some .found ∧
      answers.creditReachesDatabase r.signature = true)
    (hPositive : 0 < (d.chain r.signature).recipientDelta)
    (hCredit : creditDirectDeposit d.wallet.accountId r.signature
      (d.chain r.signature).recipientDelta d.config p.db = .ok credited) :
    r.signature ∈ (committed (scanRecord d answers firstScan p r)).handed := by
  obtain ⟨hWanted, hFailed, hStatus, hFound, hReaches⟩ := hAnswered
  obtain ⟨result, db'⟩ := credited
  have hVerify : verifyDirectDepositTransaction (d.chain r.signature)
      (answers.signatureStatus r.signature) (answers.transaction r.signature) =
        some (.verified (d.chain r.signature).recipientDelta) := by
    simp [verifyDirectDepositTransaction, hStatus, hFailed, hFound, not_le.2 hPositive]
  simp only [scanRecord, if_neg hWanted, hVerify, creditRecord, if_pos hReaches,
    Billing.transaction, StateT.run, hCredit]
  split <;> exact List.mem_cons_self

/-! ### A scan is a run of visits -/

theorem scanRecord_result {d : Deployment} {answers : ReconcileAnswers} {firstScan : Bool}
    {db : BillingDb} {handed : List Signature} {r : SolanaAddressSignature}
    {result result' : DirectSolanaDepositReconcileResult} :
    let p := committed (scanRecord d answers firstScan ⟨db, handed, result⟩ r)
    let p' := committed (scanRecord d answers firstScan ⟨db, handed, result'⟩ r)
    p.db = p'.db ∧ p.handed = p'.handed := by
  simp only [scanRecord]
  by_cases hOld : firstScan = true ∧ PredatesWallet d.wallet r.blockTime
  · simp only [if_pos hOld, committed, and_self]
  · simp only [if_neg hOld]
    cases hVerify : verifyDirectDepositTransaction (d.chain r.signature)
        (answers.signatureStatus r.signature) (answers.transaction r.signature) with
    | none => exact ⟨rfl, rfl⟩
    | some verification =>
        cases verification with
        | pending => exact ⟨rfl, rfl⟩
        | invalid => exact ⟨rfl, rfl⟩
        | verified n =>
            simp only [creditRecord]
            split
            · cases Billing.transaction (creditDirectDeposit d.wallet.accountId r.signature n
                  d.config) db with
              | mk outcome db' =>
                  cases outcome with
                  | error e => exact ⟨rfl, rfl⟩
                  | ok credited =>
                      simp only
                      split <;> exact ⟨rfl, rfl⟩
            · exact ⟨rfl, rfl⟩

section

variable {sys : DepositSystem} {s : DepositsState} {wallet : CustodialWallet} {firstScan : Bool}
  {answers : ReconcileAnswers} {history : TokenAccount → List Signature}
  {options : ReconcileOptions}

/-- The wallet's part of the state after a list of visits of its scan. -/
def VisitedTo (sys : DepositSystem) (s : DepositsState) (wallet : CustodialWallet)
    (firstScan : Bool) (answers : ReconcileAnswers) (p : ScanProgress) : Prop :=
  ∃ (signatures : List Signature) (s' : DepositsState),
    run sys.step s (signatures.map fun signature => .visit wallet signature firstScan answers) =
      some s' ∧ s'.db = p.db ∧ s'.handed = Function.update s.handed wallet.accountId p.handed

theorem VisitedTo.scanRecord {p : ScanProgress} {r : SolanaAddressSignature}
    (h : VisitedTo sys s wallet firstScan answers p) (hWallet : wallet ∈ sys.wallets)
    (hChain : r.blockTime = (sys.chain r.signature).blockTime) :
    VisitedTo sys s wallet firstScan answers
      (committed (Deposits.scanRecord (sys.deployment wallet) answers firstScan p r)) := by
  obtain ⟨signatures, ⟨db, _, answered⟩, hRun, hSame⟩ := h
  obtain ⟨_, handed, result⟩ := p
  obtain ⟨signature, blockTime⟩ := r
  simp only at hChain hSame
  subst hChain
  obtain ⟨rfl, rfl⟩ := hSame
  let visited := sys.visit ⟨db, Function.update s.handed wallet.accountId handed, answered⟩ wallet
    signature firstScan answers
  have hExtended : run sys.step s ((signatures ++ [signature]).map fun signature =>
      .visit wallet signature firstScan answers) = some visited := by
    rw [List.map_append]
    refine run_append.2 ⟨_, hRun, ?_⟩
    simp only [List.map_cons, List.map_nil, run, DepositSystem.step, if_pos hWallet, visited]
  obtain ⟨hDb, hHanded⟩ := @scanRecord_result (sys.deployment wallet) answers firstScan db handed
    ⟨signature, (sys.chain signature).blockTime⟩ noResult result
  refine ⟨signatures ++ [signature], visited, hExtended, ?_⟩
  simp only [visited, DepositSystem.visit, Function.update_self, Function.update_idem, hDb, hHanded,
    and_self]

theorem VisitedTo.scanRecords {p : ScanProgress} {records : List SolanaAddressSignature}
    (h : VisitedTo sys s wallet firstScan answers p) (hWallet : wallet ∈ sys.wallets)
    (hChain : ∀ r ∈ records, r.blockTime = (sys.chain r.signature).blockTime)
    {outcome : Except ScanProgress ScanProgress}
    (hLoop : records.foldlM (Deposits.scanRecord (sys.deployment wallet) answers firstScan) p =
      outcome) : VisitedTo sys s wallet firstScan answers (committed outcome) := by
  cases outcome with
  | ok p' =>
      refine foldlM_invariant (fun q r hr q' hVisited hRound => ?_) h hLoop
      simpa only [hRound, committed] using hVisited.scanRecord hWallet (hChain r hr)
  | error p' =>
      refine @foldlM_error_invariant _ _ _ _ _ _ _ (VisitedTo sys s wallet firstScan answers)
        (VisitedTo sys s wallet firstScan answers) (fun q r hr q' hVisited hRound => ?_)
        (fun q r hr q' hVisited hRound => ?_) h hLoop
      · simpa only [hRound, committed] using hVisited.scanRecord hWallet (hChain r hr)
      · simpa only [hRound, committed] using hVisited.scanRecord hWallet (hChain r hr)

theorem VisitedTo.scanTokenAccount_ok
    {progress progress' : ScanProgress × (TokenAccount → Option Signature)}
    {account : TokenAccount} (h : VisitedTo sys s wallet firstScan answers progress.1)
    (hWallet : wallet ∈ sys.wallets) (hNodup : (history account).Nodup)
    (hScan : scanTokenAccount (sys.deployment wallet) history options answers firstScan progress
      account = .ok progress') : VisitedTo sys s wallet firstScan answers progress'.1 := by
  obtain ⟨records, hLoad, hLoop, -⟩ := scanTokenAccount_eq_ok hScan
  exact h.scanRecords hWallet (blockTime_of_loaded hNodup hLoad) hLoop

theorem VisitedTo.scanTokenAccount_error
    {progress : ScanProgress × (TokenAccount → Option Signature)} {p : ScanProgress}
    {account : TokenAccount} (h : VisitedTo sys s wallet firstScan answers progress.1)
    (hWallet : wallet ∈ sys.wallets) (hNodup : (history account).Nodup)
    (hScan : scanTokenAccount (sys.deployment wallet) history options answers firstScan progress
      account = .error p) : VisitedTo sys s wallet firstScan answers p := by
  rcases scanTokenAccount_eq_error hScan with rfl | ⟨records, hLoad, hLoop⟩
  · exact h
  · exact h.scanRecords hWallet (blockTime_of_loaded hNodup hLoad) hLoop

theorem VisitedTo.scanWallet {p : ScanProgress} {cursor : Option SolanaDepositScanCursor}
    (h : VisitedTo sys s wallet cursor.isNone answers p) (hWallet : wallet ∈ sys.wallets)
    (hNodup : ∀ account, (history account).Nodup) :
    match Deposits.scanWallet (sys.deployment wallet) history cursor options answers p with
    | .ok (p', _) => VisitedTo sys s wallet cursor.isNone answers p'
    | .error p' => VisitedTo sys s wallet cursor.isNone answers p' := by
  cases hScan : Deposits.scanWallet (sys.deployment wallet) history cursor options answers p with
  | ok outcome =>
      obtain ⟨p', cursor'⟩ := outcome
      obtain ⟨accounts, -, hLoop⟩ := scanWallet_eq_ok hScan
      exact @foldlM_invariant _ _ _ _ _ _ _
        (fun progress => VisitedTo sys s wallet cursor.isNone answers progress.1)
        (fun _ account _ _ hVisited hRound =>
          hVisited.scanTokenAccount_ok hWallet (hNodup account) hRound) h hLoop
  | error p' =>
      rcases scanWallet_eq_error hScan with rfl | ⟨accounts, hLoop⟩
      · exact h
      · exact @foldlM_error_invariant _ _ _ _ _ _ _
          (fun progress => VisitedTo sys s wallet cursor.isNone answers progress.1)
          (VisitedTo sys s wallet cursor.isNone answers)
          (fun _ account _ _ hVisited hRound =>
            hVisited.scanTokenAccount_ok hWallet (hNodup account) hRound)
          (fun _ account _ _ hVisited hRound =>
            hVisited.scanTokenAccount_error hWallet (hNodup account) hRound) h hLoop

/-- Whatever a scan of one wallet commits, a run of visits to the wallet commits. -/
theorem reconcileWallet_visits {w : WalletState} (hDb : w.db = s.db)
    (hHanded : w.handed = s.handed wallet.accountId) (hWallet : wallet ∈ sys.wallets)
    (hNodup : ∀ account, (w.history account).Nodup) :
    let w' := reconcileWallet (sys.deployment wallet) w options answers
    ∃ (signatures : List Signature) (s' : DepositsState),
      run sys.step s (signatures.map fun signature =>
          .visit wallet signature w.cursor.isNone answers) = some s' ∧
        s'.db = w'.db ∧ s'.handed = Function.update s.handed wallet.accountId w'.handed := by
  have hStart : VisitedTo sys s wallet w.cursor.isNone answers ⟨w.db, w.handed, noResult⟩ := by
    exact ⟨[], s, rfl, hDb.symm, by rw [hHanded, Function.update_eq_self]⟩
  have hVisited := @VisitedTo.scanWallet _ _ _ _ w.history options _ _ hStart hWallet hNodup
  simp only [reconcileWallet]
  cases hScan : Deposits.scanWallet (sys.deployment wallet) w.history w.cursor options answers
      ⟨w.db, w.handed, noResult⟩ with
  | ok outcome =>
      obtain ⟨p', cursor'⟩ := outcome
      rw [hScan] at hVisited
      simp only
      split
      · exact hVisited
      · exact hVisited
  | error p' =>
      rw [hScan] at hVisited
      exact hVisited

end

end Hyperspace.Deposits
