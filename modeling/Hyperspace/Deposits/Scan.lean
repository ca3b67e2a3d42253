import Hyperspace.Billing.History

/-!
# Scanning a wallet for deposits

`reconcileDirectSolanaDeposits` for one custodial wallet. A scan asks the RPC for the signatures
of each token account that are newer than the recorded one, page by page and newest first, hands
the deposits among them to `creditDirectDeposit` oldest first, and records the newest signature it
saw. What the chain says of a signature never changes; which requests are answered is up to the
environment.
-/

namespace Hyperspace.Deposits

open Hyperspace.Billing Hyperspace.Foundations

abbrev TokenAccount := Nat
abbrev Signature := Identifier

/-- What the chain knows of a finalized signature. -/
structure SolanaTransaction where
  failed : Bool
  /-- Seconds. -/
  blockTime : Option Int
  /-- The token or lamport delta of the wallet's owner, zero where the owner has no part in it. -/
  recipientDelta : Int
  deriving DecidableEq

/-- A row of `custodial_wallets`. -/
structure CustodialWallet where
  accountId : AccountId
  publicKey : TokenAccount
  /-- What `Date.parse` makes of it: milliseconds, but of the whole second, for it is given the
  driver's `Date`. -/
  createdAt : Int
  deriving DecidableEq

/-- An entry of `getSignaturesForAddress`. -/
structure SolanaAddressSignature where
  signature : Signature
  blockTime : Option Int
  deriving DecidableEq

/-- The cursor of a wallet: the newest signature seen, for each token account. -/
structure SolanaDepositScanCursor where
  tokenAccounts : List TokenAccount
  latestSignatures : TokenAccount → Option Signature

structure ReconcileOptions where
  signaturePageSize : Option Int
  maxSignaturePages : Option Int
  deriving DecidableEq

/-- The wallet that is scanned and everything that stays the same between scans. -/
structure Deployment where
  chain : Signature → SolanaTransaction
  wallet : CustodialWallet
  config : BillingConfig

/-- An answer of `getSignatureStatuses` about one signature. -/
inductive SignatureStatusAnswer where
  | missing
  | found (finalized : Bool)
  deriving DecidableEq

/-- An answer of `getTransaction`. -/
inductive TransactionAnswer where
  | missing
  | invalidBalance
  | found
  deriving DecidableEq

/-- How the requests of one run are answered; `none` and `false` stand for an exception. -/
structure ReconcileAnswers where
  tokenAccounts : Option (List TokenAccount)
  page : TokenAccount → Nat → Bool
  signatureStatus : Signature → Option SignatureStatusAnswer
  transaction : Signature → Option TransactionAnswer
  creditReachesDatabase : Signature → Bool
  successRecorded : Bool
  failureRecorded : Bool

/-- The tally of a reconciliation. -/
structure DirectSolanaDepositReconcileResult where
  signaturesChecked : Nat
  depositsCredited : Nat
  creditedMinor : Int
  duplicates : Nat
  ignored : Nat
  deriving DecidableEq

/-- What a run has done so far, all of it committed. -/
structure ScanProgress where
  db : BillingDb
  /-- The signatures handed to a call of `creditDirectDeposit` that returned. -/
  handed : List Signature
  result : DirectSolanaDepositReconcileResult

/-! ### The signatures of an account -/

/-- The part of a newest-first history that is older than `before`. -/
def olderThan (before : Option Signature) (history : List Signature) : List Signature :=
  match before with
  | none => history
  | some signature => (history.dropWhile (· ≠ signature)).drop 1

/-- The part of a newest-first history that is newer than `until`. -/
def newerThan (latest : Option Signature) (history : List Signature) : List Signature :=
  match latest with
  | none => history
  | some signature => history.takeWhile (· ≠ signature)

/-- The RPC method: newest first, strictly between `before` and `until`, failed ones included. -/
def getSignaturesForAddress (history : List Signature) (latest before : Option Signature)
    (limit : Nat) : List Signature :=
  (newerThan latest (olderThan before history)).take limit

def findFinalizedSolanaSignaturesForAddress (chain : Signature → SolanaTransaction)
    (history : List Signature) (latest before : Option Signature) (limit : Nat) :
    List SolanaAddressSignature :=
  ((getSignaturesForAddress history latest before limit).filter (fun s => !(chain s).failed)).map
    fun s => ⟨s, (chain s).blockTime⟩

def ReconcileOptions.pageSize (options : ReconcileOptions) : Nat :=
  (max 1 (min 1000 (options.signaturePageSize.getD 100))).toNat

def ReconcileOptions.maxPages (options : ReconcileOptions) : Nat :=
  (max 1 (options.maxSignaturePages.getD 10)).toNat

/-- The loop of `loadNewSignatures` with `pages` rounds left. -/
def loadPages (chain : Signature → SolanaTransaction) (history : List Signature)
    (latest : Option Signature) (pageSize : Nat) (answered : Nat → Bool) :
    Nat → Nat → Option Signature → List SolanaAddressSignature →
      Option (List SolanaAddressSignature)
  | 0, _, _, records => some records
  | pages + 1, page, before, records =>
    if answered page then
      let batch := findFinalizedSolanaSignaturesForAddress chain history latest before pageSize
      if batch.length < pageSize then
        some (records ++ batch)
      else
        loadPages chain history latest pageSize answered pages (page + 1)
          (batch.getLast?.map (·.signature)) (records ++ batch)
    else none

def loadNewSignatures (chain : Signature → SolanaTransaction) (history : List Signature)
    (latest : Option Signature) (options : ReconcileOptions) (answered : Nat → Bool) :
    Option (List SolanaAddressSignature) :=
  loadPages chain history latest options.pageSize answered options.maxPages 0 none []

/-! ### The scan -/

/-- What the verifier says of a signature. -/
inductive SolanaDirectDepositVerification where
  | verified (amountBaseUnits : Int)
  | pending
  | invalid
  deriving DecidableEq

/--
`verifySolanaDirectDepositTransaction` and `verifyNativeSolDirectDepositTransaction`, which differ
only in where they read the delta. `none` is an exception.
-/
def verifyDirectDepositTransaction (transaction : SolanaTransaction)
    (status : Option SignatureStatusAnswer) (answer : Option TransactionAnswer) :
    Option SolanaDirectDepositVerification :=
  match status with
  | none => none
  | some .missing => some .pending
  | some (.found finalized) =>
    if transaction.failed then some .invalid
    else if !finalized then some .pending
    else
      match answer with
      | none => none
      | some .missing => some .pending
      | some .invalidBalance => none
      | some .found =>
        if transaction.recipientDelta ≤ 0 then some .invalid
        else some (.verified transaction.recipientDelta)

/-- `record.blockTime && record.blockTime * 1000 < walletCreatedAt - 300_000`. -/
def PredatesWallet (wallet : CustodialWallet) (blockTime : Option Int) : Prop :=
  ∃ t ∈ blockTime, t ≠ 0 ∧ t * 1000 < wallet.createdAt - 300000

instance {wallet : CustodialWallet} {blockTime : Option Int} :
    Decidable (PredatesWallet wallet blockTime) :=
  inferInstanceAs (Decidable (∃ t ∈ blockTime, t ≠ 0 ∧ t * 1000 < wallet.createdAt - 300000))

/-- A verified record goes to `creditDirectDeposit`. The error is what was done before it. -/
def creditRecord (d : Deployment) (answers : ReconcileAnswers) (p : ScanProgress)
    (signature : Signature) (amountBaseUnits : Int) : Except ScanProgress ScanProgress :=
  if answers.creditReachesDatabase signature then
    match Billing.transaction (creditDirectDeposit d.wallet.accountId signature amountBaseUnits
      d.config) p.db with
    | (.ok credited, db) =>
      let handed := signature :: p.handed
      if credited.duplicate then
        .ok { db, handed, result := { p.result with duplicates := p.result.duplicates + 1 } }
      else
        .ok
          { db
            handed
            result :=
              { p.result with
                depositsCredited := p.result.depositsCredited + 1
                creditedMinor := p.result.creditedMinor + credited.amountMinor } }
    | (.error _, _) => .error p
  else .error p

/-- The body of the loop over the loaded records. -/
def scanRecord (d : Deployment) (answers : ReconcileAnswers) (firstScan : Bool)
    (p : ScanProgress) (record : SolanaAddressSignature) : Except ScanProgress ScanProgress :=
  if firstScan ∧ PredatesWallet d.wallet record.blockTime then .ok p
  else
    let p := { p with
      result := { p.result with signaturesChecked := p.result.signaturesChecked + 1 } }
    match verifyDirectDepositTransaction (d.chain record.signature)
      (answers.signatureStatus record.signature) (answers.transaction record.signature) with
    | none => .error p
    | some .pending => .error p
    | some .invalid => .ok { p with result := { p.result with ignored := p.result.ignored + 1 } }
    | some (.verified amountBaseUnits) =>
      creditRecord d answers p record.signature amountBaseUnits

/-- The body of the loop over the token accounts. -/
def scanTokenAccount (d : Deployment) (history : TokenAccount → List Signature)
    (options : ReconcileOptions) (answers : ReconcileAnswers) (firstScan : Bool)
    (progress : ScanProgress × (TokenAccount → Option Signature)) (account : TokenAccount) :
    Except ScanProgress (ScanProgress × (TokenAccount → Option Signature)) :=
  match loadNewSignatures d.chain (history account) (progress.2 account) options
    (answers.page account) with
  | none => .error progress.1
  | some signatures => do
    let p ← signatures.reverse.foldlM (scanRecord d answers firstScan) progress.1
    match signatures.head? with
    | none => return (p, progress.2)
    | some newest => return (p, Function.update progress.2 account (some newest.signature))

/-- The accounts a scan visits; `none` where they cannot be read. -/
def scannedAccounts (d : Deployment) (cursor : Option SolanaDepositScanCursor)
    (answers : ReconcileAnswers) : Option (List TokenAccount) :=
  match d.config.solanaAssetKind, cursor with
  | .native, _ => some [d.wallet.publicKey]
  | .spl, none => answers.tokenAccounts
  | .spl, some cursor =>
    if cursor.tokenAccounts.isEmpty then answers.tokenAccounts else some cursor.tokenAccounts

def latestSignatures (cursor : Option SolanaDepositScanCursor) :
    TokenAccount → Option Signature :=
  match cursor with
  | none => fun _ => none
  | some cursor => cursor.latestSignatures

/-- `scanWallet`: the new cursor where nothing throws before it is recorded. -/
def scanWallet (d : Deployment) (history : TokenAccount → List Signature)
    (cursor : Option SolanaDepositScanCursor) (options : ReconcileOptions)
    (answers : ReconcileAnswers) (p : ScanProgress) :
    Except ScanProgress (ScanProgress × SolanaDepositScanCursor) :=
  match scannedAccounts d cursor answers with
  | none => .error p
  | some tokenAccounts => do
    let progress ← tokenAccounts.foldlM (scanTokenAccount d history options answers cursor.isNone)
      (p, latestSignatures cursor)
    return (progress.1, ⟨tokenAccounts, progress.2⟩)

/-! ### Runs -/

/-- What scans of one wallet read and write. -/
structure WalletState where
  /-- The finalized signatures of each token account, newest first. -/
  history : TokenAccount → List Signature
  cursor : Option SolanaDepositScanCursor
  handed : List Signature
  db : BillingDb

inductive DepositEvent where
  /-- The chain finalizes a transaction that touches the account. -/
  | finalize (account : TokenAccount) (signature : Signature)
  /-- Any other use of the billing database. -/
  | billing (op : BillingOp)
  /-- `reconcileDirectSolanaDeposits` reaches the wallet. -/
  | reconcile (options : ReconcileOptions) (answers : ReconcileAnswers)

def noResult : DirectSolanaDepositReconcileResult := ⟨0, 0, 0, 0, 0⟩

/-- `recordSolanaDepositScanFailure` leaves the accounts and signatures of a cursor alone. -/
def recordSolanaDepositScanFailure (cursor : Option SolanaDepositScanCursor) :
    SolanaDepositScanCursor :=
  cursor.getD ⟨[], fun _ => none⟩

def reconcileWallet (d : Deployment) (s : WalletState) (options : ReconcileOptions)
    (answers : ReconcileAnswers) : WalletState :=
  let failed (p : ScanProgress) : WalletState :=
    { s with
      handed := p.handed
      db := p.db
      cursor :=
        if answers.failureRecorded then some (recordSolanaDepositScanFailure s.cursor)
        else s.cursor }
  match scanWallet d s.history s.cursor options answers ⟨s.db, s.handed, noResult⟩ with
  | .error p => failed p
  | .ok (p, cursor) =>
    if answers.successRecorded then
      { s with handed := p.handed, db := p.db, cursor := some cursor }
    else failed p

def step (d : Deployment) (s : WalletState) : DepositEvent → Option WalletState
  | .finalize account signature =>
    if signature ∈ s.history account then none
    else some { s with
      history := Function.update s.history account (signature :: s.history account) }
  | .billing op => some { s with db := op.apply s.db }
  | .reconcile options answers => some (reconcileWallet d s options answers)

/-- A wallet no scan has visited, on accounts without a history. -/
def newWallet (db : BillingDb) : WalletState where
  history := fun _ => []
  cursor := none
  handed := []
  db

end Hyperspace.Deposits
