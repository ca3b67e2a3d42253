import Hyperspace.Billing.AmountFeeds

/-!
# What the tables hold of the deposits and credits

After a list of admissions whose totals are within an `int`, the tables hold these totals, and
every query reads them.
-/

namespace Hyperspace.Billing

open Hyperspace.Foundations

/-! ### What the tables hold after a list of admissions -/

/-- The tables hold what was admitted. -/
structure Recorded (feed : AmountFeed) (l : List Admission) (db : BillingDb) : Prop where
  account : feed.accountId ∈ db.usage.accounts
  cash : (db.books.buckets feed.accountId).val.cashMinor = feed.cashMinor l
  promotional : (db.books.buckets feed.accountId).val.promotionalMinor =
    feed.creditedMinor .promotional l
  debt : (db.books.buckets feed.accountId).val.debtMinor = 0
  remainder : (db.books.depositRemainders feed.accountId feed.config.solanaTokenMint).val =
    feed.depositedBaseUnits l % feed.unit
  receiptKeys : ∀ signature, db.books.receipts.HasKey signature ↔ signature ∈ signatures l
  receiptAmounts : ∀ receipt ∈ db.books.receipts.rows, FitsInt receipt.creditedAmountMinor
  depositEntries : ∀ signature,
    db.books.ledger.HasKey (.solanaDirectDeposit, signature) → signature ∈ signatures l
  creditEntries : ∀ creditId,
    db.books.ledger.HasKey (.adminManualCredit, creditId) ↔ creditId ∈ creditIds l
  entryAmounts : ∀ entry ∈ db.books.ledger.rows, FitsInt entry.amountMinor
  ledger : db.books.ledgerTotal feed.accountId "USD" = feed.ledgerMinor l
  withdrawalAmounts : ∀ w ∈ db.books.withdrawals.rows,
    w.accountId = feed.accountId → FitsInt w.amountMinor

theorem recorded_nil {feed : AmountFeed} {usage : UsageTables} {now : Timestamp}
    (hAccount : feed.accountId ∈ usage.accounts) : Recorded feed [] (emptyDb usage now) where
  account := hAccount
  cash := by simp [emptyDb, emptyBuckets, AmountFeed.cashMinor, AmountFeed.depositedBaseUnits,
    AmountFeed.creditedMinor, signatures, creditIds]
  promotional := by simp [emptyDb, emptyBuckets, AmountFeed.creditedMinor, creditIds]
  debt := rfl
  remainder := by simp [emptyDb, zeroAmount, AmountFeed.depositedBaseUnits, signatures]
  receiptKeys := by simp [emptyDb, Table.hasKey_iff, signatures]
  receiptAmounts := by simp [emptyDb]
  depositEntries := by simp [emptyDb, Table.hasKey_iff]
  creditEntries := by simp [emptyDb, Table.hasKey_iff, creditIds]
  entryAmounts := by simp [emptyDb]
  ledger := by simp [emptyDb, Books.ledgerTotal, AmountFeed.ledgerMinor,
    AmountFeed.depositedBaseUnits, AmountFeed.creditedMinor, signatures, creditIds]
  withdrawalAmounts := by simp [emptyDb]

namespace Recorded

variable {feed : AmountFeed} {l : List Admission} {db : BillingDb}

theorem read (h : Recorded feed l db) (hFits : feed.Fits l) :
    (db.books.buckets feed.accountId).val.Read := by
  obtain ⟨hCash, hPromotional, -⟩ := hFits
  rw [← h.cash] at hCash
  rw [← h.promotional] at hPromotional
  have hValid := (db.books.buckets feed.accountId).2
  refine ⟨hValid, hCash, hPromotional, ?_, by rw [h.debt]; decide⟩
  -- what is reserved is part of the cash
  obtain ⟨-, -, hReserved, -, hCovered⟩ := hValid
  simp only [FitsInt, IsAmount] at *
  omega

theorem readable (h : Recorded feed l db) (hFits : feed.Fits l) :
    AmountsReadable feed.accountId db where
  buckets := ⟨_, readBillingBuckets_ok h.account (h.read hFits)⟩
  balance := by
    have hInt : FitsInt (db.books.ledgerTotal feed.accountId "USD") := h.ledger ▸ hFits.2.2
    have hBigint : FitsBigint (db.books.ledgerTotal feed.accountId "USD") := by
      simp only [FitsInt, FitsBigint] at hInt ⊢
      omega
    rw [readBillingBalance, bind_of_ok (ensureBillingAccount_ok h.account),
      bind_of_ok (get_eq_ok.2 rfl)]
    exact ⟨_, bind_of_ok (require_of ⟨hBigint, hInt⟩)⟩
  entries limit := by
    rw [listLedgerEntries, bind_of_ok (get_eq_ok.2 rfl)]
    refine ⟨_, bind_of_ok (require_of fun entry hMem => h.entryAmounts entry ?_)⟩
    exact (List.mem_filter.1 (List.mem_reverse.1 (List.mem_of_mem_take hMem))).1
  receipts limit := by
    rw [listSolanaPaymentReceipts, bind_of_ok (get_eq_ok.2 rfl)]
    refine ⟨_, bind_of_ok (require_of fun receipt hMem => h.receiptAmounts receipt ?_)⟩
    exact (List.mem_filter.1 (List.mem_reverse.1 (List.mem_of_mem_take hMem))).1
  withdrawals limit := by
    rw [listWithdrawalRequests, bind_of_ok (get_eq_ok.2 rfl)]
    refine ⟨_, bind_of_ok (require_of fun w hMem => ?_)⟩
    obtain ⟨hRow, hAccount⟩ := List.mem_filter.1 (List.mem_reverse.1 (List.mem_of_mem_take hMem))
    exact h.withdrawalAmounts w hRow (of_decide_eq_true hAccount)
  withdrawal id := by
    rw [findWithdrawalForUpdate, bind_of_ok (get_eq_ok.2 rfl)]
    cases hFound : db.books.withdrawals.find? id with
    | none => exact ⟨_, rfl⟩
    | some w =>
        simp only
        split
        · rename_i hAccount
          exact ⟨_, bind_of_ok (require_of
            (h.withdrawalAmounts w (Table.find?_eq_some hFound).1 hAccount))⟩
        · exact ⟨_, rfl⟩

theorem fits_of_readable (h : Recorded feed l db) (hReadable : AmountsReadable feed.accountId db) :
    feed.Fits l := by
  obtain ⟨buckets, hBuckets⟩ := hReadable.buckets
  obtain ⟨hr, hRead⟩ := readBillingBuckets_spec hBuckets
  subst hr
  obtain ⟨balance, hBalance⟩ := hReadable.balance
  simp only [readBillingBalance, bind_eq_ok] at hBalance
  obtain ⟨_, db₁, hEnsure, _, db₂, hGet, _, db₃, hCast, -⟩ := hBalance
  cases (ensureBillingAccount_spec hEnsure).2
  cases get_eq_ok.1 hGet
  exact ⟨h.cash ▸ hRead.cash, h.promotional ▸ hRead.promotional,
    h.ledger ▸ (require_eq_ok.1 hCast).1.2⟩

theorem applyBucketCredit_of_noDebt {b : BillingBucketsRow} {n : Int} {kind : CreditKind}
    (hRead : b.Read) (hDebt : b.debtMinor = 0) (hAmount : 0 ≤ n) (hInt : FitsInt n) :
    applyBucketCredit b n kind =
      { b with
        cashMinor := b.cashMinor + if kind = .cash then n else 0
        promotionalMinor := b.promotionalMinor + if kind = .promotional then n else 0 } := by
  obtain ⟨⟨hCash, hPromotional, -⟩, hCashInt, hPromotionalInt, -, -⟩ := hRead
  have hExact : ∀ {m p : Int}, 0 ≤ m → FitsInt m → 0 ≤ p → FitsInt p → addDouble m p = m + p := by
    intro m p hm hmInt hp hpInt
    simp only [FitsInt] at hmInt hpInt
    exact addDouble_of_le (by rw [abs_le]; omega)
  have hRest : n - min 0 n = n := by omega
  cases kind with
  | cash =>
      simp only [applyBucketCredit, max_eq_right hAmount, hDebt, hRest, if_true, reduceCtorEq,
        if_false, hExact hCash.1 hCashInt hAmount hInt,
        hExact hPromotional.1 hPromotionalInt (le_refl 0) (by decide)]
      rw [min_eq_left hAmount, sub_zero]
  | promotional =>
      simp only [applyBucketCredit, max_eq_right hAmount, hDebt, hRest, if_true, reduceCtorEq,
        if_false, hExact hPromotional.1 hPromotionalInt hAmount hInt,
        hExact hCash.1 hCashInt (le_refl 0) (by decide)]
      rw [min_eq_left hAmount, sub_zero]

/-! #### Deposits -/

section

variable {signature : Identifier}

theorem deposited_new (hUnit : 0 < feed.unit) (hNew : signature ∉ signatures l) :
    feed.depositedBaseUnits (l ++ [.deposit signature]) / feed.unit =
        feed.depositedBaseUnits l / feed.unit +
          (feed.depositedBaseUnits l % feed.unit + feed.deposits signature) / feed.unit ∧
      feed.depositedBaseUnits (l ++ [.deposit signature]) % feed.unit =
        (feed.depositedBaseUnits l % feed.unit + feed.deposits signature) % feed.unit := by
  rw [feed.depositedBaseUnits_new hNew, Int.emod_add_emod]
  refine ⟨?_, rfl⟩
  have hSplit := Int.mul_ediv_add_emod (feed.depositedBaseUnits l) feed.unit
  calc (feed.depositedBaseUnits l + feed.deposits signature) / feed.unit
      = (feed.unit * (feed.depositedBaseUnits l / feed.unit) +
          (feed.depositedBaseUnits l % feed.unit + feed.deposits signature)) / feed.unit := by
        rw [← add_assoc, hSplit]
    _ = _ := Int.mul_add_ediv_left _ _ hUnit.ne'

theorem postDirectDeposit_ok {n : Int} (hAccount : feed.accountId ∈ db.usage.accounts)
    (hRead : (db.books.buckets feed.accountId).val.Read)
    (hDebt : (db.books.buckets feed.accountId).val.debtMinor = 0)
    (hFree : ¬ db.books.ledger.HasKey (.solanaDirectDeposit, signature)) (hAmount : 0 ≤ n)
    (hInt : FitsInt n) :
    ∃ ledger, ∃ hValid, ∃ result, ∃ usage : UsageTables,
      db.books.ledger.insert
        ⟨feed.accountId, .topup, n, feed.config.currency, .solanaDirectDeposit, signature⟩ =
          some ledger ∧
      usage.accounts = db.usage.accounts ∧
      postDirectDeposit feed.accountId signature n feed.config db = .ok (result, { db with
        books := db.books.post ledger feed.accountId
          ⟨applyBucketCredit (db.books.buckets feed.accountId).val n .cash, hValid⟩
        usage }) := by
  obtain ⟨ledger, hInsert⟩ := @Table.exists_insert _ _ _ _ db.books.ledger
    ⟨feed.accountId, .topup, n, feed.config.currency, .solanaDirectDeposit, signature⟩ hFree
  have hBigint : FitsBigint n := by
    simp only [FitsInt, FitsBigint] at hInt ⊢
    omega
  have hNoDebt : (db.books.buckets feed.accountId).val.debtMinor -
      (applyBucketCredit (db.books.buckets feed.accountId).val n .cash).debtMinor ≤ 0 := by
    rw [applyBucketCredit_of_noDebt hRead hDebt hAmount hInt]
    simp only [sub_self, le_refl]
  have hAccounts : (db.usage.ensureOpenPlan feed.accountId db.now).accounts = db.usage.accounts :=
    ensureOpenPlan_accounts
  refine ⟨ledger, applyBucketCredit_valid hRead hAmount hInt, ⟨false, n⟩, _, hInsert,
    hAccounts, ?_⟩
  rw [postDirectDeposit, bind_of_ok (insertLedgerEntry_new hBigint hInsert hAccount),
    bind_of_ok (require_of rfl)]
  refine Eq.trans (bind_of_ok (readBillingBuckets_ok hAccount hRead)) ?_
  refine Eq.trans
    (bind_of_ok (writeBillingBuckets_ok (applyBucketCredit_valid hRead hAmount hInt))) ?_
  split
  · rfl
  · exact bind_of_ok (insertCashSweepRequest_nothing hNoDebt)

theorem emod_le_self {m n : Int} (hNonneg : 0 ≤ m) (hPositive : 0 < n) : m % n ≤ m := by
  have hSplit := Int.mul_ediv_add_emod m n
  have hQuotient := mul_nonneg hPositive.le (Int.ediv_nonneg hNonneg hPositive.le)
  omega

/-- The billing units and the remainder of a new deposit. -/
def conversion (feed : AmountFeed) (l : List Admission) (signature : Identifier) :
    DepositConversion :=
  let total := feed.depositedBaseUnits l % feed.unit + feed.deposits signature
  ⟨total / feed.unit, total % feed.unit⟩

theorem conversion_bounds (hAdmits : feed.Admits (l ++ [.deposit signature]))
    (hNew : signature ∉ signatures l) :
    0 ≤ (conversion feed l signature).amountMinor ∧
      IsAmount (conversion feed l signature).remainderBaseUnits ∧
      0 < feed.deposits signature ∧ FitsBigint (feed.deposits signature) := by
  have hUnit := hAdmits.unit_pos
  have hPositive : 0 < feed.deposits signature := hAdmits.deposits_pos signature (by simp)
  have hBefore := hAdmits.initial.depositedBaseUnits_nonneg
  have hTotal := hAdmits.total
  rw [feed.depositedBaseUnits_new hNew] at hTotal
  have hRest := Int.emod_nonneg (feed.depositedBaseUnits l) hUnit.ne'
  have hRestLe : feed.depositedBaseUnits l % feed.unit ≤ feed.depositedBaseUnits l :=
    emod_le_self hBefore hUnit
  have hLeft := Int.emod_nonneg (feed.depositedBaseUnits l % feed.unit + feed.deposits signature)
    hUnit.ne'
  have hLeftLe : (feed.depositedBaseUnits l % feed.unit + feed.deposits signature) % feed.unit ≤
      feed.depositedBaseUnits l % feed.unit + feed.deposits signature :=
    emod_le_self (by omega) hUnit
  simp only [FitsBigint] at hTotal
  refine ⟨Int.ediv_nonneg (by omega) hUnit.le, ⟨hLeft, ?_⟩, hPositive, ?_⟩
  · simp only [FitsBigint, conversion]
    omega
  · simp only [FitsBigint]
    omega

theorem totals_deposit (hUnit : 0 < feed.unit) (hNew : signature ∉ signatures l) :
    feed.cashMinor (l ++ [.deposit signature]) =
        feed.cashMinor l + (conversion feed l signature).amountMinor ∧
      (∀ kind, feed.creditedMinor kind (l ++ [.deposit signature]) = feed.creditedMinor kind l) ∧
      feed.ledgerMinor (l ++ [.deposit signature]) = feed.ledgerMinor l +
        if feed.config.currency = "USD" then (conversion feed l signature).amountMinor else 0 := by
  have hCredited : ∀ kind,
      feed.creditedMinor kind (l ++ [.deposit signature]) = feed.creditedMinor kind l := by
    intro kind
    rw [AmountFeed.creditedMinor, creditIds_deposit]
    rfl
  have hMinor : feed.depositedBaseUnits (l ++ [.deposit signature]) / feed.unit =
      feed.depositedBaseUnits l / feed.unit + (conversion feed l signature).amountMinor :=
    (deposited_new hUnit hNew).1
  refine ⟨?_, hCredited, ?_⟩
  · simp only [AmountFeed.cashMinor, hCredited, hMinor]
    omega
  · simp only [AmountFeed.ledgerMinor, hCredited, hMinor]
    split <;> omega

theorem deposit_new (h : Recorded feed l db) (hFits : feed.Fits l)
    (hAdmits : feed.Admits (l ++ [.deposit signature])) (hNew : signature ∉ signatures l)
    (hInt : FitsInt (conversion feed l signature).amountMinor) :
    ∃ r db', creditDirectDeposit feed.accountId signature (feed.deposits signature) feed.config
        db = .ok (r, db') ∧ Recorded feed (l ++ [.deposit signature]) db' := by
  obtain ⟨hMinor, hRemainder, hPositive, hBigint⟩ := conversion_bounds hAdmits hNew
  have hSafe : (conversion feed l signature).amountMinor ≤ maxSafeInteger := by
    simp only [FitsInt, maxSafeInteger] at hInt ⊢
    omega
  have hCredited : IsAmount (conversion feed l signature).amountMinor := by
    simp only [FitsInt, IsAmount, FitsBigint] at hInt ⊢
    omega
  have hConvert : liftExcept (convertDepositToBillingMinor
      (db.books.depositRemainders feed.accountId feed.config.solanaTokenMint).val
      (feed.deposits signature) feed.config.solanaTokenBaseUnitsPerBillingMinor) db =
      .ok (conversion feed l signature, db) := by
    refine liftExcept_eq_ok.2 ⟨_, ?_, rfl⟩
    rw [h.remainder]
    exact convertDepositToBillingMinor_ok
      (Int.emod_nonneg _ hAdmits.unit_pos.ne') hPositive hAdmits.unit_pos hSafe
  have hFree : ¬ db.books.receipts.HasKey signature := fun hKey => hNew ((h.receiptKeys _).1 hKey)
  obtain ⟨receipts, hInsert⟩ := @Table.exists_insert _ _ _ _ db.books.receipts
    (ReceiptInput.receipt ⟨signature, feed.accountId, feed.config.solanaTokenMint,
      feed.deposits signature, (conversion feed l signature).amountMinor⟩ ⟨hPositive, hBigint⟩
      hCredited) hFree
  rw [creditDirectDeposit, bind_of_ok (ensureBillingAccount_ok h.account),
    bind_of_ok (readSolanaDepositRemainderForUpdate_ok h.account), bind_of_ok hConvert,
    bind_of_ok (claimSolanaPaymentReceipt_new ⟨hPositive, hBigint⟩ hCredited hInsert hInt
      h.account), if_pos rfl, bind_of_ok (writeSolanaDepositRemainder_ok hRemainder)]
  have hReceiptKeys : ∀ σ, receipts.HasKey σ ↔ σ ∈ signatures (l ++ [.deposit signature]) := by
    intro σ
    rw [Table.hasKey_insert hInsert, h.receiptKeys, signatures_deposit, Finset.mem_insert, or_comm]
    rfl
  have hReceiptAmounts : ∀ receipt ∈ receipts.rows, FitsInt receipt.creditedAmountMinor := by
    intro receipt hMem
    rcases (Table.mem_insert hInsert).1 hMem with hOld | rfl
    · exact h.receiptAmounts receipt hOld
    · exact hInt
  obtain ⟨hCash, hKinds, hLedger⟩ := totals_deposit hAdmits.unit_pos hNew
  have hLeft := (deposited_new hAdmits.unit_pos hNew).2
  by_cases hBelow : (conversion feed l signature).amountMinor ≤ 0
  · -- the deposit only adds to the remainder
    have hZero : (conversion feed l signature).amountMinor = 0 := le_antisymm hBelow hMinor
    rw [if_pos hBelow]
    refine ⟨_, _, rfl, ?_⟩
    rw [hZero, add_zero] at hCash
    rw [hZero, ite_self, add_zero] at hLedger
    exact
      { account := h.account
        cash := h.cash.trans hCash.symm
        promotional := h.promotional.trans (hKinds _).symm
        debt := h.debt
        remainder := by simp only [Function.update_self]; exact hLeft.symm
        receiptKeys := hReceiptKeys
        receiptAmounts := hReceiptAmounts
        depositEntries := fun σ hKey => signatures_initial (h.depositEntries σ hKey)
        creditEntries := fun id => by rw [creditIds_deposit]; exact h.creditEntries id
        entryAmounts := h.entryAmounts
        ledger := h.ledger.trans hLedger.symm
        withdrawalAmounts := h.withdrawalAmounts }
  · rw [if_neg hBelow]
    have hNoEntry : ¬ db.books.ledger.HasKey (.solanaDirectDeposit, signature) :=
      fun hKey => hNew (h.depositEntries _ hKey)
    obtain ⟨ledger, hValid, result, usage, hEntry, hAccounts, hPost⟩ :=
      @postDirectDeposit_ok feed { db with
        books := { db.books with
          receipts
          depositRemainders := Function.update db.books.depositRemainders feed.accountId
            (Function.update (db.books.depositRemainders feed.accountId)
              feed.config.solanaTokenMint ⟨_, hRemainder⟩) } } signature _ h.account
        (h.read hFits) h.debt hNoEntry hMinor hInt
    refine ⟨_, _, hPost, ?_⟩
    have hBuckets := @applyBucketCredit_of_noDebt _ _ .cash (h.read hFits) h.debt hMinor hInt
    exact
      { account := by rw [hAccounts]; exact h.account
        cash := by
          simp only [Books.post, Function.update_self, hBuckets, if_true, h.cash, hCash]
        promotional := by
          simp only [Books.post, Function.update_self, hBuckets, reduceCtorEq, if_false, add_zero,
            h.promotional, hKinds]
        debt := by simp only [Books.post, Function.update_self, hBuckets, h.debt]
        remainder := by simp only [Books.post, Function.update_self]; exact hLeft.symm
        receiptKeys := hReceiptKeys
        receiptAmounts := hReceiptAmounts
        depositEntries := by
          intro σ hKey
          rw [signatures_deposit, Finset.mem_insert]
          rcases (Table.hasKey_insert hEntry).1 hKey with hOld | hSame
          · exact .inr (h.depositEntries σ hOld)
          · exact .inl (Prod.mk.inj hSame).2
        creditEntries := by
          intro id
          rw [creditIds_deposit, ← h.creditEntries id]
          refine (Table.hasKey_insert hEntry).trans (or_iff_left ?_)
          simp [LedgerEntry.key]
        entryAmounts := by
          intro entry hMem
          rcases (Table.mem_insert hEntry).1 hMem with hOld | rfl
          · exact h.entryAmounts entry hOld
          · exact hInt
        ledger := by
          simp only [Books.ledgerTotal, Books.post, Table.sum_insert hEntry, true_and, hLedger,
            ← h.ledger]
        withdrawalAmounts := h.withdrawalAmounts }

theorem congr {l' : List Admission} (h : Recorded feed l db)
    (hSignatures : signatures l' = signatures l) (hCredits : creditIds l' = creditIds l) :
    Recorded feed l' db where
  account := h.account
  cash := by simpa only [AmountFeed.cashMinor, AmountFeed.depositedBaseUnits,
    AmountFeed.creditedMinor, hSignatures, hCredits] using h.cash
  promotional := by simpa only [AmountFeed.creditedMinor, hCredits] using h.promotional
  debt := h.debt
  remainder := by simpa only [AmountFeed.depositedBaseUnits, hSignatures] using h.remainder
  receiptKeys := by simpa only [hSignatures] using h.receiptKeys
  receiptAmounts := h.receiptAmounts
  depositEntries := by simpa only [hSignatures] using h.depositEntries
  creditEntries := by simpa only [hCredits] using h.creditEntries
  entryAmounts := h.entryAmounts
  ledger := by simpa only [AmountFeed.ledgerMinor, AmountFeed.depositedBaseUnits,
    AmountFeed.creditedMinor, hSignatures, hCredits] using h.ledger
  withdrawalAmounts := h.withdrawalAmounts

theorem deposit_old (h : Recorded feed l db) (hFits : feed.Fits l) (hAdmits : feed.Admits l)
    (hOld : signature ∈ signatures l) :
    ∃ r db', creditDirectDeposit feed.accountId signature (feed.deposits signature) feed.config
        db = .ok (r, db') ∧ Recorded feed (l ++ [.deposit signature]) db' := by
  have hUnit := hAdmits.unit_pos
  have hPositive := hAdmits.deposits_pos signature hOld
  have hRest := Int.emod_nonneg (feed.depositedBaseUnits l) hUnit.ne'
  have hRestLt := Int.emod_lt_of_pos (feed.depositedBaseUnits l) hUnit
  have hLe : feed.deposits signature ≤ feed.depositedBaseUnits l :=
    Finset.single_le_sum (fun σ hMem => (hAdmits.deposits_pos σ hMem).le) hOld
  have hQuotient : (conversion feed l signature).amountMinor ≤
      1 + feed.depositedBaseUnits l / feed.unit := by
    rw [← Int.add_ediv_of_dvd_left (dvd_refl feed.unit) |>.trans
      (congrArg (· + _) (Int.ediv_self hUnit.ne'))]
    exact Int.ediv_le_ediv hUnit (by omega)
  have hNonneg : 0 ≤ (conversion feed l signature).amountMinor :=
    Int.ediv_nonneg (by omega) hUnit.le
  have hCash := hFits.1
  have hTotal := hAdmits.total
  have hCredits := @AmountFeed.Admits.creditedMinor_nonneg _ _ hAdmits .cash
  simp only [FitsInt, FitsBigint, AmountFeed.cashMinor] at hCash hTotal
  have hConvert : liftExcept (convertDepositToBillingMinor
      (db.books.depositRemainders feed.accountId feed.config.solanaTokenMint).val
      (feed.deposits signature) feed.config.solanaTokenBaseUnitsPerBillingMinor) db =
      .ok (conversion feed l signature, db) := by
    refine liftExcept_eq_ok.2 ⟨_, ?_, rfl⟩
    rw [h.remainder]
    refine convertDepositToBillingMinor_ok hRest hPositive hUnit ?_
    refine hQuotient.trans ?_
    simp only [maxSafeInteger]
    omega
  have hAmount : 0 < feed.deposits signature ∧ FitsBigint (feed.deposits signature) := by
    simp only [FitsBigint]
    omega
  have hCredited : IsAmount (conversion feed l signature).amountMinor := by
    simp only [IsAmount, FitsBigint]
    omega
  cases hFound : db.books.receipts.find? signature with
  | none => exact absurd ((h.receiptKeys signature).2 hOld) (Table.find?_eq_none.1 hFound)
  | some existing =>
      have hInt := h.receiptAmounts existing (Table.find?_eq_some hFound).1
      rw [creditDirectDeposit, bind_of_ok (ensureBillingAccount_ok h.account),
        bind_of_ok (readSolanaDepositRemainderForUpdate_ok h.account), bind_of_ok hConvert,
        bind_of_ok (claimSolanaPaymentReceipt_old hAmount hCredited hFound hInt),
        if_neg (by decide)]
      refine ⟨_, _, rfl, h.congr ?_ creditIds_deposit⟩
      rw [signatures_deposit, Finset.insert_eq_of_mem hOld]

end

/-! #### Credits -/

section

variable {creditId : Identifier}

theorem isSafeInteger_intCast {n : Int} (hPositive : 0 < n) (hSafe : n ≤ maxSafeInteger) :
    isSafeInteger (n : ℚ) = true ∧ (0 : ℚ) < n := by
  have hCast : |(n : ℚ)| ≤ (maxSafeInteger : ℚ) := by
    rw [abs_of_pos (by exact_mod_cast hPositive)]
    exact_mod_cast hSafe
  refine ⟨?_, by exact_mod_cast hPositive⟩
  simp only [isSafeInteger, isInteger, Rat.den_intCast, decide_true, Bool.true_and,
    decide_eq_true_eq]
  exact hCast

theorem totals_credit (hNew : creditId ∉ creditIds l) :
    feed.cashMinor (l ++ [.credit creditId]) = feed.cashMinor l +
        (if feed.kinds creditId = .cash then feed.credits creditId else 0) ∧
      feed.ledgerMinor (l ++ [.credit creditId]) = feed.ledgerMinor l + feed.credits creditId := by
  have hDeposited : feed.depositedBaseUnits (l ++ [.credit creditId]) =
      feed.depositedBaseUnits l := by
    rw [AmountFeed.depositedBaseUnits, signatures_credit]
    rfl
  constructor
  · simp only [AmountFeed.cashMinor, hDeposited, feed.creditedMinor_new hNew]
    omega
  · simp only [AmountFeed.ledgerMinor, hDeposited, feed.creditedMinor_new hNew]
    cases feed.kinds creditId with
    | cash => simp only [if_true, reduceCtorEq, if_false]; omega
    | promotional => simp only [if_true, reduceCtorEq, if_false]; omega

theorem credit_new (h : Recorded feed l db) (hFits : feed.Fits l)
    (hAdmits : feed.Admits (l ++ [.credit creditId])) (hNew : creditId ∉ creditIds l)
    (hInt : FitsInt (feed.credits creditId)) :
    ∃ r db', applyBillingCredit
        { accountId := feed.accountId, amountMinor := feed.credits creditId
          kind := feed.kinds creditId, sourceType := .adminManualCredit, sourceId := creditId } db =
        .ok (r, db') ∧ Recorded feed (l ++ [.credit creditId]) db' := by
  obtain ⟨hPositive, hSafe⟩ := hAdmits.credits_pos creditId (by simp)
  have hRead := h.read hFits
  have hNonneg := hPositive.le
  have hValid := @applyBucketCredit_valid _ _ (feed.kinds creditId) hRead hNonneg hInt
  have hBuckets := @applyBucketCredit_of_noDebt _ _ (feed.kinds creditId) hRead h.debt hNonneg hInt
  have hBigint : FitsBigint (feed.credits creditId) := by
    simp only [FitsInt, FitsBigint] at hInt ⊢
    omega
  obtain ⟨ledger, hEntry⟩ := @Table.exists_insert _ _ _ _ db.books.ledger
    ⟨feed.accountId, if feed.kinds creditId = .cash then .topup else .manualCredit,
      feed.credits creditId, "USD", .adminManualCredit, creditId⟩
    (fun hKey => hNew ((h.creditEntries _).1 hKey))
  have hAccounts : (db.usage.ensureOpenPlan feed.accountId db.now).accounts = db.usage.accounts :=
    ensureOpenPlan_accounts
  obtain ⟨hCash, hLedger⟩ := @totals_credit feed l creditId hNew
  have hRun : applyBillingCredit
      { accountId := feed.accountId, amountMinor := feed.credits creditId
        kind := feed.kinds creditId, sourceType := .adminManualCredit, sourceId := creditId } db =
      .ok ((), { db with
        books := db.books.post ledger feed.accountId
          ⟨applyBucketCredit (db.books.buckets feed.accountId).val (feed.credits creditId)
            (feed.kinds creditId), hValid⟩
        usage := db.usage.ensureOpenPlan feed.accountId db.now }) := by
    rw [applyBillingCredit]
    refine Eq.trans (bind_of_ok (require_of (isSafeInteger_intCast hPositive hSafe))) ?_
    refine Eq.trans (bind_of_ok (readBillingBuckets_ok h.account hRead)) ?_
    refine Eq.trans (bind_of_ok (insertLedgerEntry_new hBigint hEntry (hAccounts ▸ h.account))) ?_
    rw [if_pos rfl]
    exact writeBillingBuckets_ok hValid
  refine ⟨_, _, hRun, ?_⟩
  exact
    { account := by simp only [hAccounts]; exact h.account
      cash := by simp only [Books.post, Function.update_self, hBuckets, h.cash, hCash]
      promotional := by
        simp only [Books.post, Function.update_self, hBuckets, h.promotional,
          feed.creditedMinor_new hNew]
      debt := by simp only [Books.post, Function.update_self, hBuckets, h.debt]
      remainder := by
        rw [AmountFeed.depositedBaseUnits, signatures_credit]
        exact h.remainder
      receiptKeys := by rw [signatures_credit]; exact h.receiptKeys
      receiptAmounts := h.receiptAmounts
      depositEntries := by
        intro σ hKey
        rw [signatures_credit]
        rcases (Table.hasKey_insert hEntry).1 hKey with hOld | hSame
        · exact h.depositEntries σ hOld
        · simp [LedgerEntry.key] at hSame
      creditEntries := by
        intro id
        rw [creditIds_credit, Finset.mem_insert, ← h.creditEntries id, or_comm]
        refine (Table.hasKey_insert hEntry).trans (or_congr_right ?_)
        simp [LedgerEntry.key]
      entryAmounts := by
        intro entry hMem
        rcases (Table.mem_insert hEntry).1 hMem with hOld | rfl
        · exact h.entryAmounts entry hOld
        · exact hInt
      ledger := by
        simp only [Books.ledgerTotal, Books.post, Table.sum_insert hEntry, true_and, if_true,
          hLedger, ← h.ledger]
      withdrawalAmounts := h.withdrawalAmounts }

theorem credit_old (h : Recorded feed l db) (hFits : feed.Fits l)
    (hAdmits : feed.Admits (l ++ [.credit creditId])) (hOld : creditId ∈ creditIds l) :
    ∃ r db', applyBillingCredit
        { accountId := feed.accountId, amountMinor := feed.credits creditId
          kind := feed.kinds creditId, sourceType := .adminManualCredit, sourceId := creditId } db =
        .ok (r, db') ∧ Recorded feed (l ++ [.credit creditId]) db' := by
  obtain ⟨hPositive, hSafe⟩ := hAdmits.credits_pos creditId (by simp)
  have hRead := h.read hFits
  have hBigint : FitsBigint (feed.credits creditId) := by
    simp only [FitsBigint, maxSafeInteger] at hSafe ⊢
    omega
  have hRun : applyBillingCredit
      { accountId := feed.accountId, amountMinor := feed.credits creditId
        kind := feed.kinds creditId, sourceType := .adminManualCredit, sourceId := creditId } db =
      .ok ((), { db with usage := db.usage.ensureOpenPlan feed.accountId db.now }) := by
    rw [applyBillingCredit]
    refine Eq.trans (bind_of_ok (require_of (isSafeInteger_intCast hPositive hSafe))) ?_
    refine Eq.trans (bind_of_ok (readBillingBuckets_ok h.account hRead)) ?_
    refine Eq.trans (bind_of_ok (insertLedgerEntry_old hBigint ((h.creditEntries _).2 hOld))) ?_
    rw [if_neg (by decide), pure_eq_ok]
  have hLeft : Recorded feed l
      { db with usage := db.usage.ensureOpenPlan feed.accountId db.now } :=
    { h with account := by simp only [ensureOpenPlan_accounts]; exact h.account }
  refine ⟨_, _, hRun, hLeft.congr signatures_credit ?_⟩
  rw [creditIds_credit, Finset.insert_eq_of_mem hOld]

end

/-! #### Everything else -/

/-- The accounts are those of before. -/
def AccountsKept (db db' : BillingDb) : Prop := db'.usage.accounts = db.usage.accounts

instance : IsPreorder BillingDb AccountsKept where
  refl _ := rfl
  trans _ _ _ h h' := Eq.trans h' h

theorem statementsKeep_accounts : StatementsKeep AccountsKept :=
  statementsKeep_of_usage fun _ _ h => h.accounts

theorem keepsAccounts_claimWithdrawalSigningJob {locked : List Identifier} {key : CustodialKey} :
    Keeps AccountsKept (claimWithdrawalSigningJob locked key) :=
  keeps_claimWithdrawalSigningJob_of_usage fun _ _ h => h.accounts

/-- Deposits, credits and the buckets of the account are those of before, and every withdrawal of
the account has an amount of before or a readable one. -/
structure FundsLeft (a : AccountId) (db db' : BillingDb) : Prop where
  account : a ∈ db.usage.accounts → a ∈ db'.usage.accounts
  cash : (db'.books.buckets a).val.cashMinor = (db.books.buckets a).val.cashMinor
  promotional :
    (db'.books.buckets a).val.promotionalMinor = (db.books.buckets a).val.promotionalMinor
  debt : (db'.books.buckets a).val.debtMinor = (db.books.buckets a).val.debtMinor
  remainders : db'.books.depositRemainders = db.books.depositRemainders
  receipts : db'.books.receipts = db.books.receipts
  ledger : db'.books.ledger = db.books.ledger
  withdrawals : ∀ w' ∈ db'.books.withdrawals.rows, w'.accountId = a → FitsInt w'.amountMinor ∨
    ∃ w ∈ db.books.withdrawals.rows, w.accountId = a ∧ w.amountMinor = w'.amountMinor

theorem FundsLeft.of_books {a : AccountId} {db' : BillingDb}
    (hAccount : a ∈ db.usage.accounts → a ∈ db'.usage.accounts) (hBooks : db'.books = db.books) :
    FundsLeft a db db' where
  account := hAccount
  cash := by rw [hBooks]
  promotional := by rw [hBooks]
  debt := by rw [hBooks]
  remainders := by rw [hBooks]
  receipts := by rw [hBooks]
  ledger := by rw [hBooks]
  withdrawals w hw hAccount := .inr ⟨w, hBooks ▸ hw, hAccount, rfl⟩

theorem left {db' : BillingDb} (h : Recorded feed l db)
    (hLeft : FundsLeft feed.accountId db db') : Recorded feed l db' where
  account := hLeft.account h.account
  cash := hLeft.cash.trans h.cash
  promotional := hLeft.promotional.trans h.promotional
  debt := hLeft.debt.trans h.debt
  remainder := by rw [hLeft.remainders]; exact h.remainder
  receiptKeys := by rw [hLeft.receipts]; exact h.receiptKeys
  receiptAmounts := by rw [hLeft.receipts]; exact h.receiptAmounts
  depositEntries := by rw [hLeft.ledger]; exact h.depositEntries
  creditEntries := by rw [hLeft.ledger]; exact h.creditEntries
  entryAmounts := by rw [hLeft.ledger]; exact h.entryAmounts
  ledger := by rw [Books.ledgerTotal, hLeft.ledger]; exact h.ledger
  withdrawalAmounts w' hw' hAccount := by
    rcases hLeft.withdrawals w' hw' hAccount with hInt | ⟨w, hw, hOwner, hAmount⟩
    · exact hInt
    · exact hAmount ▸ h.withdrawalAmounts w hw hOwner

section

variable {a : AccountId} {db' : BillingDb}

theorem update_reserved {f : BillingBucketsRow → Int} {buckets : AccountId → StoredBuckets}
    {actor : AccountId} {n : Int}
    (hValid : { (buckets actor).val with reservedWithdrawalMinor := n }.Valid)
    (hf : ∀ b m, f { b with reservedWithdrawalMinor := m } = f b) :
    f (Function.update buckets actor ⟨_, hValid⟩ a).val = f (buckets a).val := by
  by_cases hSame : a = actor
  · subst hSame
    simp only [Function.update_self, hf]
  · rw [Function.update_of_ne hSame]

theorem fundsLeft_of_reserved {actor : AccountId} {id : Identifier}
    (hAccount : a ∈ db.usage.accounts → a ∈ db'.usage.accounts)
    (hCash : FitsInt (db.books.buckets a).val.cashMinor)
    (h : WithdrawalReserved actor db.books id db'.books) : FundsLeft a db db' := by
  generalize hBooks : db'.books = books' at h
  cases h with
  | @mk w withdrawals hValid hInsert _ _ _ hOwner _ =>
      refine ⟨hAccount, ?_, ?_, ?_, by rw [hBooks], by rw [hBooks], by rw [hBooks], ?_⟩
      · rw [hBooks]
        exact update_reserved hValid fun _ _ => rfl
      · rw [hBooks]
        exact update_reserved hValid fun _ _ => rfl
      · rw [hBooks]
        exact update_reserved hValid fun _ _ => rfl
      intro w' hw' hMine
      rw [hBooks] at hw'
      rcases (Table.mem_insert hInsert).1 hw' with hOld | rfl
      · exact .inr ⟨w', hOld, hMine, rfl⟩
      · left
        obtain rfl : actor = a := hOwner.symm.trans hMine
        have hAmount := w'.amount_valid
        have hReserved := (db.books.buckets actor).2.2.2.1
        have hCovered := hValid.2.2.2.2
        simp only [FitsInt, IsAmount] at *
        omega

theorem fundsLeft_of_released {actor : AccountId} {id : Identifier} {now : Timestamp}
    (hAccount : a ∈ db.usage.accounts → a ∈ db'.usage.accounts)
    (h : WithdrawalReleased actor id now db.books db'.books) : FundsLeft a db db' := by
  generalize hBooks : db'.books = books' at h
  cases h with
  | @mk w reserved hValid hFound _ _ _ =>
      refine ⟨hAccount, ?_, ?_, ?_, by rw [hBooks], by rw [hBooks], by rw [hBooks], ?_⟩
      · rw [hBooks]
        exact update_reserved hValid fun _ _ => rfl
      · rw [hBooks]
        exact update_reserved hValid fun _ _ => rfl
      · rw [hBooks]
        exact update_reserved hValid fun _ _ => rfl
      intro w' hw' hMine
      rw [hBooks] at hw'
      obtain ⟨w, hw, rfl⟩ := (Table.mem_update (WithdrawalRequest.cancel_id now)).1 hw'
      right
      split at hMine
      · exact ⟨w, hw, hMine, by rw [if_pos ‹_›]; rfl⟩
      · exact ⟨w, hw, hMine, by rw [if_neg ‹_›]⟩

theorem fundsLeft_of_moved (hAccount : a ∈ db.usage.accounts → a ∈ db'.usage.accounts)
    (h : WithdrawalsMoved db.books db'.books) : FundsLeft a db db' := by
  obtain ⟨f, hf, hBooks, hMoved⟩ := h
  refine ⟨hAccount, by rw [hBooks], by rw [hBooks], by rw [hBooks], by rw [hBooks], by rw [hBooks],
    by rw [hBooks], ?_⟩
  intro w' hw' hMine
  rw [hBooks] at hw'
  obtain ⟨w, hw, rfl⟩ := (Table.mem_modify hf).1 hw'
  exact .inr ⟨w, hw, (hMoved w hw).account.symm.trans hMine, (hMoved w hw).amount.symm⟩

end

theorem other {op : BillingOp} (h : Recorded feed l db) (hFits : feed.Fits l)
    (hLeaves : LeavesFunds feed.accountId op = true) :
    Recorded feed (l ++ [.other op]) (op.apply db) := by
  refine congr ?_ signatures_other creditIds_other
  have hAccount : ∀ {db'}, AccountsKept db db' →
      feed.accountId ∈ db.usage.accounts → feed.accountId ∈ db'.usage.accounts :=
    fun hKept hMem => by rw [show _ = _ from hKept]; exact hMem
  cases op with
  | createWithdrawalRequest actor input config =>
      refine transaction_keeps (Recorded feed l) h fun result db' hRun => h.left ?_
      have hKept := hAccount (statementsKeep_accounts.createWithdrawalRequest _ _ _ hRun)
      rcases (createWithdrawalRequest_spec hRun).2 with hBooks | ⟨-, hReserved, -⟩
      · exact .of_books hKept hBooks
      · exact fundsLeft_of_reserved hKept (h.read hFits).cash hReserved
  | cancelOwnedWithdrawal actor id =>
      refine transaction_keeps (Recorded feed l) h fun result db' hRun => h.left ?_
      have hKept := hAccount (statementsKeep_accounts.cancelOwnedWithdrawal _ _ _ hRun)
      rcases (cancelOwnedWithdrawal_spec hRun).2 with hBooks | hReleased
      · exact .of_books hKept hBooks
      · exact fundsLeft_of_released hKept hReleased
  | claimWithdrawalSigningJob locked key =>
      refine transaction_keeps (Recorded feed l) h fun result db' hRun => h.left ?_
      exact fundsLeft_of_moved (hAccount (keepsAccounts_claimWithdrawalSigningJob _ _ _ hRun))
        (claimWithdrawalSigningJob_spec hRun).2
  | recordWithdrawalSubmission id signature =>
      refine transaction_keeps (Recorded feed l) h fun result db' hRun => h.left ?_
      exact fundsLeft_of_moved
        (hAccount (statementsKeep_accounts.markWithdrawalSubmitted _ _ _ _ _ hRun))
        (markWithdrawalSubmitted_spec hRun).2
  | failWithdrawalSubmission id =>
      refine transaction_keeps (Recorded feed l) h fun result db' hRun => h.left ?_
      exact fundsLeft_of_moved
        (hAccount (statementsKeep_accounts.markWithdrawalFailed _ _ _ _ hRun))
        (markWithdrawalFailed_spec hRun).2
  | environment usage now =>
      exact h.left (.of_books (fun _ => of_decide_eq_true hLeaves) rfl)
  | applyBillingCredit | settleRatingCandidate | creditDirectDeposit | importDoubleZeroUsage
  | confirmWithdrawal => exact absurd hLeaves (by simp [LeavesFunds])

end Recorded

end Hyperspace.Billing
