import Hyperspace.Billing.RecordedFunds

/-!
# Amounts that every query can read

The tables keep amounts as `bigint`, and a deposit or a credit is admitted up to the largest safe
integer of JavaScript; but the queries cast what they read to `int`. So the account works as long
as its totals are below two to the thirty-first, and no longer.
-/

namespace Hyperspace.Billing

open Hyperspace.Foundations

section

variable {a : AccountId} {db : BillingDb}

theorem convertDepositToBillingMinor_eq_ok {r d u : Int} {c : DepositConversion}
    (h : convertDepositToBillingMinor r d u = .ok c) : c = ⟨(r + d) / u, (r + d) % u⟩ := by
  rw [convertDepositToBillingMinor] at h
  split at h
  · cases h
  · simp only at h
    split at h
    · cases h
    · exact (Except.ok.inj h).symm

theorem DepositCredited.converted {config : BillingConfig} {signature : Identifier} {n : Int}
    {books books' : Books} (h : DepositCredited config a signature n books books') :
    ∃ c, convertDepositToBillingMinor (books.depositRemainders a config.solanaTokenMint).val n
      config.solanaTokenBaseUnitsPerBillingMinor = .ok c ∧ FitsInt c.amountMinor := by
  cases h with
  | @below c _ hReceipt _ =>
      cases hReceipt with
      | mk _ hConvert _ _ _ _ hInt => exact ⟨c, hConvert, hInt⟩
  | @posted c _ _ hReceipt _ _ =>
      cases hReceipt with
      | mk _ hConvert _ _ _ _ hInt => exact ⟨c, hConvert, hInt⟩

theorem CreditPosted.amount_read {input : BillingCreditInput} {books : Books}
    (h : CreditPosted input books db.books) (hReadable : AmountsReadable input.accountId db) :
    FitsInt input.amountMinor.num := by
  obtain ⟨entries, hList⟩ := hReadable.entries db.books.ledger.rows.length
  rw [listLedgerEntries, bind_of_ok (get_eq_ok.2 rfl)] at hList
  obtain ⟨_, db₁, hCasts, -⟩ := bind_eq_ok.1 hList
  have hAll := (require_eq_ok.1 hCasts).1
  generalize hBooks : db.books = books' at h hAll
  cases h with
  | mk hValid hAdded _ _ =>
      obtain ⟨entry, hInsert, hAccount, -, hAmount⟩ := hAdded.added
      rw [← hAmount]
      refine hAll entry ?_
      rw [List.take_of_length_le (by simpa using List.length_filter_le _ _)]
      refine List.mem_reverse.2 (List.mem_filter.2 ⟨?_, by simpa using hAccount⟩)
      exact (Table.mem_insert hInsert).2 (.inr rfl)

end

namespace AmountFeed

variable {feed : AmountFeed} {l : List Admission} {x : Admission} {db : BillingDb}

theorem apply_deposit {signature : Identifier} {r : DirectDepositResult × BillingDb}
    (h : creditDirectDeposit feed.accountId signature (feed.deposits signature) feed.config db =
      .ok r) : (feed.op (.deposit signature)).apply db = r.2 :=
  congrArg Prod.snd (transaction_of_ok h)

theorem apply_credit {creditId : Identifier} {r : Unit × BillingDb}
    (h : applyBillingCredit
      { accountId := feed.accountId, amountMinor := feed.credits creditId
        kind := feed.kinds creditId, sourceType := .adminManualCredit, sourceId := creditId } db =
      .ok r) : (feed.op (.credit creditId)).apply db = r.2 :=
  congrArg Prod.snd (transaction_of_ok h)

/-- As long as the totals fit, nothing is refused and the tables hold what was admitted. -/
theorem admission_ok (h : Recorded feed l db) (hAdmits : feed.Admits (l ++ [x]))
    (hFits : feed.Fits (l ++ [x])) :
    feed.Commits db x ∧ Recorded feed (l ++ [x]) ((feed.op x).apply db) := by
  have hBefore := hFits.initial hAdmits
  have hCashNonneg := @Admits.creditedMinor_nonneg _ _ hAdmits.initial .cash
  have hPromotionalNonneg := @Admits.creditedMinor_nonneg _ _ hAdmits.initial .promotional
  have hDeposited := hAdmits.initial.deposited_nonneg
  cases x with
  | deposit signature =>
      by_cases hOld : signature ∈ signatures l
      · obtain ⟨r, db', hRun, hRecorded⟩ := h.deposit_old hBefore hAdmits.initial hOld
        exact ⟨⟨_, hRun⟩, apply_deposit hRun ▸ hRecorded⟩
      · obtain ⟨hMinor, -⟩ := Recorded.conversion_bounds hAdmits hOld
        have hCash := (Recorded.totals_deposit hAdmits.unit_pos hOld).1
        have hInt : FitsInt (Recorded.conversion feed l signature).amountMinor := by
          have hTotal := hFits.1
          rw [hCash] at hTotal
          simp only [FitsInt, cashMinor] at hTotal ⊢
          omega
        obtain ⟨r, db', hRun, hRecorded⟩ := h.deposit_new hBefore hAdmits hOld hInt
        exact ⟨⟨_, hRun⟩, apply_deposit hRun ▸ hRecorded⟩
  | credit creditId =>
      by_cases hOld : creditId ∈ creditIds l
      · obtain ⟨r, db', hRun, hRecorded⟩ := h.credit_old hBefore hAdmits hOld
        exact ⟨⟨_, hRun⟩, apply_credit hRun ▸ hRecorded⟩
      · have hPositive := (hAdmits.credits_pos creditId (by simp)).1
        have hInt : FitsInt (feed.credits creditId) := by
          have hCash := hFits.1
          have hPromotional := hFits.2.1
          rw [(@Recorded.totals_credit feed l creditId hOld).1] at hCash
          rw [feed.creditedMinor_new hOld] at hPromotional
          cases hKind : feed.kinds creditId with
          | cash =>
              rw [hKind, if_pos rfl] at hCash
              simp only [FitsInt, cashMinor] at hCash ⊢
              omega
          | promotional =>
              rw [hKind, if_pos rfl] at hPromotional
              simp only [FitsInt] at hPromotional ⊢
              omega
        obtain ⟨r, db', hRun, hRecorded⟩ := h.credit_new hBefore hAdmits hOld hInt
        exact ⟨⟨_, hRun⟩, apply_credit hRun ▸ hRecorded⟩
  | other op => exact ⟨trivial, h.other hBefore (hAdmits.others op (by simp))⟩

/-- Where an admission commits and the account can be read after it, the totals still fit. -/
theorem fits_of_admission (h : Recorded feed l db) (hFits : feed.Fits l)
    (hAdmits : feed.Admits (l ++ [x])) (hCommits : feed.Commits db x)
    (hReadable : AmountsReadable feed.accountId ((feed.op x).apply db)) :
    feed.Fits (l ++ [x]) := by
  suffices hRecorded : Recorded feed (l ++ [x]) ((feed.op x).apply db) from
    hRecorded.fits_of_readable hReadable
  cases x with
  | deposit signature =>
      by_cases hOld : signature ∈ signatures l
      · obtain ⟨r, db', hRun, hRecorded⟩ := h.deposit_old hFits hAdmits.initial hOld
        exact apply_deposit hRun ▸ hRecorded
      · obtain ⟨r, hCommit⟩ := hCommits
        have hInt : FitsInt (Recorded.conversion feed l signature).amountMinor := by
          rcases (creditDirectDeposit_spec hCommit).2 with ⟨-, hTaken⟩ | hCredited
          · exact absurd ((h.receiptKeys signature).1 hTaken) hOld
          · obtain ⟨c, hConvert, hInt⟩ := hCredited.converted
            rw [h.remainder, convertDepositToBillingMinor_eq_ok hConvert] at *
            exact hInt
        obtain ⟨r, db', hRun, hRecorded⟩ := h.deposit_new hFits hAdmits hOld hInt
        exact apply_deposit hRun ▸ hRecorded
  | credit creditId =>
      by_cases hOld : creditId ∈ creditIds l
      · obtain ⟨r, db', hRun, hRecorded⟩ := h.credit_old hFits hAdmits hOld
        exact apply_credit hRun ▸ hRecorded
      · obtain ⟨r, hCommit⟩ := hCommits
        have hInt : FitsInt (feed.credits creditId) := by
          rcases (applyBillingCredit_spec hCommit).2 with ⟨-, hTaken⟩ | hPosted
          · exact absurd ((h.creditEntries creditId).1 hTaken) hOld
          · rw [apply_credit hCommit] at hReadable
            simpa only [Rat.num_intCast] using hPosted.amount_read hReadable
        obtain ⟨r, db', hRun, hRecorded⟩ := h.credit_new hFits hAdmits hOld hInt
        exact apply_credit hRun ▸ hRecorded
  | other op => exact h.other hFits (hAdmits.others op (by simp))

theorem fits_nil : feed.Fits [] := by
  simp [Fits, cashMinor, ledgerMinor, depositedBaseUnits, creditedMinor, signatures, creditIds,
    FitsInt]

theorem neverBreaks_append : feed.NeverBreaks db (l ++ [x]) ↔ feed.NeverBreaks db l ∧
    feed.Commits (db.after (l.map feed.op)) x ∧
      AmountsReadable feed.accountId ((feed.op x).apply (db.after (l.map feed.op))) := by
  have hAfter : ∀ {before : List Admission} {y : Admission},
      db.after ((before ++ [y]).map feed.op) =
        (feed.op y).apply (db.after (before.map feed.op)) := by
    intro before y
    rw [List.map_append, BillingDb.after_append]
    rfl
  constructor
  · intro h
    refine ⟨fun earlier y later hSplit => h earlier y (later ++ [x]) ?_, ?_⟩
    · rw [hSplit, List.append_assoc, List.cons_append]
    · rw [← hAfter]
      exact h l x [] rfl
  · rintro ⟨hBefore, hCommits, hReadable⟩ earlier y later hSplit
    rcases List.eq_nil_or_concat later with rfl | ⟨later, z, rfl⟩
    · obtain ⟨rfl, hSame⟩ := List.append_inj' hSplit rfl
      cases hSame
      exact ⟨hCommits, hAfter ▸ hReadable⟩
    · rw [List.concat_eq_append, ← List.cons_append, ← List.append_assoc] at hSplit
      exact hBefore earlier y later (List.append_inj' hSplit rfl).1

/-- Up to the totals of an `int`, and no further: every admission commits and every query reads
the account after it exactly if cash, promotional money and the ledger all stay below. -/
theorem neverBreaks_iff_fits {usage : UsageTables} {now : Timestamp}
    (hAccount : feed.accountId ∈ usage.accounts) (hAdmits : feed.Admits l) :
    feed.NeverBreaks (emptyDb usage now) l ↔ feed.Fits l := by
  suffices hBoth : (feed.NeverBreaks (emptyDb usage now) l ↔ feed.Fits l) ∧
      (feed.Fits l → Recorded feed l ((emptyDb usage now).after (l.map feed.op))) from hBoth.1
  induction l using List.reverseRecOn with
  | nil =>
      refine ⟨⟨fun _ => fits_nil, fun _ earlier x later hSplit => ?_⟩,
        fun _ => recorded_nil hAccount⟩
      simp at hSplit
  | append_singleton l x ih =>
      obtain ⟨hBefore, hRecorded⟩ := ih hAdmits.initial
      have hAfter : (emptyDb usage now).after ((l ++ [x]).map feed.op) =
          (feed.op x).apply ((emptyDb usage now).after (l.map feed.op)) := by
        rw [List.map_append, BillingDb.after_append]
        rfl
      rw [neverBreaks_append, hBefore, hAfter]
      refine ⟨⟨?_, fun hFits => ?_⟩, fun hFits => ?_⟩
      · rintro ⟨hFits, hCommits, hReadable⟩
        exact fits_of_admission (hRecorded hFits) hFits hAdmits hCommits hReadable
      · have hInitial := hFits.initial hAdmits
        obtain ⟨hCommits, hHeld⟩ := admission_ok (hRecorded hInitial) hAdmits hFits
        exact ⟨hInitial, hCommits, hHeld.readable hFits⟩
      · exact (admission_ok (hRecorded (hFits.initial hAdmits)) hAdmits hFits).2

end AmountFeed

/-- A deployment in native mode with one base unit to a billing unit: some small deposits, one of
three billion, and one of a billion. -/
def nativeFeed : AmountFeed where
  accountId := 1
  config := { splConfig with solanaAssetKind := .native, solanaTokenBaseUnitsPerBillingMinor := 1 }
  deposits signature :=
    if signature = 5 then 3000000000 else if signature = 6 then 1000000000 else 7
  credits creditId := creditId
  kinds creditId := if creditId = 2 then .cash else .promotional

/-- A few amounts that stay below the bound, one of them handed in twice. -/
theorem neverBreaks_small :
    let l : List Admission := [.deposit 6, .credit 2, .credit 3, .deposit 6, .deposit 1]
    nativeFeed.NeverBreaks (emptyDb soleAccount 0) l := by
  refine (AmountFeed.neverBreaks_iff_fits (by decide) ?_).2 (by decide +kernel)
  refine ⟨by decide, by decide +kernel, by decide +kernel, by decide +kernel, ?_⟩
  intro op hMem
  simp at hMem

/-- A deposit of three SOL, well below the largest safe integer, is refused for good. -/
theorem large_deposit_refused :
    nativeFeed.unit = 1 ∧ nativeFeed.Admits [.deposit 5] ∧
      nativeFeed.deposits 5 ≤ maxSafeInteger ∧
      ¬ nativeFeed.NeverBreaks (emptyDb soleAccount 0) [.deposit 5] := by
  refine ⟨rfl, ⟨by decide, by decide +kernel, by decide +kernel, by decide +kernel, ?_⟩,
    by decide, fun h => ?_⟩
  · intro op hMem
    simp at hMem
  · obtain ⟨r, hRun⟩ := (h [] (.deposit 5) [] rfl).1
    have hFails : (creditDirectDeposit nativeFeed.accountId 5 (nativeFeed.deposits 5)
        nativeFeed.config (emptyDb soleAccount 0)).isOk = false := by decide +kernel
    rw [show creditDirectDeposit nativeFeed.accountId 5 (nativeFeed.deposits 5)
      nativeFeed.config (emptyDb soleAccount 0) = _ from hRun] at hFails
    cases hFails

end Hyperspace.Billing
