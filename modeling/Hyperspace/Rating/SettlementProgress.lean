import Hyperspace.Billing.StatementSuccess
import Hyperspace.Rating.PlanHistory

/-!
# Settling a candidate goes through

A statement fails only on a constraint, a foreign key, or a number that is too large for its
column. Where the candidate passes the constraints of `retail_usage_ratings` and the numbers of the
account fit, the whole transaction commits.
-/

namespace Hyperspace.Rating

open Hyperspace.Billing Hyperspace.ControlPlane Hyperspace.Foundations

/-- The rows that a rating refers to. -/
def Referenced (usage : UsageTables) (accountId : AccountId) (sessionId : SessionId)
    (planVersionId : Identifier) : Prop :=
  accountId ∈ usage.accounts ∧ (∃ x ∈ usage.sessions, x.id = sessionId) ∧
    ∃ v ∈ usage.planVersions, v.id = planVersionId

/-- The balances of an account fit the casts of the queries, and so does its cash in tokens. -/
def BalancesFit (db : BillingDb) (accountId : AccountId) (config : RetailBillingRuntimeConfig) :
    Prop :=
  let b := (db.books.buckets accountId).val
  (FitsInt b.cashMinor ∧ FitsInt b.promotionalMinor ∧ FitsInt b.reservedWithdrawalMinor ∧
    FitsInt b.debtMinor) ∧
    FitsBigint (b.cashMinor * config.tokenBaseUnitsPerBillingMinor)

instance (db : BillingDb) (accountId : AccountId) (config : RetailBillingRuntimeConfig) :
    Decidable (BalancesFit db accountId config) := inferInstanceAs (Decidable (_ ∧ _))

section

variable {db : BillingDb} {a : AccountId} {n : Int}

theorem consumeBillingCharge_valid {b : BillingBucketsRow} (hRead : b.Read) (hCharge : 0 ≤ n)
    (hSmall : n ≤ 2 ^ 52) : (consumeBillingCharge b n).Valid := by
  have hDebt := consumeBillingCharge_debtMinor hRead hCharge hSmall
  obtain ⟨⟨hCash, hPromotional, hReserved, hDebtAmount, hCovered⟩, -, -, -, hDebtInt⟩ := hRead
  simp only [BillingBucketsRow.Valid, IsAmount, FitsBigint, FitsInt] at *
  rw [hDebt]
  simp only [consumeBillingCharge]
  omega

theorem insertRetailUsageRating_ok {input : RatingInput} (hValid : input.Valid)
    (hRows : Referenced db.usage input.accountId input.sessionId input.planVersionId) :
    ∃ id db', insertRetailUsageRating input db = .ok (id, db') ∧
      db'.usage = db.usage ∧ db'.books = db.books := by
  rw [insertRetailUsageRating, dif_pos hValid, bind_of_ok (freshId_eq_ok.2 rfl),
    bind_of_ok (get_eq_ok.2 rfl)]
  cases hInsert : db.ratings.insert (input.toRating db.nextId hValid) with
  | none => exact ⟨_, _, rfl, rfl, rfl⟩
  | some ratings =>
      have hForeign : input.accountId ∈ db.usage.accounts ∧
          (∃ x ∈ db.usage.sessions, x.id = input.sessionId) ∧
          ∃ v ∈ db.usage.planVersions, v.id = input.planVersionId := hRows
      simp only
      rw [bind_of_ok (require_of hForeign)]
      exact ⟨_, _, rfl, rfl, rfl⟩

theorem postRatedCharge_ok {candidate : RetailRatingCandidate}
    {config : RetailBillingRuntimeConfig} {ratingId : Identifier}
    (hAccount : candidate.accountId ∈ db.usage.accounts)
    (hFits : BalancesFit db candidate.accountId config) (hCharge : 0 ≤ n) (hSmall : n ≤ 2 ^ 52) :
    ∃ posted db', postRatedCharge candidate config ratingId n db = .ok (posted, db') := by
  have hRead : (db.books.buckets candidate.accountId).val.Read :=
    ⟨(db.books.buckets candidate.accountId).2, hFits.1.1, hFits.1.2.1, hFits.1.2.2.1,
      hFits.1.2.2.2⟩
  have hValid := consumeBillingCharge_valid hRead hCharge hSmall
  let db₁ : BillingDb := { db with usage := db.usage.ensureOpenPlan candidate.accountId db.now }
  have hAccount₁ : candidate.accountId ∈ db₁.usage.accounts := by
    simp only [db₁, ensureOpenPlan_accounts]
    exact hAccount
  let entry : LedgerEntry :=
    ⟨candidate.accountId, .usageCharge, -n, "USD", .retailUsageRating, ratingId⟩
  have hAmount : FitsBigint entry.amountMinor := by
    simp only [FitsBigint, entry]
    omega
  obtain ⟨inserted, db₂, hLedger, hUsage₂⟩ := @insertLedgerEntry_ok db₁ entry hAmount hAccount₁
  rw [postRatedCharge, bind_of_ok (readBillingBuckets_ok hAccount hRead), bind_of_ok hLedger]
  cases inserted with
  | false => exact ⟨_, _, rfl⟩
  | true =>
      obtain ⟨db₃, hWrite, hUsage₃⟩ : ∃ db₃, writeBillingBuckets candidate.accountId
          (consumeBillingCharge (db.books.buckets candidate.accountId).val n) db₂ = .ok ((), db₃) ∧
            db₃.usage = db₂.usage := ⟨_, writeBillingBuckets_ok hValid, rfl⟩
      let cashSpentMinor := (db.books.buckets candidate.accountId).val.cashMinor -
        (consumeBillingCharge (db.books.buckets candidate.accountId).val n).cashMinor
      have hSpent : 0 ≤ cashSpentMinor ∧
          cashSpentMinor ≤ (db.books.buckets candidate.accountId).val.cashMinor := by
        have hCash := @consumeBillingCharge_cash_le _ n hRead
        simp only [cashSpentMinor]
        omega
      have hSweepFits : FitsBigint cashSpentMinor ∧
          FitsBigint (cashSpentMinor * config.tokenBaseUnitsPerBillingMinor) := by
        refine ⟨?_, fitsBigint_mul hSpent.1 hSpent.2 hFits.2⟩
        have hCash := hFits.1.1.2
        exact ⟨by omega, by omega⟩
      have hAccount₃ : candidate.accountId ∈ db₃.usage.accounts := by
        rw [hUsage₃, hUsage₂]
        exact hAccount₁
      obtain ⟨db₄, hSweep⟩ := @insertCashSweepRequest_ok db₃ (cashSweep candidate.accountId
        .retailUsageRating ratingId cashSpentMinor config.tokenMint
        config.tokenBaseUnitsPerBillingMinor) hSweepFits hAccount₃
      simp only [if_true]
      rw [bind_of_ok hWrite, bind_of_ok hSweep]
      exact ⟨_, _, rfl⟩

theorem settleRatingCandidate_ok {candidate : RetailRatingCandidate}
    {config : RetailBillingRuntimeConfig} (hValid : (candidate.toRatingInput config.mode).Valid)
    (hRows : Referenced db.usage candidate.accountId candidate.sessionId candidate.planVersionId)
    (hFits : BalancesFit db candidate.accountId config) :
    ∃ r, settleRatingCandidate candidate config db = .ok r := by
  obtain ⟨rating, db₁, hInsert, hUsage₁, hBooks₁⟩ := insertRetailUsageRating_ok hValid hRows
  rw [settleRatingCandidate, bind_of_ok hInsert]
  cases rating with
  | none => exact ⟨_, rfl⟩
  | some ratingId =>
      simp only
      split
      · exact ⟨_, rfl⟩
      · have hAccount₁ : candidate.accountId ∈ db₁.usage.accounts := by
          rw [hUsage₁]
          exact hRows.1
        let accumulated := (db₁.accruals candidate.accountId).val + candidate.chargeMicrominor
        have hRemainder : IsAmount (accumulated % microminorPerMinor) := by
          simp only [IsAmount, FitsBigint, microminorPerMinor]
          omega
        rw [bind_of_ok (lockBillingAccrual_ok hAccount₁),
          bind_of_ok (updateBillingAccrual_ok hRemainder)]
        split
        · exact ⟨_, rfl⟩
        · rename_i hPositive
          have hSmall : accumulated / microminorPerMinor ≤ 2 ^ 52 :=
            posted_le (db₁.accruals candidate.accountId).2 hValid.charge_valid
          let db₂ : BillingDb := { db₁ with
            usage := db₁.usage.ensureOpenPlan candidate.accountId db₁.now
            accruals := Function.update db₁.accruals candidate.accountId ⟨_, hRemainder⟩ }
          have hAccount₂ : candidate.accountId ∈ db₂.usage.accounts := by
            simp only [db₂, ensureOpenPlan_accounts]
            exact hAccount₁
          have hFits₂ : BalancesFit db₂ candidate.accountId config := by
            simp only [BalancesFit, db₂, hBooks₁]
            exact hFits
          obtain ⟨posted, db₃, hPosted⟩ := @postRatedCharge_ok db₂ _ candidate config ratingId
            hAccount₂ hFits₂ (not_le.1 hPositive).le hSmall
          rw [bind_of_ok hPosted]
          exact ⟨_, rfl⟩

end

end Hyperspace.Rating
