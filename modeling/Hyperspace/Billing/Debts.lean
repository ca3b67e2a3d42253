import Hyperspace.Billing.Reservations

/-!
# Debt beside free funds

A charge makes debt only of what no bucket can pay, and a credit pays debt first. The cancellation
of a withdrawal makes reserved cash free again and does not look at the debt.
-/

namespace Hyperspace.Billing

open Hyperspace.Foundations

/-- Debt is only carried when nothing is left to pay it. -/
def BillingBucketsRow.DebtLast (b : BillingBucketsRow) : Prop :=
  0 < b.debtMinor → b.promotionalMinor = 0 ∧ b.cashMinor = b.reservedWithdrawalMinor

instance (b : BillingBucketsRow) : Decidable b.DebtLast := inferInstanceAs (Decidable (_ → _))

/-- The buckets of the account, as the books hold them. -/
def Books.DebtLast (books : Books) (a : AccountId) : Prop := (books.buckets a).val.DebtLast

instance (books : Books) (a : AccountId) : Decidable (books.DebtLast a) :=
  inferInstanceAs (Decidable (BillingBucketsRow.DebtLast _))

/-- No withdrawal of the account is cancelled while the account is in debt. -/
def ReleasesWithoutDebt (a : AccountId) (db : BillingDb) : BillingOp → Prop
  | .cancelOwnedWithdrawal actor id =>
    actor.accountId = a →
      (∃ w ∈ db.books.withdrawals.find? id, w.accountId = a ∧
        w.status ∈ [.cooldown, .ready, .failed]) → (db.books.buckets a).val.debtMinor = 0
  | _ => True

/-! ### The buckets -/

section

variable {b : BillingBucketsRow} {n : Int}

theorem BillingBucketsRow.DebtLast.applyBucketCredit {kind : CreditKind} (hRead : b.Read)
    (hAmount : 0 ≤ n) (h : b.DebtLast) : (applyBucketCredit b n kind).DebtLast := by
  intro hDebt
  have hMax : max 0 n = n := max_eq_right hAmount
  simp only [Billing.applyBucketCredit, hMax] at hDebt
  have hOwed : 0 < b.debtMinor := by omega
  -- a credit that leaves a debt is used up
  have hRest : n - min b.debtMinor n = 0 := by omega
  obtain ⟨hPromotional, hCash⟩ := h hOwed
  simp only [Billing.applyBucketCredit, hMax, hRest, ite_self, addDouble_zero hRead.cash,
    addDouble_zero hRead.promotional]
  exact ⟨hPromotional, hCash⟩

theorem BillingBucketsRow.DebtLast.consumeBillingCharge (hRead : b.Read) (hCharge : 0 ≤ n)
    (h : b.DebtLast) : (consumeBillingCharge b n).DebtLast := by
  intro hDebt
  obtain ⟨hCash, hPromotional, hReserved, hOwed, hCovered⟩ := hRead.valid
  simp only [IsAmount] at hCash hPromotional hReserved hOwed
  simp only [Billing.consumeBillingCharge] at hDebt ⊢
  by_cases hRest : n - min b.promotionalMinor n -
      min (max 0 (b.cashMinor - b.reservedWithdrawalMinor)) (n - min b.promotionalMinor n) = 0
  · -- the buckets pay the charge, so the debt is an old one
    rw [max_eq_right hCharge, hRest, addDouble_zero hRead.debt] at hDebt
    have hLast := h hDebt
    omega
  · omega

end

/-! ### Postings -/

section

variable {books books' : Books} {a a' : AccountId} {n : Int}

theorem Books.DebtLast.update (h : books.DebtLast a) {buckets : StoredBuckets}
    (hBuckets : books'.buckets = Function.update books.buckets a' buckets)
    (hMine : (books.buckets a').val.DebtLast → a' = a → buckets.val.DebtLast) :
    books'.DebtLast a := by
  rw [Books.DebtLast, hBuckets]
  rcases eq_or_ne a' a with rfl | hne
  · rw [Function.update_self]
    exact hMine h rfl
  · rw [Function.update_of_ne hne.symm]
    exact h

theorem CreditPosted.debtLast {input : BillingCreditInput}
    (hPosted : CreditPosted input books books') (h : books.DebtLast a) : books'.DebtLast a := by
  cases hPosted with
  | mk hValid hEntry hAmount hRead =>
      exact h.update rfl fun hLast _ => hLast.applyBucketCredit hRead hAmount

theorem ChargePosted.debtLast {config : RetailBillingRuntimeConfig} {ratingId : Identifier}
    (hPosted : ChargePosted config a' ratingId n books books') (hCharge : 0 ≤ n)
    (h : books.DebtLast a) : books'.DebtLast a := by
  cases hPosted with
  | mk hValid hEntry hRead hSweep =>
      exact h.update rfl fun hLast _ => hLast.consumeBillingCharge hRead hCharge

theorem DepositCredited.debtLast {config : BillingConfig} {signature : Identifier}
    {amountBaseUnits : Int}
    (hCredited : DepositCredited config a' signature amountBaseUnits books books')
    (h : books.DebtLast a) : books'.DebtLast a := by
  cases hCredited with
  | below hReceipt hBelow =>
      cases hReceipt with
      | mk => exact h
  | posted hReceipt hPositive hPosted =>
      cases hReceipt with
      | mk =>
          cases hPosted with
          | mk hValid hEntry hRead hSweep =>
              exact h.update rfl fun hLast _ => hLast.applyBucketCredit hRead hPositive.le

theorem WithdrawalReserved.debtLast {id : Identifier}
    (hReserved : WithdrawalReserved a' books id books') (h : books.DebtLast a) :
    books'.DebtLast a := by
  cases hReserved with
  | mk hValid hInsert hId hStatus hSignature hAccount hDebt =>
      exact h.update rfl fun _ _ hOwed => absurd hOwed (by simp [hDebt])

theorem WithdrawalReleased.found {id : Identifier} {now : Timestamp}
    (hReleased : WithdrawalReleased a' id now books books') :
    ∃ w ∈ books.withdrawals.find? id, w.accountId = a' ∧
      w.status ∈ [.cooldown, .ready, .failed] := by
  cases hReleased with
  | mk hValid hFound hStatus hAccount => exact ⟨_, hFound, hAccount, hStatus⟩

theorem WithdrawalReleased.debtLast {id : Identifier} {now : Timestamp}
    (hReleased : WithdrawalReleased a' id now books books')
    (hDebt : a' = a → (books.buckets a').val.debtMinor = 0) (h : books.DebtLast a) :
    books'.DebtLast a := by
  cases hReleased with
  | mk hValid => exact h.update rfl fun _ hMine hOwed => absurd hOwed (by simp [hDebt hMine])

theorem WithdrawalDebited.debtLast {id : Identifier} {now : Timestamp}
    (hDebited : WithdrawalDebited a' id now books books') (h : books.DebtLast a) :
    books'.DebtLast a := by
  cases hDebited with
  | debited hValid =>
      refine h.update rfl fun hLast _ hOwed => ?_
      obtain ⟨hPromotional, hCash⟩ := hLast hOwed
      exact ⟨hPromotional, by simp only [hCash]⟩
  | alreadyDebited => exact h

theorem WithdrawalsMoved.debtLast (hMoved : WithdrawalsMoved books books')
    (h : books.DebtLast a) : books'.DebtLast a := by
  obtain ⟨f, hf, rfl, -⟩ := hMoved
  exact h

end

/-! ### Histories -/

section

variable {db : BillingDb} {a : AccountId}

theorem BillingOp.apply_debtLast {op : BillingOp} (hCond : ReleasesWithoutDebt a db op)
    (h : db.books.DebtLast a) : (op.apply db).books.DebtLast a := by
  cases op with
  | applyBillingCredit input =>
      refine transaction_keeps (fun d => d.books.DebtLast a) h fun _ db' hOk => ?_
      rcases (applyBillingCredit_spec hOk).2 with ⟨hSame, -⟩ | hPosted
      · exact hSame ▸ h
      · exact hPosted.debtLast h
  | settleRatingCandidate candidate config =>
      refine transaction_keeps (fun d => d.books.DebtLast a) h fun _ db' hOk => ?_
      rcases (settleRatingCandidate_spec hOk).2 with hSame | ⟨n, hPositive, -, hPosted⟩
      · exact hSame ▸ h
      · exact hPosted.debtLast hPositive.le h
  | creditDirectDeposit accountId signature amount config =>
      refine transaction_keeps (fun d => d.books.DebtLast a) h fun _ db' hOk => ?_
      rcases (creditDirectDeposit_spec hOk).2 with ⟨hSame, -⟩ | hCredited
      · exact hSame ▸ h
      · exact hCredited.debtLast h
  | importDoubleZeroUsage records config =>
      refine transaction_keeps (fun d => d.books.DebtLast a) h fun _ db' hOk => ?_
      rw [Books.DebtLast, (reservationsKept_importDoubleZeroUsage _ _ _ hOk).buckets]
      exact h
  | createWithdrawalRequest actor input config =>
      refine transaction_keeps (fun d => d.books.DebtLast a) h fun _ db' hOk => ?_
      rcases (createWithdrawalRequest_spec hOk).2 with hSame | ⟨-, hReserved, -⟩
      · exact hSame ▸ h
      · exact hReserved.debtLast h
  | cancelOwnedWithdrawal actor id =>
      refine transaction_keeps (fun d => d.books.DebtLast a) h fun _ db' hOk => ?_
      rcases (cancelOwnedWithdrawal_spec hOk).2 with hSame | hReleased
      · exact hSame ▸ h
      · obtain ⟨w, hFound, hAccount, hStatus⟩ := hReleased.found
        exact hReleased.debtLast
          (fun hMine => hMine ▸ hCond hMine ⟨w, hFound, hAccount.trans hMine, hStatus⟩) h
  | claimWithdrawalSigningJob locked key =>
      refine transaction_keeps (fun d => d.books.DebtLast a) h fun _ db' hOk => ?_
      exact (claimWithdrawalSigningJob_spec hOk).2.debtLast h
  | recordWithdrawalSubmission id signature =>
      refine transaction_keeps (fun d => d.books.DebtLast a) h fun _ db' hOk => ?_
      exact (markWithdrawalSubmitted_spec hOk).2.debtLast h
  | failWithdrawalSubmission id =>
      refine transaction_keeps (fun d => d.books.DebtLast a) h fun _ db' hOk => ?_
      exact (markWithdrawalFailed_spec hOk).2.debtLast h
  | confirmWithdrawal accountId id =>
      refine transaction_keeps (fun d => d.books.DebtLast a) h fun _ db' hOk => ?_
      rcases (confirmWithdrawal_spec hOk).2 with hSame | hDebited
      · exact hSame ▸ h
      · exact hDebited.debtLast h
  | environment usage now => exact h

/-- An account that starts empty and never cancels a withdrawal while in debt has, in every state,
debt only where no promotional and no unreserved cash is left. -/
theorem debt_carried_last {ops : List BillingOp}
    (hEmpty : (db.books.buckets a).val = emptyBuckets.val)
    (hMeet : StepsMeet step (ReleasesWithoutDebt a) db ops) :
    let buckets := ((db.after ops).books.buckets a).val
    0 < buckets.debtMinor →
      buckets.promotionalMinor = 0 ∧ buckets.cashMinor = buckets.reservedWithdrawalMinor := by
  have hStart : db.books.DebtLast a := by
    intro hOwed
    rw [hEmpty] at hOwed
    exact absurd hOwed (by decide)
  have hStep : ∀ d op d', Books.DebtLast d.books a → ReleasesWithoutDebt a d op →
      step d op = some d' → Books.DebtLast d'.books a := by
    intro d op d' hLast hCond hOp
    cases hOp
    exact BillingOp.apply_debtLast hCond hLast
  exact run_invariant_of_stepsMeet hStep hStart run_step hMeet

/-- A dollar is deposited and reserved, then usage of fifty cents is rated. -/
def indebtedHistory : List BillingOp :=
  [.creditDirectDeposit 1 9 1000000 splConfig,
    .createWithdrawalRequest ⟨1, 1⟩ ⟨100, some 5, 0⟩ splConfig,
    .settleRatingCandidate ⟨1, 3, 1, 50, 0, 0, 1000000, 2592000, 0, 0⟩
      ⟨.enforce, 0, 10, 1, 10000⟩]

/-- The usage becomes debt while the whole dollar is reserved. -/
theorem debt_carried_last_reserved :
    let buckets := (((emptyDb pilotAccount 0).after indebtedHistory).books.buckets 1).val
    0 < buckets.debtMinor →
      buckets.promotionalMinor = 0 ∧ buckets.cashMinor = buckets.reservedWithdrawalMinor :=
  debt_carried_last (by decide) ⟨trivial, trivial, trivial, trivial⟩

/-- Once the withdrawal is cancelled, a dollar of free cash sits beside the debt. -/
theorem cancellation_frees_cash_beside_debt :
    ¬ ∀ (ops : List BillingOp) (a : AccountId),
      let buckets := (((emptyDb pilotAccount 0).after ops).books.buckets a).val
      0 < buckets.debtMinor →
        buckets.promotionalMinor = 0 ∧ buckets.cashMinor = buckets.reservedWithdrawalMinor := by
  intro hClaim
  have hLast := hClaim (indebtedHistory ++ [.cancelOwnedWithdrawal ⟨1, 1⟩ 0]) 1
  revert hLast
  decide +kernel

end

end Hyperspace.Billing
