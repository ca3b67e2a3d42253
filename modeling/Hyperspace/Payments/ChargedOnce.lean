import Hyperspace.Payments.ConfigPayment

/-!
# A config payment is charged once

A transfer that may still land, or has landed, is the one the row holds as submitted or confirmed.
The statements that overwrite the row do not look at what it holds: a call that lost its claim, or
acts on a status it read long ago, takes a live transfer out of the row, and the next call pays
again. Where every overwriting statement finds no live transfer in the row, at most one transfer is
finalized.
-/

namespace Hyperspace.Payments

open Hyperspace.Billing Hyperspace.Foundations

/-! ### What the row holds -/

/-- The row stands for this transfer. -/
def SolanaConfigPayment.Holds (p : SolanaConfigPayment) (t : Transfer) : Prop :=
  (p.status = .submitted ∨ p.status = .confirmed) ∧ p.transactionSignature = some t

instance (p : SolanaConfigPayment) (t : Transfer) : Decidable (p.Holds t) :=
  inferInstanceAs (Decidable ((_ ∨ _) ∧ _))

def PaymentState.Holds (s : PaymentState) (t : Transfer) : Prop := ∃ p ∈ s.row, p.Holds t

instance (s : PaymentState) (t : Transfer) : Decidable (s.Holds t) :=
  inferInstanceAs (Decidable (∃ p ∈ s.row, p.Holds t))

def PaymentState.signature (s : PaymentState) : Option Transfer :=
  s.row.bind (·.transactionSignature)

/-- The row holds a transfer that was sent and did not fail. -/
def PaymentState.Live (s : PaymentState) (t : Transfer) : Prop :=
  s.Holds t ∧ s.chain t ≠ .unsent ∧ s.chain t ≠ .failed

instance (s : PaymentState) (t : Transfer) : Decidable (s.Live t) :=
  inferInstanceAs (Decidable (_ ∧ _ ∧ _))

/-- The statement takes no live transfer out of the row, and sends only what the row holds. -/
def PaymentState.Safe (s : PaymentState) : Statement → Prop
  | .fail _ => ∀ t ∈ s.signature, ¬ s.Live t
  | .recordSubmission transfer _ => ∀ t ∈ s.signature, s.Live t → t = transfer
  | .send transfer => s.chain transfer = .unsent → s.Holds transfer
  | _ => True

instance (s : PaymentState) : (statement : Statement) → Decidable (s.Safe statement)
  | .fail _ => inferInstanceAs (Decidable (∀ t ∈ s.signature, ¬ s.Live t))
  | .recordSubmission transfer _ =>
    inferInstanceAs (Decidable (∀ t ∈ s.signature, s.Live t → t = transfer))
  | .send transfer => inferInstanceAs (Decidable (s.chain transfer = .unsent → s.Holds transfer))
  | .read | .insertPayment _ | .linkSession _ | .claim | .recordFeeEstimate _ | .confirm =>
    inferInstanceAs (Decidable True)

/-- Every statement the step executes is safe. -/
def Guarded (s : PaymentState) : PaymentEvent → Prop
  | .proceed call answer =>
    ∀ c ∈ s.calls call, ∀ next ∈ advance c.input s.row s.now c.step answer, s.Safe next.1
  | _ => True

instance (s : PaymentState) : (event : PaymentEvent) → Decidable (Guarded s event)
  | .proceed call answer =>
    inferInstanceAs (Decidable (∀ c ∈ s.calls call,
      ∀ next ∈ advance c.input s.row s.now c.step answer, s.Safe next.1))
  | .charge _ _ | .exception _ | .timePasses _ | .newBlock | .land _ _ | .finalize _ =>
    inferInstanceAs (Decidable True)

/-! ### What a step can do -/

section Advance

variable {input : ConfigPaymentInput} {row : Option SolanaConfigPayment} {now : Timestamp}
  {current next : ChargeStep} {answer : StepAnswer} {statement : Statement}

theorem advance_claim (h : advance input row now current answer = some (.claim, next)) :
    ∃ p ∈ row, p.Claimable now := by
  unfold advance at h
  split at h
  all_goals grind

theorem advance_confirm (h : advance input row now current answer = some (.confirm, next)) :
    ∃ signature guarded result, current = .confirm signature guarded result := by
  unfold advance at h
  split at h
  all_goals
    repeat' split at h
    all_goals cases h
  exact ⟨_, _, _, rfl⟩

theorem recoverSubmittedPayment_ne_confirm (p : SolanaConfigPayment) (signature : Transfer)
    (guarded : Bool) (result : ConfigPaymentResult) :
    recoverSubmittedPayment p ≠ .confirm signature guarded result := by
  unfold recoverSubmittedPayment
  split
  all_goals nofun

theorem afterError_ne_confirm (error : ChargeError) (signature : Transfer) (guarded : Bool)
    (result : ConfigPaymentResult) :
    afterError error row ≠ .confirm signature guarded result := by
  unfold afterError
  repeat' split
  all_goals nofun

theorem afterStatus_eq_confirm {status : SignatureStatus} {signature t : Transfer} {fee : Nat}
    {guarded guarded' : Bool} {otherwise : ChargeStep} {result : ConfigPaymentResult}
    (h : afterStatus status signature fee guarded otherwise = .confirm t guarded' result)
    (hOtherwise : otherwise ≠ .confirm t guarded' result) :
    status = .finalized ∧ signature = t := by
  cases status with
  | err => cases h
  | finalized =>
      cases h
      exact ⟨rfl, rfl⟩
  | notFound => exact absurd h hOtherwise
  | notFinalized => exact absurd h hOtherwise

/-- A call confirms a transfer only after it was told that the transfer is finalized. -/
theorem advance_confirming {signature : Transfer} {guarded : Bool} {result : ConfigPaymentResult}
    (h : advance input row now current answer =
      some (statement, .confirm signature guarded result)) :
    answer = .status .finalized ∧ current.transfer = some signature := by
  have hNext : ∀ {executed : Statement} {step : ChargeStep},
      some (executed, step) = some (statement, .confirm signature guarded result) →
        step = .confirm signature guarded result :=
    fun hEq => congrArg Prod.snd (Option.some.inj hEq)
  unfold advance at h
  split at h
  all_goals
    repeat' split at h
    all_goals first
      | cases h
      | exact absurd (hNext h) (recoverSubmittedPayment_ne_confirm _ _ _ _)
      | exact absurd (hNext h) (afterError_ne_confirm _ _ _ _)
      | obtain ⟨rfl, rfl⟩ := afterStatus_eq_confirm (hNext h) nofun
        exact ⟨rfl, rfl⟩

end Advance

/-! ### The invariant -/

/-- Between the row and the chain. -/
structure RowInv (row : Option SolanaConfigPayment) (chain : Transfer → Fate) : Prop where
  /-- A transfer that was sent and did not fail is the one the row holds. -/
  held : ∀ t, chain t ≠ .unsent → chain t ≠ .failed → ∃ p ∈ row, p.Holds t
  confirmed : ∀ p ∈ row, p.status = .confirmed →
    ∃ t, p.transactionSignature = some t ∧ chain t = .finalized

/-- The row holds every transfer that may still land, and no call knows less than it acts on. -/
structure ChargeInv (s : PaymentState) : Prop where
  row : RowInv s.row s.chain
  /-- A call that is about to confirm a transfer knows that it is finalized. -/
  confirming : ∀ call, ∀ c ∈ s.calls call, ∀ t guarded result,
    c.step = .confirm t guarded result → s.chain t = .finalized

section Statements

variable {row : Option SolanaConfigPayment} {chain : Transfer → Fate} {s : PaymentState}
  {lastValidBlockHeight : Transfer → Nat}

theorem RowInv.map (hInv : RowInv row chain) {f : SolanaConfigPayment → SolanaConfigPayment}
    (hStatus : ∀ p, (f p).status = p.status)
    (hSignature : ∀ p, (f p).transactionSignature = p.transactionSignature) :
    RowInv (row.map f) chain := by
  constructor
  · intro t hSent hOk
    obtain ⟨p, hp, hHolds⟩ := hInv.held t hSent hOk
    refine ⟨f p, Option.mem_map_of_mem f hp, ?_⟩
    rw [SolanaConfigPayment.Holds, hStatus, hSignature]
    exact hHolds
  · intro p hp hConfirmed
    obtain ⟨q, hq, rfl⟩ := Option.mem_map.1 hp
    rw [hStatus] at hConfirmed
    rw [hSignature]
    exact hInv.confirmed q hq hConfirmed

/-- A row that holds no live transfer may be overwritten, as long as it is not confirmed. -/
theorem RowInv.overwrite (hInv : RowInv row chain)
    {f : SolanaConfigPayment → SolanaConfigPayment}
    (hNotLive : ∀ p ∈ row, ∀ t, p.Holds t → chain t = .unsent ∨ chain t = .failed)
    (hStatus : ∀ p, (f p).status ≠ .confirmed) : RowInv (row.map f) chain := by
  constructor
  · intro t hSent hOk
    obtain ⟨p, hp, hHolds⟩ := hInv.held t hSent hOk
    rcases hNotLive p hp t hHolds with hUnsent | hFailed
    · exact absurd hUnsent hSent
    · exact absurd hFailed hOk
  · intro p hp hConfirmed
    obtain ⟨q, _, rfl⟩ := Option.mem_map.1 hp
    exact absurd hConfirmed (hStatus q)

theorem RowInv.insert (hInv : RowInv row chain) (input : ConfigPaymentInput) :
    RowInv (some (row.getD input.newPayment)) chain := by
  cases row with
  | some p => exact hInv
  | none =>
      constructor
      · intro t hSent hOk
        obtain ⟨p, hp, _⟩ := hInv.held t hSent hOk
        cases hp
      · rintro p hp hConfirmed
        cases hp
        cases hConfirmed

theorem SolanaConfigPayment.Claimable.not_holds {p : SolanaConfigPayment} {now : Timestamp}
    (h : p.Claimable now) (t : Transfer) : ¬ p.Holds t := by
  rintro ⟨hStatus, _⟩
  rcases h with h | h | ⟨h, _⟩
  all_goals
    rw [h] at hStatus
    rcases hStatus with h | h
    all_goals cases h

/-- Confirming is sound because the row holds every finalized transfer. -/
theorem RowInv.confirm (hInv : RowInv row chain) {t : Transfer} (hFinal : chain t = .finalized) :
    RowInv (row.map (·.confirm)) chain := by
  have hHeld : ∃ p ∈ row, p.Holds t := hInv.held t (by rw [hFinal]; nofun) (by rw [hFinal]; nofun)
  constructor
  · intro u hSent hOk
    obtain ⟨p, hp, _, hSignature⟩ := hInv.held u hSent hOk
    exact ⟨p.confirm, Option.mem_map_of_mem _ hp, .inr rfl, hSignature⟩
  · intro p hp _
    obtain ⟨q, hq, rfl⟩ := Option.mem_map.1 hp
    obtain ⟨q', hq', _, hSignature⟩ := hHeld
    cases Option.mem_unique hq hq'
    exact ⟨t, hSignature, hFinal⟩

theorem RowInv.recordSubmission (hInv : RowInv row chain) {transfer : Transfer}
    {height feeLamports : Nat}
    (hSafe : ∀ p ∈ row, ∀ t, p.Holds t → chain t ≠ .unsent → chain t ≠ .failed → t = transfer) :
    RowInv (row.map (·.recordSubmission transfer height feeLamports)) chain := by
  constructor
  · intro t hSent hOk
    obtain ⟨p, hp, hHolds⟩ := hInv.held t hSent hOk
    have hSame : t = transfer := hSafe p hp t hHolds hSent hOk
    subst hSame
    exact ⟨_, Option.mem_map_of_mem _ hp, .inl rfl, rfl⟩
  · intro p hp hConfirmed
    obtain ⟨q, _, rfl⟩ := Option.mem_map.1 hp
    cases hConfirmed

theorem RowInv.update (hInv : RowInv row chain) {t : Transfer} {fate : Fate}
    (hHeld : fate ≠ .failed → ∃ p ∈ row, p.Holds t) (hNotFinal : chain t ≠ .finalized) :
    RowInv row (Function.update chain t fate) := by
  constructor
  · intro u hSent hOk
    by_cases hSame : u = t
    · subst hSame
      rw [Function.update_self] at hOk
      exact hHeld hOk
    · rw [Function.update_of_ne hSame] at hSent hOk
      exact hInv.held u hSent hOk
  · intro p hp hConfirmed
    obtain ⟨u, hSignature, hFinal⟩ := hInv.confirmed p hp hConfirmed
    have hOther : u ≠ t := fun hSame => hNotFinal (hSame ▸ hFinal)
    exact ⟨u, hSignature, by rw [Function.update_of_ne hOther]; exact hFinal⟩

theorem live_of_holds {p : SolanaConfigPayment} {t : Transfer} (hp : p ∈ s.row)
    (hHolds : p.Holds t) (hSent : s.chain t ≠ .unsent) (hOk : s.chain t ≠ .failed) :
    t ∈ s.signature ∧ s.Live t :=
  ⟨Option.mem_bind_iff.2 ⟨p, hp, hHolds.2⟩, ⟨p, hp, hHolds⟩, hSent, hOk⟩

/-- What a statement needs to keep the invariant: that it is safe, and what its call knows. -/
theorem RowInv.execute (hInv : RowInv s.row s.chain) {statement : Statement}
    (hSafe : s.Safe statement) (hClaim : statement = .claim → ∃ p ∈ s.row, p.Claimable s.now)
    (hConfirm : statement = .confirm → ∃ t, s.chain t = .finalized) :
    RowInv (s.execute lastValidBlockHeight statement).row
      (s.execute lastValidBlockHeight statement).chain := by
  cases statement with
  | read => exact hInv
  | insertPayment input => exact hInv.insert input
  | linkSession sessionId =>
      refine hInv.map (fun p => ?_) (fun p => ?_)
      all_goals
        unfold SolanaConfigPayment.linkSession
        split
        all_goals rfl
  | claim =>
      obtain ⟨p, hp, hClaimable⟩ := hClaim rfl
      refine hInv.overwrite (fun q hq t hHolds => ?_) (fun _ => nofun)
      cases Option.mem_unique hp hq
      exact absurd hHolds (hClaimable.not_holds t)
  | recordFeeEstimate feeLamports => exact hInv.map (fun _ => rfl) (fun _ => rfl)
  | recordSubmission transfer feeLamports =>
      refine hInv.recordSubmission fun p hp t hHolds hSent hOk => ?_
      obtain ⟨hSignature, hLive⟩ := live_of_holds hp hHolds hSent hOk
      exact hSafe t hSignature hLive
  | confirm =>
      obtain ⟨t, hFinal⟩ := hConfirm rfl
      exact hInv.confirm hFinal
  | fail code =>
      refine hInv.overwrite (fun p hp t hHolds => ?_) (fun _ => nofun)
      by_contra hNot
      obtain ⟨hSent, hOk⟩ := not_or.1 hNot
      obtain ⟨hSignature, hLive⟩ := live_of_holds hp hHolds hSent hOk
      exact hSafe t hSignature hLive
  | send transfer =>
      simp only [PaymentState.execute]
      split
      · rename_i hUnsent
        exact hInv.update (fun _ => hSafe hUnsent) (by rw [hUnsent]; nofun)
      · exact hInv

theorem execute_finalized {statement : Statement} {t : Transfer} (h : s.chain t = .finalized) :
    (s.execute lastValidBlockHeight statement).chain t = .finalized := by
  cases statement with
  | send transfer =>
      simp only [PaymentState.execute]
      split
      · rename_i hUnsent
        have hOther : t ≠ transfer := by
          rintro rfl
          rw [h] at hUnsent
          cases hUnsent
        simp only [PaymentState.setFate]
        rw [Function.update_of_ne hOther]
        exact h
      · exact h
  | _ => exact h

theorem execute_calls {statement : Statement} :
    (s.execute lastValidBlockHeight statement).calls = s.calls := by
  cases statement with
  | send transfer =>
      simp only [PaymentState.execute]
      split
      all_goals rfl
  | _ => rfl

end Statements

/-! ### Runs -/

section Runs

variable {lastValidBlockHeight : Transfer → Nat} {s s' : PaymentState} {event : PaymentEvent}

theorem chargeInv_noPayment : ChargeInv noPayment where
  row := ⟨fun _ hSent => absurd rfl hSent, fun p hp => absurd hp (Option.not_mem_none p)⟩
  confirming _ c hc := absurd hc (Option.not_mem_none c)

theorem ChargeInv.setStep (hInv : ChargeInv s) {call : CallId} {input : ConfigPaymentInput}
    {next : ChargeStep}
    (hNext : ∀ t guarded result, next = .confirm t guarded result → s.chain t = .finalized) :
    ChargeInv (s.setStep call input next) := by
  refine ⟨hInv.row, fun other c hc t guarded result hStep => ?_⟩
  simp only [PaymentState.setStep] at hc
  by_cases hOther : other = call
  · subst hOther
    rw [Function.update_self] at hc
    cases hc
    exact hNext t guarded result hStep
  · rw [Function.update_of_ne hOther] at hc
    exact hInv.confirming other c hc t guarded result hStep

theorem ChargeInv.setFate (hInv : ChargeInv s) {t : Transfer} {fate : Fate}
    (hHeld : fate ≠ .failed → s.Holds t) (hNotFinal : s.chain t ≠ .finalized) :
    ChargeInv (s.setFate t fate) := by
  refine ⟨hInv.row.update hHeld hNotFinal, fun call c hc u guarded result hStep => ?_⟩
  have hFinal := hInv.confirming call c hc u guarded result hStep
  have hOther : u ≠ t := fun hSame => hNotFinal (hSame ▸ hFinal)
  simp only [PaymentState.setFate]
  rw [Function.update_of_ne hOther]
  exact hFinal

theorem ChargeInv.execute (hInv : ChargeInv s) {statement : Statement}
    (hSafe : s.Safe statement) (hClaim : statement = .claim → ∃ p ∈ s.row, p.Claimable s.now)
    (hConfirm : statement = .confirm → ∃ t, s.chain t = .finalized) :
    ChargeInv (s.execute lastValidBlockHeight statement) := by
  refine ⟨hInv.row.execute hSafe hClaim hConfirm, fun call c hc t guarded result hStep => ?_⟩
  rw [execute_calls] at hc
  exact execute_finalized (hInv.confirming call c hc t guarded result hStep)

theorem onException_ne_confirm {current next : ChargeStep} (h : current.onException = some next)
    (t : Transfer) (guarded : Bool) (result : ConfigPaymentResult) :
    next ≠ .confirm t guarded result := by
  unfold ChargeStep.onException at h
  split at h
  all_goals cases h
  all_goals
    try split
    all_goals nofun

theorem ChargeInv.step (hInv : ChargeInv s) (hGuarded : Guarded s event)
    (hStep : step lastValidBlockHeight s event = some s') : ChargeInv s' := by
  cases event with
  | charge call input =>
      simp only [Payments.step] at hStep
      split at hStep
      · cases hStep
        exact hInv.setStep nofun
      · cases hStep
  | proceed call answer =>
      simp only [Payments.step] at hStep
      split at hStep
      · cases hStep
      · rename_i c hCall
        split at hStep
        · rename_i hTruthful
          split at hStep
          · cases hStep
          · rename_i statement next hAdvance
            cases hStep
            have hExecuted : ChargeInv (s.execute lastValidBlockHeight statement) := by
              refine hInv.execute (hGuarded c hCall (statement, next) hAdvance) ?_ ?_
              · rintro rfl
                exact advance_claim hAdvance
              · rintro rfl
                obtain ⟨t, guarded, result, hConfirm⟩ := advance_confirm hAdvance
                exact ⟨t, hInv.confirming call c hCall t guarded result hConfirm⟩
            refine hExecuted.setStep fun t guarded result hNext => ?_
            subst hNext
            obtain ⟨rfl, hTransfer⟩ := advance_confirming hAdvance
            exact execute_finalized (hTruthful t hTransfer)
        · cases hStep
  | exception call =>
      simp only [Payments.step] at hStep
      split at hStep
      · cases hStep
      · rename_i c hCall
        obtain ⟨next, hException, rfl⟩ := Option.map_eq_some_iff.1 hStep
        exact hInv.setStep fun t guarded result hNext =>
          absurd hNext (onException_ne_confirm hException t guarded result)
  | timePasses microseconds =>
      cases hStep
      exact ⟨hInv.row, hInv.confirming⟩
  | newBlock =>
      cases hStep
      exact ⟨hInv.row, hInv.confirming⟩
  | land transfer successful =>
      simp only [Payments.step] at hStep
      split at hStep
      · rename_i hLand
        cases hStep
        have hSent : s.chain transfer = .sent := hLand.1
        refine hInv.setFate (fun _ => hInv.row.held transfer ?_ ?_) ?_
        all_goals
          rw [hSent]
          nofun
      · cases hStep
  | finalize transfer =>
      simp only [Payments.step] at hStep
      split at hStep
      · rename_i hLanded
        cases hStep
        refine hInv.setFate (fun _ => hInv.row.held transfer ?_ ?_) ?_
        all_goals
          rw [hLanded]
          nofun
      · cases hStep

/-- At most one transfer is finalized, and a confirmed row carries the signature of one. -/
structure ChargedOnce (s : PaymentState) : Prop where
  unique : ∀ t u, s.chain t = .finalized → s.chain u = .finalized → t = u
  confirmed : ∀ p ∈ s.row, p.status = .confirmed →
    ∃ t, p.transactionSignature = some t ∧ s.chain t = .finalized

theorem RowInv.finalized_unique {row : Option SolanaConfigPayment} {chain : Transfer → Fate}
    (hInv : RowInv row chain) {t u : Transfer} (ht : chain t = .finalized)
    (hu : chain u = .finalized) : t = u := by
  obtain ⟨p, hp, _, hp'⟩ := hInv.held t (by rw [ht]; nofun) (by rw [ht]; nofun)
  obtain ⟨q, hq, _, hq'⟩ := hInv.held u (by rw [hu]; nofun) (by rw [hu]; nofun)
  cases Option.mem_unique hp hq
  exact Option.some.inj (hp'.symm.trans hq')

theorem config_payment_charged_once {events : List PaymentEvent}
    (hRun : run (step lastValidBlockHeight) noPayment events = some s)
    (hGuarded : StepsMeet (step lastValidBlockHeight) Guarded noPayment events) :
    ChargedOnce s := by
  have hInv : ChargeInv s :=
    run_invariant_of_stepsMeet (fun _ _ _ hInv hCond hStep => hInv.step hCond hStep)
      chargeInv_noPayment hRun hGuarded
  exact ⟨fun t u => hInv.row.finalized_unique, hInv.row.confirmed⟩

/-- A call from its start until the signed transfer is ready to be recorded. -/
def prepareTransfer (call : CallId) (transfer : Transfer) : List PaymentEvent :=
  [.charge call ⟨1, 1, 10, 20, 1000, 500⟩, .proceed call .database, .proceed call .database,
    .proceed call .database, .proceed call (.walletKey true), .proceed call (.treasury 5 5),
    .proceed call (.blockhash transfer), .proceed call (.fee (some 1)), .proceed call .database,
    .proceed call (.balance 5000)]

/-- The transfer is recorded, sent, and finalized by the chain. -/
def payTransfer (call : CallId) (transfer : Transfer) : List PaymentEvent :=
  [.proceed call .database, .proceed call .sendAccepted, .land transfer true, .finalize transfer]

theorem config_payment_charged_once_one_call :
    ∃ s, ChargedOnce s ∧ s.chain 1 = .finalized ∧ s.row.map (·.status) = some .confirmed := by
  let events := prepareTransfer 1 1 ++ payTransfer 1 1 ++
    [.proceed 1 (.status .finalized), .proceed 1 .database]
  have hGuarded : StepsMeet (step fun _ => 100) Guarded noPayment events := by decide +kernel
  exact ⟨_, config_payment_charged_once rfl hGuarded, rfl, rfl⟩

/--
A call that is slower than two minutes loses its claim, and records and sends its transfer all the
same after the other call was paid.
-/
theorem stale_claim_charges_twice :
    ∃ s, run (step fun _ => 100) noPayment
        (prepareTransfer 1 1 ++ [.timePasses 120000001] ++ prepareTransfer 2 2 ++ payTransfer 2 2 ++
          payTransfer 1 1) = some s ∧ ¬ ChargedOnce s := by
  refine ⟨_, rfl, fun hOnce => ?_⟩
  have hSame : (1 : Transfer) = 2 := hOnce.unique 1 2 rfl rfl
  cases hSame

end Runs

end Hyperspace.Payments
