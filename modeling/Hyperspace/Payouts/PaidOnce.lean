import Hyperspace.Payouts.Rows
import Mathlib.Data.Nat.Pairing

/-!
# A request is paid once

A transfer that may still land, or has landed, is held by its request as submitted or confirmed.
The failure statements are keyed by the request and not by the signature that was examined, and a
worker sends its transfer whether or not recording it found the request: a late failure, or a late
send, lets a second transfer be signed while the first one is alive. Where neither happens, at most
one transfer of a request is finalized.
-/

namespace Hyperspace.Payouts

open Hyperspace.Billing Hyperspace.Foundations Hyperspace.Payments

/-- The request holds the signature as submitted or confirmed. -/
def PayoutState.Holds (s : PayoutState) (request : PayoutRequest) (signature : Identifier) : Prop :=
  ∃ p ∈ payoutOf s.db.books request, p.Holds signature

instance (p : Payout) (signature : Identifier) : Decidable (p.Holds signature) :=
  inferInstanceAs (Decidable ((_ ∨ _) ∧ _))

instance (s : PayoutState) (request : PayoutRequest) (signature : Identifier) :
    Decidable (s.Holds request signature) :=
  inferInstanceAs (Decidable (∃ p ∈ payoutOf s.db.books request, p.Holds signature))

/-- The transfer with this signature has landed or may still do so. -/
def PayoutState.Live (s : PayoutState) (signature : Identifier) : Prop :=
  s.chain signature = .landed ∨ s.chain signature = .finalized ∨ s.MayLand signature

instance (s : PayoutState) (signature : Identifier) : Decidable (s.Live signature) :=
  inferInstanceAs (Decidable (_ ∨ _ ∨ _))

/-- A failure finds no live transfer under a submitted request. -/
def SafeFailure (s : PayoutState) (request : PayoutRequest) : Prop :=
  ∀ p ∈ payoutOf s.db.books request, p.status = .submitted →
    ∀ signature ∈ p.signature, ¬ s.Live signature

instance (s : PayoutState) (request : PayoutRequest) : Decidable (SafeFailure s request) :=
  inferInstanceAs (Decidable (∀ p ∈ payoutOf s.db.books request, p.status = .submitted →
    ∀ signature ∈ p.signature, ¬ s.Live signature))

/-- What is sent for the first time is held by its request, or too late to land. -/
def SafeSend (s : PayoutState) (request : PayoutRequest) (signature : Identifier) : Prop :=
  s.chain signature = .unsent → s.InTime signature → s.Holds request signature

instance (s : PayoutState) (request : PayoutRequest) (signature : Identifier) :
    Decidable (SafeSend s request signature) := inferInstanceAs (Decidable (_ → _ → _))

/-- The request that a step fails. -/
def WorkerStep.failed : WorkerStep → Option PayoutRequest
  | .failing item _ => some item.request
  | .failingClaim request => some request
  | _ => none

def WorkerStep.sent : WorkerStep → Option PayoutTransfer
  | .sending transfer => some transfer
  | _ => none

section

variable (signing : Signing)

/-- The statement a worker executes is safe. -/
def SafeStep (s : PayoutState) (current : WorkerStep) : WorkerAnswer → Prop
  | .database => ∀ request ∈ current.failed, SafeFailure s request
  | .sendAccepted | .sendLost =>
    ∀ transfer ∈ current.sent, SafeSend s transfer.request (signing.signatureOf transfer)
  | _ => True

instance (s : PayoutState) (current : WorkerStep) :
    (answer : WorkerAnswer) → Decidable (SafeStep signing s current answer)
  | .database => inferInstanceAs (Decidable (∀ request ∈ current.failed, SafeFailure s request))
  | .sendAccepted | .sendLost =>
    inferInstanceAs (Decidable (∀ transfer ∈ current.sent,
      SafeSend s transfer.request (signing.signatureOf transfer)))
  | .databaseLost | .statuses _ | .clock | .claim _ _ | .blockhash _ | .sendRejected =>
    inferInstanceAs (Decidable True)

def Safe (s : PayoutState) : PayoutEvent → Prop
  | .proceed worker answer => SafeStep signing s (s.workers worker).step answer
  | _ => True

instance (s : PayoutState) : (event : PayoutEvent) → Decidable (Safe signing s event)
  | .proceed worker answer =>
    inferInstanceAs (Decidable (SafeStep signing s (s.workers worker).step answer))
  | .runOnce _ _ | .exception _ | .billing _ | .usage _ | .timePasses _ | .land _ _
  | .finalize _ => inferInstanceAs (Decidable True)

/-! ### The invariant -/

/-- What a worker knows of a listed request with its status. -/
def ItemKnown (chain : Identifier → Fate) (item : SubmittedPayout) (status : SignatureStatus) :
    Prop :=
  status = .finalized →
    ∃ blockhash, chain (signing.signatureOf ⟨item.request, blockhash⟩) = .finalized

def StepKnown (chain : Identifier → Fate) : WorkerStep → Prop
  | .askingStatuses items => ∀ item ∈ items, ∀ signature ∈ item.transactionSignature,
    ∃ blockhash, signature = signing.signatureOf ⟨item.request, blockhash⟩
  | .examining items => ∀ x ∈ items, ItemKnown signing chain x.1 x.2
  | .failing _ rest => ∀ x ∈ rest, ItemKnown signing chain x.1 x.2
  | .confirming item rest =>
    ItemKnown signing chain item .finalized ∧ ∀ x ∈ rest, ItemKnown signing chain x.1 x.2
  | _ => True

/-- A signed transfer is held by its request as long as it may land, and only by this one. -/
structure PaidInv (s : PayoutState) : Prop where
  /-- A live transfer is held by its request. -/
  held : ∀ t, s.Live (signing.signatureOf t) → s.Holds t.request (signing.signatureOf t)
  signed : ∀ r, ∀ p ∈ payoutOf s.db.books r, ∀ signature ∈ p.signature,
    ∃ blockhash, signature = signing.signatureOf ⟨r, blockhash⟩
  debits : ∀ e ∈ s.db.books.ledger.rows, e.sourceType = .withdrawalRequest →
    ∃ blockhash, s.chain (signing.signatureOf ⟨.withdrawal e.sourceId, blockhash⟩) = .finalized
  workers : ∀ worker, StepKnown signing s.chain (s.workers worker).step

end

section Steps

variable {signing : Signing} {s : PayoutState} {db : BillingDb} {worker : WorkerId}

theorem PaidInv.goto (hInv : PaidInv signing s) {next : WorkerStep}
    (hKnown : StepKnown signing s.chain next) : PaidInv signing (s.goto worker next) := by
  refine ⟨hInv.held, hInv.signed, hInv.debits, fun other => ?_⟩
  simp only [PayoutState.goto]
  by_cases hOther : other = worker
  · subst hOther
    rw [Function.update_self]
    exact hKnown
  · rw [Function.update_of_ne hOther]
    exact hInv.workers other

theorem PaidInv.kept (hInv : PaidInv signing s) (hKept : PayoutsKept s.db.books db.books) :
    PaidInv signing { s with db } := by
  refine ⟨fun t hLive => ?_, fun r p hp signature hSignature => ?_, fun e he hType => ?_,
    hInv.workers⟩
  · obtain ⟨p, hp, hHolds⟩ := hInv.held t hLive
    exact ⟨p, hKept.kept t.request p hp hHolds.1, hHolds⟩
  · obtain ⟨p', hp', hSignature'⟩ := hKept.signatures r p hp signature hSignature
    exact hInv.signed r p' hp' signature hSignature'
  · exact hInv.debits e (hKept.debits e he hType) hType

theorem PaidInv.fail (hInv : PaidInv signing s) {request : PayoutRequest}
    (hUpdated : PayoutUpdated request Payout.fail s.db.books db.books)
    (hSafe : SafeFailure s request) : PaidInv signing { s with db } := by
  refine ⟨fun t hLive => ?_, fun r p hp signature hSignature => ?_, fun e he hType => ?_,
    hInv.workers⟩
  · obtain ⟨p, hp, hStatus, hSignature⟩ := hInv.held t hLive
    refine ⟨p, ?_, hStatus, hSignature⟩
    have hPayout := hUpdated.payouts t.request
    rw [Option.mem_def, hPayout]
    split
    · rename_i hSame
      rw [hSame] at hp
      rw [hSame, hp, Option.map_some]
      rcases hStatus with hSubmitted | hConfirmed
      · exact absurd hLive (hSafe p hp hSubmitted _ hSignature)
      · simp [Payout.fail, hConfirmed]
    · exact hp
  · have hPayout := hUpdated.payouts r
    rw [Option.mem_def, hPayout] at hp
    split at hp
    · obtain ⟨p', hp', rfl⟩ := Option.map_eq_some_iff.1 hp
      have hSame : p'.fail.signature = p'.signature := by
        rw [Payout.fail]
        split
        all_goals rfl
      rw [hSame] at hSignature
      exact hInv.signed r p' hp' signature hSignature
    · exact hInv.signed r p hp signature hSignature
  · rw [hUpdated.ledger] at he
    exact hInv.debits e he hType

theorem PaidInv.confirm (hInv : PaidInv signing s) {request : PayoutRequest}
    (hConfirmed : PayoutConfirmed request s.db.books db.books)
    (hFinal : ∃ blockhash, s.chain (signing.signatureOf ⟨request, blockhash⟩) = .finalized) :
    PaidInv signing { s with db } := by
  have hSignatures : ∀ p : Payout, p.confirm.signature = p.signature := by
    intro p
    rw [Payout.confirm]
    split
    all_goals rfl
  refine ⟨fun t hLive => ?_, fun r p hp signature hSignature => ?_, fun e he hType => ?_,
    hInv.workers⟩
  · obtain ⟨p, hp, hStatus, hSignature⟩ := hInv.held t hLive
    have hPayout := hConfirmed.payouts t.request
    by_cases hSame : t.request = request
    · rw [if_pos hSame, hp, Option.map_some] at hPayout
      refine ⟨p.confirm, hPayout, ?_, by rw [hSignatures]; exact hSignature⟩
      rw [Payout.confirm]
      split
      · exact .inr rfl
      · exact hStatus
    · rw [if_neg hSame] at hPayout
      exact ⟨p, hPayout.trans hp, hStatus, hSignature⟩
  · have hPayout := hConfirmed.payouts r
    rw [Option.mem_def, hPayout] at hp
    split at hp
    · obtain ⟨p', hp', rfl⟩ := Option.map_eq_some_iff.1 hp
      rw [hSignatures] at hSignature
      exact hInv.signed r p' hp' signature hSignature
    · exact hInv.signed r p hp signature hSignature
  · rcases hConfirmed.debits e he hType with hOld | rfl
    · exact hInv.debits e hOld hType
    · exact hFinal

/-- A transfer is recorded while its request is in `processing`, and then held by it. -/
theorem PaidInv.recordSubmission (hInv : PaidInv signing s) {transfer : PayoutTransfer}
    (hUpdated : PayoutUpdated transfer.request (Payout.record (signing.signatureOf transfer))
      s.db.books db.books) :
    PaidInv signing { s with
      db, recordedAt := s.recorded transfer.request (signing.signatureOf transfer) } := by
  have hPayout := hUpdated.payouts
  by_cases hProcessing : ∃ p ∈ payoutOf s.db.books transfer.request, p.status = .processing
  · obtain ⟨q, hq, hStatus⟩ := hProcessing
    have hRecorded : s.recorded transfer.request (signing.signatureOf transfer) =
        Function.update s.recordedAt (signing.signatureOf transfer) (some s.clock) :=
      if_pos ⟨q, hq, hStatus⟩
    rw [hRecorded]
    refine ⟨fun t hLive => ?_, fun r p hp signature hSignature => ?_, fun e he hType => ?_,
      hInv.workers⟩
    · by_cases hSame : t = transfer
      · subst hSame
        refine ⟨q.record (signing.signatureOf t), ?_, ?_⟩
        · change payoutOf db.books t.request = _
          rw [hPayout, if_pos rfl, hq, Option.map_some]
        · rw [Payout.record, if_pos hStatus]
          exact ⟨.inl rfl, rfl⟩
      · have hOther : signing.signatureOf t ≠ signing.signatureOf transfer :=
          fun hEq => hSame (signing.injective hEq)
        have hLive' : s.Live (signing.signatureOf t) := by
          simpa only [PayoutState.Live, PayoutState.MayLand, PayoutState.InTime,
            Function.update_of_ne hOther] using hLive
        obtain ⟨p, hp, hHeld, hSignature⟩ := hInv.held t hLive'
        have hRequest : t.request ≠ transfer.request := by
          intro hEq
          rw [hEq] at hp
          cases Option.mem_unique hp hq
          rw [hStatus] at hHeld
          rcases hHeld with hHeld | hHeld
          all_goals cases hHeld
        refine ⟨p, ?_, hHeld, hSignature⟩
        change payoutOf db.books t.request = _
        rw [hPayout, if_neg hRequest]
        exact hp
    · change payoutOf db.books r = some p at hp
      rw [hPayout] at hp
      split at hp
      · rename_i hSame
        subst hSame
        rw [hq, Option.map_some, Payout.record, if_pos hStatus] at hp
        cases hp
        cases hSignature
        exact ⟨transfer.recentBlockhash, rfl⟩
      · exact hInv.signed r p hp signature hSignature
    · change e ∈ db.books.ledger.rows at he
      rw [hUpdated.ledger] at he
      exact hInv.debits e he hType
  · have hRecorded : s.recorded transfer.request (signing.signatureOf transfer) = s.recordedAt :=
      if_neg hProcessing
    have hSame : payoutOf db.books = payoutOf s.db.books := by
      funext r
      rw [hPayout]
      split
      · rename_i hRequest
        subst hRequest
        cases hp : payoutOf s.db.books transfer.request with
        | none => rfl
        | some p =>
            have hStatus : p.status ≠ .processing := fun h => hProcessing ⟨p, hp, h⟩
            rw [Option.map_some, Payout.record, if_neg hStatus]
      · rfl
    rw [hRecorded]
    refine hInv.kept ⟨fun r p hp _ => ?_, fun r p hp signature h => ?_, fun e he _ => ?_⟩
    · rw [hSame]
      exact hp
    · rw [hSame] at hp
      exact ⟨p, hp, h⟩
    · rw [hUpdated.ledger] at he
      exact he

theorem PaidInv.setFate (hInv : PaidInv signing s) {signature : Identifier} {fate : Fate}
    (hNotFinal : s.chain signature ≠ .finalized)
    (hHeld : ∀ t, signing.signatureOf t = signature → (s.setFate signature fate).Live signature →
      s.Holds t.request signature) : PaidInv signing (s.setFate signature fate) := by
  have hFinal : ∀ other, s.chain other = .finalized →
      (s.setFate signature fate).chain other = .finalized := by
    intro other hOther
    have hNe : other ≠ signature := fun hEq => hNotFinal (hEq ▸ hOther)
    simp only [PayoutState.setFate, Function.update_of_ne hNe]
    exact hOther
  have hKnown : ∀ item status, ItemKnown signing s.chain item status →
      ItemKnown signing (s.setFate signature fate).chain item status := by
    intro item status h hStatus
    obtain ⟨blockhash, hBlockhash⟩ := h hStatus
    exact ⟨blockhash, hFinal _ hBlockhash⟩
  refine ⟨fun t hLive => ?_, hInv.signed, fun e he hType => ?_, fun worker => ?_⟩
  · by_cases hSame : signing.signatureOf t = signature
    · rw [hSame] at hLive ⊢
      exact hHeld t hSame hLive
    · refine hInv.held t ?_
      simpa only [PayoutState.Live, PayoutState.MayLand, PayoutState.InTime, PayoutState.setFate,
        Function.update_of_ne hSame] using hLive
  · obtain ⟨blockhash, hBlockhash⟩ := hInv.debits e he hType
    exact ⟨blockhash, hFinal _ hBlockhash⟩
  · have hWorker := hInv.workers worker
    change StepKnown signing _ (s.workers worker).step
    cases hStep : (s.workers worker).step with
    | askingStatuses items =>
        rw [hStep] at hWorker
        exact hWorker
    | examining items =>
        rw [hStep] at hWorker
        exact fun x hx => hKnown x.1 x.2 (hWorker x hx)
    | failing item rest =>
        rw [hStep] at hWorker
        exact fun x hx => hKnown x.1 x.2 (hWorker x hx)
    | confirming item rest =>
        rw [hStep] at hWorker
        exact ⟨hKnown item .finalized hWorker.1, fun x hx => hKnown x.1 x.2 (hWorker.2 x hx)⟩
    | idle | listing | claiming | building _ | recording _ | sending _ | failingClaim _ => trivial

theorem PaidInv.send (hInv : PaidInv signing s) {transfer : PayoutTransfer}
    (hSafe : SafeSend s transfer.request (signing.signatureOf transfer)) :
    PaidInv signing (s.send (signing.signatureOf transfer)) := by
  rw [PayoutState.send]
  split
  · rename_i hUnsent
    refine hInv.setFate (by rw [hUnsent]; nofun) fun t hSame hLive => ?_
    cases signing.injective hSame
    refine hSafe hUnsent ?_
    rcases hLive with hLanded | hFinal | hMayLand
    · simp [PayoutState.setFate] at hLanded
    · simp [PayoutState.setFate] at hFinal
    · exact hMayLand.2
  · exact hInv

theorem PaidInv.transact (hInv : PaidInv signing s) {α : Type} {body : Tx α}
    {next : α → WorkerStep} {onError : WorkerStep}
    (hCommit : ∀ a db, body s.database = .ok (a, db) →
      PaidInv signing { s with db } ∧ StepKnown signing s.chain (next a))
    (hError : StepKnown signing s.chain onError) :
    PaidInv signing (s.transact worker body next onError) := by
  rw [PayoutState.transact]
  cases hBody : body s.database with
  | error e =>
      have hTransaction : transaction body s.database = (.error e, s.database) := by
        simp [transaction, StateT.run, hBody]
      have hSame : PayoutsKept s.db.books s.database.books := .refl
      rw [hTransaction]
      exact (hInv.kept hSame).goto hError
  | ok result =>
      obtain ⟨a, db⟩ := result
      have hTransaction : transaction body s.database = (.ok a, db) := by
        simp [transaction, StateT.run, hBody]
      obtain ⟨hInv', hNext⟩ := hCommit a db hBody
      rw [hTransaction]
      exact hInv'.goto hNext

theorem PaidInv.record (hInv : PaidInv signing s) {transfer : PayoutTransfer} {next : WorkerStep}
    (hNext : StepKnown signing s.chain next) :
    PaidInv signing (s.record worker transfer (signing.signatureOf transfer) next) := by
  rw [PayoutState.record]
  cases hBody : Payouts.recordSubmission transfer.request (signing.signatureOf transfer)
      s.database with
  | error e =>
      have hTransaction : transaction (Payouts.recordSubmission transfer.request
          (signing.signatureOf transfer)) s.database = (.error e, s.database) := by
        simp [transaction, StateT.run, hBody]
      have hSame : PayoutsKept s.db.books s.database.books := .refl
      rw [hTransaction]
      exact (hInv.kept hSame).goto trivial
  | ok result =>
      obtain ⟨_, db⟩ := result
      have hTransaction : transaction (Payouts.recordSubmission transfer.request
          (signing.signatureOf transfer)) s.database = (.ok (), db) := by
        simp [transaction, StateT.run, hBody]
      have hUpdated := recordSubmission_spec hBody
      rw [hTransaction]
      exact (hInv.recordSubmission hUpdated).goto hNext

theorem examine_known {chain : Identifier → Fate} {now : Timestamp} {item : SubmittedPayout}
    {status : SignatureStatus} {rest : List (SubmittedPayout × SignatureStatus)}
    (hItem : ItemKnown signing chain item status)
    (hRest : ∀ x ∈ rest, ItemKnown signing chain x.1 x.2) :
    StepKnown signing chain (examine now item status rest) := by
  cases status with
  | err => exact hRest
  | finalized => exact ⟨hItem, hRest⟩
  | notFinalized => exact hRest
  | notFound =>
      rw [examine]
      split
      · exact hRest
      · exact hRest

/-- A truthful answer about the signature of a request tells of one of its transfers. -/
theorem itemKnown_of_truthful {chain : Identifier → Fate} {item : SubmittedPayout}
    {status : SignatureStatus}
    (hSigned : ∀ signature ∈ item.transactionSignature,
      ∃ blockhash, signature = signing.signatureOf ⟨item.request, blockhash⟩)
    (hTruthful : TruthfulStatus chain item status) : ItemKnown signing chain item status := by
  rintro rfl
  rw [TruthfulStatus] at hTruthful
  split at hTruthful
  · rename_i signature hSignature
    obtain ⟨blockhash, rfl⟩ := hSigned signature hSignature
    exact ⟨blockhash, hTruthful.1⟩
  · cases hTruthful

theorem onException_known {chain : Identifier → Fate} {current next : WorkerStep}
    (h : current.onException = some next) : StepKnown signing chain next := by
  unfold WorkerStep.onException at h
  split at h
  all_goals
    cases h
    try trivial

theorem PaidInv.proceed (hInv : PaidInv signing s) {answer : WorkerAnswer} {s' : PayoutState}
    (hSafe : SafeStep signing s (s.workers worker).step answer)
    (hStep : proceed signing s worker (s.workers worker).step answer = some s') :
    PaidInv signing s' := by
  have hWorker := hInv.workers worker
  generalize (s.workers worker).step = current at hSafe hStep hWorker
  unfold Payouts.proceed at hStep
  split at hStep
  · -- listing
    cases hStep
    refine hInv.transact (fun items db hList => ?_) trivial
    obtain ⟨hdb, hItems⟩ := listConfirmations_spec hList
    subst hdb
    have hSame : PayoutsKept s.db.books s.database.books := .refl
    refine ⟨hInv.kept hSame, ?_⟩
    split
    · trivial
    · intro item hItem signature hSignature
      obtain ⟨p, hp, hp'⟩ := hItems item hItem
      exact hInv.signed item.request p hp signature (hp' ▸ hSignature)
  · -- asking for statuses
    rename_i items statuses
    split at hStep
    · rename_i hTruthful
      cases hStep
      refine hInv.goto fun x hx => ?_
      have hAnswer := List.forall₂_zip hTruthful hx
      exact itemKnown_of_truthful (hWorker x.1 (List.of_mem_zip hx).1) hAnswer
    · cases hStep
  · cases hStep
    exact hInv.goto trivial
  · -- examining one request
    cases hStep
    exact hInv.goto (examine_known (hWorker _ List.mem_cons_self)
      fun x hx => hWorker x (List.mem_cons_of_mem _ hx))
  · -- failing it
    cases hStep
    refine hInv.transact (fun _ db hFail => ?_) trivial
    have hUpdated := failSubmission_spec hFail
    exact ⟨hInv.fail hUpdated (hSafe _ rfl), hWorker⟩
  · -- confirming it
    cases hStep
    refine hInv.transact (fun _ db hConfirm => ?_) trivial
    refine ⟨?_, hWorker.2⟩
    rcases confirmSubmission_spec hConfirm with hSame | hConfirmed
    · refine hInv.kept ?_
      rw [hSame]
      exact .refl
    · exact hInv.confirm hConfirmed (hWorker.1 rfl)
  · -- claiming
    cases hStep
    refine hInv.transact (fun job db hClaim => ?_) trivial
    have hKept := claimSigningJob_payouts hClaim
    refine ⟨hInv.kept hKept, ?_⟩
    split
    · trivial
    · trivial
  · cases hStep
    exact hInv.goto trivial
  · cases hStep
    exact hInv.record trivial
  · cases hStep
    exact hInv.record trivial
  · cases hStep
    exact (hInv.send (hSafe _ rfl)).goto trivial
  · cases hStep
    exact (hInv.send (hSafe _ rfl)).goto trivial
  · cases hStep
    exact hInv.goto trivial
  · -- failing a claim
    cases hStep
    refine hInv.transact (fun _ db hFail => ?_) trivial
    have hUpdated := failSubmission_spec hFail
    exact ⟨hInv.fail hUpdated (hSafe _ rfl), trivial⟩
  · cases hStep

theorem PaidInv.step (hInv : PaidInv signing s) {event : PayoutEvent} {s' : PayoutState}
    (hSafe : Safe signing s event) (hStep : step signing s event = some s') :
    PaidInv signing s' := by
  cases event with
  | runOnce worker kind =>
      simp only [Payouts.step] at hStep
      split at hStep
      · cases hStep
        refine ⟨hInv.held, hInv.signed, hInv.debits, fun other => ?_⟩
        by_cases hOther : other = worker
        · subst hOther
          simp only [Function.update_self]
          trivial
        · simp only [Function.update_of_ne hOther]
          exact hInv.workers other
      · cases hStep
  | proceed worker answer => exact hInv.proceed hSafe hStep
  | exception worker =>
      obtain ⟨next, hException, rfl⟩ := Option.map_eq_some_iff.1 hStep
      exact hInv.goto (onException_known hException)
  | billing op =>
      simp only [Payouts.step] at hStep
      split at hStep
      · rename_i hForeign
        cases hStep
        have hKept := @PayoutsKept.foreign s.database op hForeign
        exact hInv.kept hKept
      · cases hStep
  | usage usage =>
      cases hStep
      have hSame : PayoutsKept s.db.books { s.db with usage }.books := .refl
      exact hInv.kept hSame
  | timePasses microseconds =>
      cases hStep
      refine ⟨fun t hLive => hInv.held t ?_, hInv.signed, hInv.debits, hInv.workers⟩
      -- a transfer that may land later may land now
      rcases hLive with hLanded | hFinal | ⟨hSent, hInTime⟩
      · exact .inl hLanded
      · exact .inr (.inl hFinal)
      · refine .inr (.inr ⟨hSent, fun recorded hRecorded => ?_⟩)
        have hLater : s.clock + microseconds ≤ recorded + 600000000 := hInTime recorded hRecorded
        exact (le_add_of_nonneg_right (Int.natCast_nonneg microseconds)).trans hLater
  | land signature successful =>
      simp only [Payouts.step] at hStep
      split at hStep
      · rename_i hMayLand
        cases hStep
        refine hInv.setFate (by rw [hMayLand.1]; nofun) fun t hSame _ => ?_
        rw [← hSame] at hMayLand ⊢
        exact hInv.held t (.inr (.inr hMayLand))
      · cases hStep
  | finalize signature =>
      simp only [Payouts.step] at hStep
      split at hStep
      · rename_i hLanded
        cases hStep
        refine hInv.setFate (by rw [hLanded]; nofun) fun t hSame _ => ?_
        rw [← hSame] at hLanded ⊢
        exact hInv.held t (.inl hLanded)
      · cases hStep

end Steps

/-! ### Runs -/

section Runs

variable {signing : Signing} {s : PayoutState} {usage : UsageTables} {now : Timestamp}

theorem paidInv_noPayouts : PaidInv signing (noPayouts usage now) where
  held t hLive := by
    rcases hLive with h | h | h
    · cases h
    · cases h
    · cases h.1
  signed r p hp := by
    cases r with
    | withdrawal id => cases hp
    | sweep source => cases hp
  debits e he := by cases he
  workers _ := trivial

/--
At most one transfer of a request is finalized, none of a cancelled withdrawal is, and a withdrawal
is debited at most once, and only if a transfer of it is finalized.
-/
structure PaidOnce (signing : Signing) (s : PayoutState) : Prop where
  unique : ∀ t u, t.request = u.request → s.chain (signing.signatureOf t) = .finalized →
    s.chain (signing.signatureOf u) = .finalized → t = u
  cancelled : ∀ w ∈ s.db.books.withdrawals.rows, w.status = .cancelled → ∀ blockhash,
    s.chain (signing.signatureOf ⟨.withdrawal w.id, blockhash⟩) ≠ .finalized
  debited : ∀ e ∈ s.db.books.ledger.rows, e.sourceType = .withdrawalRequest →
    (∃ blockhash, s.chain (signing.signatureOf ⟨.withdrawal e.sourceId, blockhash⟩) =
      .finalized) ∧
    ∀ e' ∈ s.db.books.ledger.rows, e'.sourceType = .withdrawalRequest →
      e'.sourceId = e.sourceId → e' = e

theorem PaidInv.paidOnce (hInv : PaidInv signing s) : PaidOnce signing s := by
  refine ⟨fun t u hRequest ht hu => ?_, fun w hw hStatus blockhash hFinal => ?_,
    fun e he hType => ⟨hInv.debits e he hType, fun e' he' hType' hId => ?_⟩⟩
  · obtain ⟨p, hp, _, hp'⟩ := hInv.held t (.inr (.inl ht))
    obtain ⟨q, hq, _, hq'⟩ := hInv.held u (.inr (.inl hu))
    rw [← hRequest] at hq
    cases Option.mem_unique hp hq
    exact signing.injective (Option.some.inj (hp'.symm.trans hq'))
  · obtain ⟨p, hp, hHeld, _⟩ := hInv.held ⟨.withdrawal w.id, blockhash⟩ (.inr (.inl hFinal))
    simp only [payoutOf, Table.find?_of_mem hw, Option.map_some] at hp
    cases hp
    simp only [withdrawalPayout, hStatus] at hHeld
    rcases hHeld with hHeld | hHeld
    all_goals cases hHeld
  · have hKey : e'.key = e.key := by
      simp only [LedgerEntry.key, hType, hType', hId]
    exact Table.row_unique he' he hKey

theorem payout_paid_once {events : List PayoutEvent}
    (hRun : run (step signing) (noPayouts usage now) events = some s)
    (hSafe : StepsMeet (step signing) (Safe signing) (noPayouts usage now) events) :
    PaidOnce signing s := by
  have hInv : PaidInv signing s :=
    run_invariant_of_stepsMeet (fun _ _ _ hInv hCond hStep => hInv.step hCond hStep)
      paidInv_noPayouts hRun hSafe
  exact hInv.paidOnce

def sourceNumber : SourceType → Nat
  | .adminManualCredit => 0
  | .solanaDirectDeposit => 1
  | .retailUsageRating => 2
  | .withdrawalRequest => 3
  | .ratedUsageEvent => 4
  | .doublezeroUsageRecord => 5
  | .directDepositDebtRepayment => 6
  | .other name => name + 7

theorem sourceNumber_injective : Function.Injective sourceNumber := by
  intro x y h
  unfold sourceNumber at h
  split at h
  all_goals
    split at h
    all_goals first
      | rfl
      | omega
      | exact congrArg SourceType.other (Nat.add_right_cancel h)

/-- Signatures that number the transfers. -/
def numberedSigning : Signing where
  signatureOf
    | ⟨.withdrawal id, blockhash⟩ => 2 * Nat.pair id blockhash
    | ⟨.sweep (sourceType, id), blockhash⟩ =>
      2 * Nat.pair (Nat.pair (sourceNumber sourceType) id) blockhash + 1
  injective := by
    rintro ⟨_ | ⟨sourceType, id⟩, b⟩ ⟨_ | ⟨sourceType', id'⟩, b'⟩ h
    · simp only [Nat.mul_right_inj (two_ne_zero), Nat.pair_eq_pair] at h
      rw [h.1, h.2]
    · have hParity : 2 * _ = 2 * _ + 1 := h
      omega
    · have hParity : 2 * _ + 1 = 2 * _ := h
      omega
    · simp only [Nat.add_right_cancel_iff, Nat.mul_right_inj (two_ne_zero), Nat.pair_eq_pair] at h
      obtain ⟨⟨hType, rfl⟩, rfl⟩ := h
      rw [sourceNumber_injective hType]

/-- One account on a plan without cooldown. -/
def planUsage : UsageTables :=
  { soleAccount with
    planVersions := [⟨1, "retail", 1, 0, 0, 0, 0, 1, none⟩]
    planAssignments := [⟨1, 1, 0, none⟩] }

/-- A deposit of one million base units, and the withdrawal of all of it. -/
def requestWithdrawal : List PayoutEvent :=
  [.billing (.creditDirectDeposit 1 1 1000000 splConfig),
    .billing (.createWithdrawalRequest ⟨1, 1⟩ ⟨100, some 5, 0⟩ splConfig)]

/-- The worker claims the withdrawal, signs a transfer for it, records it and sends it. -/
def signTransfer (worker : WorkerId) (recentBlockhash : Nat) : List PayoutEvent :=
  [.proceed worker (.claim [] .usable), .proceed worker (.blockhash recentBlockhash),
    .proceed worker .database, .proceed worker .sendAccepted]

/-- The worker lists the withdrawal and is told the status of its transfer. -/
def learnStatus (worker : WorkerId) (status : SignatureStatus) : List PayoutEvent :=
  [.runOnce worker .withdrawal, .proceed worker .database, .proceed worker (.statuses [status]),
    .proceed worker .clock]

/-- The signature of a transfer of the withdrawal. -/
def paymentSignature (recentBlockhash : Nat) : Identifier :=
  numberedSigning.signatureOf ⟨.withdrawal 0, recentBlockhash⟩

def startWorker (worker : WorkerId) : List PayoutEvent :=
  [.runOnce worker .withdrawal, .proceed worker .database]

theorem payout_paid_once_one_withdrawal :
    ∃ s, PaidOnce numberedSigning s ∧ s.chain (paymentSignature 1) = .finalized ∧
      s.db.books.ledger.rows.length = 2 := by
  let events := requestWithdrawal ++ [.timePasses 60000001] ++ startWorker 1 ++ signTransfer 1 1 ++
    [.land (paymentSignature 1) true, .finalize (paymentSignature 1)] ++ learnStatus 1 .finalized ++
    [.proceed 1 .database]
  have hSafe : StepsMeet (step numberedSigning) (Safe numberedSigning) (noPayouts planUsage 0)
      events := by decide +kernel
  have hRun : ∃ s ∈ run (step numberedSigning) (noPayouts planUsage 0) events,
      s.chain (paymentSignature 1) = .finalized ∧ s.db.books.ledger.rows.length = 2 := by
    decide +kernel
  obtain ⟨s, hs, hPaid⟩ := hRun
  exact ⟨s, payout_paid_once hs hSafe, hPaid⟩

/--
Two workers learn that the first transfer failed. The second worker fails the withdrawal, signs it
again and sends the second transfer; then the first worker fails it, too, and signs a third.
-/
def lateFailure : List PayoutEvent :=
  requestWithdrawal ++ [.timePasses 60000001] ++ startWorker 1 ++ signTransfer 1 1 ++
    [.land (paymentSignature 1) false] ++ learnStatus 1 .err ++ learnStatus 2 .err ++
    [.proceed 2 .database, .proceed 2 .clock, .proceed 2 (.claim [] .usable),
      .timePasses 60000001] ++ startWorker 2 ++ signTransfer 2 2 ++
    [.proceed 1 .database, .proceed 1 .clock, .land (paymentSignature 2) true,
      .finalize (paymentSignature 2), .timePasses 60000001] ++ signTransfer 1 3 ++
    [.land (paymentSignature 3) true, .finalize (paymentSignature 3)]

theorem late_failure_pays_twice :
    ∃ s, run (step numberedSigning) (noPayouts planUsage 0) lateFailure = some s ∧
      ¬ PaidOnce numberedSigning s := by
  have hRun : ∃ s ∈ run (step numberedSigning) (noPayouts planUsage 0) lateFailure,
      s.chain (paymentSignature 2) = .finalized ∧ s.chain (paymentSignature 3) = .finalized := by
    decide +kernel
  obtain ⟨s, hs, hSecond, hThird⟩ := hRun
  refine ⟨s, hs, fun hPaid => ?_⟩
  have hSame := hPaid.unique ⟨.withdrawal 0, 2⟩ ⟨.withdrawal 0, 3⟩ rfl hSecond hThird
  cases hSame

end Runs

end Hyperspace.Payouts
