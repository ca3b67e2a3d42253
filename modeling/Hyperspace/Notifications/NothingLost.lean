import Hyperspace.Notifications.OrderlyOutbox

/-!
# No notification is lost

A row that is not sent is due again within an hour, whatever became of its workers. A worker that is
not interrupted then sends every mail that the provider takes, if it comes round to all rows before
the first one that was refused is due again.
-/

namespace Hyperspace.Notifications

open Hyperspace.Billing (Timestamp)
open Hyperspace.Foundations

namespace MailSystem

variable {s : MailSystem} {sender : String → BillingMessage → Bool} {deadline : Timestamp}

/-! ### One call -/

/-- The sender takes the mail of the row. -/
def Takes (sender : String → BillingMessage → Bool) (row : OutboxRow) : Prop :=
  sender row.recipientEmail (renderBillingNotification row.toBillingNotificationRow) = true

/-- What a worker that nobody interrupts makes of the row it claims. -/
def settle (sender : String → BillingMessage → Bool) (now : Timestamp) (row : OutboxRow) :
    OutboxRow :=
  if sender row.recipientEmail (renderBillingNotification row.toBillingNotificationRow) then
    { row with status := .sent, attemptCount := row.attemptCount + 1, updatedAt := now }
  else
    { row with
      status := .failed
      attemptCount := row.attemptCount + 1
      nextAttemptAt := now + seconds (retrySeconds (row.attemptCount + 1))
      updatedAt := now }

theorem thirty_le_retrySeconds (attemptCount : Nat) : 30 ≤ retrySeconds (attemptCount + 1) := by
  have hTwo : 2 ≤ 2 ^ min (attemptCount + 1) 8 := Nat.le_self_pow (by omega) 2
  unfold retrySeconds
  omega

theorem claimable_mono {row : OutboxRow} {now later : Timestamp}
    (h : OutboxTable.Claimable now row) (hLater : now ≤ later) :
    OutboxTable.Claimable later row := by
  rcases h with ⟨hStatus, hDue⟩ | ⟨hStatus, hOld⟩
  · exact .inl ⟨hStatus, hDue.trans hLater⟩
  · exact .inr ⟨hStatus, hOld.trans_le (Int.sub_le_sub_right hLater _)⟩

theorem not_claimable_settle {now : Timestamp} {row : OutboxRow}
    (hSoon : deadline < now + seconds 30) :
    ¬ OutboxTable.Claimable deadline (settle sender now row) := by
  have hRetry : seconds 30 ≤ seconds (retrySeconds (row.attemptCount + 1)) :=
    seconds_mono (thirty_le_retrySeconds row.attemptCount)
  unfold settle OutboxTable.Claimable
  split
  · simp
  · simp only [not_or, not_and, not_le]
    refine ⟨fun _ => ?_, fun h => by cases h⟩
    exact hSoon.trans_le (Int.add_le_add_left hRetry now)

theorem status_settle {now : Timestamp} {row : OutboxRow} (h : Takes sender row) :
    (settle sender now row).status = .sent := by
  unfold Takes at h
  rw [settle, if_pos h]

theorem takes_settle {now : Timestamp} {row : OutboxRow}
    (h : Takes sender (settle sender now row)) :
    Takes sender row := by
  unfold settle Takes at h
  split at h
  · assumption
  · exact h

theorem update_update {t : OutboxTable} {k : Nat} {f g : OutboxRow → OutboxRow}
    (hf : ∀ r, (f r).id = r.id) (hg : ∀ r, (g r).id = r.id) :
    ((t.update k f hf).update k g hg).rows =
      t.rows.map fun row => if row.id = k then g (f row) else row := by
  show (t.table.rows.map _).map _ = t.rows.map _
  rw [List.map_map]
  refine List.map_congr_left fun row _ => ?_
  rw [Function.comp_apply]
  by_cases hKey : row.id = k
  · rw [if_pos hKey, if_pos ((hf row).trans hKey), if_pos hKey]
  · rw [if_neg hKey, if_neg hKey, if_neg hKey]

variable (sender) in
theorem rows_deliverNext (took : Nat) :
    ((∀ row ∈ s.outbox.rows, ¬ OutboxTable.Claimable s.now row) ∧
      (s.deliverNextBillingNotification sender took).1 = s) ∨
    ∃ row ∈ s.outbox.rows, OutboxTable.Claimable s.now row ∧
      (s.deliverNextBillingNotification sender took).1.now = s.now + took ∧
      (s.deliverNextBillingNotification sender took).1.outbox.rows =
        s.outbox.rows.map fun row' =>
          if row'.id = row.id then settle sender (s.now + took) row' else row' := by
  rw [deliverNextBillingNotification, OutboxTable.claimBillingNotification]
  cases hCandidate : s.outbox.candidate? s.now [] with
  | none =>
      refine .inl ⟨fun row hRow hClaimable => ?_, rfl⟩
      cases locked_of_head?_selectForUpdate_eq_none hCandidate hRow hClaimable
  | some row =>
      have hMem := List.mem_of_head? hCandidate
      have hRow := mem_of_mem_selectForUpdate hMem
      have hOnly : ∀ row' ∈ s.outbox.rows, row'.id = row.id → row' = row :=
        fun row' hRow' hId => SerialTable.row_unique hRow' hRow hId
      refine .inr ⟨row, hRow, wanted_of_mem_selectForUpdate hMem, ?_⟩
      dsimp only
      split
      · rename_i hTakes
        refine ⟨rfl, (update_update (f := OutboxTable.claimRow s.now)
          (g := fun row => { row with status := .sent, updatedAt := s.now + took })
          (fun _ => rfl) fun _ => rfl).trans ?_⟩
        refine List.map_congr_left fun row' hRow' => ?_
        split
        · rename_i hId
          rw [hOnly row' hRow' hId, settle]
          exact (if_pos hTakes).symm
        · rfl
      · rename_i hTakes
        refine ⟨rfl, (update_update (f := OutboxTable.claimRow s.now)
          (g := fun row' => { row' with
            status := .failed
            nextAttemptAt := s.now + took + seconds (retrySeconds (row.attemptCount + 1))
            updatedAt := s.now + took })
          (fun _ => rfl) fun _ => rfl).trans ?_⟩
        refine List.map_congr_left fun row' hRow' => ?_
        split
        · rename_i hId
          rw [hOnly row' hRow' hId, settle]
          exact (if_neg hTakes).symm
        · rfl

variable (sender) in
/-- A call that nobody interrupts is a claim, an answer of the provider and a last statement. -/
theorem run_deliverNext (took : Nat) :
    ∃ es, run MailSystem.step s es = some (s.deliverNextBillingNotification sender took).1 := by
  cases hClaim : s.outbox.claimBillingNotification s.now [] with
  | mk outbox claimed =>
      cases claimed with
      | none =>
          refine ⟨[], ?_⟩
          rw [deliverNextBillingNotification, hClaim]
          rfl
      | some notification =>
          let deliveries := s.deliveries ++ [⟨notification, s.now, false⟩]
          let s₁ : MailSystem := { s with outbox, deliveries }
          let s₂ : MailSystem := { s₁ with now := s.now + took }
          have hClaimed : s.step (.claim []) = some s₁ := by
            rw [step, hClaim]
          have hTicked : s₁.step (.tick took) = some s₂ := rfl
          have hAt : s₂.deliveries[s.deliveries.length]? = some ⟨notification, s.now, false⟩ :=
            List.getElem?_concat_length
          rw [deliverNextBillingNotification, hClaim]
          dsimp only
          split
          · let s₃ : MailSystem :=
              { s₂ with
                deliveries := s.deliveries ++ [⟨notification, s.now, true⟩]
                mails := mailOf notification :: s.mails }
            have hAccepted : s₂.step (.accept s.deliveries.length) = some s₃ := by
              rw [step, hAt]
              simp [s₁, s₂, s₃, deliveries]
            have hMarked : s₃.step (.markSent s.deliveries.length) = some
                { s with
                  now := s.now + took
                  outbox := outbox.markBillingNotificationSent (s.now + took) notification.id
                  mails := mailOf notification :: s.mails } := by
              simp [step, s₁, s₂, s₃, List.eraseIdx_append_of_length_le]
            exact ⟨[.claim [], .tick took, .accept s.deliveries.length,
                .markSent s.deliveries.length],
              run_cons.2 ⟨s₁, hClaimed, run_cons.2 ⟨s₂, hTicked, run_cons.2 ⟨s₃, hAccepted,
                run_cons.2 ⟨_, hMarked, rfl⟩⟩⟩⟩⟩
          · have hMarked : s₂.step (.markFailed s.deliveries.length) = some
                { s with
                  now := s.now + took
                  outbox := outbox.markBillingNotificationFailed (s.now + took) notification.id
                    (retrySeconds notification.attemptCount) } := by
              simp [step, s₁, s₂, deliveries, List.eraseIdx_append_of_length_le]
            exact ⟨[.claim [], .tick took, .markFailed s.deliveries.length],
              run_cons.2 ⟨s₁, hClaimed, run_cons.2 ⟨s₂, hTicked, run_cons.2 ⟨_, hMarked, rfl⟩⟩⟩⟩

/-! ### One call after another -/

/-- The time until a call, and the time until its answer. -/
structure DeliveryCall where
  idle : Nat
  took : Nat

def deliverAll (sender : String → BillingMessage → Bool) (s : MailSystem) :
    List DeliveryCall → MailSystem
  | [] => s
  | call :: calls =>
    let idled : MailSystem := { s with now := s.now + call.idle }
    deliverAll sender (idled.deliverNextBillingNotification sender call.took).1 calls

/-- How long the calls go on. -/
def duration (calls : List DeliveryCall) : Nat := (calls.map fun call => call.idle + call.took).sum

/-- The rows that a claim would take by the deadline. -/
def due (s : MailSystem) (deadline : Timestamp) : Nat :=
  s.outbox.rows.countP fun row => OutboxTable.Claimable deadline row

/-- A row can be claimed, or is not due before the deadline and sent if its mail is taken. -/
def Settling (sender : String → BillingMessage → Bool) (deadline : Timestamp) (s : MailSystem) :
    Prop :=
  ∀ row ∈ s.outbox.rows, OutboxTable.Claimable s.now row ∨
    ¬OutboxTable.Claimable deadline row ∧ (Takes sender row → row.status = .sent)

theorem countP_map_lt {α : Type} {l : List α} {p : α → Bool} {f : α → α} {a : α} (hMem : a ∈ l)
    (hWas : p a = true) (hNot : p (f a) = false) (hMono : ∀ b, p (f b) = true → p b = true) :
    (l.map f).countP p < l.countP p := by
  obtain ⟨before, after, rfl⟩ := List.append_of_mem hMem
  have hBefore : before.countP (p ∘ f) ≤ before.countP p :=
    List.countP_mono_left fun b _ => hMono b
  have hAfter : after.countP (p ∘ f) ≤ after.countP p := List.countP_mono_left fun b _ => hMono b
  rw [List.countP_map, List.countP_append, List.countP_append, List.countP_cons, List.countP_cons,
    Function.comp_apply, hNot, hWas]
  simp only [Bool.false_eq_true, if_false, if_true]
  omega

theorem le_add_nat (t : Timestamp) (n : Nat) : t ≤ t + n :=
  Int.le_add_of_nonneg_right (Int.natCast_nonneg n)

theorem Settling.idle (h : s.Settling sender deadline) (idle : Nat) :
    ({ s with now := s.now + idle } : MailSystem).Settling sender deadline :=
  fun row hRow => (h row hRow).imp_left fun hClaimable =>
    claimable_mono hClaimable (le_add_nat s.now idle)

theorem Settling.deliverNext (h : s.Settling sender deadline) (took : Nat)
    (hNow : s.now ≤ deadline) (hSoon : deadline < s.now + seconds 30) :
    (s.deliverNextBillingNotification sender took).1.Settling sender deadline ∧
      (s.deliverNextBillingNotification sender took).1.due deadline ≤ s.due deadline - 1 := by
  rcases rows_deliverNext (s := s) sender took with
    ⟨hNone, hSame⟩ | ⟨row, hRow, hClaimable, hNext, hRows⟩
  · have hDue : s.due deadline = 0 := by
      rw [due, List.countP_eq_zero]
      intro row hRow
      rw [decide_eq_true_eq]
      exact ((h row hRow).resolve_left (hNone row hRow)).1
    rw [hSame, hDue]
    exact ⟨h, Nat.le_refl 0⟩
  · have hLater : s.now ≤ s.now + (took : Int) := le_add_nat s.now took
    have hSettled : ∀ row, ¬OutboxTable.Claimable deadline (settle sender (s.now + took) row) :=
      fun row => not_claimable_settle (hSoon.trans_le (Int.add_le_add_right hLater _))
    refine ⟨fun row' hRow' => ?_, ?_⟩
    · rw [hRows, List.mem_map] at hRow'
      obtain ⟨old, hOld, rfl⟩ := hRow'
      rw [hNext]
      split
      · exact .inr ⟨hSettled old, fun hTakes => status_settle (takes_settle hTakes)⟩
      · exact (h old hOld).imp_left fun hOpen => claimable_mono hOpen hLater
    · have hLess := countP_map_lt (p := fun row => OutboxTable.Claimable deadline row)
        (f := fun row' => if row'.id = row.id then settle sender (s.now + took) row' else row') hRow
        (by simpa using claimable_mono hClaimable hNow) (by simpa using hSettled row) (by
          intro b hb
          split at hb
          · simp [hSettled] at hb
          · exact hb)
      rw [due, hRows]
      have hDue : s.due deadline =
        s.outbox.rows.countP fun row => OutboxTable.Claimable deadline row := rfl
      omega

variable (sender) in
theorem now_deliverNext (took : Nat) :
    s.now ≤ (s.deliverNextBillingNotification sender took).1.now ∧
      (s.deliverNextBillingNotification sender took).1.now ≤ s.now + took := by
  have hLater : s.now ≤ s.now + (took : Int) := le_add_nat s.now took
  rcases rows_deliverNext (s := s) sender took with ⟨-, hSame⟩ | ⟨row, -, -, hNext, -⟩
  · rw [hSame]
    exact ⟨le_refl _, hLater⟩
  · rw [hNext]
    exact ⟨hLater, le_refl _⟩

theorem called_within {now deadline total : Int} {idle took rest : Nat}
    (hEnds : now + total ≤ deadline) (hTotal : total = idle + took + rest) :
    now + idle ≤ deadline ∧ now + idle + took + rest ≤ deadline := by
  omega

theorem deliverAll_spec {calls : List DeliveryCall} (h : s.Settling sender deadline)
    (hEnds : s.now + duration calls ≤ deadline) (hSoon : deadline < s.now + seconds 30) :
    (s.deliverAll sender calls).Settling sender deadline ∧
      (s.deliverAll sender calls).now ≤ deadline ∧
      (s.deliverAll sender calls).due deadline ≤ s.due deadline - calls.length := by
  induction calls generalizing s with
  | nil => exact ⟨h, (le_add_nat s.now _).trans hEnds, Nat.le_refl _⟩
  | cons call calls ih =>
      have hDuration : (duration (call :: calls) : Int) =
          call.idle + call.took + duration calls := by
        simp [duration]
      obtain ⟨hAfter, hBefore⟩ :=
        now_deliverNext (s := { s with now := s.now + call.idle }) sender call.took
      obtain ⟨hCalled, hCalls⟩ := called_within hEnds hDuration
      have hIdle := le_add_nat s.now call.idle
      have hSoon' : deadline < s.now + call.idle + seconds 30 :=
        hSoon.trans_le (Int.add_le_add_right hIdle _)
      obtain ⟨hSettling, hDue⟩ := (h.idle call.idle).deliverNext call.took hCalled hSoon'
      obtain ⟨hAll, hNow, hLess⟩ := ih hSettling
        ((Int.add_le_add_right hBefore _).trans hCalls)
        (hSoon'.trans_le (Int.add_le_add_right hAfter _))
      refine ⟨hAll, hNow, hLess.trans ?_⟩
      have hSame : ({ s with now := s.now + call.idle } : MailSystem).due deadline =
        s.due deadline := rfl
      rw [hSame] at hDue
      rw [List.length_cons]
      omega

variable (sender) in
theorem run_deliverAll (calls : List DeliveryCall) :
    ∃ es, run MailSystem.step s es = some (s.deliverAll sender calls) := by
  induction calls generalizing s with
  | nil => exact ⟨[], rfl⟩
  | cons call calls ih =>
      obtain ⟨es, hNext⟩ :=
        run_deliverNext (s := { s with now := s.now + call.idle }) sender call.took
      obtain ⟨fs, hRest⟩ := @ih
        (deliverNextBillingNotification { s with now := s.now + call.idle } sender call.took).1
      exact ⟨.tick call.idle :: (es ++ fs), run_cons.2 ⟨_, rfl, run_append.2 ⟨_, hNext, hRest⟩⟩⟩

theorem rowMails_deliverAll (calls : List DeliveryCall) :
    (s.deliverAll sender calls).rowMails = s.rowMails := by
  induction calls generalizing s with
  | nil => rfl
  | cons call calls ih =>
      rw [deliverAll, ih]
      rcases rows_deliverNext (s := { s with now := s.now + call.idle }) sender call.took with
        ⟨-, hSame⟩ | ⟨row, -, -, -, hRows⟩
      · rw [hSame]
        rfl
      · rw [rowMails, hRows, List.map_map]
        refine List.map_congr_left fun row' _ => ?_
        rw [Function.comp_apply]
        split
        · unfold settle
          split <;> rfl
        · rfl

/-! ### An hour later -/

variable (sender) in
theorem Orderly.settling (h : s.Orderly) {later : Nat} (hLater : 3600000000 ≤ later) :
    ({ s with now := s.now + later } : MailSystem).Settling sender deadline := by
  intro row hRow
  have hOld := h.rows row hRow
  have hUpdated : row.updatedAt ≤ s.now := hOld.updatedAt_le
  have hNext : row.nextAttemptAt ≤ row.updatedAt + 3600000000 := hOld.nextAttemptAt_le
  have hHour : s.now + 3600000000 ≤ s.now + (later : Int) :=
    add_le_add_right (by exact_mod_cast hLater) _
  have hDue : row.nextAttemptAt ≤ s.now + (later : Int) :=
    (hNext.trans (add_le_add_left hUpdated _)).trans hHour
  cases hStatus : row.status with
  | pending => exact .inl (.inl ⟨.inl hStatus, hDue⟩)
  | failed => exact .inl (.inl ⟨.inr hStatus, hDue⟩)
  | sending =>
      refine .inl (.inr ⟨hStatus, ?_⟩)
      have hTenMinutes : s.now < s.now + (later : Int) - seconds 600 := by
        rw [lt_sub_iff_add_lt]
        refine lt_of_lt_of_le ?_ hHour
        exact add_lt_add_right (by decide) _
      exact lt_of_le_of_lt hUpdated hTenMinutes
  | sent => exact .inr ⟨by simp [OutboxTable.Claimable, hStatus], fun _ => rfl⟩
  | cancelled => exact absurd hStatus hOld.not_cancelled

/-- Whatever became of the workers of a run: an hour later, one worker sends each mail that the
provider takes with as many calls as there are rows, whether it takes the others or not, if it is
done before a mail that was refused is tried again. -/
theorem no_notification_lost {now : Timestamp} {es : List MailEvent} {later : Nat}
    {calls : List DeliveryCall} (hRun : run MailSystem.step (MailSystem.empty now) es = some s)
    (hLater : 3600000000 ≤ later) (hEnough : s.outbox.rows.length ≤ calls.length)
    (hSoon : duration calls < 30000000) :
    (({ s with now := s.now + later } : MailSystem).deliverAll sender calls).rowMails = s.rowMails ∧
      ∀ row ∈ (({ s with now := s.now + later } : MailSystem).deliverAll sender calls).outbox.rows,
        Takes sender row → row.status = .sent ∧
          0 < (({ s with now := s.now + later } : MailSystem).deliverAll sender calls).mailsOf
            row.id := by
  have hOrderly := orderly_of_run hRun
  have hLaterOrderly : ({ s with now := s.now + later } : MailSystem).Orderly :=
    hOrderly.ticked later
  obtain ⟨hSettling, hNow, hDue⟩ := deliverAll_spec (hOrderly.settling sender hLater)
    (le_refl (s.now + later + duration calls))
    (Int.add_lt_add_left (Int.ofNat_lt.2 hSoon) (s.now + later))
  obtain ⟨fs, hDelivered⟩ :=
    run_deliverAll (s := { s with now := s.now + later }) sender calls
  have hEnd := run_invariant (fun _ _ _ h hStep => Orderly.step h hStep) hLaterOrderly hDelivered
  refine ⟨rowMails_deliverAll calls, fun row hRow hTakes => ?_⟩
  have hNone : (({ s with now := s.now + later } : MailSystem).deliverAll sender calls).due
      (s.now + later + duration calls) = 0 := by
    have hFew : ({ s with now := s.now + later } : MailSystem).due
      (s.now + later + duration calls) ≤ s.outbox.rows.length := List.countP_le_length
    omega
  have hSent : row.status = .sent := by
    rcases hSettling row hRow with hClaimable | ⟨-, hDone⟩
    · rw [due, List.countP_eq_zero] at hNone
      have hNot := hNone row hRow
      rw [decide_eq_true_eq] at hNot
      exact absurd (claimable_mono hClaimable hNow) hNot
    · exact hDone hTakes
  exact ⟨hSent, (hEnd.rows row hRow).mailed hSent⟩

/-- One worker is lost with the first row and another has failed with the second. -/
def abandoned : List MailEvent :=
  [.setUsers [firstUser], .enqueue graceStarted, .enqueue ⟨7, "other", "other:7", .obj []⟩,
    .claim [], .claim [], .markFailed 1, .lose 0]

/-- The provider refuses the first mail. -/
def refusesFirst (_ : String) (message : BillingMessage) : Bool :=
  message.subject ≠
    (renderBillingNotification ⟨0, 7, "billing_grace_started", "user", .obj [], 0⟩).subject

/-- Two calls, with ten seconds before each. -/
def twoCalls : List DeliveryCall := [⟨10000000, 2000000⟩, ⟨10000000, 1000000⟩]

theorem abandoned_rows_sent : ∃ s ∈ run MailSystem.step (MailSystem.empty 0) abandoned,
    (∀ row ∈ s.outbox.rows, row.status ≠ .sent) ∧
      (({ s with now := s.now + (3600000000 : Nat) } : MailSystem).deliverAll
        refusesFirst twoCalls).outbox.rows.map (·.status) = [.failed, .sent] ∧
      (({ s with now := s.now + (3600000000 : Nat) } : MailSystem).deliverAll
        refusesFirst twoCalls).rowMails = s.rowMails ∧
      ∀ row ∈ (({ s with now := s.now + (3600000000 : Nat) } : MailSystem).deliverAll
          refusesFirst twoCalls).outbox.rows,
        Takes refusesFirst row → row.status = .sent ∧
          0 < (({ s with now := s.now + (3600000000 : Nat) } : MailSystem).deliverAll
            refusesFirst twoCalls).mailsOf row.id := by
  have hExists : ∃ s ∈ run MailSystem.step (MailSystem.empty 0) abandoned,
      (∀ row ∈ s.outbox.rows, row.status ≠ .sent) ∧ s.outbox.rows.length ≤ 2 ∧
        (({ s with now := s.now + (3600000000 : Nat) } : MailSystem).deliverAll
          refusesFirst twoCalls).outbox.rows.map (·.status) = [.failed, .sent] := by
    decide +kernel
  obtain ⟨s, hRun, hOpen, hTwo, hOutcome⟩ := hExists
  exact ⟨s, hRun, hOpen, hOutcome, no_notification_lost hRun le_rfl hTwo (by decide)⟩

end MailSystem

end Hyperspace.Notifications
