import Hyperspace.Notifications.Outbox

/-!
# Notifications are accounted for

Whatever becomes of the workers, a key has one row, each mail says what its row says, and no row is
mailed more often than it was claimed.
-/

namespace Hyperspace.Notifications

open Hyperspace.Billing (Timestamp)
open Hyperspace.Foundations

/-! ### What a step does -/

theorem exists_split_at {α : Type} {l : List α} {i : Nat} {a : α} (h : l[i]? = some a) :
    ∃ before after, l = before ++ a :: after ∧ (∀ b, l.set i b = before ++ b :: after) ∧
      l.eraseIdx i = before ++ after := by
  obtain ⟨hBound, hAt⟩ := List.getElem?_eq_some_iff.1 h
  refine ⟨l.take i, l.drop (i + 1), ?_, fun b => ?_, List.eraseIdx_eq_take_drop_succ l i⟩
  · rw [← hAt, List.getElem_cons_drop, List.take_append_drop]
  · rw [List.set_eq_take_append_cons_drop, if_pos hBound]

theorem mem_update_cases {t : OutboxTable} {k : Nat} {f : OutboxRow → OutboxRow}
    (hf : ∀ r, (f r).id = r.id) {row' : OutboxRow} (h : row' ∈ (t.update k f hf).rows) :
    (row' ∈ t.rows ∧ row'.id ≠ k) ∨ ∃ row ∈ t.rows, row.id = k ∧ row' = f row := by
  obtain ⟨row, hRow, hEq⟩ := SerialTable.mem_update.1 h
  split at hEq
  · rename_i hKey
    exact .inr ⟨row, hRow, hKey, hEq.symm⟩
  · rename_i hKey
    subst hEq
    exact .inl ⟨hRow, hKey⟩

theorem map_update {β : Type} {t : OutboxTable} {k : Nat} {f : OutboxRow → OutboxRow}
    (hf : ∀ r, (f r).id = r.id) {g : OutboxRow → β} (hg : ∀ row, g (f row) = g row) :
    (t.update k f hf).rows.map g = t.rows.map g := by
  show (t.table.rows.map _).map g = t.rows.map g
  rw [List.map_map]
  refine List.map_congr_left fun row _ => ?_
  rw [Function.comp_apply]
  split
  · exact hg row
  · rfl

namespace MailSystem

variable {s s' : MailSystem} {e : MailEvent}

/-- The rows that a step writes, and the worker that takes it. -/
inductive StepsTo (s : MailSystem) : MailEvent → MailSystem → Prop
  | ticked (n : Nat) : StepsTo s (.tick n) { s with now := s.now + n }
  | usersSet (users : List NotifiedUser) : StepsTo s (.setUsers users) { s with users }
  | notEnqueued (input : NotificationInput) : StepsTo s (.enqueue input) s
  | enqueued (input : NotificationInput) (make : Nat → OutboxRow) (hId : ∀ id, (make id).id = id)
      (hKey : ∀ id, (make id).dedupeKey = input.dedupeKey)
      (hStatus : ∀ id, (make id).status = .pending)
      (hNext : ∀ id, (make id).nextAttemptAt = s.now)
      (hUpdated : ∀ id, (make id).updatedAt = s.now)
      (hNew : input.dedupeKey ∉ s.outbox.rows.map (·.dedupeKey)) :
      StepsTo s (.enqueue input) { s with outbox := s.outbox.insert make hId }
  | notClaimed (locked : List Nat) : StepsTo s (.claim locked) s
  | claimed (locked : List Nat) (row : OutboxRow) (hRow : row ∈ s.outbox.rows)
      (hClaimable : OutboxTable.Claimable s.now row) :
      StepsTo s (.claim locked)
        { s with
          outbox := s.outbox.update row.id (OutboxTable.claimRow s.now) fun _ => rfl
          deliveries := s.deliveries ++
            [⟨(OutboxTable.claimRow s.now row).toBillingNotificationRow, s.now, false⟩] }
  | accepted (i : Nat) (d : Delivery) (before after : List Delivery)
      (hAt : s.deliveries[i]? = some d) (hSplit : s.deliveries = before ++ d :: after)
      (hOpen : d.accepted = false) :
      StepsTo s (.accept i)
        { s with
          deliveries := before ++ { d with accepted := true } :: after
          mails := mailOf d.notification :: s.mails }
  | markedSent (i : Nat) (d : Delivery) (before after : List Delivery)
      (hAt : s.deliveries[i]? = some d) (hSplit : s.deliveries = before ++ d :: after)
      (hAccepted : d.accepted = true) :
      StepsTo s (.markSent i)
        { s with
          outbox := s.outbox.markBillingNotificationSent s.now d.notification.id
          deliveries := before ++ after }
  | markedFailed (i : Nat) (d : Delivery) (before after : List Delivery)
      (hAt : s.deliveries[i]? = some d) (hSplit : s.deliveries = before ++ d :: after) :
      StepsTo s (.markFailed i)
        { s with
          outbox := s.outbox.markBillingNotificationFailed s.now d.notification.id
            (retrySeconds d.notification.attemptCount)
          deliveries := before ++ after }
  | lost (i : Nat) (d : Delivery) (before after : List Delivery)
      (hAt : s.deliveries[i]? = some d) (hSplit : s.deliveries = before ++ d :: after) :
      StepsTo s (.lose i) { s with deliveries := before ++ after }

theorem stepsTo_enqueue {input : NotificationInput} :
    s.StepsTo (.enqueue input)
      { s with outbox := s.outbox.enqueueBillingNotification s.now s.users input } := by
  unfold OutboxTable.enqueueBillingNotification
  split
  · exact .notEnqueued input
  · split
    · exact .notEnqueued input
    · rename_i hNew
      exact .enqueued input _ (fun _ => rfl) (fun _ => rfl) (fun _ => rfl) (fun _ => rfl)
        (fun _ => rfl) hNew

theorem stepsTo_claim {locked : List Nat} (h : s.step (.claim locked) = some s') :
    s.StepsTo (.claim locked) s' := by
  rw [step, OutboxTable.claimBillingNotification] at h
  cases hCandidate : s.outbox.candidate? s.now locked with
  | none =>
      rw [hCandidate] at h
      cases h
      exact .notClaimed locked
  | some row =>
      rw [hCandidate] at h
      cases h
      have hMem := List.mem_of_head? hCandidate
      exact .claimed locked row (mem_of_mem_selectForUpdate hMem)
        (wanted_of_mem_selectForUpdate hMem)

theorem stepsTo_of_step (h : s.step e = some s') : s.StepsTo e s' := by
  cases e with
  | tick n =>
      cases h
      exact .ticked n
  | setUsers users =>
      cases h
      exact .usersSet users
  | enqueue input =>
      cases h
      exact stepsTo_enqueue
  | claim locked => exact stepsTo_claim h
  | accept i =>
      obtain ⟨d, hAt, hNext⟩ := Option.bind_eq_some_iff.1 h
      obtain ⟨before, after, hSplit, hSet, -⟩ := exists_split_at hAt
      split at hNext
      · cases hNext
      · rename_i hOpen
        cases hNext
        rw [hSet]
        exact .accepted i d before after hAt hSplit (Bool.eq_false_iff.2 hOpen)
  | markSent i =>
      obtain ⟨d, hAt, hNext⟩ := Option.bind_eq_some_iff.1 h
      obtain ⟨before, after, hSplit, -, hErase⟩ := exists_split_at hAt
      split at hNext
      · rename_i hAccepted
        cases hNext
        rw [hErase]
        exact .markedSent i d before after hAt hSplit hAccepted
      · cases hNext
  | markFailed i =>
      obtain ⟨d, hAt, hNext⟩ := Option.bind_eq_some_iff.1 h
      obtain ⟨before, after, hSplit, -, hErase⟩ := exists_split_at hAt
      cases hNext
      rw [hErase]
      exact .markedFailed i d before after hAt hSplit
  | lose i =>
      obtain ⟨d, hAt, hNext⟩ := Option.bind_eq_some_iff.1 h
      obtain ⟨before, after, hSplit, -, hErase⟩ := exists_split_at hAt
      cases hNext
      rw [hErase]
      exact .lost i d before after hAt hSplit

/-! ### Every run -/

/-- What is mailed for each row. -/
def rowMails (s : MailSystem) : List Mail :=
  s.outbox.rows.map fun row => mailOf row.toBillingNotificationRow

/-- The workers whose mail may still go out. -/
def waiting (s : MailSystem) (id : Nat) : Nat :=
  s.deliveries.countP fun d => d.notification.id = id && !d.accepted

/-- What holds of a row in every state. -/
structure RowOrderly (s : MailSystem) (row : OutboxRow) : Prop where
  counted : s.mailsOf row.id + s.waiting row.id ≤ row.attemptCount
  mailed : row.status = .sent → 0 < s.mailsOf row.id
  updatedAt_le : row.updatedAt ≤ s.now
  nextAttemptAt_le : row.nextAttemptAt ≤ row.updatedAt + seconds 3600
  not_cancelled : row.status ≠ .cancelled

/-- Each mail and each delivery under way is that of a row, and every row is in order. -/
structure Orderly (s : MailSystem) : Prop where
  keysNodup : (s.outbox.rows.map (·.dedupeKey)).Nodup
  mails_mem : ∀ mail ∈ s.mails, mail ∈ s.rowMails
  deliveries_mem : ∀ d ∈ s.deliveries, mailOf d.notification ∈ s.rowMails
  accepted : ∀ d ∈ s.deliveries, d.accepted = true → 0 < s.mailsOf d.notification.id
  rows : ∀ row ∈ s.outbox.rows, s.RowOrderly row

theorem mailsOf_cons {notification : BillingNotificationRow} {mails : List Mail} {id : Nat}
    (h : s'.mails = mailOf notification :: mails) (hMails : s.mails = mails) :
    s'.mailsOf id = s.mailsOf id + if notification.id = id then 1 else 0 := by
  rw [mailsOf, mailsOf, h, hMails, List.countP_cons]
  by_cases hId : notification.id = id
  · simp [mailOf, hId]
  · simp [mailOf, hId]

theorem waiting_eq {before after : List Delivery} {d : Delivery} {id : Nat}
    (hSplit : s.deliveries = before ++ d :: after) :
    s.waiting id = ({ s with deliveries := before ++ after } : MailSystem).waiting id +
      if d.notification.id = id ∧ d.accepted = false then 1 else 0 := by
  rw [waiting, waiting, hSplit, List.countP_append, List.countP_append, List.countP_cons]
  simp [Nat.add_assoc]

theorem mailsOf_next (h : s.Orderly) : s.mailsOf s.outbox.next = 0 := by
  rw [mailsOf, List.countP_eq_zero]
  intro mail hMail
  obtain ⟨row, hRow, rfl⟩ := List.mem_map.1 (h.mails_mem mail hMail)
  have hLess : row.id < s.outbox.next := s.outbox.fresh row hRow
  rw [decide_eq_true_eq]
  exact hLess.ne

theorem waiting_next (h : s.Orderly) : s.waiting s.outbox.next = 0 := by
  rw [waiting, List.countP_eq_zero]
  intro d hd
  obtain ⟨row, hRow, hMail⟩ := List.mem_map.1 (h.deliveries_mem d hd)
  have hLess : row.id < s.outbox.next := s.outbox.fresh row hRow
  have hId : row.id = d.notification.id := congrArg Mail.notificationId hMail
  simp only [Bool.and_eq_true, decide_eq_true_eq]
  omega

theorem retrySeconds_le {attemptCount : Nat} : retrySeconds attemptCount ≤ 3600 :=
  Nat.min_le_left _ _

theorem seconds_mono {m n : Nat} (h : m ≤ n) : seconds m ≤ seconds n := by
  unfold seconds
  omega

theorem Orderly.ticked (h : s.Orderly) (n : Nat) :
    ({ s with now := s.now + n } : MailSystem).Orderly where
  keysNodup := h.keysNodup
  mails_mem := h.mails_mem
  deliveries_mem := h.deliveries_mem
  accepted := h.accepted
  rows := fun row hRow =>
    { counted := (h.rows row hRow).counted
      mailed := (h.rows row hRow).mailed
      updatedAt_le := (h.rows row hRow).updatedAt_le.trans (by simp)
      nextAttemptAt_le := (h.rows row hRow).nextAttemptAt_le
      not_cancelled := (h.rows row hRow).not_cancelled }

theorem Orderly.enqueued (h : s.Orderly) {key : String} {make : Nat → OutboxRow}
    (hId : ∀ id, (make id).id = id) (hKey : ∀ id, (make id).dedupeKey = key)
    (hStatus : ∀ id, (make id).status = .pending)
    (hNext : ∀ id, (make id).nextAttemptAt = s.now) (hUpdated : ∀ id, (make id).updatedAt = s.now)
    (hNew : key ∉ s.outbox.rows.map (·.dedupeKey)) :
    ({ s with outbox := s.outbox.insert make hId } : MailSystem).Orderly := by
  have hRows : (s.outbox.insert make hId).rows = s.outbox.rows ++ [make s.outbox.next] := rfl
  refine
    { keysNodup := ?_, mails_mem := ?_, deliveries_mem := ?_, accepted := h.accepted, rows := ?_ }
  · show ((s.outbox.insert make hId).rows.map (·.dedupeKey)).Nodup
    rw [hRows, List.map_append, List.map_singleton, hKey]
    exact List.nodup_append.2 ⟨h.keysNodup, List.nodup_singleton _, by
      rintro a ha b hb rfl
      exact hNew (List.mem_singleton.1 hb ▸ ha)⟩
  · intro mail hMail
    rw [rowMails, hRows, List.map_append]
    exact List.mem_append_left _ (h.mails_mem mail hMail)
  · intro d hd
    rw [rowMails, hRows, List.map_append]
    exact List.mem_append_left _ (h.deliveries_mem d hd)
  · intro row hRow
    rw [hRows, List.mem_append, List.mem_singleton] at hRow
    rcases hRow with hOld | rfl
    · exact ⟨(h.rows row hOld).counted, (h.rows row hOld).mailed, (h.rows row hOld).updatedAt_le,
        (h.rows row hOld).nextAttemptAt_le, (h.rows row hOld).not_cancelled⟩
    · refine ⟨?_, ?_, (hUpdated _).le, ?_, ?_⟩
      · rw [hId]
        show s.mailsOf s.outbox.next + s.waiting s.outbox.next ≤ _
        rw [mailsOf_next h, waiting_next h]
        exact Nat.zero_le _
      · intro hSent
        rw [hStatus] at hSent
        cases hSent
      · rw [hNext, hUpdated]
        simp [seconds]
      · rw [hStatus]
        intro hCancelled
        cases hCancelled

/-- A row is rewritten, and the workers that are left are old ones or of its own mail. -/
theorem Orderly.rewritten (h : s.Orderly) {k : Nat} {f : OutboxRow → OutboxRow}
    {hf : ∀ r, (f r).id = r.id} {deliveries : List Delivery}
    (hKey : ∀ row, (f row).dedupeKey = row.dedupeKey)
    (hMail : ∀ row, mailOf (f row).toBillingNotificationRow = mailOf row.toBillingNotificationRow)
    (hOld : ∀ d ∈ deliveries, d ∈ s.deliveries ∨
      mailOf d.notification ∈ s.rowMails ∧ d.accepted = false)
    (hWaiting : ∀ id, id ≠ k → ({ s with deliveries } : MailSystem).waiting id ≤ s.waiting id)
    (hRow : ∀ row ∈ s.outbox.rows, row.id = k →
      ({ s with deliveries } : MailSystem).RowOrderly (f row)) :
    ({ s with outbox := s.outbox.update k f hf, deliveries } : MailSystem).Orderly := by
  have hRowMails : ({ s with outbox := s.outbox.update k f hf, deliveries } : MailSystem).rowMails =
      s.rowMails := map_update hf hMail
  refine { keysNodup := ?_, mails_mem := ?_, deliveries_mem := ?_, accepted := ?_, rows := ?_ }
  · show ((s.outbox.update k f hf).rows.map (·.dedupeKey)).Nodup
    rw [map_update hf hKey]
    exact h.keysNodup
  · rw [hRowMails]
    exact h.mails_mem
  · intro d hd
    rw [hRowMails]
    rcases hOld d hd with hMem | ⟨hMem, -⟩
    · exact h.deliveries_mem d hMem
    · exact hMem
  · intro d hd hAccepted
    rcases hOld d hd with hMem | ⟨-, hOpen⟩
    · exact h.accepted d hMem hAccepted
    · rw [hOpen] at hAccepted
      cases hAccepted
  · intro row' hRow'
    rcases mem_update_cases hf hRow' with ⟨hMem, hNe⟩ | ⟨row, hMem, hId, rfl⟩
    · have hSame := h.rows row' hMem
      exact ⟨(Nat.add_le_add_left (hWaiting _ hNe) _).trans hSame.counted, hSame.mailed,
        hSame.updatedAt_le, hSame.nextAttemptAt_le, hSame.not_cancelled⟩
    · have hNew := hRow row hMem hId
      exact ⟨hNew.counted, hNew.mailed, hNew.updatedAt_le, hNew.nextAttemptAt_le,
        hNew.not_cancelled⟩

theorem waiting_remove {before after : List Delivery} {d : Delivery} {id : Nat}
    (hSplit : s.deliveries = before ++ d :: after) :
    ({ s with deliveries := before ++ after } : MailSystem).waiting id ≤ s.waiting id := by
  rw [waiting_eq hSplit]
  exact Nat.le_add_right _ _

theorem mem_of_mem_remove {before after : List Delivery} {d d' : Delivery}
    (hSplit : s.deliveries = before ++ d :: after) (h : d' ∈ before ++ after) :
    d' ∈ s.deliveries := by
  rw [hSplit, List.mem_append, List.mem_cons]
  rcases List.mem_append.1 h with hBefore | hAfter
  · exact .inl hBefore
  · exact .inr (.inr hAfter)

theorem mem_of_split {before after : List Delivery} {d : Delivery}
    (hSplit : s.deliveries = before ++ d :: after) : d ∈ s.deliveries := by
  rw [hSplit]
  exact List.mem_append_right _ List.mem_cons_self

theorem Orderly.claimed (h : s.Orderly) {row : OutboxRow} (hRow : row ∈ s.outbox.rows) :
    ({ s with
      outbox := s.outbox.update row.id (OutboxTable.claimRow s.now) fun _ => rfl
      deliveries := s.deliveries ++
        [⟨(OutboxTable.claimRow s.now row).toBillingNotificationRow, s.now, false⟩] } :
      MailSystem).Orderly := by
  refine h.rewritten (fun _ => rfl) (fun _ => rfl) ?_ ?_ ?_
  · intro d hd
    rcases List.mem_append.1 hd with hOld | hNew
    · exact .inl hOld
    · rw [List.mem_singleton.1 hNew]
      exact .inr ⟨List.mem_map.2 ⟨row, hRow, rfl⟩, rfl⟩
  · intro id hNe
    rw [waiting, List.countP_append, List.countP_singleton]
    simp [OutboxTable.claimRow, Ne.symm hNe, waiting]
  · intro row' hRow' hId
    have hSame : row' = row := SerialTable.row_unique hRow' hRow hId
    subst hSame
    have hOld := h.rows row' hRow'
    refine ⟨?_, ?_, le_rfl, ?_, ?_⟩
    · have hCount : ({ s with deliveries := s.deliveries ++
          [⟨(OutboxTable.claimRow s.now row').toBillingNotificationRow, s.now, false⟩] } :
          MailSystem).waiting row'.id = s.waiting row'.id + 1 := by
        rw [waiting, List.countP_append, List.countP_singleton]
        simp [OutboxTable.claimRow, waiting]
      show s.mailsOf row'.id + _ ≤ row'.attemptCount + 1
      rw [show (OutboxTable.claimRow s.now row').id = row'.id from rfl, hCount]
      have hCounted := hOld.counted
      omega
    · intro hSent
      cases hSent
    · have hNext := hOld.nextAttemptAt_le
      have hUpdated := hOld.updatedAt_le
      show row'.nextAttemptAt ≤ s.now + seconds 3600
      exact hNext.trans (add_le_add_left hUpdated _)
    · intro hCancelled
      cases hCancelled

theorem Orderly.mailed (h : s.Orderly) {d : Delivery} {before after : List Delivery}
    (hSplit : s.deliveries = before ++ d :: after) (hOpen : d.accepted = false) :
    ({ s with
      deliveries := before ++ { d with accepted := true } :: after
      mails := mailOf d.notification :: s.mails } : MailSystem).Orderly := by
  let s' : MailSystem :=
    { s with
      deliveries := before ++ { d with accepted := true } :: after
      mails := mailOf d.notification :: s.mails }
  have hMails : ∀ id, s'.mailsOf id = s.mailsOf id + if d.notification.id = id then 1 else 0 :=
    fun id => mailsOf_cons (s := s) rfl rfl
  have hOldWaiting : ∀ id, s.waiting id =
      ({ s with deliveries := before ++ after } : MailSystem).waiting id +
        if d.notification.id = id then 1 else 0 := by
    intro id
    rw [waiting_eq hSplit]
    simp [hOpen]
  have hWaiting : ∀ id, s'.waiting id =
      ({ s with deliveries := before ++ after } : MailSystem).waiting id := by
    intro id
    rw [waiting_eq (s := s') rfl, if_neg (by simp)]
    rfl
  have hKnown : mailOf d.notification ∈ s.rowMails := h.deliveries_mem d (mem_of_split hSplit)
  have hMem : ∀ d' ∈ s'.deliveries, d' ∈ s.deliveries ∨ d' = { d with accepted := true } := by
    intro d' hd'
    rw [hSplit, List.mem_append, List.mem_cons]
    rcases List.mem_append.1 hd' with hBefore | hRest
    · exact .inl (.inl hBefore)
    · rcases List.mem_cons.1 hRest with hSelf | hAfter
      · exact .inr hSelf
      · exact .inl (.inr (.inr hAfter))
  refine
    { keysNodup := h.keysNodup, mails_mem := ?_, deliveries_mem := ?_, accepted := ?_, rows := ?_ }
  · intro mail hMail
    rcases List.mem_cons.1 hMail with rfl | hOld
    · exact hKnown
    · exact h.mails_mem mail hOld
  · intro d' hd'
    rcases hMem d' hd' with hOld | rfl
    · exact h.deliveries_mem d' hOld
    · exact hKnown
  · intro d' hd' hAccepted
    show 0 < s'.mailsOf d'.notification.id
    rw [hMails]
    rcases hMem d' hd' with hOld | rfl
    · exact Nat.add_pos_left (h.accepted d' hOld hAccepted) _
    · simp
  · intro row hRow
    have hOld := h.rows row hRow
    refine ⟨?_, fun hSent => ?_, hOld.updatedAt_le, hOld.nextAttemptAt_le, hOld.not_cancelled⟩
    · show s'.mailsOf row.id + s'.waiting row.id ≤ row.attemptCount
      have hCounted := hOld.counted
      rw [hOldWaiting] at hCounted
      rw [hMails, hWaiting]
      omega
    · show 0 < s'.mailsOf row.id
      rw [hMails]
      exact Nat.add_pos_left (hOld.mailed hSent) _

theorem Orderly.markedSent (h : s.Orderly) {d : Delivery} {before after : List Delivery}
    (hSplit : s.deliveries = before ++ d :: after) (hAccepted : d.accepted = true) :
    ({ s with
      outbox := s.outbox.markBillingNotificationSent s.now d.notification.id
      deliveries := before ++ after } : MailSystem).Orderly := by
  refine h.rewritten (fun _ => rfl) (fun _ => rfl)
    (fun d' hd' => .inl (mem_of_mem_remove hSplit hd')) (fun id _ => waiting_remove hSplit) ?_
  intro row hRow hId
  have hOld := h.rows row hRow
  refine ⟨(Nat.add_le_add_left (waiting_remove hSplit) _).trans hOld.counted, fun _ => ?_, le_rfl,
    hOld.nextAttemptAt_le.trans (add_le_add_left hOld.updatedAt_le _), ?_⟩
  · show 0 < s.mailsOf row.id
    rw [hId]
    exact h.accepted d (mem_of_split hSplit) hAccepted
  · intro hCancelled
    cases hCancelled

theorem Orderly.markedFailed (h : s.Orderly) {d : Delivery} {before after : List Delivery}
    (hSplit : s.deliveries = before ++ d :: after) :
    ({ s with
      outbox := s.outbox.markBillingNotificationFailed s.now d.notification.id
        (retrySeconds d.notification.attemptCount)
      deliveries := before ++ after } : MailSystem).Orderly := by
  refine h.rewritten (fun _ => rfl) (fun _ => rfl)
    (fun d' hd' => .inl (mem_of_mem_remove hSplit hd')) (fun id _ => waiting_remove hSplit) ?_
  intro row hRow _
  have hOld := h.rows row hRow
  refine ⟨(Nat.add_le_add_left (waiting_remove hSplit) _).trans hOld.counted, fun hSent => ?_,
    le_rfl, add_le_add_right (seconds_mono retrySeconds_le) _, ?_⟩
  · cases hSent
  · intro hCancelled
    cases hCancelled

theorem Orderly.lost (h : s.Orderly) {d : Delivery} {before after : List Delivery}
    (hSplit : s.deliveries = before ++ d :: after) :
    ({ s with deliveries := before ++ after } : MailSystem).Orderly where
  keysNodup := h.keysNodup
  mails_mem := h.mails_mem
  deliveries_mem := fun d' hd' => h.deliveries_mem d' (mem_of_mem_remove hSplit hd')
  accepted := fun d' hd' => h.accepted d' (mem_of_mem_remove hSplit hd')
  rows := by
    intro row hRow
    have hOld := h.rows row hRow
    exact ⟨(Nat.add_le_add_left (waiting_remove hSplit) _).trans hOld.counted, hOld.mailed,
      hOld.updatedAt_le, hOld.nextAttemptAt_le, hOld.not_cancelled⟩

theorem Orderly.step (h : s.Orderly) (hStep : s.step e = some s') : s'.Orderly := by
  cases stepsTo_of_step hStep with
  | ticked n => exact h.ticked n
  | usersSet users =>
      exact ⟨h.keysNodup, h.mails_mem, h.deliveries_mem, h.accepted, fun row hRow =>
        ⟨(h.rows row hRow).counted, (h.rows row hRow).mailed, (h.rows row hRow).updatedAt_le,
          (h.rows row hRow).nextAttemptAt_le, (h.rows row hRow).not_cancelled⟩⟩
  | notEnqueued input => exact h
  | enqueued input make hId hKey hStatus hNext hUpdated hNew =>
      exact h.enqueued hId hKey hStatus hNext hUpdated hNew
  | notClaimed locked => exact h
  | claimed locked row hRow hClaimable => exact h.claimed hRow
  | accepted i d before after hAt hSplit hOpen => exact h.mailed hSplit hOpen
  | markedSent i d before after hAt hSplit hAccepted => exact h.markedSent hSplit hAccepted
  | markedFailed i d before after hAt hSplit => exact h.markedFailed hSplit
  | lost i d before after hAt hSplit => exact h.lost hSplit

theorem orderly_empty {now : Timestamp} : (MailSystem.empty now).Orderly := by
  refine ⟨List.nodup_nil, ?_, ?_, ?_, ?_⟩
  all_goals
    intro _ hMem
    cases hMem

theorem orderly_of_run {now : Timestamp} {es : List MailEvent}
    (hRun : run MailSystem.step (MailSystem.empty now) es = some s) : s.Orderly :=
  run_invariant (fun _ _ _ h hStep => Orderly.step h hStep) orderly_empty hRun

/-- Whatever happens in between: one row for a key, each mail says what its row says, no row is
mailed more often than it was claimed, and none is sent that was not mailed. -/
theorem notifications_accounted_for {now : Timestamp} {es : List MailEvent}
    (hRun : run MailSystem.step (MailSystem.empty now) es = some s) :
    (s.outbox.rows.map (·.dedupeKey)).Nodup ∧
      (∀ mail ∈ s.mails, ∃ row ∈ s.outbox.rows, mailOf row.toBillingNotificationRow = mail) ∧
      ∀ row ∈ s.outbox.rows,
        s.mailsOf row.id ≤ row.attemptCount ∧ (row.status = .sent → 0 < s.mailsOf row.id) := by
  have hOrderly := orderly_of_run hRun
  refine ⟨hOrderly.keysNodup, fun mail hMail => ?_, fun row hRow => ⟨?_, ?_⟩⟩
  · obtain ⟨row, hRow, hEq⟩ := List.mem_map.1 (hOrderly.mails_mem mail hMail)
    exact ⟨row, hRow, hEq⟩
  · exact (Nat.le_add_right _ _).trans (hOrderly.rows row hRow).counted
  · exact (hOrderly.rows row hRow).mailed

def firstUser : NotifiedUser := ⟨0, 7, "user", 0, none⟩

def graceStarted : NotificationInput := ⟨7, "billing_grace_started", "billing-grace:7", .obj []⟩

/-- The first worker is lost after its mail, and a second one mails the row again. -/
def mailedTwice : List MailEvent :=
  [.setUsers [firstUser], .enqueue graceStarted, .enqueue graceStarted, .claim [], .accept 0,
    .lose 0,
    .tick 600000001, .claim [], .accept 0, .markSent 0]

theorem row_mailed_twice : ∃ s ∈ run MailSystem.step (MailSystem.empty 0) mailedTwice,
    (s.outbox.rows.length = 1 ∧ s.mails.length = 2) ∧ (s.outbox.rows.map (·.dedupeKey)).Nodup ∧
      (∀ mail ∈ s.mails, ∃ row ∈ s.outbox.rows, mailOf row.toBillingNotificationRow = mail) ∧
      ∀ row ∈ s.outbox.rows,
        s.mailsOf row.id ≤ row.attemptCount ∧ (row.status = .sent → 0 < s.mailsOf row.id) := by
  have hExists : ∃ s ∈ run MailSystem.step (MailSystem.empty 0) mailedTwice,
      s.outbox.rows.length = 1 ∧ s.mails.length = 2 := by
    decide +kernel
  obtain ⟨s, hRun, hTwice⟩ := hExists
  exact ⟨s, hRun, hTwice, notifications_accounted_for hRun⟩

end MailSystem

end Hyperspace.Notifications
