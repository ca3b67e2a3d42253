import Hyperspace.Notifications.OrderlyOutbox

/-!
# A notification is mailed once when no worker is late

The provider knows nothing of the outbox, so a mail goes out again when its worker is lost, or more
than ten minutes late, before it has written `sent`. Apart from that each row is mailed once.
-/

namespace Hyperspace.Notifications

open Hyperspace.Billing (Timestamp)
open Hyperspace.Foundations

namespace MailSystem

variable {s s' : MailSystem} {e : MailEvent}

/-- A claim finds no worker that is more than ten minutes old, and a worker that is lost or writes
`failed` is one whose mail the provider has not taken. -/
def Prompt (s : MailSystem) : MailEvent → Prop
  | .claim _ => ∀ d ∈ s.deliveries, s.now ≤ d.claimedAt + seconds 600
  | .markFailed i | .lose i => ∀ d ∈ s.deliveries[i]?, d.accepted = false
  | .tick _ | .setUsers _ | .enqueue _ | .accept _ | .markSent _ => True

instance {s : MailSystem} : DecidablePred s.Prompt
  | .claim _ => inferInstanceAs (Decidable (∀ d ∈ s.deliveries, _))
  | .markFailed i | .lose i => inferInstanceAs (Decidable (∀ d ∈ s.deliveries[i]?, _))
  | .tick _ | .setUsers _ | .enqueue _ | .accept _ | .markSent _ => inferInstanceAs (Decidable True)

/-- No worker has this row. -/
def Idle (s : MailSystem) (id : Nat) : Prop := ∀ d ∈ s.deliveries, d.notification.id ≠ id

/-- A row that is under way is as its one worker has left it. -/
structure MailedOnce (s : MailSystem) : Prop where
  workers : (s.deliveries.map (·.notification.id)).Nodup
  busy : ∀ d ∈ s.deliveries, ∀ row ∈ s.outbox.rows, row.id = d.notification.id →
    row.status = .sending ∧ row.updatedAt = d.claimedAt
  underWay : ∀ d ∈ s.deliveries, s.mailsOf d.notification.id = if d.accepted then 1 else 0
  idle : ∀ row ∈ s.outbox.rows, s.Idle row.id →
    s.mailsOf row.id = if row.status = .sent then 1 else 0

theorem idle_of_claimable (h : s.MailedOnce) {row : OutboxRow} (hRow : row ∈ s.outbox.rows)
    (hClaimable : OutboxTable.Claimable s.now row)
    (hPrompt : ∀ d ∈ s.deliveries, s.now ≤ d.claimedAt + seconds 600) : s.Idle row.id := by
  intro d hd hId
  obtain ⟨hSending, hUpdated⟩ := h.busy d hd row hRow hId.symm
  have hTime := hPrompt d hd
  rcases hClaimable with ⟨hPending | hFailed, -⟩ | ⟨-, hLate⟩
  · rw [hSending] at hPending
    cases hPending
  · rw [hSending] at hFailed
    cases hFailed
  · rw [hUpdated] at hLate
    exact absurd (lt_sub_iff_add_lt.1 hLate) (not_lt.2 hTime)

theorem status_ne_sent_of_claimable {row : OutboxRow} (h : OutboxTable.Claimable s.now row) :
    row.status ≠ .sent := by
  rintro hSent
  rw [OutboxTable.Claimable, hSent] at h
  simp at h

theorem MailedOnce.claimed (h : s.MailedOnce) {row : OutboxRow} (hRow : row ∈ s.outbox.rows)
    (hClaimable : OutboxTable.Claimable s.now row)
    (hPrompt : ∀ d ∈ s.deliveries, s.now ≤ d.claimedAt + seconds 600) :
    ({ s with
      outbox := s.outbox.update row.id (OutboxTable.claimRow s.now) fun _ => rfl
      deliveries := s.deliveries ++
        [⟨(OutboxTable.claimRow s.now row).toBillingNotificationRow, s.now, false⟩] } :
      MailSystem).MailedOnce := by
  have hIdle := idle_of_claimable h hRow hClaimable hPrompt
  refine { workers := ?_, busy := ?_, underWay := ?_, idle := ?_ }
  · show ((s.deliveries ++ [_]).map fun d : Delivery => d.notification.id).Nodup
    rw [List.map_append, List.map_singleton]
    refine List.nodup_append.2 ⟨h.workers, List.nodup_singleton _, ?_⟩
    rintro a ha b hb rfl
    obtain ⟨d, hd, hId⟩ := List.mem_map.1 ha
    exact hIdle d hd (hId.trans (List.mem_singleton.1 hb))
  · intro d hd row' hRow' hId
    rcases List.mem_append.1 hd with hOld | hNew
    · rcases mem_update_cases (f := OutboxTable.claimRow s.now) (fun _ => rfl) hRow' with
        ⟨hMem, -⟩ | ⟨row₀, -, hKey, rfl⟩
      · exact h.busy d hOld row' hMem hId
      · exact absurd (hId.symm.trans hKey) (hIdle d hOld)
    · rw [List.mem_singleton.1 hNew] at hId ⊢
      rcases mem_update_cases (f := OutboxTable.claimRow s.now) (fun _ => rfl) hRow' with
        ⟨-, hNe⟩ | ⟨row₀, -, -, rfl⟩
      · exact absurd hId hNe
      · exact ⟨rfl, rfl⟩
  · intro d hd
    rcases List.mem_append.1 hd with hOld | hNew
    · exact h.underWay d hOld
    · rw [List.mem_singleton.1 hNew]
      have hNone := h.idle row hRow hIdle
      rw [if_neg (status_ne_sent_of_claimable hClaimable)] at hNone
      exact hNone
  · intro row' hRow' hIdle'
    rcases mem_update_cases (f := OutboxTable.claimRow s.now) (fun _ => rfl) hRow' with
      ⟨hMem, -⟩ | ⟨row₀, -, hKey, rfl⟩
    · exact h.idle row' hMem fun d hd => hIdle' d (List.mem_append_left _ hd)
    · exact absurd hKey.symm (hIdle' _ (List.mem_append_right _ (List.mem_singleton_self _)))

theorem MailedOnce.removed (h : s.MailedOnce) {d : Delivery} {before after : List Delivery}
    (hSplit : s.deliveries = before ++ d :: after) {outbox : OutboxTable}
    (hRows : ∀ row' ∈ outbox.rows, (row' ∈ s.outbox.rows ∧ row'.id ≠ d.notification.id) ∨
      row'.id = d.notification.id ∧ s.mailsOf row'.id = if row'.status = .sent then 1 else 0) :
    ({ s with outbox, deliveries := before ++ after } : MailSystem).MailedOnce := by
  have hWorkers := h.workers
  rw [hSplit, List.map_append, List.map_cons, List.nodup_middle, List.nodup_cons] at hWorkers
  obtain ⟨hOnly, hRest⟩ := hWorkers
  have hOther : ∀ d' ∈ before ++ after, d'.notification.id ≠ d.notification.id := by
    intro d' hd' hId
    exact hOnly (by
      rw [← List.map_append, ← hId]
      exact List.mem_map_of_mem hd')
  refine { workers := ?_, busy := ?_, underWay := ?_, idle := ?_ }
  · show ((before ++ after).map fun d : Delivery => d.notification.id).Nodup
    rw [List.map_append]
    exact hRest
  · intro d' hd' row' hRow' hId
    rcases hRows row' hRow' with ⟨hMem, -⟩ | ⟨hSelf, -⟩
    · exact h.busy d' (mem_of_mem_remove hSplit hd') row' hMem hId
    · exact absurd (hId.symm.trans hSelf) (hOther d' hd')
  · exact fun d' hd' => h.underWay d' (mem_of_mem_remove hSplit hd')
  · intro row' hRow' hIdle'
    rcases hRows row' hRow' with ⟨hMem, hNe⟩ | ⟨-, hCount⟩
    · refine h.idle row' hMem fun d' hd' => ?_
      rw [hSplit, List.mem_append, List.mem_cons] at hd'
      rcases hd' with hBefore | rfl | hAfter
      · exact hIdle' d' (List.mem_append_left _ hBefore)
      · exact Ne.symm hNe
      · exact hIdle' d' (List.mem_append_right _ hAfter)
    · exact hCount

theorem MailedOnce.enqueued (h : s.MailedOnce) (hOrderly : s.Orderly) {make : Nat → OutboxRow}
    (hId : ∀ id, (make id).id = id) (hStatus : ∀ id, (make id).status = .pending) :
    ({ s with outbox := s.outbox.insert make hId } : MailSystem).MailedOnce := by
  have hRows : (s.outbox.insert make hId).rows = s.outbox.rows ++ [make s.outbox.next] := rfl
  refine { workers := h.workers, busy := ?_, underWay := h.underWay, idle := ?_ }
  · intro d hd row hRow hKey
    rw [hRows, List.mem_append, List.mem_singleton] at hRow
    rcases hRow with hOld | rfl
    · exact h.busy d hd row hOld hKey
    · obtain ⟨row, hMem, hMail⟩ := List.mem_map.1 (hOrderly.deliveries_mem d hd)
      have hSame : row.id = d.notification.id := congrArg Mail.notificationId hMail
      have hLess : row.id < s.outbox.next := s.outbox.fresh row hMem
      rw [hId] at hKey
      omega
  · intro row hRow hIdle
    rw [hRows, List.mem_append, List.mem_singleton] at hRow
    rcases hRow with hOld | rfl
    · exact h.idle row hOld hIdle
    · rw [hId, hStatus]
      exact mailsOf_next hOrderly

theorem MailedOnce.mailed (h : s.MailedOnce) {d : Delivery} {before after : List Delivery}
    (hSplit : s.deliveries = before ++ d :: after) (hOpen : d.accepted = false) :
    ({ s with
      deliveries := before ++ { d with accepted := true } :: after
      mails := mailOf d.notification :: s.mails } : MailSystem).MailedOnce := by
  let s' : MailSystem :=
    { s with
      deliveries := before ++ { d with accepted := true } :: after
      mails := mailOf d.notification :: s.mails }
  have hMails : ∀ id, s'.mailsOf id = s.mailsOf id + if d.notification.id = id then 1 else 0 :=
    fun id => mailsOf_cons (s := s) rfl rfl
  have hWorkers := h.workers
  have hUnderWay := h.underWay d (mem_of_split hSplit)
  rw [hOpen] at hUnderWay
  have hMem : ∀ d' ∈ s'.deliveries, d' = { d with accepted := true } ∨
      d' ∈ s.deliveries ∧ d'.notification.id ≠ d.notification.id := by
    rw [hSplit, List.map_append, List.map_cons, List.nodup_middle, List.nodup_cons,
      ← List.map_append] at hWorkers
    intro d' hd'
    rw [List.mem_append, List.mem_cons, or_left_comm, ← List.mem_append] at hd'
    rcases hd' with hSelf | hRest
    · exact .inl hSelf
    · exact .inr ⟨mem_of_mem_remove hSplit hRest, fun hId =>
        hWorkers.1 (hId ▸ List.mem_map_of_mem hRest)⟩
  refine { workers := ?_, busy := ?_, underWay := ?_, idle := ?_ }
  · rw [hSplit] at hWorkers
    show ((before ++ { d with accepted := true } :: after).map
      fun d : Delivery => d.notification.id).Nodup
    rw [List.map_append, List.map_cons] at hWorkers ⊢
    exact hWorkers
  · intro d' hd' row hRow hId
    rcases hMem d' hd' with rfl | ⟨hOld, -⟩
    · exact h.busy d (mem_of_split hSplit) row hRow hId
    · exact h.busy d' hOld row hRow hId
  · intro d' hd'
    show s'.mailsOf d'.notification.id = _
    rw [hMails]
    rcases hMem d' hd' with rfl | ⟨hOld, hNe⟩
    · simp [hUnderWay]
    · rw [if_neg (Ne.symm hNe)]
      exact h.underWay d' hOld
  · intro row hRow hIdle
    have hNe : d.notification.id ≠ row.id :=
      hIdle { d with accepted := true } (List.mem_append_right _ List.mem_cons_self)
    show s'.mailsOf row.id = _
    rw [hMails, if_neg hNe]
    refine h.idle row hRow fun d' hd' => ?_
    rw [hSplit, List.mem_append, List.mem_cons] at hd'
    rcases hd' with hBefore | rfl | hAfter
    · exact hIdle d' (List.mem_append_left _ hBefore)
    · exact hNe
    · exact hIdle d' (List.mem_append_right _ (List.mem_cons_of_mem _ hAfter))

theorem MailedOnce.markedSent (h : s.MailedOnce) {d : Delivery} {before after : List Delivery}
    (hSplit : s.deliveries = before ++ d :: after) (hAccepted : d.accepted = true) :
    ({ s with
      outbox := s.outbox.markBillingNotificationSent s.now d.notification.id
      deliveries := before ++ after } : MailSystem).MailedOnce := by
  refine h.removed hSplit fun row' hRow' => ?_
  rcases mem_update_cases _ hRow' with hOther | ⟨row, -, hId, rfl⟩
  · exact .inl hOther
  · have hUnderWay := h.underWay d (mem_of_split hSplit)
    rw [hAccepted] at hUnderWay
    refine .inr ⟨hId, ?_⟩
    show s.mailsOf row.id = 1
    rw [hId]
    exact hUnderWay

theorem MailedOnce.markedFailed (h : s.MailedOnce) {d : Delivery} {before after : List Delivery}
    (hSplit : s.deliveries = before ++ d :: after) (hOpen : d.accepted = false) (retry : Nat) :
    ({ s with
      outbox := s.outbox.markBillingNotificationFailed s.now d.notification.id retry
      deliveries := before ++ after } : MailSystem).MailedOnce := by
  refine h.removed hSplit fun row' hRow' => ?_
  rcases mem_update_cases _ hRow' with hOther | ⟨row, -, hId, rfl⟩
  · exact .inl hOther
  · have hUnderWay := h.underWay d (mem_of_split hSplit)
    rw [hOpen] at hUnderWay
    refine .inr ⟨hId, ?_⟩
    show s.mailsOf row.id = 0
    rw [hId]
    exact hUnderWay

theorem MailedOnce.lost (h : s.MailedOnce) {d : Delivery} {before after : List Delivery}
    (hSplit : s.deliveries = before ++ d :: after) (hOpen : d.accepted = false) :
    ({ s with deliveries := before ++ after } : MailSystem).MailedOnce := by
  refine h.removed hSplit fun row hRow => ?_
  by_cases hId : row.id = d.notification.id
  · have hUnderWay := h.underWay d (mem_of_split hSplit)
    rw [hOpen] at hUnderWay
    refine .inr ⟨hId, ?_⟩
    rw [(h.busy d (mem_of_split hSplit) row hRow hId).1, hId]
    exact hUnderWay
  · exact .inl ⟨hRow, hId⟩

theorem MailedOnce.step (h : s.MailedOnce) (hOrderly : s.Orderly) (hPrompt : s.Prompt e)
    (hStep : s.step e = some s') : s'.MailedOnce := by
  cases stepsTo_of_step hStep with
  | ticked n => exact ⟨h.workers, h.busy, h.underWay, h.idle⟩
  | usersSet users => exact ⟨h.workers, h.busy, h.underWay, h.idle⟩
  | notEnqueued input => exact h
  | enqueued input make hId hKey hStatus hNext hUpdated hNew =>
      exact h.enqueued hOrderly hId hStatus
  | notClaimed locked => exact h
  | claimed locked row hRow hClaimable => exact h.claimed hRow hClaimable hPrompt
  | accepted i d before after hAt hSplit hOpen => exact h.mailed hSplit hOpen
  | markedSent i d before after hAt hSplit hAccepted => exact h.markedSent hSplit hAccepted
  | markedFailed i d before after hAt hSplit => exact h.markedFailed hSplit (hPrompt d hAt) _
  | lost i d before after hAt hSplit => exact h.lost hSplit (hPrompt d hAt)

theorem mailedOnce_of_run {now : Timestamp} {es : List MailEvent}
    (hRun : run MailSystem.step (MailSystem.empty now) es = some s)
    (hMeet : StepsMeet MailSystem.step Prompt (MailSystem.empty now) es) : s.MailedOnce := by
  have hInitially : (MailSystem.empty now).MailedOnce := by
    refine ⟨List.nodup_nil, ?_, ?_, ?_⟩
    all_goals
      intro _ hMem
      cases hMem
  have hSteps : ∀ (s : MailSystem) e s', s.Orderly ∧ s.MailedOnce → s.Prompt e →
      s.step e = some s' → s'.Orderly ∧ s'.MailedOnce :=
    fun _ _ _ hInv hPrompt hStep =>
      ⟨Orderly.step hInv.1 hStep, MailedOnce.step hInv.2 hInv.1 hPrompt hStep⟩
  exact (run_invariant_of_stepsMeet hSteps ⟨orderly_empty, hInitially⟩ hRun hMeet).2

/-- When no worker is late or lost after its mail, each row is mailed once at most, and the rows
that are sent are those that were mailed and have no worker. -/
theorem mailed_at_most_once {now : Timestamp} {es : List MailEvent}
    (hRun : run MailSystem.step (MailSystem.empty now) es = some s)
    (hMeet : StepsMeet MailSystem.step Prompt (MailSystem.empty now) es) :
    ∀ row ∈ s.outbox.rows, s.mailsOf row.id ≤ 1 ∧
      (row.status = .sent ↔ s.mailsOf row.id = 1 ∧ s.Idle row.id) := by
  intro row hRow
  have h := mailedOnce_of_run hRun hMeet
  by_cases hIdle : s.Idle row.id
  · have hCount := h.idle row hRow hIdle
    refine ⟨?_, fun hSent => ⟨?_, hIdle⟩, fun ⟨hMailed, _⟩ => ?_⟩
    · rw [hCount]
      split <;> simp
    · rw [hCount, if_pos hSent]
    · by_contra hNot
      rw [hCount, if_neg hNot] at hMailed
      cases hMailed
  · obtain ⟨d, hd, hId⟩ : ∃ d ∈ s.deliveries, d.notification.id = row.id := by
      by_contra hNone
      exact hIdle fun d hd hId => hNone ⟨d, hd, hId⟩
    have hCount := h.underWay d hd
    rw [hId] at hCount
    refine ⟨?_, fun hSent => ?_, fun hMailed => absurd hMailed.2 hIdle⟩
    · rw [hCount]
      split <;> simp
    · rw [(h.busy d hd row hRow hId.symm).1] at hSent
      cases hSent

/-- The first worker dies before its mail, and the second one is in time. -/
def mailedLater : List MailEvent :=
  [.setUsers [firstUser], .enqueue graceStarted, .claim [], .lose 0, .tick 600000001, .claim [],
    .accept 0, .tick 5, .markSent 0, .claim []]

theorem row_mailed_later : ∃ s ∈ run MailSystem.step (MailSystem.empty 0) mailedLater,
    (∃ row ∈ s.outbox.rows, row.status = .sent ∧ row.attemptCount = 2) ∧
      ∀ row ∈ s.outbox.rows, s.mailsOf row.id ≤ 1 ∧
        (row.status = .sent ↔ s.mailsOf row.id = 1 ∧ s.Idle row.id) := by
  have hExists : ∃ s ∈ run MailSystem.step (MailSystem.empty 0) mailedLater,
      ∃ row ∈ s.outbox.rows, row.status = .sent ∧ row.attemptCount = 2 := by
    decide +kernel
  have hMeet : StepsMeet MailSystem.step Prompt (MailSystem.empty 0) mailedLater := by
    decide +kernel
  obtain ⟨s, hRun, hSent⟩ := hExists
  exact ⟨s, hRun, hSent, mailed_at_most_once hRun hMeet⟩

end MailSystem

end Hyperspace.Notifications
