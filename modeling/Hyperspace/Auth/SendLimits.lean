import Hyperspace.Auth.SendWindows

/-!
# The limits on login mails

A reservation that is allowed keeps to the limits, for its rows track all sends it has to know of.
No limit refers to a row that is two days old, but a clean-up can delete one that was renewed after
it was selected, and with it the sends to the address are forgotten.
-/

namespace Hyperspace.Auth

open Hyperspace.Foundations

/-! ### A reservation that is allowed -/

section

variable {config : EmailSendBudgetConfig} {rows : LimitRows} {emailHash : EmailHash}
  {now later releasedAt t : Int}
variable {times window : List Int} {windows : List (List Int)} {emailWindow gap clock : Int}

theorem Chronological.apart (h : Chronological times) (hHead : ∀ t ∈ times.head?, t + gap ≤ now) :
    ∀ t ∈ times, t + gap ≤ now := by
  cases times with
  | nil => simp
  | cons t times =>
      intro t' ht'
      have hNewest : t + gap ≤ now := hHead t rfl
      have hEarlier := h.head t' ht'
      omega

theorem Chronological.cons (h : Chronological times) (hDate : dateParseText now = now)
    (hNewest : ∀ t ∈ times, t ≤ now) : Chronological (now :: times) where
  sorted := List.pairwise_cons.2 ⟨hNewest, h.sorted⟩
  dates := by
    intro t ht
    rcases List.mem_cons.1 ht with rfl | hRest
    · exact hDate
    · exact h.dates t hRest

theorem upsertLimit_self {rows : LimitRows} {key : String} {windowStart lastAttemptAt : Int} :
    ∃ row, upsertLimit rows key windowStart lastAttemptAt key = some row ∧
      row.lastAttemptAt = lastAttemptAt ∧ row.windowStart = windowStart ∧ 1 ≤ row.sendCount ∧
      ∀ old ∈ rows key, old.windowStart = windowStart → row.sendCount = old.sendCount + 1 := by
  unfold upsertLimit
  rw [Function.update_self]
  cases rows key with
  | none => exact ⟨_, rfl, rfl, rfl, Nat.le_refl 1, by simp⟩
  | some old =>
      refine ⟨_, rfl, rfl, rfl, ?_, ?_⟩
      · dsimp only
        split <;> omega
      · intro old' hOld hSame
        cases hOld
        simp [hSame]

theorem GlobalTracks.countDay {config : EmailSendBudgetConfig} {rows : LimitRows}
    (h : GlobalTracks (rows "global") times) (hTimes : Chronological times)
    (hNewest : ∀ t ∈ times, t ≤ now) (hMax : 0 < config.dailyMax)
    (hRefusal : RefusalReason.dailyBudget.refusesUntil config rows emailHash now = none) :
    (times.filter fun t => dayStart t = dayStart now).length < config.dailyMax ∧
      ∀ row, upsertLimit rows "global" (dayStart now) now "global" = some row →
        (times.filter fun t => dayStart t = dayStart now).length + 1 ≤ row.sendCount := by
  obtain ⟨new, hNew, -, -, hPos, hCount⟩ :=
    @upsertLimit_self rows "global" (dayStart now) now
  cases times with
  | nil =>
      refine ⟨hMax, fun row hRow => ?_⟩
      obtain rfl : new = row := Option.some.inj (hNew.symm.trans hRow)
      exact hPos
  | cons t earlier =>
      obtain ⟨old, hOld, -, hStart, hTracked⟩ := h
      by_cases hDay : dayStart t = dayStart now
      · rw [hDay] at hTracked hStart
        have hRoom : old.sendCount < config.dailyMax := by
          rw [Option.mem_def] at hOld
          simp only [RefusalReason.refusesUntil, hOld, Option.bind_eq_bind, Option.bind_some,
            hStart,
            dateParseText_dayStart] at hRefusal
          grind
        refine ⟨hTracked.trans_lt hRoom, fun row hRow => ?_⟩
        obtain rfl : new = row := Option.some.inj (hNew.symm.trans hRow)
        rw [hCount old hOld hStart]
        exact Nat.succ_le_succ hTracked
      · have hNone : ((t :: earlier).filter fun t' => dayStart t' = dayStart now) = [] := by
          apply List.filter_eq_nil_iff.2
          intro t' ht' hSame
          have hBefore := dayStart_mono (hTimes.head t' ht')
          have hAfter := dayStart_mono (hNewest t List.mem_cons_self)
          have hSame : dayStart t' = dayStart now := by simpa using hSame
          omega
        rw [hNone]
        refine ⟨hMax, fun row hRow => ?_⟩
        obtain rfl : new = row := Option.some.inj (hNew.symm.trans hRow)
        exact hPos

theorem GlobalTracks.upsert {config : EmailSendBudgetConfig} {rows : LimitRows}
    (h : GlobalTracks (rows "global") times) (hTimes : Chronological times)
    (hNewest : ∀ t ∈ times, t ≤ now) (hMax : 0 < config.dailyMax)
    (hRefusal : RefusalReason.dailyBudget.refusesUntil config rows emailHash now = none)
    (hDaily : ∀ start, (times.filter fun t => dayStart t = start).length ≤ config.dailyMax) :
    GlobalTracks (upsertLimit rows "global" (dayStart now) now "global") (now :: times) ∧
      ∀ start, ((now :: times).filter fun t => dayStart t = start).length ≤ config.dailyMax := by
  obtain ⟨hRoom, hCount⟩ := h.countDay hTimes hNewest hMax hRefusal
  obtain ⟨new, hNew, hLast, hStart, -, -⟩ := @upsertLimit_self rows "global" (dayStart now) now
  constructor
  · refine ⟨new, hNew, hLast, hStart, ?_⟩
    simpa using hCount new hNew
  · intro start
    by_cases hDay : dayStart now = start
    · subst hDay
      simpa using Nat.succ_le_of_lt hRoom
    · simpa [hDay] using hDaily start

theorem RecipientTracks.nextWindow {config : EmailSendBudgetConfig} {rows : LimitRows}
    (h : RecipientTracks config.emailWindow clock (rows (emailKey emailHash)) times)
    (hTimes : Chronological times) (hNow : dateParseText clock ≤ now) (hMax : 0 < config.emailMax)
    (hWindow : config.emailWindow < 2 * day)
    (hRefusal : RefusalReason.emailLimit.refusesUntil config rows emailHash now = none) :
    ∃ window windows, sendWindows config.emailWindow (now :: times) = window :: windows ∧
      firstOf window = recipientWindowStart config rows emailHash now ∧
      window.length ≤ config.emailMax ∧
      (∀ w ∈ windows, w ∈ sendWindows config.emailWindow times) ∧
      (window.length ≤ 1 ∨ ∃ old ∈ rows (emailKey emailHash),
        old.windowStart = recipientWindowStart config rows emailHash now ∧
          window.length ≤ old.sendCount + 1) := by
  cases times with
  | nil =>
      have hNone : rows (emailKey emailHash) = none := h
      refine ⟨[now], [], rfl, ?_, hMax, by simp, .inl (Nat.le_refl 1)⟩
      simp [recipientWindowStart, hNone, firstOf]
  | cons t earlier =>
      cases hRow : rows (emailKey emailHash) with
      | none =>
          rw [hRow] at h
          have hOld : t < clock - 2 * day := h
          obtain ⟨window, windows, hWindows⟩ := List.exists_cons_of_ne_nil
            (@sendWindows_ne_nil t earlier config.emailWindow)
          have hMem : window ∈ sendWindows config.emailWindow (t :: earlier) :=
            hWindows ▸ List.mem_cons_self
          have hFirst : firstOf window ≤ t := hTimes.head _ (firstOf_mem hMem)
          have hOver : ¬ now < firstOf window + config.emailWindow := by
            have hDate := hTimes.dates t List.mem_cons_self
            rw [dateParseText_eq] at hDate hNow
            unfold day at *
            omega
          refine ⟨[now], window :: windows, ?_, ?_, hMax, ?_, .inl (Nat.le_refl 1)⟩
          · rw [sendWindows_cons hWindows, if_neg hOver]
          · simp [recipientWindowStart, hRow, firstOf]
          · intro w hw
            rwa [hWindows]
      | some old =>
          rw [hRow] at h
          obtain ⟨-, window, windows, hWindows, hStart, hCount⟩ := h
          have hMem : window ∈ sendWindows config.emailWindow (t :: earlier) :=
            hWindows ▸ List.mem_cons_self
          have hDate : dateParseText old.windowStart = firstOf window := by
            rw [hStart]
            exact hTimes.dates _ (firstOf_mem hMem)
          have hNext : recipientWindowStart config rows emailHash now =
              if now < firstOf window + config.emailWindow then firstOf window else now := by
            simp [recipientWindowStart, hRow, recipientActive, hDate]
          by_cases hActive : now < firstOf window + config.emailWindow
          · have hRoom : old.sendCount < config.emailMax := by
              simp only [RefusalReason.refusesUntil, hRow, Option.bind_eq_bind, Option.bind_some,
                recipientActive, hDate] at hRefusal
              grind
            refine ⟨now :: window, windows, ?_, ?_, ?_, ?_, .inr ⟨old, rfl, ?_, ?_⟩⟩
            · rw [sendWindows_cons hWindows, if_pos hActive]
            · rw [firstOf_cons (mem_of_mem_sendWindows hMem).1, hNext, if_pos hActive]
            · rw [List.length_cons]
              omega
            · intro w hw
              rw [hWindows]
              exact List.mem_cons_of_mem window hw
            · rw [hNext, if_pos hActive, hStart]
            · exact Nat.succ_le_succ hCount
          · refine ⟨[now], window :: windows, ?_, ?_, hMax, ?_, .inl (Nat.le_refl 1)⟩
            · rw [sendWindows_cons hWindows, if_neg hActive]
            · rw [hNext, if_neg hActive]
              rfl
            · intro w hw
              rwa [hWindows]

theorem RecipientTracks.upsert {config : EmailSendBudgetConfig} {rows : LimitRows}
    (h : RecipientTracks config.emailWindow clock (rows (emailKey emailHash)) times)
    (hTimes : Chronological times) (hNow : dateParseText clock ≤ now) (hMax : 0 < config.emailMax)
    (hWindow : config.emailWindow < 2 * day)
    (hRefusal : RefusalReason.emailLimit.refusesUntil config rows emailHash now = none)
    (hLimit : ∀ window ∈ sendWindows config.emailWindow times, window.length ≤ config.emailMax) :
    RecipientTracks config.emailWindow later
        (upsertLimit rows (emailKey emailHash) (recipientWindowStart config rows emailHash now) now
          (emailKey emailHash)) (now :: times) ∧
      ∀ window ∈ sendWindows config.emailWindow (now :: times),
        window.length ≤ config.emailMax := by
  obtain ⟨window, windows, hWindows, hFirst, hRoom, hEarlier, hCounted⟩ :=
    h.nextWindow hTimes hNow hMax hWindow hRefusal
  obtain ⟨new, hNew, hLast, hStart, hPos, hCount⟩ := @upsertLimit_self rows (emailKey emailHash)
    (recipientWindowStart config rows emailHash now) now
  constructor
  · rw [hNew]
    refine ⟨hLast, window, windows, hWindows, hStart.trans hFirst.symm, ?_⟩
    rcases hCounted with hFew | ⟨old, hOld, hSame, hLength⟩
    · exact hFew.trans hPos
    · rw [hCount old hOld hSame]
      exact hLength
  · intro w hw
    rw [hWindows] at hw
    rcases List.mem_cons.1 hw with rfl | hRest
    · exact hRoom
    · exact hLimit w (hEarlier w hRest)

theorem RecipientTracks.cooled {config : EmailSendBudgetConfig} {rows : LimitRows}
    (h : RecipientTracks emailWindow clock (rows (emailKey emailHash)) times)
    (hTimes : Chronological times) (hNow : dateParseText clock ≤ now)
    (hCooldown : config.cooldown < 2 * day)
    (hRefusal : RefusalReason.emailCooldown.refusesUntil config rows emailHash now = none) :
    ∀ t ∈ times, t + config.cooldown ≤ now := by
  apply hTimes.apart
  intro t ht
  cases times with
  | nil => cases ht
  | cons t earlier =>
      cases ht
      have hDate := hTimes.dates t List.mem_cons_self
      cases hRow : rows (emailKey emailHash) with
      | none =>
          rw [hRow] at h
          have hOld : t < clock - 2 * day := h
          rw [dateParseText_eq] at hDate hNow
          unfold day at *
          omega
      | some row =>
          rw [hRow] at h
          have hLast : row.lastAttemptAt = t := h.1
          simp only [RefusalReason.refusesUntil, hRow, Option.bind_eq_bind, Option.bind_some, hLast,
            hDate] at hRefusal
          grind

theorem GlobalTracks.paced {config : EmailSendBudgetConfig} {rows : LimitRows}
    (h : GlobalTracks (rows "global") times) (hTimes : Chronological times)
    (hRefusal : RefusalReason.sendPacing.refusesUntil config rows emailHash now = none) :
    ∀ t ∈ times, t + config.interval ≤ now := by
  apply hTimes.apart
  intro t ht
  cases times with
  | nil => cases ht
  | cons t earlier =>
      cases ht
      have hDate := hTimes.dates t List.mem_cons_self
      obtain ⟨row, hRow, hLast, -, -⟩ := h
      rw [Option.mem_def] at hRow
      simp only [RefusalReason.refusesUntil, hRow, Option.bind_eq_bind, Option.bind_some, hLast,
        hDate] at hRefusal
      grind

end

/-! ### Runs -/

section

variable {config : EmailSendBudgetConfig} {s s' : SendState} {e : SendEvent}

/-- The rows track the sends, and these keep the limits. -/
structure SendInv (config : EmailSendBudgetConfig) (s : SendState) : Prop where
  chronological : Chronological (sendTimes s.allowed)
  past : ∀ t ∈ sendTimes s.allowed, t ≤ dateParseText s.clock
  global : GlobalTracks (s.rows "global") (sendTimes s.allowed)
  recipient : ∀ emailHash, RecipientTracks config.emailWindow s.clock (s.rows (emailKey emailHash))
    (sendsTo emailHash s.allowed)
  limits : SendLimits config s.allowed
  selected : "global" ∉ s.selected

/-- The limits are worth their name, and no row is cleaned up that one of them refers to. -/
structure EmailSendBudgetConfig.Sound (config : EmailSendBudgetConfig) : Prop where
  dailyMax : 0 < config.dailyMax
  emailMax : 0 < config.emailMax
  cooldown : config.cooldownSeconds < 2 * 86400
  emailWindow : config.emailWindowSeconds < 2 * 86400

theorem EmailSendBudgetConfig.Sound.cooldown_lt (h : config.Sound) : config.cooldown < 2 * day := by
  have hCooldown := h.cooldown
  unfold EmailSendBudgetConfig.cooldown day
  omega

theorem EmailSendBudgetConfig.Sound.emailWindow_lt (h : config.Sound) :
    config.emailWindow < 2 * day := by
  have hWindow := h.emailWindow
  unfold EmailSendBudgetConfig.emailWindow day
  omega

theorem emailKey_ne_global (emailHash : EmailHash) : emailKey emailHash ≠ "global" := by
  intro h
  have hFirst := congrArg (fun key : String => key.toList.head?) h
  simp [emailKey] at hFirst

theorem emailKey_injective : Function.Injective emailKey := by
  intro a b h
  simpa [emailKey] using h

theorem sendInv_noSends : SendInv config noSends where
  chronological := ⟨.nil, by simp [noSends, sendTimes]⟩
  past := by simp [noSends, sendTimes]
  global := trivial
  recipient _ := rfl
  limits := by constructor <;> simp [noSends, sendTimes, sendsTo, sendWindows]
  selected := List.not_mem_nil

theorem sendsTo_subset {emailHash : EmailHash} {allowed : List (EmailHash × Int)} :
    (sendsTo emailHash allowed).Sublist (sendTimes allowed) :=
  List.filter_sublist.map Prod.snd

theorem sendsTo_cons {emailHash emailHash' : EmailHash} {t : Int}
    {allowed : List (EmailHash × Int)} :
    sendsTo emailHash' ((emailHash, t) :: allowed) =
      if emailHash = emailHash' then t :: sendsTo emailHash' allowed
      else sendsTo emailHash' allowed := by
  unfold sendsTo
  by_cases hSame : emailHash = emailHash'
  · simp [hSame]
  · simp [hSame]

theorem upsertLimit_of_ne {rows : LimitRows} {key key' : String} {windowStart lastAttemptAt : Int}
    (h : key' ≠ key) : upsertLimit rows key windowStart lastAttemptAt key' = rows key' :=
  Function.update_of_ne h _ _

theorem upsertLimit_congr {rows rows' : LimitRows} {key : String} {windowStart lastAttemptAt : Int}
    (h : rows key = rows' key) :
    upsertLimit rows key windowStart lastAttemptAt key =
      upsertLimit rows' key windowStart lastAttemptAt key := by
  simp only [upsertLimit, Function.update_self, h]

theorem SendInv.recipientChronological (h : SendInv config s) (emailHash : EmailHash) :
    Chronological (sendsTo emailHash s.allowed) where
  sorted := h.chronological.sorted.sublist sendsTo_subset
  dates t ht := h.chronological.dates t (sendsTo_subset.subset ht)

theorem SendInv.keep (h : SendInv config s) (hAllowed : s'.allowed = s.allowed)
    (hClock : s.clock ≤ s'.clock)
    (hGlobal : GlobalTracks (s'.rows "global") (sendTimes s.allowed))
    (hRecipient : ∀ emailHash, RecipientTracks config.emailWindow s'.clock
      (s'.rows (emailKey emailHash)) (sendsTo emailHash s.allowed))
    (hSelected : "global" ∉ s'.selected) : SendInv config s' := by
  constructor
  · rw [hAllowed]
    exact h.chronological
  · intro t ht
    rw [hAllowed] at ht
    exact Int.le_trans (h.past t ht) (dateParseText_mono hClock)
  · rw [hAllowed]
    exact hGlobal
  · intro emailHash
    rw [hAllowed]
    exact hRecipient emailHash
  · rw [hAllowed]
    exact h.limits
  · exact hSelected

theorem SendInv.pause {now microseconds : Int} (h : SendInv config s) (hClock : s.clock ≤ now) :
    SendInv config (s.perform config now (.pause microseconds)) := by
  apply @SendInv.keep config s (s.perform config now (.pause microseconds)) h rfl hClock
  · have hGlobal := h.global
    cases hTimes : sendTimes s.allowed with
    | nil => trivial
    | cons t earlier =>
        rw [hTimes] at hGlobal
        obtain ⟨row, hRow, hTracked⟩ := hGlobal
        rw [Option.mem_def] at hRow
        simp only [SendState.perform, pauseEmailSending, Function.update_self, hRow,
          Option.map_some]
        exact ⟨_, rfl, hTracked⟩
  · intro emailHash
    have hRow : (s.perform config now (.pause microseconds)).rows (emailKey emailHash) =
        s.rows (emailKey emailHash) := by
      simp [SendState.perform, pauseEmailSending, emailKey_ne_global]
    rw [hRow]
    exact (h.recipient emailHash).tick hClock
  · exact h.selected

theorem SendInv.selectOld {now : Int} {keys : List String} (h : SendInv config s)
    (hClock : s.clock ≤ now) : SendInv config (s.perform config now (.selectOld keys)) := by
  apply @SendInv.keep config s (s.perform config now (.selectOld keys)) h rfl hClock
  · exact h.global
  · exact fun emailHash => (h.recipient emailHash).tick hClock
  · intro hMem
    rcases List.mem_append.1 hMem with hNew | hOld
    · have hKept := (List.mem_filter.1 (List.mem_of_mem_take hNew)).2
      simp at hKept
    · exact h.selected hOld

theorem SendInv.deleteOld {now : Int} {key : String} (h : SendInv config s)
    (hClock : s.clock ≤ now) (hKey : key ∈ s.selected)
    (hOld : ∀ row ∈ s.rows key, row.lastAttemptAt < now - 2 * day) :
    SendInv config (s.perform config now (.deleteOld key)) := by
  apply @SendInv.keep config s (s.perform config now (.deleteOld key)) h rfl hClock
  · have hOther : "global" ≠ key := fun hSame => h.selected (hSame ▸ hKey)
    simpa [SendState.perform, deleteLimit, Function.update_of_ne hOther] using h.global
  · intro emailHash
    have hTracks := (h.recipient emailHash).tick hClock
    by_cases hSame : emailKey emailHash = key
    · subst hSame
      simpa [SendState.perform, deleteLimit] using hTracks.delete hOld
    · simpa [SendState.perform, deleteLimit, Function.update_of_ne hSame] using hTracks
  · exact fun hMem => h.selected (List.mem_of_mem_filter hMem)

theorem SendInv.reserve {now : Int} {emailHash : EmailHash} (hConfig : config.Sound)
    (h : SendInv config s) (hClock : s.clock ≤ now) :
    SendInv config (s.perform config now (.reserve emailHash)) := by
  cases hReserve : reserveEmailSend config s.rows emailHash (dateParseText now) with
  | mk reservation rows =>
      cases reservation with
      | refused reason seconds =>
          obtain ⟨rfl, -⟩ := reserveEmailSend_refused hReserve
          apply h.keep
          · simp [SendState.perform, hReserve]
          · simpa [SendState.perform, hReserve] using hClock
          · simpa [SendState.perform, hReserve] using h.global
          · intro emailHash
            simpa [SendState.perform, hReserve] using (h.recipient emailHash).tick hClock
          · simpa [SendState.perform, hReserve] using h.selected
      | allowed =>
          obtain ⟨hNone, rfl⟩ := reserveEmailSend_allowed hReserve
          have hTimes := h.recipientChronological emailHash
          have hNow : dateParseText s.clock ≤ dateParseText now := dateParseText_mono hClock
          have hNewest : ∀ t ∈ sendTimes s.allowed, t ≤ dateParseText now :=
            fun t ht => Int.le_trans (h.past t ht) hNow
          have hGlobal := h.global.upsert h.chronological hNewest hConfig.dailyMax
            (hNone .dailyBudget) h.limits.daily
          have hRecipient :=
            @RecipientTracks.upsert emailHash (dateParseText now) now _ s.clock config
            s.rows (h.recipient emailHash) hTimes hNow hConfig.emailMax hConfig.emailWindow_lt
            (hNone .emailLimit) (h.limits.windowed emailHash)
          have hState : s.perform config now (.reserve emailHash) =
              ⟨upsertLimit
                (upsertLimit s.rows "global" (dayStart (dateParseText now)) (dateParseText now))
                (emailKey emailHash)
                (recipientWindowStart config s.rows emailHash (dateParseText now))
                  (dateParseText now),
              s.selected, now, (emailHash, dateParseText now) :: s.allowed⟩ := by
            simp [SendState.perform, hReserve]
          rw [hState]
          constructor
          · exact h.chronological.cons dateParseText_dateParse hNewest
          · intro t ht
            rcases List.mem_cons.1 ht with rfl | hRest
            · exact Int.le_refl _
            · exact hNewest t hRest
          · dsimp only
            rw [upsertLimit_of_ne (emailKey_ne_global emailHash).symm]
            exact hGlobal.1
          · intro emailHash'
            dsimp only
            rw [sendsTo_cons]
            split
            · rename_i hSame
              subst hSame
              rw [upsertLimit_congr (upsertLimit_of_ne (emailKey_ne_global emailHash))]
              exact hRecipient.1
            · rename_i hOther
              have hKey : emailKey emailHash' ≠ emailKey emailHash :=
                fun hSame => hOther (emailKey_injective hSame).symm
              rw [upsertLimit_of_ne hKey, upsertLimit_of_ne (emailKey_ne_global emailHash')]
              exact (h.recipient emailHash').tick hClock
          · constructor
            · exact hGlobal.2
            · apply List.pairwise_cons.2
              exact ⟨h.global.paced h.chronological (hNone .sendPacing), h.limits.paced⟩
            · intro emailHash'
              rw [sendsTo_cons]
              split
              · rename_i hSame
                subst hSame
                apply List.pairwise_cons.2
                exact ⟨(h.recipient _).cooled hTimes hNow hConfig.cooldown_lt
                  (hNone .emailCooldown),
                  h.limits.cooled _⟩
              · exact h.limits.cooled emailHash'
            · intro emailHash'
              rw [sendsTo_cons]
              split
              · rename_i hSame
                subst hSame
                exact hRecipient.2
              · exact h.limits.windowed emailHash'
          · exact h.selected

theorem SendInv.step (hConfig : config.Sound) (h : SendInv config s) (hKeeps : KeepsLimits s e)
    (hStep : s.step config e = some s') : SendInv config s' := by
  obtain ⟨now, call⟩ := e
  unfold SendState.step at hStep
  split at hStep
  · rename_i hEnabled
    obtain ⟨hClock, hEnabled⟩ := hEnabled
    cases hStep
    cases call with
    | reserve emailHash => exact h.reserve hConfig hClock
    | pause microseconds => exact h.pause hClock
    | selectOld keys => exact h.selectOld hClock
    | deleteOld key => exact h.deleteOld hClock hEnabled hKeeps
  · cases hStep

/-- In every state of a run in which no clean-up deletes a row that was renewed since it was
selected, the sends keep the limits; and every reservation is answered well that does not fall
between the end of a pause and what the code takes for it. -/
theorem send_limits_hold {es : List SendEvent} (hConfig : config.Sound)
    (hRun : run (SendState.step config) noSends es = some s)
    (hKeeps : StepsMeet (SendState.step config) KeepsLimits noSends es) :
    SendLimits config s.allowed ∧ ∀ now emailHash, s.clock ≤ now →
      KeepsLimits s ⟨now, .reserve emailHash⟩ → Answered config s.rows emailHash now := by
  have hInv : SendInv config s :=
    run_invariant_of_stepsMeet (fun _ _ _ hInv hKeeps hStep => hInv.step hConfig hKeeps hStep)
      sendInv_noSends hRun hKeeps
  exact ⟨hInv.limits, fun now emailHash _ hBetween => answered hBetween⟩

end

/-- A mail is sent, and the provider asks for a pause of a second 456 microseconds later. Three days
later the row of the address is cleaned up, and it is sent another mail. -/
def cleanedSends : List SendEvent :=
  [⟨0, .reserve "a"⟩, ⟨456, .pause 1000000⟩, ⟨3 * day, .selectOld ["email:a"]⟩,
    ⟨3 * day + 1, .deleteOld "email:a"⟩, ⟨3 * day + 2, .reserve "a"⟩]

theorem send_limits_hold_sample : ∃ s,
    run (SendState.step defaultEmailSendBudgetConfig) noSends cleanedSends = some s ∧
      s.allowed.length = 2 ∧ SendLimits defaultEmailSendBudgetConfig s.allowed ∧
      ∀ now emailHash, s.clock ≤ now → KeepsLimits s ⟨now, .reserve emailHash⟩ →
        Answered defaultEmailSendBudgetConfig s.rows emailHash now := by
  have hKeeps : StepsMeet (SendState.step defaultEmailSendBudgetConfig) KeepsLimits noSends
      cleanedSends := by decide +kernel
  have hRun : ∃ s ∈ run (SendState.step defaultEmailSendBudgetConfig) noSends cleanedSends,
      s.allowed.length = 2 := by decide +kernel
  obtain ⟨s, hRun, hBoth⟩ := hRun
  have hSound : defaultEmailSendBudgetConfig.Sound := by constructor <;> decide
  exact ⟨s, hRun, hBoth, send_limits_hold hSound hRun hKeeps⟩

/-- The old row of an address is selected, renewed by a mail, and then deleted: another mail follows
a second after the last. And a pause ends within a millisecond whose start is taken for its end. -/
theorem not_send_limits_hold :
    (∃ s, run (SendState.step defaultEmailSendBudgetConfig) noSends
      [⟨0, .reserve "a"⟩, ⟨3 * day, .selectOld ["email:a"]⟩, ⟨3 * day, .reserve "a"⟩,
        ⟨3 * day + 1000, .deleteOld "email:a"⟩, ⟨3 * day + 1000000, .reserve "a"⟩] = some s ∧
      ¬ SendLimits defaultEmailSendBudgetConfig s.allowed) ∧
    ∃ s, run (SendState.step defaultEmailSendBudgetConfig) noSends
        [⟨0, .reserve "a"⟩, ⟨456, .pause 1000000⟩] = some s ∧
      (reserveEmailSend defaultEmailSendBudgetConfig s.rows "b" (dateParseText 1000100)).1 =
        .allowed ∧
      ∃ global ∈ s.rows "global", ∃ blockedUntil ∈ global.blockedUntil, 1000100 < blockedUntil := by
  have hDeleted : ∃ s ∈ run (SendState.step defaultEmailSendBudgetConfig) noSends
      [⟨0, .reserve "a"⟩, ⟨3 * day, .selectOld ["email:a"]⟩, ⟨3 * day, .reserve "a"⟩,
        ⟨3 * day + 1000, .deleteOld "email:a"⟩, ⟨3 * day + 1000000, .reserve "a"⟩],
      sendsTo "a" s.allowed = [3 * day + 1000000, 3 * day, 0] := by decide +kernel
  have hBlocked : ∃ s ∈ run (SendState.step defaultEmailSendBudgetConfig) noSends
        [⟨0, .reserve "a"⟩, ⟨456, .pause 1000000⟩],
      (reserveEmailSend defaultEmailSendBudgetConfig s.rows "b" (dateParseText 1000100)).1 =
        .allowed ∧
      ∃ global ∈ s.rows "global", ∃ blockedUntil ∈ global.blockedUntil, 1000100 < blockedUntil := by
    decide +kernel
  refine ⟨?_, hBlocked⟩
  obtain ⟨s, hRun, hSends⟩ := hDeleted
  refine ⟨s, hRun, fun hLimits => ?_⟩
  have hCooled := hLimits.cooled "a"
  rw [hSends] at hCooled
  have hApart := List.rel_of_pairwise_cons hCooled List.mem_cons_self
  exact absurd hApart (by decide)

end Hyperspace.Auth
