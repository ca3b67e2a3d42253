import Hyperspace.Auth.EmailSendBudget
import Mathlib.Data.List.Pairwise

/-!
# Sends in windows

The limits on all sends so far, and what the two rows that a reservation writes sum up of them: the
day and the window that are still open, how many sends they have had, and when the last one was.
-/

namespace Hyperspace.Auth

open Hyperspace.Foundations

/-! ### What the limits say -/

/-- The times of all sends, the newest first. -/
def sendTimes (allowed : List (EmailHash × Int)) : List Int := allowed.map Prod.snd

/-- Those of the sends to an address. -/
def sendsTo (emailHash : EmailHash) (allowed : List (EmailHash × Int)) : List Int :=
  (allowed.filter fun send => send.1 = emailHash).map Prod.snd

/-- The first send of a window. -/
def firstOf (window : List Int) : Int := window.getLastD 0

/-- The sends to an address by windows: a send belongs to the last window when it comes within
`emailWindow` of the first one there, and starts a window otherwise. -/
def sendWindows (emailWindow : Int) : List Int → List (List Int)
  | [] => []
  | t :: earlier =>
    match sendWindows emailWindow earlier with
    | [] => [[t]]
    | window :: windows =>
      if t < firstOf window + emailWindow then (t :: window) :: windows
      else [t] :: window :: windows

/-- The sends that were allowed keep the limits. -/
structure SendLimits (config : EmailSendBudgetConfig) (allowed : List (EmailHash × Int)) :
    Prop where
  daily : ∀ start,
    ((sendTimes allowed).filter fun t => dayStart t = start).length ≤ config.dailyMax
  paced : (sendTimes allowed).Pairwise fun later earlier => earlier + config.interval ≤ later
  cooled : ∀ emailHash, (sendsTo emailHash allowed).Pairwise fun later earlier =>
    earlier + config.cooldown ≤ later
  windowed : ∀ emailHash, ∀ window ∈ sendWindows config.emailWindow (sendsTo emailHash allowed),
    window.length ≤ config.emailMax

/-- A reservation at the time `now` is allowed only after the pause, and one that is refused changes
nothing and is told to come back when the limit that refuses it no longer does, and when the pause
is over if it is that. -/
def Answered (config : EmailSendBudgetConfig) (rows : LimitRows) (emailHash : EmailHash)
    (now : Int) : Prop :=
  match reserveEmailSend config rows emailHash (dateParseText now) with
  | (.allowed, _) =>
    ∀ global ∈ rows "global", ∀ blockedUntil ∈ global.blockedUntil, blockedUntil ≤ now
  | (.refused reason seconds, rows') =>
    rows' = rows ∧ 0 < seconds ∧
      (∃ releasedAt, reason.refusesUntil config rows emailHash (dateParseText now) =
        some releasedAt ∧
        releasedAt ≤ dateParseText now + seconds * 1000000 ∧
        ∀ later, releasedAt ≤ later → reason.refusesUntil config rows emailHash later = none) ∧
      (reason = .providerBackoff → ∀ global ∈ rows "global",
        ∀ blockedUntil ∈ global.blockedUntil, blockedUntil ≤ now + seconds * 1000000)

/-! ### What the code relies on -/

/-- The pause ends a whole number of seconds ahead as `Date.parse` and `Date.now()` read the times,
and a little later than that by the clock of the database. -/
def EndsBetween (now blockedUntil : Int) : Prop :=
  now < blockedUntil ∧ (dateParseText blockedUntil - dateParseText now) % 1000000 = 0 ∧
    dateParseText blockedUntil - dateParseText now < blockedUntil - now

instance (now blockedUntil : Int) : Decidable (EndsBetween now blockedUntil) :=
  inferInstanceAs (Decidable (_ ∧ _))

/-- A clean-up deletes only what is still two days old, and no reservation falls between the end of
a pause and what the code takes for it. -/
def KeepsLimits (s : SendState) (e : SendEvent) : Prop :=
  match e.call with
  | .reserve _ => ∀ global ∈ s.rows "global", ∀ blockedUntil ∈ global.blockedUntil,
      ¬ EndsBetween e.now blockedUntil
  | .deleteOld key => ∀ row ∈ s.rows key, row.lastAttemptAt < e.now - 2 * day
  | .pause _ | .selectOld _ => True

instance (s : SendState) : DecidablePred (KeepsLimits s)
  | ⟨now, .reserve _⟩ => inferInstanceAs (Decidable (∀ global ∈ s.rows "global",
      ∀ blockedUntil ∈ global.blockedUntil, ¬ EndsBetween now blockedUntil))
  | ⟨now, .deleteOld key⟩ =>
      inferInstanceAs (Decidable (∀ row ∈ s.rows key, row.lastAttemptAt < now - 2 * day))
  | ⟨_, .pause _⟩ | ⟨_, .selectOld _⟩ => inferInstanceAs (Decidable True)

/-! ### Times -/

section

variable {config : EmailSendBudgetConfig} {rows : LimitRows} {emailHash : EmailHash}
  {now later releasedAt t : Int}

theorem dateParseText_eq : dateParseText t = t / 1000 * 1000 := rfl

theorem dateParseText_dateParse : dateParseText (dateParseText t) = dateParseText t := by
  rw [dateParseText_eq, dateParseText_eq]
  omega

theorem dateParseText_mono (h : t ≤ later) : dateParseText t ≤ dateParseText later := by
  rw [dateParseText_eq, dateParseText_eq]
  omega

theorem dateParseText_dayStart : dateParseText (dayStart t) = dayStart t := by
  rw [dateParseText_eq]
  unfold dayStart day
  omega

theorem dayStart_mono (h : t ≤ later) : dayStart t ≤ dayStart later := by
  unfold dayStart day
  omega

theorem dayStart_lt (h : dayStart t + day ≤ later) : dayStart t < dayStart later := by
  unfold dayStart day at *
  omega

/-! ### Answers -/

theorem released {reason : RefusalReason}
    (h : reason.refusesUntil config rows emailHash now = some releasedAt)
    (hLater : releasedAt ≤ later) : reason.refusesUntil config rows emailHash later = none := by
  cases reason with
  | providerBackoff | sendPacing =>
      cases hGlobal : rows "global" with
      | none => simp [RefusalReason.refusesUntil, hGlobal]
      | some global =>
          simp only [RefusalReason.refusesUntil, hGlobal, Option.bind_eq_bind,
            Option.bind_some] at h ⊢
          first
            | cases hBlocked : global.blockedUntil with
              | none => rfl
              | some blockedUntil =>
                  simp only [hBlocked, Option.bind_some] at h ⊢
                  grind
            | grind
  | dailyBudget =>
      cases hGlobal : rows "global" with
      | none => simp [RefusalReason.refusesUntil, hGlobal]
      | some global =>
          simp only [RefusalReason.refusesUntil, hGlobal, Option.bind_eq_bind,
            Option.bind_some] at h ⊢
          split at h
          · rename_i hDay
            cases h
            have hLt := dayStart_lt hLater
            rw [if_neg]
            intro hAgain
            omega
          · cases h
  | emailCooldown | emailLimit =>
      cases hRecipient : rows (emailKey emailHash) with
      | none => simp [RefusalReason.refusesUntil, hRecipient]
      | some recipient =>
          simp only [RefusalReason.refusesUntil, hRecipient, Option.bind_eq_bind, Option.bind_some,
            recipientActive] at h ⊢
          grind

theorem le_retryAfter : releasedAt ≤ now + retryAfter now releasedAt * 1000000 := by
  unfold retryAfter
  omega

theorem retryAfter_pos : 0 < retryAfter now releasedAt := by
  unfold retryAfter
  omega

theorem reserveEmailSend_allowed {rows' : LimitRows}
    (h : reserveEmailSend config rows emailHash now = (.allowed, rows')) :
    (∀ reason : RefusalReason, reason.refusesUntil config rows emailHash now = none) ∧
      rows' = upsertLimit (upsertLimit rows "global" (dayStart now) now) (emailKey emailHash)
        (recipientWindowStart config rows emailHash now) now := by
  unfold reserveEmailSend at h
  split at h
  · cases h
  · rename_i hNone
    refine ⟨fun reason => ?_, (congrArg Prod.snd h).symm⟩
    have hReason := List.findSome?_eq_none_iff.1 hNone reason
      (by cases reason <;> simp [refusalReasons])
    simpa using hReason

theorem reserveEmailSend_refused {rows' : LimitRows} {reason : RefusalReason} {seconds : Int}
    (h : reserveEmailSend config rows emailHash now = (.refused reason seconds, rows')) :
    rows' = rows ∧ ∃ releasedAt,
      reason.refusesUntil config rows emailHash now = some releasedAt ∧
        seconds = retryAfter now releasedAt := by
  unfold reserveEmailSend at h
  split at h
  · rename_i hSome
    obtain ⟨reason', -, hReason⟩ := List.exists_of_findSome?_eq_some hSome
    obtain ⟨releasedAt, hReleased, hPair⟩ := Option.map_eq_some_iff.1 hReason
    cases hPair
    cases h
    exact ⟨rfl, _, hReleased, rfl⟩
  · cases h

theorem le_of_not_refused {global : LimitRow} {blockedUntil : Int}
    (hBetween : ¬ EndsBetween now blockedUntil) (hGlobal : rows "global" = some global)
    (hBlocked : global.blockedUntil = some blockedUntil)
    (h : RefusalReason.providerBackoff.refusesUntil config rows emailHash (dateParseText now) =
      none) : blockedUntil ≤ now := by
  simp only [RefusalReason.refusesUntil, hGlobal, hBlocked, Option.bind_eq_bind,
    Option.bind_some] at h
  have hOver : dateParseText blockedUntil ≤ dateParseText now := by
    by_contra hAhead
    rw [if_pos (by omega)] at h
    cases h
  by_contra hAhead
  refine hBetween ⟨by omega, ?_, ?_⟩
  all_goals
    rw [dateParseText_eq, dateParseText_eq] at *
    omega

theorem le_of_refused {global : LimitRow} {blockedUntil : Int}
    (hBetween : ¬ EndsBetween now blockedUntil) (hGlobal : rows "global" = some global)
    (hBlocked : global.blockedUntil = some blockedUntil)
    (h : RefusalReason.providerBackoff.refusesUntil config rows emailHash (dateParseText now) =
      some releasedAt) :
    blockedUntil ≤ now + retryAfter (dateParseText now) releasedAt * 1000000 := by
  simp only [RefusalReason.refusesUntil, hGlobal, hBlocked, Option.bind_eq_bind,
    Option.bind_some] at h
  split at h
  · cases h
    simp only [EndsBetween, dateParseText_eq, retryAfter] at *
    omega
  · cases h

theorem answered (hBetween : ∀ global ∈ rows "global", ∀ blockedUntil ∈ global.blockedUntil,
    ¬ EndsBetween now blockedUntil) : Answered config rows emailHash now := by
  unfold Answered
  split
  · rename_i h
    obtain ⟨hNone, -⟩ := reserveEmailSend_allowed h
    intro global hGlobal blockedUntil hBlocked
    exact le_of_not_refused (hBetween global hGlobal blockedUntil hBlocked) hGlobal hBlocked
      (hNone .providerBackoff)
  · rename_i h
    obtain ⟨hRows, releasedAt, hReleased, rfl⟩ := reserveEmailSend_refused h
    refine ⟨hRows, retryAfter_pos,
      ⟨releasedAt, hReleased, le_retryAfter, fun later hLater => released hReleased hLater⟩, ?_⟩
    rintro rfl global hGlobal blockedUntil hBlocked
    exact le_of_refused (hBetween global hGlobal blockedUntil hBlocked) hGlobal hBlocked hReleased

/-! ### Windows -/

/-- Sends in the order of their times, the newest first, and as `Date.now()` reads them. -/
structure Chronological (times : List Int) : Prop where
  sorted : times.Pairwise fun later earlier => earlier ≤ later
  dates : ∀ t ∈ times, dateParseText t = t

variable {times window : List Int} {windows : List (List Int)} {emailWindow gap clock : Int}

theorem Chronological.head {times : List Int} (h : Chronological (t :: times)) :
    ∀ t' ∈ t :: times, t' ≤ t := by
  intro t' ht'
  rcases List.mem_cons.1 ht' with rfl | hRest
  · exact Int.le_refl _
  · exact List.rel_of_pairwise_cons h.sorted hRest

theorem sendWindows_cons (h : sendWindows emailWindow times = window :: windows) :
    sendWindows emailWindow (t :: times) =
      if t < firstOf window + emailWindow then (t :: window) :: windows
      else [t] :: window :: windows := by
  simp only [sendWindows, h]

theorem sendWindows_ne_nil : sendWindows emailWindow (t :: times) ≠ [] := by
  unfold sendWindows
  split
  · simp
  · split <;> simp

theorem mem_of_mem_sendWindows (h : window ∈ sendWindows emailWindow times) :
    window ≠ [] ∧ ∀ t ∈ window, t ∈ times := by
  induction times generalizing window with
  | nil => cases h
  | cons t times ih =>
      cases hWindows : sendWindows emailWindow times with
      | nil =>
          simp only [sendWindows, hWindows, List.mem_singleton] at h
          subst h
          simp
      | cons latest earlier =>
          rw [sendWindows_cons hWindows] at h
          have hEarlier : ∀ w ∈ latest :: earlier, w ≠ [] ∧ ∀ t' ∈ w, t' ∈ t :: times := by
            intro w hw
            rw [← hWindows] at hw
            exact ⟨(ih hw).1, fun t' ht' => List.mem_cons_of_mem t ((ih hw).2 t' ht')⟩
          split at h
          · rcases List.mem_cons.1 h with rfl | hRest
            · refine ⟨by simp, ?_⟩
              intro t' ht'
              rcases List.mem_cons.1 ht' with rfl | hRest
              · exact List.mem_cons_self
              · exact (hEarlier latest List.mem_cons_self).2 t' hRest
            · exact hEarlier window (List.mem_cons_of_mem _ hRest)
          · rcases List.mem_cons.1 h with rfl | hRest
            · simp
            · exact hEarlier window hRest

theorem firstOf_mem (h : window ∈ sendWindows emailWindow times) : firstOf window ∈ times := by
  obtain ⟨hSome, hMem⟩ := mem_of_mem_sendWindows h
  apply hMem
  unfold firstOf
  rw [List.getLastD_eq_getLast?, List.getLast?_eq_some_getLast hSome]
  exact List.getLast_mem hSome

theorem firstOf_cons (hSome : window ≠ []) : firstOf (t :: window) = firstOf window := by
  unfold firstOf
  cases window with
  | nil => exact absurd rfl hSome
  | cons t' window => simp [List.getLastD]

/-! ### What the rows track -/

/-- The row of an address sums up the sends to it; without a row they are long ago. -/
def RecipientTracks (emailWindow clock : Int) (row? : Option LimitRow) : List Int → Prop
  | [] => row? = none
  | t :: earlier =>
    match row? with
    | none => t < clock - 2 * day
    | some row => row.lastAttemptAt = t ∧ ∃ window windows,
      sendWindows emailWindow (t :: earlier) = window :: windows ∧
        row.windowStart = firstOf window ∧ window.length ≤ row.sendCount

/-- The row of all sends sums up those of the day of the last one. -/
def GlobalTracks (row? : Option LimitRow) : List Int → Prop
  | [] => True
  | t :: earlier => ∃ row ∈ row?, row.lastAttemptAt = t ∧ row.windowStart = dayStart t ∧
    ((t :: earlier).filter fun t' => dayStart t' = dayStart t).length ≤ row.sendCount

theorem RecipientTracks.tick {row? : Option LimitRow}
    (h : RecipientTracks emailWindow clock row? times)
    (hClock : clock ≤ later) : RecipientTracks emailWindow later row? times := by
  cases times with
  | nil => exact h
  | cons t earlier =>
      cases row? with
      | none =>
          have hOld : t < clock - 2 * day := h
          show t < later - 2 * day
          omega
      | some row => exact h

theorem RecipientTracks.delete {row? : Option LimitRow}
    (h : RecipientTracks emailWindow clock row? times)
    (hOld : ∀ row ∈ row?, row.lastAttemptAt < clock - 2 * day) :
    RecipientTracks emailWindow clock none times := by
  cases row? with
  | none => exact h
  | some row =>
      cases times with
      | nil => cases h
      | cons t earlier =>
          have hLast : row.lastAttemptAt = t := h.1
          exact hLast ▸ hOld row rfl

end

end Hyperspace.Auth
