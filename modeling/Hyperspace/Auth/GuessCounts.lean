import Hyperspace.Auth.EmailLogin
import Hyperspace.Foundations.Runs
import Hyperspace.Foundations.Windows
import Mathlib.Algebra.BigOperators.Group.Finset.Basic
import Mathlib.Algebra.Order.BigOperators.Group.Finset
import Mathlib.Data.Finset.Dedup

/-!
# The challenges of an address and their count

The attempts of the challenges of an address are counted on its latest challenge: a new one takes
over the count and the expiry, and one whose delivery fails hands the count back. What has been
noted of the address since its last login is bounded by that count.
-/

namespace Hyperspace.Auth

open Hyperspace.Billing (Timestamp jsDate)
open Hyperspace.Foundations

/-! ### What is noted of an address -/

namespace LoginRecord

def email : LoginRecord → String
  | .issued email _ _ | .rejected email _ _ | .succeeded email => email

def IsSuccess : LoginRecord → Prop
  | .succeeded _ => True
  | .issued .. | .rejected .. => False

instance : DecidablePred IsSuccess :=
  fun r => by cases r <;> simp only [IsSuccess] <;> infer_instance

/-- The time and the expiry of a rejection. -/
def rejection? : LoginRecord → Option (Timestamp × Timestamp)
  | .rejected _ rejectedAt expiresAt => some (rejectedAt, expiresAt)
  | .issued .. | .succeeded _ => none

def expiresAt? : LoginRecord → Option Timestamp
  | .issued _ _ expiresAt | .rejected _ _ expiresAt => some expiresAt
  | .succeeded _ => none

/-- A challenge expires with the one issued before it, or is issued after that one has expired. -/
def IssuedAfter : LoginRecord → LoginRecord → Prop
  | .issued _ issuedAt expiresAt, .issued _ _ earlier => expiresAt = earlier ∨ earlier ≤ issuedAt
  | _, _ => True

end LoginRecord

/-- What is noted of the address since its last successful verification. -/
def sinceLogin (email : String) (log : List LoginRecord) : List LoginRecord :=
  (log.filter (·.email = email)).takeWhile fun r => ¬ r.IsSuccess

def rejections (log : List LoginRecord) : List (Timestamp × Timestamp) :=
  log.filterMap LoginRecord.rejection?

def expiries (log : List LoginRecord) : List Timestamp := log.filterMap LoginRecord.expiresAt?

/-- The rejections of codes that expire at this time. -/
def countRejected (expiresAt : Timestamp) (log : List LoginRecord) : Nat :=
  ((rejections log).map Prod.snd).count expiresAt

/-- Codes cannot be guessed by retrying. -/
structure GuessesLimited (lifetime : Timestamp) (log : List LoginRecord) : Prop where
  rejected : ∀ expiresAt, countRejected expiresAt log ≤ 5
  issued : log.Pairwise LoginRecord.IssuedAfter
  span : ∀ start span : Timestamp, 0 ≤ span →
    (((rejections log).filter fun r => start ≤ r.1 && r.1 ≤ start + span).length : Int) ≤
      5 * (span / lifetime + 2)

/-! ### The windows of the challenges of an address -/

variable {lifetime now now' : Timestamp} {rows rows' : EmailLoginChallenge → Prop}
  {log : List LoginRecord} {c c' : EmailLoginChallenge}

/-- The challenge can still be used. -/
def EmailLoginChallenge.IsOpen (now : Timestamp) (c : EmailLoginChallenge) : Prop :=
  c.consumedAt = none ∧ jsDate now < c.expiresAt

/-- The latest challenge that is not consumed. -/
structure IsLatest (rows : EmailLoginChallenge → Prop) (c : EmailLoginChallenge) : Prop where
  mem : rows c
  unconsumed : c.consumedAt = none
  latest : ∀ c', rows c' → c'.consumedAt = none → c'.createdAt ≤ c.createdAt

/-- Challenges that were created later do not expire sooner, and the open ones expire last. -/
structure Windows (lifetime now : Timestamp) (rows : EmailLoginChallenge → Prop) : Prop where
  distinct : ∀ c c', rows c → rows c' → c.createdAt = c'.createdAt → c = c'
  created : ∀ c, rows c → c.createdAt ≤ now
  expiry : ∀ c, rows c → c.expiresAt ≤ jsDate now + lifetime
  ordered : ∀ c c', rows c → rows c' → c.createdAt ≤ c'.createdAt → c.expiresAt ≤ c'.expiresAt
  openMost : ∀ c c', rows c → rows c' → c.IsOpen now → c'.expiresAt ≤ c.expiresAt

theorem jsDate_le_jsDate (h : now ≤ now') : jsDate now ≤ jsDate now' := ediv_mul_mono 1000 h

theorem EmailLoginChallenge.IsOpen.earlier (h : c.IsOpen now') (hNow : now ≤ now') : c.IsOpen now :=
  ⟨h.1, lt_of_le_of_lt (jsDate_le_jsDate hNow) h.2⟩

theorem Windows.tick (h : Windows lifetime now rows) (hNow : now ≤ now') :
    Windows lifetime now' rows where
  distinct := h.distinct
  created c hc := (h.created c hc).trans hNow
  expiry c hc := (h.expiry c hc).trans (Int.add_le_add_right (jsDate_le_jsDate hNow) lifetime)
  ordered := h.ordered
  openMost c c' hc hc' hOpen := h.openMost c c' hc hc' (hOpen.earlier hNow)

theorem IsLatest.unique (hWindows : Windows lifetime now rows) (h : IsLatest rows c)
    (h' : IsLatest rows c') : c = c' :=
  hWindows.distinct c c' h.mem h'.mem
    (le_antisymm (h'.latest c h.mem h.unconsumed) (h.latest c' h'.mem h'.unconsumed))

theorem Windows.expiresAt_eq (h : Windows lifetime now rows) (hc : rows c) (hc' : rows c')
    (hOpen : c.IsOpen now) (hOpen' : c'.IsOpen now) : c.expiresAt = c'.expiresAt :=
  le_antisymm (h.openMost c' c hc' hc hOpen') (h.openMost c c' hc hc' hOpen)

theorem Windows.none_open (h : Windows lifetime now rows) (hLatest : IsLatest rows c)
    (hExpired : ¬ jsDate now < c.expiresAt) (hc' : rows c') : ¬ c'.IsOpen now := by
  intro hOpen
  have hLater := hLatest.latest c' hc' hOpen.1
  exact hExpired (lt_of_lt_of_le hOpen.2 (h.ordered c' c hc' hLatest.mem hLater))

theorem Windows.insert (h : Windows lifetime now rows) {new : EmailLoginChallenge}
    (hRows : ∀ c, rows' c ↔ rows c ∨ c = new) (hNew : ∀ c, rows c → c.createdAt < new.createdAt)
    (hCreated : new.createdAt = now) (hExpiry : new.expiresAt ≤ jsDate now + lifetime)
    (hMost : ∀ c, rows c → c.expiresAt ≤ new.expiresAt)
    (hOpen : ∀ c, rows c → c.IsOpen now → new.expiresAt ≤ c.expiresAt) :
    Windows lifetime now rows' where
  distinct c c' hc hc' hSame := by
    rcases (hRows c).1 hc with hc | rfl
    · rcases (hRows c').1 hc' with hc' | rfl
      · exact h.distinct c c' hc hc' hSame
      · exact absurd hSame (hNew c hc).ne
    · rcases (hRows c').1 hc' with hc' | rfl
      · exact absurd hSame (hNew c' hc').ne'
      · rfl
  created c hc := ((hRows c).1 hc).elim (h.created c) fun hEq => by rw [hEq, hCreated]
  expiry c hc := ((hRows c).1 hc).elim (h.expiry c) fun hEq => hEq ▸ hExpiry
  ordered c c' hc hc' hOrder := by
    rcases (hRows c').1 hc' with hc' | rfl
    · rcases (hRows c).1 hc with hc | rfl
      · exact h.ordered c c' hc hc' hOrder
      · exact absurd hOrder (not_le_of_gt (hNew c' hc'))
    · rcases (hRows c).1 hc with hc | rfl
      · exact hMost c hc
      · exact le_rfl
  openMost c c' hc hc' hUsable := by
    rcases (hRows c).1 hc with hc | rfl
    · rcases (hRows c').1 hc' with hc' | rfl
      · exact h.openMost c c' hc hc' hUsable
      · exact hOpen c hc hUsable
    · rcases (hRows c').1 hc' with hc' | rfl
      · exact hMost c' hc'
      · exact le_rfl

/-- The challenge is rewritten: its attempts may change, and it may be consumed. -/
def EmailLoginChallenge.Rewrites (f : EmailLoginChallenge → EmailLoginChallenge) : Prop :=
  ∀ c, (f c).createdAt = c.createdAt ∧ (f c).expiresAt = c.expiresAt ∧
    ((f c).consumedAt = none → c.consumedAt = none)

theorem Windows.rewrite {f : EmailLoginChallenge → EmailLoginChallenge}
    (h : Windows lifetime now rows) (hf : EmailLoginChallenge.Rewrites f)
    (hRows : ∀ c', rows' c' ↔ ∃ c, rows c ∧ f c = c') : Windows lifetime now rows' where
  distinct d d' hd hd' hSame := by
    obtain ⟨c, hc, rfl⟩ := (hRows d).1 hd
    obtain ⟨c', hc', rfl⟩ := (hRows d').1 hd'
    rw [(hf c).1, (hf c').1] at hSame
    rw [h.distinct c c' hc hc' hSame]
  created d hd := by
    obtain ⟨c, hc, rfl⟩ := (hRows d).1 hd
    rw [(hf c).1]
    exact h.created c hc
  expiry d hd := by
    obtain ⟨c, hc, rfl⟩ := (hRows d).1 hd
    rw [(hf c).2.1]
    exact h.expiry c hc
  ordered d d' hd hd' hOrder := by
    obtain ⟨c, hc, rfl⟩ := (hRows d).1 hd
    obtain ⟨c', hc', rfl⟩ := (hRows d').1 hd'
    rw [(hf c).1, (hf c').1] at hOrder
    rw [(hf c).2.1, (hf c').2.1]
    exact h.ordered c c' hc hc' hOrder
  openMost d d' hd hd' hOpen := by
    obtain ⟨c, hc, rfl⟩ := (hRows d).1 hd
    obtain ⟨c', hc', rfl⟩ := (hRows d').1 hd'
    obtain ⟨hUnconsumed, hLive⟩ := hOpen
    rw [(hf c).2.1] at hLive ⊢
    rw [(hf c').2.1]
    exact h.openMost c c' hc hc' ⟨(hf c).2.2 hUnconsumed, hLive⟩

/-! ### What has been noted -/

/-- The notes of an address since its last successful verification. -/
structure Noted (lifetime : Timestamp) (log : List LoginRecord) : Prop where
  rejected : ∀ expiresAt, countRejected expiresAt log ≤ 5
  within : ∀ r ∈ rejections log, r.1 < r.2 ∧ r.2 ≤ r.1 + lifetime
  apart : ∀ t ∈ expiries log, ∀ t' ∈ expiries log, t < t' → t + lifetime ≤ t'
  issued : log.Pairwise LoginRecord.IssuedAfter

theorem Noted.nil : Noted lifetime [] where
  rejected _ := Nat.zero_le 5
  within _ hr := by cases hr
  apart _ ht := by cases ht
  issued := .nil

theorem snd_mem_expiries {r : Timestamp × Timestamp} (h : r ∈ rejections log) :
    r.2 ∈ expiries log := by
  obtain ⟨record, hMem, hRejection⟩ := List.mem_filterMap.1 h
  refine List.mem_filterMap.2 ⟨record, hMem, ?_⟩
  cases record with
  | rejected => cases hRejection; rfl
  | issued | succeeded => cases hRejection

/-- The earlier challenges expire with the new one, or have expired a lifetime before it. -/
def Earlier (lifetime now expiresAt : Timestamp) (log : List LoginRecord) : Prop :=
  ∀ t ∈ expiries log, t = expiresAt ∨ t + lifetime ≤ expiresAt ∧ t ≤ now

theorem Earlier.apart {expiresAt : Timestamp} (h : Earlier lifetime now expiresAt log)
    (hLifetime : 0 ≤ lifetime) (hNoted : Noted lifetime log) :
    ∀ t ∈ expiresAt :: expiries log, ∀ t' ∈ expiresAt :: expiries log, t < t' →
      t + lifetime ≤ t' := by
  intro t ht t' ht' hLess
  rcases List.mem_cons.1 ht with hNew | hOld
  · rcases List.mem_cons.1 ht' with hNew' | hOld'
    · exact absurd hLess (hNew.trans hNew'.symm).not_lt
    · rcases h t' hOld' with hSame | ⟨hApart, -⟩
      · exact absurd hLess (hNew.trans hSame.symm).not_lt
      · rw [hNew] at hLess
        exact absurd ((Int.le_add_of_nonneg_right hLifetime).trans hApart) (not_le_of_gt hLess)
  · rcases List.mem_cons.1 ht' with hNew' | hOld'
    · rw [hNew'] at hLess ⊢
      exact (h t hOld).elim (fun hSame => absurd hLess hSame.not_lt) And.left
    · exact hNoted.apart t hOld t' hOld' hLess

theorem Noted.issue {email : String} {expiresAt : Timestamp} (h : Noted lifetime log)
    (hLifetime : 0 ≤ lifetime) (hEarlier : Earlier lifetime now expiresAt log) :
    Noted lifetime (.issued email now expiresAt :: log) where
  rejected := h.rejected
  within := h.within
  apart := hEarlier.apart hLifetime h
  issued := by
    refine List.pairwise_cons.2 ⟨fun record hMem => ?_, h.issued⟩
    cases record with
    | issued email' issuedAt' expiresAt' =>
        have hExpiry : expiresAt' ∈ expiries log := List.mem_filterMap.2 ⟨_, hMem, rfl⟩
        exact (hEarlier expiresAt' hExpiry).imp Eq.symm And.right
    | rejected | succeeded => trivial

theorem Noted.reject {email : String} {expiresAt : Timestamp} (h : Noted lifetime log)
    (hLifetime : 0 ≤ lifetime) (hEarlier : Earlier lifetime now expiresAt log)
    (hFew : countRejected expiresAt log < 5) (hLive : now < expiresAt)
    (hExpiry : expiresAt ≤ now + lifetime) :
    Noted lifetime (.rejected email now expiresAt :: log) where
  rejected t := by
    have hCount : countRejected t (.rejected email now expiresAt :: log) =
        countRejected t log + if expiresAt = t then 1 else 0 := by
      simp [countRejected, rejections, LoginRecord.rejection?, List.count_cons]
    rw [hCount]
    split
    · rename_i hSame
      rw [← hSame]
      exact hFew
    · exact h.rejected t
  within r hr := by
    rcases List.mem_cons.1 hr with rfl | hr
    · exact ⟨hLive, hExpiry⟩
    · exact h.within r hr
  apart := hEarlier.apart hLifetime h
  issued := List.pairwise_cons.2 ⟨fun _ _ => trivial, h.issued⟩

/-- The rejections in a span belong to few expiry times, for these are a lifetime apart. -/
theorem Noted.guessesLimited (h : Noted lifetime log) (hLifetime : 0 ≤ lifetime) :
    GuessesLimited lifetime log := by
  refine ⟨h.rejected, h.issued, fun start span hSpan => ?_⟩
  let guesses := (rejections log).filter fun r => start ≤ r.1 && r.1 ≤ start + span
  let points := (guesses.map Prod.snd).toFinset
  have hGuess : ∀ r ∈ guesses, r ∈ rejections log ∧ start ≤ r.1 ∧ r.1 ≤ start + span := by
    intro r hr
    obtain ⟨hMem, hInside⟩ := List.mem_filter.1 hr
    simp only [Bool.and_eq_true, decide_eq_true_eq] at hInside
    exact ⟨hMem, hInside⟩
  have hPoint : ∀ t ∈ points, ∃ r ∈ guesses, r.2 = t := fun t ht =>
    List.mem_map.1 (List.mem_toFinset.1 ht)
  have hCount : ∀ t ∈ points, (guesses.map Prod.snd).count t ≤ 5 := fun t _ =>
    (List.Sublist.count_le t (List.filter_sublist.map Prod.snd)).trans (h.rejected t)
  have hLength : guesses.length ≤ points.card * 5 := by
    rw [← List.length_map (f := Prod.snd), ← List.sum_toFinset_count_eq_length]
    exact Finset.sum_le_card_nsmul _ _ 5 hCount
  rcases hLifetime.eq_or_lt with hZero | hPositive
  · have hNone : guesses = [] := by
      refine List.eq_nil_iff_forall_not_mem.2 fun r hr => ?_
      obtain ⟨hLive, hExpiry⟩ := h.within r (hGuess r hr).1
      rw [← hZero, add_zero] at hExpiry
      exact absurd hLive (not_lt_of_ge hExpiry)
    have hFew : guesses.length = 0 := by rw [hNone, List.length_nil]
    have hRight : 0 ≤ span / lifetime := Int.ediv_nonneg hSpan hLifetime
    change (guesses.length : Int) ≤ _
    rw [hFew, Nat.cast_zero]
    linarith
  · have hCard : (points.card : ℤ) ≤ span / lifetime + 2 := by
      refine @card_le_of_spaced points lifetime span start hPositive hSpan ?_ ?_
      · intro t ht t' ht' hLess
        obtain ⟨r, hr, rfl⟩ := hPoint t ht
        obtain ⟨r', hr', rfl⟩ := hPoint t' ht'
        exact h.apart _ (snd_mem_expiries (hGuess r hr).1) _ (snd_mem_expiries (hGuess r' hr').1)
          hLess
      · intro t ht
        obtain ⟨r, hr, rfl⟩ := hPoint t ht
        obtain ⟨hMem, hStart, hEnd⟩ := hGuess r hr
        obtain ⟨hLive, hExpiry⟩ := h.within r hMem
        exact ⟨lt_of_le_of_lt hStart hLive, by linarith⟩
    have hTotal : (guesses.length : ℤ) ≤ points.card * 5 := by exact_mod_cast hLength
    change (guesses.length : ℤ) ≤ _
    linarith

/-! ### Counting on the latest challenge -/

/-- The latest challenge counts the rejections of its codes, and what has been noted of a time that
has not passed is noted of a challenge that is still open. -/
structure Guarded (lifetime now : Timestamp) (rows : EmailLoginChallenge → Prop)
    (log : List LoginRecord) : Prop where
  windows : Windows lifetime now rows
  noted : Noted lifetime log
  attempts : ∀ c, IsLatest rows c → jsDate now < c.expiresAt →
    countRejected c.expiresAt log ≤ c.attemptCount
  stillOpen : ∀ t ∈ expiries log, jsDate now < t → ∃ c, rows c ∧ c.consumedAt = none ∧
    c.expiresAt = t
  openApart : ∀ c, rows c → c.IsOpen now → ∀ t ∈ expiries log, t < c.expiresAt →
    t + lifetime ≤ c.expiresAt

theorem Guarded.tick (h : Guarded lifetime now rows log) (hNow : now ≤ now') :
    Guarded lifetime now' rows log where
  windows := h.windows.tick hNow
  noted := h.noted
  attempts c hLatest hLive := h.attempts c hLatest (lt_of_le_of_lt (jsDate_le_jsDate hNow) hLive)
  stillOpen t ht hLive := h.stillOpen t ht (lt_of_le_of_lt (jsDate_le_jsDate hNow) hLive)
  openApart c hc hOpen := h.openApart c hc (hOpen.earlier hNow)

/-- Seen from an open challenge, everything noted is of its own time or long before. -/
theorem Guarded.earlier (h : Guarded lifetime now rows log) (hc : rows c) (hOpen : c.IsOpen now) :
    Earlier lifetime (jsDate now) c.expiresAt log := by
  intro t ht
  by_cases hLive : jsDate now < t
  · obtain ⟨c', hc', hUnconsumed, rfl⟩ := h.stillOpen t ht hLive
    exact .inl (h.windows.expiresAt_eq hc' hc ⟨hUnconsumed, hLive⟩ hOpen)
  · have hPassed : t ≤ jsDate now := le_of_not_gt hLive
    exact .inr ⟨h.openApart c hc hOpen t ht (lt_of_le_of_lt hPassed hOpen.2), hPassed⟩

theorem countRejected_eq_zero {expiresAt : Timestamp} (h : expiresAt ∉ expiries log) :
    countRejected expiresAt log = 0 := by
  refine List.count_eq_zero.2 fun hMem => ?_
  obtain ⟨r, hr, rfl⟩ := List.mem_map.1 hMem
  exact h (snd_mem_expiries hr)

theorem Guarded.insert (h : Guarded lifetime now rows log) (hLifetime : 0 ≤ lifetime)
    {new : EmailLoginChallenge} (hRows : ∀ c, rows' c ↔ rows c ∨ c = new)
    (hNew : ∀ c, rows c → c.createdAt < new.createdAt) (hCreated : new.createdAt = now)
    (hUnconsumed : new.consumedAt = none) (hExpiry : new.expiresAt ≤ jsDate now + lifetime)
    (hMost : ∀ c, rows c → c.expiresAt ≤ new.expiresAt)
    (hOpen : ∀ c, rows c → c.IsOpen now → new.expiresAt ≤ c.expiresAt)
    (hEarlier : Earlier lifetime (jsDate now) new.expiresAt log)
    (hAttempts : jsDate now < new.expiresAt → countRejected new.expiresAt log ≤ new.attemptCount)
    {email : String} :
    Guarded lifetime now rows' (.issued email (jsDate now) new.expiresAt :: log) where
  windows := h.windows.insert hRows hNew hCreated hExpiry hMost hOpen
  noted := h.noted.issue hLifetime hEarlier
  attempts c hLatest hLive := by
    rcases (hRows c).1 hLatest.mem with hc | rfl
    · have hLater := hLatest.latest new ((hRows new).2 (.inr rfl)) hUnconsumed
      exact absurd hLater (not_le_of_gt (hNew c hc))
    · exact hAttempts hLive
  stillOpen t ht hLive := by
    rcases List.mem_cons.1 ht with rfl | ht
    · exact ⟨new, (hRows new).2 (.inr rfl), hUnconsumed, rfl⟩
    · obtain ⟨c, hc, hRest⟩ := h.stillOpen t ht hLive
      exact ⟨c, (hRows c).2 (.inl hc), hRest⟩
  openApart c hc hUsable t ht hLess := by
    rcases (hRows c).1 hc with hc | rfl
    · rcases List.mem_cons.1 ht with rfl | ht
      · exact absurd hLess (not_lt_of_ge (hMost c hc))
      · exact h.openApart c hc hUsable t ht hLess
    · rcases List.mem_cons.1 ht with rfl | ht
      · exact absurd hLess (lt_irrefl _)
      · exact (hEarlier t ht).elim (fun hSame => absurd hLess hSame.not_lt) And.left

theorem Guarded.resend (h : Guarded lifetime now rows log) (hLifetime : 0 ≤ lifetime)
    (hLatest : IsLatest rows c) (hLive : jsDate now < c.expiresAt) {new : EmailLoginChallenge}
    (hRows : ∀ c, rows' c ↔ rows c ∨ c = new) (hNew : ∀ c, rows c → c.createdAt < new.createdAt)
    (hCreated : new.createdAt = now) (hUnconsumed : new.consumedAt = none)
    (hExpiry : new.expiresAt = c.expiresAt) (hCount : new.attemptCount = c.attemptCount)
    {email : String} :
    Guarded lifetime now rows' (.issued email (jsDate now) new.expiresAt :: log) := by
  have hOpen : c.IsOpen now := ⟨hLatest.unconsumed, hLive⟩
  refine h.insert hLifetime hRows hNew hCreated hUnconsumed ?_ ?_ ?_ ?_ ?_
  · rw [hExpiry]
    exact h.windows.expiry c hLatest.mem
  · intro c' hc'
    rw [hExpiry]
    exact h.windows.openMost c c' hLatest.mem hc' hOpen
  · intro c' hc' hOpen'
    rw [hExpiry]
    exact h.windows.openMost c' c hc' hLatest.mem hOpen'
  · rw [hExpiry]
    exact h.earlier hLatest.mem hOpen
  · intro hLive'
    rw [hExpiry, hCount]
    exact h.attempts c hLatest hLive

theorem Guarded.fresh (h : Guarded lifetime now rows log) (hLifetime : 0 ≤ lifetime)
    (hNone : ∀ c, rows c → ¬ c.IsOpen now) {new : EmailLoginChallenge}
    (hRows : ∀ c, rows' c ↔ rows c ∨ c = new) (hNew : ∀ c, rows c → c.createdAt < new.createdAt)
    (hCreated : new.createdAt = now) (hUnconsumed : new.consumedAt = none)
    (hExpiry : new.expiresAt = jsDate now + lifetime) {email : String} :
    Guarded lifetime now rows' (.issued email (jsDate now) new.expiresAt :: log) := by
  have hPassed : ∀ t ∈ expiries log, t ≤ jsDate now := by
    intro t ht
    by_contra hLive
    obtain ⟨c, hc, hRest, hTime⟩ := h.stillOpen t ht (lt_of_not_ge hLive)
    exact hNone c hc ⟨hRest, hTime ▸ lt_of_not_ge hLive⟩
  refine h.insert hLifetime hRows hNew hCreated hUnconsumed hExpiry.le ?_ ?_ ?_ ?_
  · intro c hc
    rw [hExpiry]
    exact h.windows.expiry c hc
  · exact fun c hc hOpen => absurd hOpen (hNone c hc)
  · intro t ht
    rw [hExpiry]
    exact .inr ⟨Int.add_le_add_right (hPassed t ht) lifetime, hPassed t ht⟩
  · intro hLive
    rw [countRejected_eq_zero fun ht => absurd hLive (not_lt_of_ge (hPassed _ ht))]
    exact Nat.zero_le _

theorem Guarded.rewrite {f : EmailLoginChallenge → EmailLoginChallenge}
    (h : Guarded lifetime now rows log) (hf : EmailLoginChallenge.Rewrites f)
    (hRows : ∀ c', rows' c' ↔ ∃ c, rows c ∧ f c = c')
    (hAttempts : ∀ c, rows c → IsLatest rows' (f c) → jsDate now < c.expiresAt →
      countRejected c.expiresAt log ≤ (f c).attemptCount)
    (hStill : ∀ c, rows c → c.IsOpen now → c.expiresAt ∈ expiries log →
      ∃ c', rows c' ∧ (f c').consumedAt = none ∧ c'.expiresAt = c.expiresAt) :
    Guarded lifetime now rows' log where
  windows := h.windows.rewrite hf hRows
  noted := h.noted
  attempts d hLatest hLive := by
    obtain ⟨c, hc, rfl⟩ := (hRows d).1 hLatest.mem
    rw [(hf c).2.1] at hLive ⊢
    exact hAttempts c hc hLatest hLive
  stillOpen t ht hLive := by
    obtain ⟨c, hc, hUnconsumed, rfl⟩ := h.stillOpen t ht hLive
    obtain ⟨c', hc', hKept, hSame⟩ := hStill c hc ⟨hUnconsumed, hLive⟩ ht
    exact ⟨f c', (hRows _).2 ⟨c', hc', rfl⟩, hKept, (hf c').2.1.trans hSame⟩
  openApart d hd hOpen t ht hLess := by
    obtain ⟨c, hc, rfl⟩ := (hRows d).1 hd
    obtain ⟨hUnconsumed, hLive⟩ := hOpen
    rw [(hf c).2.1] at hLive hLess ⊢
    exact h.openApart c hc ⟨(hf c).2.2 hUnconsumed, hLive⟩ t ht hLess

theorem Guarded.login {f : EmailLoginChallenge → EmailLoginChallenge}
    (h : Guarded lifetime now rows log) (hf : EmailLoginChallenge.Rewrites f)
    (hRows : ∀ c', rows' c' ↔ ∃ c, rows c ∧ f c = c') : Guarded lifetime now rows' [] where
  windows := h.windows.rewrite hf hRows
  noted := .nil
  attempts _ _ _ := Nat.zero_le _
  stillOpen _ ht := by cases ht
  openApart _ _ _ _ ht := by cases ht

theorem Guarded.reject {f : EmailLoginChallenge → EmailLoginChallenge}
    (h : Guarded lifetime now rows log) (hLifetime : 0 ≤ lifetime) (hLatest : IsLatest rows c)
    (hLive : jsDate now < c.expiresAt) (hFew : c.attemptCount < 5)
    (hf : ∀ d, (f d).createdAt = d.createdAt ∧ (f d).expiresAt = d.expiresAt ∧
      (f d).consumedAt = d.consumedAt)
    (hCount : (f c).attemptCount = c.attemptCount + 1)
    (hRows : ∀ c', rows' c' ↔ ∃ c, rows c ∧ f c = c') {email : String} :
    Guarded lifetime now rows' (.rejected email (jsDate now) c.expiresAt :: log) := by
  have hRewrites : EmailLoginChallenge.Rewrites f := fun d =>
    ⟨(hf d).1, (hf d).2.1, fun hNone => (hf d).2.2 ▸ hNone⟩
  have hOpen : c.IsOpen now := ⟨hLatest.unconsumed, hLive⟩
  have hEarlier := h.earlier hLatest.mem hOpen
  have hCounted := h.attempts c hLatest hLive
  refine ⟨h.windows.rewrite hRewrites hRows, ?_, fun d hLatest' hLive' => ?_,
    fun t ht hLive' => ?_, fun d hd hOpen' t ht hLess => ?_⟩
  · exact h.noted.reject hLifetime hEarlier (lt_of_le_of_lt hCounted hFew) hLive
      (h.windows.expiry c hLatest.mem)
  · -- The latest challenge is the one that has counted the rejection.
    obtain ⟨d, hd, rfl⟩ := (hRows _).1 hLatest'.mem
    have hSame : d = c := by
      refine IsLatest.unique h.windows ⟨hd, ?_, fun c' hc' hNone => ?_⟩ hLatest
      · rw [← (hf d).2.2]
        exact hLatest'.unconsumed
      · have hLater := hLatest'.latest (f c') ((hRows _).2 ⟨c', hc', rfl⟩) ((hf c').2.2.trans hNone)
        rwa [(hf c').1, (hf d).1] at hLater
    subst hSame
    have hRejected : countRejected (f d).expiresAt
        (.rejected email (jsDate now) d.expiresAt :: log) = countRejected d.expiresAt log + 1 := by
      rw [(hf d).2.1]
      simp [countRejected, rejections, LoginRecord.rejection?]
    rw [hRejected, hCount]
    exact Nat.succ_le_succ hCounted
  · rcases List.mem_cons.1 ht with rfl | ht
    · exact ⟨f c, (hRows _).2 ⟨c, hLatest.mem, rfl⟩, (hf c).2.2.trans hLatest.unconsumed,
        (hf c).2.1⟩
    · obtain ⟨c', hc', hNone, rfl⟩ := h.stillOpen t ht hLive'
      exact ⟨f c', (hRows _).2 ⟨c', hc', rfl⟩, (hf c').2.2.trans hNone, (hf c').2.1⟩
  · obtain ⟨c', hc', rfl⟩ := (hRows d).1 hd
    obtain ⟨hNone, hUsable⟩ := hOpen'
    rw [(hf c').2.1] at hUsable hLess ⊢
    have hOpen'' : c'.IsOpen now := ⟨(hf c').2.2 ▸ hNone, hUsable⟩
    rcases List.mem_cons.1 ht with rfl | ht
    · exact absurd hLess (h.windows.expiresAt_eq hLatest.mem hc' hOpen hOpen'').not_lt
    · exact h.openApart c' hc' hOpen'' t ht hLess

/-- A challenge is consumed because its code was not delivered, and hands its attempts back. -/
theorem Guarded.fail {F : EmailLoginChallenge → EmailLoginChallenge}
    (h : Guarded lifetime now rows log) (hF : EmailLoginChallenge.Rewrites F)
    (hConsumed : ∀ d, (F d).consumedAt = none ↔ d.consumedAt = none ∧ d.id ≠ c.id)
    (hGrown : ∀ d, d.attemptCount ≤ (F d).attemptCount) (hc : rows c)
    (hIds : ∀ d, rows d → d.id = c.id → d = c)
    (hRows : ∀ d', rows' d' ↔ ∃ d, rows d ∧ F d = d')
    (hHanded : ∀ d, rows d → IsLatest rows' (F d) → c.attemptCount ≤ (F d).attemptCount)
    (hFallback : c.IsOpen now → ∃ d, rows d ∧ d.id ≠ c.id ∧ d.IsOpen now) :
    Guarded lifetime now rows' log := by
  refine h.rewrite hF hRows (fun d hd hLatest hLive => ?_) fun d hd hOpen _ => ?_
  · obtain ⟨hUnconsumed, hOther⟩ := (hConsumed d).1 hLatest.unconsumed
    have hRest : ∀ x, rows x → x.consumedAt = none → x.id ≠ c.id → x.createdAt ≤ d.createdAt := by
      intro x hx hNone hId
      have hLater := hLatest.latest (F x) ((hRows _).2 ⟨x, hx, rfl⟩) ((hConsumed x).2 ⟨hNone, hId⟩)
      rwa [(hF x).1, (hF d).1] at hLater
    by_cases hWasLatest : c.consumedAt = none ∧ d.createdAt < c.createdAt
    · -- The consumed challenge was the latest, and its count has been handed back.
      obtain ⟨hNone, hLater⟩ := hWasLatest
      have hLatest' : IsLatest rows c := ⟨hc, hNone, fun x hx hx' => by
        by_cases hId : x.id = c.id
        · rw [hIds x hx hId]
        · exact (hRest x hx hx' hId).trans hLater.le⟩
      have hLive' : jsDate now < c.expiresAt :=
        lt_of_lt_of_le hLive (h.windows.ordered d c hd hc hLater.le)
      rw [h.windows.expiresAt_eq hd hc ⟨hUnconsumed, hLive⟩ ⟨hNone, hLive'⟩]
      exact (h.attempts c hLatest' hLive').trans (hHanded d hd hLatest)
    · refine (h.attempts d ⟨hd, hUnconsumed, fun x hx hx' => ?_⟩ hLive).trans (hGrown d)
      by_cases hId : x.id = c.id
      · rw [hIds x hx hId] at hx' ⊢
        exact le_of_not_gt fun hLess => hWasLatest ⟨hx', hLess⟩
      · exact hRest x hx hx' hId
  · by_cases hId : d.id = c.id
    · have hMine : d = c := hIds d hd hId
      subst hMine
      obtain ⟨d', hd', hOther, hOpen'⟩ := hFallback hOpen
      exact ⟨d', hd', (hConsumed d').2 ⟨hOpen'.1, hOther⟩,
        h.windows.expiresAt_eq hd' hd hOpen' hOpen⟩
    · exact ⟨d, hd, (hConsumed d).2 ⟨hOpen.1, hId⟩, rfl⟩

end Hyperspace.Auth
