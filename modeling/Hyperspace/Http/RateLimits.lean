import Hyperspace.Http.WindowLimiter
import Mathlib.Data.List.Induction
import Mathlib.Data.List.Pairwise

/-!
# What the request limits promise

The requests of a key are allowed up to the limit of each of its windows, and refused within the
window only once the limit is reached. The keys do not disturb each other, except that a full table
of live buckets takes no new key in.
-/

namespace Hyperspace.Http

open WindowLimiter

variable {κ : Type*} [DecidableEq κ]

/-- The limit of a key. -/
structure Rule where
  max : ℕ
  windowMs : ℤ
  max_pos : 1 ≤ max
  windowMs_pos : 0 < windowMs

/-- A request for one key. -/
structure Call (κ : Type*) where
  key : κ
  now : ℤ

section Runs

variable (rules : κ → Rule)

def serve (limiter : WindowLimiter κ) (call : Call κ) : Outcome × WindowLimiter κ :=
  limiter.consume call.key (rules call.key).max (rules call.key).windowMs call.now

/-- The table after the calls. -/
def after (limiter : WindowLimiter κ) (calls : List (Call κ)) : WindowLimiter κ :=
  calls.foldl (fun limiter call => (serve rules limiter call).2) limiter

/-- How many of the calls are calls of the key that are allowed. -/
def allowedCalls (key : κ) : WindowLimiter κ → List (Call κ) → ℕ
  | _, [] => 0
  | limiter, call :: calls =>
    (if call.key = key ∧ (serve rules limiter call).1.allowed = true then 1 else 0)
      + allowedCalls key (serve rules limiter call).2 calls

/-- The call is the first one of a window of its key. -/
def OpensWindow (limiter : WindowLimiter κ) (first : Call κ) : Prop :=
  Opens limiter first.key (rules first.key).max (rules first.key).windowMs first.now

/-- The end of the window that starts with the call. -/
def Call.windowEnd (first : Call κ) : ℤ := first.now + (rules first.key).windowMs

/-- What is known of a call that comes after the others. -/
structure Served (capacity : ℕ) (past : List (Call κ)) (call : Call κ) : Prop where
  bounded : (after rules (.new κ capacity) past).size ≤ capacity ∧
    (after rules (.new κ capacity) (past ++ [call])).size ≤ capacity
  kept : ∀ key, ∀ bucket ∈ (after rules (.new κ capacity) past).buckets.lookup key,
    bucket.Live call.now →
    ∃ later ∈ (after rules (.new κ capacity) (past ++ [call])).buckets.lookup key,
      later.resetAt = bucket.resetAt
  atMost : ∀ before first between, past = before ++ first :: between →
    OpensWindow rules (after rules (.new κ capacity) before) first →
    call.now < first.windowEnd rules →
    allowedCalls rules first.key (after rules (.new κ capacity) before)
      (first :: between ++ [call]) ≤ (rules first.key).max
  refusedLive : ∀ bucket ∈ (after rules (.new κ capacity) past).buckets.lookup call.key,
    bucket.Live call.now →
    (serve rules (after rules (.new κ capacity) past) call).1.allowed = false →
    ∃ before first between, past = before ++ first :: between ∧ first.key = call.key ∧
      OpensWindow rules (after rules (.new κ capacity) before) first ∧
      first.windowEnd rules = bucket.resetAt ∧
      allowedCalls rules call.key (after rules (.new κ capacity) before) (first :: between)
        = (rules call.key).max
  refusedDead : (∀ bucket ∈ (after rules (.new κ capacity) past).buckets.lookup call.key,
      ¬ bucket.Live call.now) →
    (serve rules (after rules (.new κ capacity) past) call).1.allowed = false →
    let full := after rules (.new κ capacity) (past ++ [call])
    full.size = capacity ∧ ∀ key, ∀ bucket ∈ full.buckets.lookup key,
      bucket.Live call.now ∨
        (full.lastSweep = 0 ∨ full.lastSweep < bucket.resetAt) ∧
          bucket.resetAt < full.lastSweep + 1000

end Runs

variable {rules : κ → Rule} {limiter : WindowLimiter κ} {calls past between : List (Call κ)}
  {call first : Call κ} {key : κ} {bucket : Bucket} {capacity : ℕ} {now : ℤ}

theorem after_append {more : List (Call κ)} :
    after rules limiter (calls ++ more) = after rules (after rules limiter calls) more :=
  List.foldl_append

theorem after_concat :
    after rules limiter (calls ++ [call]) = (serve rules (after rules limiter calls) call).2 := by
  rw [after_append]
  rfl

/-! ## The count of a window -/

theorem allowed_serve_of_live (hBucket : bucket ∈ limiter.buckets.lookup call.key)
    (hLive : bucket.Live call.now) :
    (serve rules limiter call).1.allowed = true ↔ bucket.count < (rules call.key).max := by
  unfold serve
  rw [consume_of_live hBucket hLive]
  exact allowed_hit

/-- As long as its window is not over, the bucket of a key has counted the allowed calls. -/
theorem count_after (hBucket : bucket ∈ limiter.buckets.lookup key)
    (hLive : ∀ call ∈ calls, bucket.Live call.now) :
    ∃ later ∈ (after rules limiter calls).buckets.lookup key, later.resetAt = bucket.resetAt ∧
      min (rules key).max later.count
        = min (rules key).max bucket.count + allowedCalls rules key limiter calls := by
  induction calls generalizing limiter bucket with
  | nil => exact ⟨bucket, hBucket, rfl, rfl⟩
  | cons call calls ih =>
      have hNow : bucket.Live call.now := hLive call List.mem_cons_self
      by_cases hKey : call.key = key
      · subst hKey
        have hNext : { bucket with count := min ((rules call.key).max + 1) (bucket.count + 1) }
            ∈ (serve rules limiter call).2.buckets.lookup call.key := by
          unfold serve
          rw [consume_of_live hBucket hNow]
          exact lookup_hit_self
        have hRest : ∀ other ∈ calls, Bucket.Live
            { bucket with count := min ((rules call.key).max + 1) (bucket.count + 1) } other.now :=
          fun other hMem => hLive other (List.mem_cons_of_mem _ hMem)
        obtain ⟨later, hMem, hReset, hCount⟩ := ih hNext hRest
        refine ⟨later, hMem, hReset, ?_⟩
        rw [hCount, allowedCalls]
        simp only [true_and, allowed_serve_of_live hBucket hNow]
        split
        all_goals omega
      · have hNext : bucket ∈ (serve rules limiter call).2.buckets.lookup key :=
          lookup_consume_other (Ne.symm hKey) hBucket hNow
        obtain ⟨later, hMem, hReset, hCount⟩ :=
          ih hNext fun other hMem => hLive other (List.mem_cons_of_mem _ hMem)
        refine ⟨later, hMem, hReset, ?_⟩
        rw [hCount, allowedCalls, if_neg (fun h => hKey h.1), Nat.zero_add]

theorem count_window (hOpens : OpensWindow rules limiter first)
    (hTimes : ∀ call ∈ between, call.now < first.windowEnd rules) :
    ∃ later ∈ (after rules limiter (first :: between)).buckets.lookup first.key,
      later.resetAt = first.windowEnd rules ∧
      allowedCalls rules first.key limiter (first :: between)
        = min (rules first.key).max later.count := by
  have hBucket := lookup_of_opens hOpens
  obtain ⟨later, hMem, hReset, hCount⟩ :=
    @count_after κ _ rules _ between _ _ hBucket hTimes
  refine ⟨later, hMem, hReset, ?_⟩
  have hAllowed : (serve rules limiter first).1.allowed = true := hOpens.2
  have hMax := (rules first.key).max_pos
  rw [hCount, allowedCalls, if_pos ⟨rfl, hAllowed⟩, min_eq_right hMax]
  rfl

theorem exists_opens (h : bucket ∈ (after rules (.new κ capacity) past).buckets.lookup key) :
    ∃ before first between, past = before ++ first :: between ∧ first.key = key ∧
      OpensWindow rules (after rules (.new κ capacity) before) first ∧
      first.windowEnd rules = bucket.resetAt := by
  induction past using List.reverseRecOn generalizing bucket with
  | nil =>
      have hEmpty : (∅ : Buckets κ).lookup key = some bucket := h
      rw [AList.lookup_empty] at hEmpty
      cases hEmpty
  | append_singleton past call ih =>
      rw [after_concat] at h
      rcases origin_of_lookup_consume (rules call.key).max_pos h with
        ⟨old, hOld, hReset⟩ | ⟨rfl, hOpens, hReset⟩
      · obtain ⟨before, first, between, rfl, hKey, hOpens, hEnd⟩ := ih hOld
        refine ⟨before, first, between ++ [call], ?_, hKey, hOpens, hEnd.trans hReset⟩
        simp
      · exact ⟨past, call, [], rfl, rfl, hOpens, hReset.symm⟩

/-! ## The table -/

/-- What holds of the table at a time not before the last call. -/
structure Sound (limiter : WindowLimiter κ) (now : ℤ) : Prop where
  bounded : limiter.size ≤ limiter.capacity
  swept : limiter.lastSweep = 0 ∨ limiter.lastSweep ≤ now
  fresh : ∀ key, ∀ bucket ∈ limiter.buckets.lookup key,
    limiter.lastSweep = 0 ∨ limiter.lastSweep < bucket.resetAt

theorem sound_new (capacity : ℕ) (now : ℤ) : Sound (.new κ capacity) now where
  bounded := Nat.zero_le _
  swept := .inl rfl
  fresh _ _ _ := .inl rfl

theorem Sound.later {later : ℤ} (h : Sound limiter now) (hLater : now ≤ later) :
    Sound limiter later where
  bounded := h.bounded
  swept := by
    rcases h.swept with hNever | hNow
    · exact .inl hNever
    · exact .inr (Int.le_trans hNow hLater)
  fresh := h.fresh

theorem Sound.trimmed {trimmed : WindowLimiter κ} (h : Sound limiter now)
    (hTrimmed : Trimmed limiter trimmed now) : Sound trimmed now where
  bounded := by
    rw [hTrimmed.capacity]
    exact le_trans hTrimmed.size_le h.bounded
  swept := by
    rcases hTrimmed.swept with hSame | ⟨hNow, -⟩
    · rw [hSame]
      exact h.swept
    · exact .inr (Int.le_of_eq hNow)
  fresh key bucket hMem := by
    rcases hTrimmed.swept with hSame | ⟨hNow, hLive⟩
    · rw [hSame]
      exact h.fresh key bucket (hTrimmed.of_lookup key bucket hMem)
    · rw [hNow]
      exact .inr (hLive key bucket hMem)

theorem Sound.hit {max : ℕ} (h : Sound limiter now)
    (hBounded : (limiter.hit key max bucket).2.size ≤ limiter.capacity)
    (hFresh : limiter.lastSweep = 0 ∨ limiter.lastSweep < bucket.resetAt) :
    Sound (limiter.hit key max bucket).2 now where
  bounded := hBounded
  swept := h.swept
  fresh other found hMem := by
    by_cases hKey : other = key
    · subst hKey
      rw [lookup_hit_self] at hMem
      cases hMem
      exact hFresh
    · rw [lookup_hit_other hKey] at hMem
      exact h.fresh other found hMem

theorem Sound.serve (h : Sound limiter call.now) :
    Sound (serve rules limiter call).2 call.now := by
  have hSize : (Http.serve rules limiter call).2.size ≤ limiter.capacity :=
    size_consume_le h.bounded
  unfold Http.serve at hSize ⊢
  have hStep := consumed limiter call.key (rules call.key).max (rules call.key).windowMs call.now
  generalize limiter.consume call.key (rules call.key).max (rules call.key).windowMs call.now
    = result at hStep hSize
  cases hStep with
  | counted mem => exact h.hit hSize (h.fresh call.key _ mem)
  | refused _ trimmed => exact h.trimmed trimmed
  | opened _ trimmed =>
      have hRoom := h.trimmed trimmed
      have hWindow := (rules call.key).windowMs_pos
      apply hRoom.hit
      · rw [trimmed.capacity]
        exact hSize
      · have := hRoom.swept
        simp only
        omega

theorem sound_after (hTimes : past.Pairwise (·.now ≤ ·.now))
    (hNow : ∀ call ∈ past, call.now ≤ now) :
    Sound (after rules (.new κ capacity) past) now := by
  induction past using List.reverseRecOn generalizing now with
  | nil => exact sound_new capacity now
  | append_singleton past call ih =>
      obtain ⟨hPast, -, hLast⟩ := List.pairwise_append.1 hTimes
      rw [after_concat]
      apply Sound.later _ (hNow call (by simp))
      apply Sound.serve
      exact ih hPast fun earlier hMem => hLast earlier hMem call List.mem_cons_self

theorem capacity_after : (after rules limiter calls).capacity = limiter.capacity := by
  induction calls generalizing limiter with
  | nil => rfl
  | cons call calls ih =>
      have hStep : (serve rules limiter call).2.capacity = limiter.capacity := capacity_consume
      exact ih.trans hStep

/-- A key without a live bucket is refused only by a full table, and not for longer than a second
after buckets have expired. -/
theorem full_of_refused
    (hDead : ∀ bucket ∈ limiter.buckets.lookup call.key, ¬ bucket.Live call.now)
    (hRefused : (serve rules limiter call).1.allowed = false) :
    limiter.capacity ≤ (serve rules limiter call).2.size ∧
      ∀ key, ∀ bucket ∈ (serve rules limiter call).2.buckets.lookup key, bucket.Live call.now ∨
        bucket.resetAt < (serve rules limiter call).2.lastSweep + 1000 := by
  unfold serve at hRefused ⊢
  have hStep := consumed limiter call.key (rules call.key).max (rules call.key).windowMs call.now
  generalize limiter.consume call.key (rules call.key).max (rules call.key).windowMs call.now
    = result at hStep hRefused
  cases hStep with
  | counted mem live => exact absurd live (hDead _ mem)
  | refused _ trimmed made full =>
      have hExpired := (trimmed_expire limiter call.key call.now).capacity
      have hMade := trimmed_makeRoom (limiter.expire call.key call.now) call.now
      rw [← made] at hMade
      constructor
      · rw [← trimmed.capacity]
        exact full
      · intro key bucket hMem
        rw [made] at hMem ⊢
        apply live_or_recent_of_full _ hMem
        rw [← hMade.capacity]
        exact le_trans full hMade.size_le
  | opened =>
      have hNot := Bool.eq_false_iff.1 hRefused
      exact absurd (allowed_hit.2 (rules call.key).max_pos) hNot

/-! ## The limits -/

/-- Every call of every run is answered by the limits. -/
theorem calls_served (rules : κ → Rule) (capacity : ℕ) {past : List (Call κ)} {call : Call κ}
    (hTimes : (past ++ [call]).Pairwise (·.now ≤ ·.now)) : Served rules capacity past call := by
  obtain ⟨hPast, -, hLast⟩ := List.pairwise_append.1 hTimes
  have hNow : ∀ earlier ∈ past, earlier.now ≤ call.now :=
    fun earlier hMem => hLast earlier hMem call List.mem_cons_self
  have hSound : Sound (after rules (.new κ capacity) past) call.now := sound_after hPast hNow
  have hNext : Sound (after rules (.new κ capacity) (past ++ [call])) call.now := by
    rw [after_concat]
    exact hSound.serve
  -- the calls of a window that is not over are all before its end
  have hWindow : ∀ {before first between}, past = before ++ first :: between →
      call.now < first.windowEnd rules →
      ∀ other ∈ between ++ [call], other.now < first.windowEnd rules := by
    rintro before first between rfl hEnd other hMem
    rcases List.mem_append.1 hMem with hMem | hMem
    · have := hNow other (by simp [hMem])
      omega
    · rwa [List.mem_singleton.1 hMem]
  constructor
  · have hBefore := hSound.bounded
    have hAfter := hNext.bounded
    rw [capacity_after] at hBefore hAfter
    exact ⟨hBefore, hAfter⟩
  · intro key bucket hMem hLive
    have hCalls : ∀ other ∈ [call], bucket.Live other.now := by simpa using hLive
    obtain ⟨later, hLater, hReset, -⟩ := @count_after κ _ rules _ [call] key _ hMem hCalls
    rw [← after_append] at hLater
    exact ⟨later, hLater, hReset⟩
  · intro before first between hSplit hOpens hEnd
    obtain ⟨later, -, -, hCount⟩ := count_window hOpens (hWindow hSplit hEnd)
    rw [List.cons_append, hCount]
    exact min_le_left _ _
  · intro bucket hMem hLive hRefused
    obtain ⟨before, first, between, hSplit, hKey, hOpens, hEnd⟩ := exists_opens hMem
    refine ⟨before, first, between, hSplit, hKey, hOpens, hEnd, ?_⟩
    have hTimely : call.now < first.windowEnd rules := by
      rw [hEnd]
      exact hLive
    obtain ⟨later, hLater, -, hCount⟩ := count_window hOpens fun other hOther =>
      hWindow hSplit hTimely other (List.mem_append_left _ hOther)
    rw [← after_append, ← hSplit, hKey, Option.mem_def.1 hMem] at hLater
    cases hLater
    rw [← hKey, hCount, hKey]
    have hFull : ¬ bucket.count < (rules call.key).max := by
      rw [← allowed_serve_of_live hMem hLive, hRefused]
      simp
    omega
  · intro hDead hRefused
    obtain ⟨hFull, hBuckets⟩ := full_of_refused hDead hRefused
    rw [← after_concat] at hFull hBuckets
    rw [capacity_after] at hFull
    have hBounded := hNext.bounded
    rw [capacity_after] at hBounded
    refine ⟨le_antisymm hBounded hFull, ?_⟩
    intro key bucket hMem
    rcases hBuckets key bucket hMem with hLive | hRecent
    · exact .inl hLive
    · exact .inr ⟨hNext.fresh key bucket hMem, hRecent⟩

def sampleRule : Rule := ⟨2, 60000, by decide, by decide⟩

theorem calls_served_sample :
    Served (fun _ : String => sampleRule) 2
      [⟨"read:192.0.2.1", 1000⟩, ⟨"auth:192.0.2.1", 1000⟩, ⟨"read:192.0.2.1", 1500⟩]
      ⟨"read:198.51.100.7", 60999⟩ :=
  calls_served _ 2 (by simp)

end Hyperspace.Http
