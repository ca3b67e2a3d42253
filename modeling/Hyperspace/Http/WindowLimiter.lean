import Mathlib.Data.List.AList

/-!
# Counting requests by windows

The limiter of the HTTP server has a bucket for each identity it has seen lately. A bucket counts
the requests of its window and is live until the window ends. The table is bounded: it never drops
a live bucket to take in a new identity, and refuses the identity instead.

Times are in milliseconds.
-/

namespace Hyperspace.Http

/-- The requests of a key in its window. -/
structure Bucket where
  count : ℕ
  resetAt : ℤ
  deriving DecidableEq, Repr

abbrev Buckets (κ : Type*) := AList fun _ : κ => Bucket

/-- The buckets of a limiter; a full table is swept. -/
structure WindowLimiter (κ : Type*) where
  buckets : Buckets κ
  lastSweep : ℤ
  capacity : ℕ

/-- What the limiter tells the caller. -/
structure Outcome where
  allowed : Bool
  remaining : ℕ
  resetAt : ℤ
  deriving DecidableEq, Repr

variable {κ : Type*}

/-- A window is over from its end on. -/
def Bucket.Live (bucket : Bucket) (now : ℤ) : Prop := now < bucket.resetAt

instance (bucket : Bucket) (now : ℤ) : Decidable (bucket.Live now) :=
  inferInstanceAs (Decidable (_ < _))

namespace WindowLimiter

def new (κ : Type*) (capacity : ℕ) : WindowLimiter κ := ⟨∅, 0, capacity⟩

def size (limiter : WindowLimiter κ) : ℕ := limiter.buckets.entries.length

theorem size_eq (limiter : WindowLimiter κ) : limiter.size = limiter.buckets.keys.length := by
  unfold size AList.keys List.keys
  rw [List.length_map]

/-- The bucket of the key is deleted when it has expired. -/
def expire [DecidableEq κ] (limiter : WindowLimiter κ) (key : κ) (now : ℤ) : WindowLimiter κ :=
  match limiter.buckets.lookup key with
  | some bucket =>
    if bucket.resetAt ≤ now then { limiter with buckets := limiter.buckets.erase key } else limiter
  | none => limiter

/-- The buckets that have not expired. -/
def sweep (buckets : Buckets κ) (now : ℤ) : Buckets κ :=
  ⟨buckets.entries.filter fun entry => ¬ entry.2.resetAt ≤ now,
    buckets.nodupKeys.sublist List.filter_sublist⟩

/-- A full table is swept, at most once in a second. -/
def makeRoom (limiter : WindowLimiter κ) (now : ℤ) : WindowLimiter κ :=
  if limiter.capacity ≤ limiter.size ∧ 1000 ≤ now - limiter.lastSweep then
    { limiter with lastSweep := now, buckets := sweep limiter.buckets now }
  else limiter

/-- The count stops at one more than is allowed. -/
def hit [DecidableEq κ] (limiter : WindowLimiter κ) (key : κ) (max : ℕ) (bucket : Bucket) :
    Outcome × WindowLimiter κ :=
  let count := min (max + 1) (bucket.count + 1)
  (⟨decide (count ≤ max), max - count, bucket.resetAt⟩,
    { limiter with buckets := limiter.buckets.insert key { bucket with count := count } })

def consume [DecidableEq κ] (limiter : WindowLimiter κ) (key : κ) (max : ℕ) (windowMs now : ℤ) :
    Outcome × WindowLimiter κ :=
  let limiter := limiter.expire key now
  match limiter.buckets.lookup key with
  | some bucket => limiter.hit key max bucket
  | none =>
    let limiter := limiter.makeRoom now
    if limiter.capacity ≤ limiter.size then (⟨false, 0, now + 1000⟩, limiter)
    else limiter.hit key max ⟨0, now + windowMs⟩

/-! ## What is dropped -/

/-- The table is what is left of the other one, where nothing live at the time is missing. -/
structure Trimmed (limiter trimmed : WindowLimiter κ) (now : ℤ) [DecidableEq κ] : Prop where
  capacity : trimmed.capacity = limiter.capacity
  size_le : trimmed.size ≤ limiter.size
  of_lookup : ∀ key, ∀ bucket ∈ trimmed.buckets.lookup key, bucket ∈ limiter.buckets.lookup key
  live : ∀ key, ∀ bucket ∈ limiter.buckets.lookup key, bucket.Live now →
    bucket ∈ trimmed.buckets.lookup key
  swept : trimmed.lastSweep = limiter.lastSweep ∨
    trimmed.lastSweep = now ∧ ∀ key, ∀ bucket ∈ trimmed.buckets.lookup key, bucket.Live now

variable [DecidableEq κ] {limiter trimmed rest : WindowLimiter κ} {key other : κ} {max : ℕ}
  {windowMs now : ℤ} {bucket : Bucket}

theorem Trimmed.refl (limiter : WindowLimiter κ) (now : ℤ) : Trimmed limiter limiter now :=
  ⟨rfl, le_rfl, fun _ _ h => h, fun _ _ h _ => h, .inl rfl⟩

theorem Trimmed.trans (h : Trimmed limiter trimmed now) (h' : Trimmed trimmed rest now) :
    Trimmed limiter rest now where
  capacity := h'.capacity.trans h.capacity
  size_le := le_trans h'.size_le h.size_le
  of_lookup key bucket hMem := h.of_lookup key bucket (h'.of_lookup key bucket hMem)
  live key bucket hMem hLive := h'.live key bucket (h.live key bucket hMem hLive) hLive
  swept := by
    rcases h'.swept with hSame | hSwept
    · rcases h.swept with hFirst | ⟨hNow, hLive⟩
      · exact .inl (hSame.trans hFirst)
      · refine .inr ⟨hSame.trans hNow, ?_⟩
        intro key bucket hMem
        exact hLive key bucket (h'.of_lookup key bucket hMem)
    · exact .inr hSwept

theorem trimmed_erase (hExpired : ∀ bucket ∈ limiter.buckets.lookup key, ¬ bucket.Live now) :
    Trimmed limiter { limiter with buckets := limiter.buckets.erase key } now where
  capacity := rfl
  size_le := by
    unfold size
    exact (List.kerase_sublist key limiter.buckets.entries).length_le
  of_lookup other bucket hMem := by
    by_cases hKey : other = key
    · subst hKey
      rw [AList.lookup_erase] at hMem
      cases hMem
    · rwa [AList.lookup_erase_ne hKey] at hMem
  live other bucket hMem hLive := by
    by_cases hKey : other = key
    · subst hKey
      exact absurd hLive (hExpired bucket hMem)
    · rwa [AList.lookup_erase_ne hKey]
  swept := .inl rfl

theorem mem_lookup_sweep {buckets : Buckets κ} :
    bucket ∈ (sweep buckets now).lookup key ↔ bucket ∈ buckets.lookup key ∧ bucket.Live now := by
  rw [AList.mem_lookup_iff, AList.mem_lookup_iff]
  simp [sweep, Bucket.Live]

theorem trimmed_expire (limiter : WindowLimiter κ) (key : κ) (now : ℤ) :
    Trimmed limiter (limiter.expire key now) now := by
  unfold expire
  split
  · rename_i bucket hBucket
    split
    · rename_i hExpired
      apply trimmed_erase
      intro other hMem
      cases hBucket.symm.trans hMem
      exact Int.not_lt.2 hExpired
    · exact .refl limiter now
  · exact .refl limiter now

theorem trimmed_makeRoom (limiter : WindowLimiter κ) (now : ℤ) :
    Trimmed limiter (limiter.makeRoom now) now := by
  unfold makeRoom
  split
  · refine ⟨rfl, List.length_filter_le _ _, ?_, ?_, .inr ⟨rfl, ?_⟩⟩
    · intro key bucket hMem
      exact (mem_lookup_sweep.1 hMem).1
    · intro key bucket hMem hLive
      exact mem_lookup_sweep.2 ⟨hMem, hLive⟩
    · intro key bucket hMem
      exact (mem_lookup_sweep.1 hMem).2
  · exact .refl limiter now

/-- What a full table has left after it has made room: it has just been swept, or less than a second
ago. -/
theorem live_or_recent_of_full (hFull : limiter.capacity ≤ limiter.size)
    (hBucket : bucket ∈ (limiter.makeRoom now).buckets.lookup key) :
    bucket.Live now ∨ bucket.resetAt < (limiter.makeRoom now).lastSweep + 1000 := by
  unfold makeRoom at hBucket ⊢
  split at hBucket
  · exact .inl (mem_lookup_sweep.1 hBucket).2
  · rename_i hSwept
    rw [if_neg hSwept]
    unfold Bucket.Live
    omega

/-! ## One request -/

theorem expire_of_live (hBucket : bucket ∈ limiter.buckets.lookup key) (hLive : bucket.Live now) :
    limiter.expire key now = limiter := by
  unfold expire
  rw [Option.mem_def.1 hBucket]
  exact if_neg (Int.not_le.2 hLive)

theorem lookup_expire_of_dead
    (hDead : ∀ bucket ∈ limiter.buckets.lookup key, ¬ bucket.Live now) :
    (limiter.expire key now).buckets.lookup key = none := by
  unfold expire
  split
  · rename_i bucket hBucket
    rw [if_pos (Int.not_lt.1 (hDead bucket hBucket))]
    exact AList.lookup_erase key limiter.buckets
  · rename_i hNone
    exact hNone

section Hit

theorem lookup_hit_self : (limiter.hit key max bucket).2.buckets.lookup key
    = some { bucket with count := min (max + 1) (bucket.count + 1) } :=
  AList.lookup_insert limiter.buckets

theorem lookup_hit_other (h : other ≠ key) :
    (limiter.hit key max bucket).2.buckets.lookup other = limiter.buckets.lookup other :=
  AList.lookup_insert_ne h

theorem size_hit_of_none (h : limiter.buckets.lookup key = none) :
    (limiter.hit key max bucket).2.size = limiter.size + 1 := by
  unfold hit size
  rw [AList.entries_insert_of_notMem (AList.lookup_eq_none.1 h), List.length_cons]

theorem size_hit_of_some {old : Bucket} (h : old ∈ limiter.buckets.lookup key) :
    (limiter.hit key max bucket).2.size = limiter.size := by
  have hMem : key ∈ limiter.buckets.keys :=
    AList.mem_keys.1 (AList.lookup_isSome.1 (Option.isSome_of_mem h))
  have hPos := List.length_pos_of_mem hMem
  rw [size_eq, size_eq, hit, AList.keys_insert, List.length_cons, List.length_erase_of_mem hMem]
  omega

theorem allowed_hit : (limiter.hit key max bucket).1.allowed = true ↔ bucket.count < max := by
  simp only [hit, decide_eq_true_eq]
  omega

end Hit

/-! ### What it does to the table -/

/-- What a request can come to: its live bucket counts it, or the table, swept when it is full, has
no room for its key, or the key gets a new bucket. -/
inductive Consumed (limiter : WindowLimiter κ) (key : κ) (max : ℕ) (windowMs now : ℤ) :
    Outcome × WindowLimiter κ → Prop
  | counted {bucket : Bucket} (mem : bucket ∈ limiter.buckets.lookup key)
    (live : bucket.Live now) : Consumed limiter key max windowMs now (limiter.hit key max bucket)
  | refused {room : WindowLimiter κ}
      (dead : ∀ bucket ∈ limiter.buckets.lookup key, ¬ bucket.Live now)
    (trimmed : Trimmed limiter room now) (made : room = (limiter.expire key now).makeRoom now)
    (full : room.capacity ≤ room.size) :
    Consumed limiter key max windowMs now (⟨false, 0, now + 1000⟩, room)
  | opened {room : WindowLimiter κ}
      (dead : ∀ bucket ∈ limiter.buckets.lookup key, ¬ bucket.Live now)
    (trimmed : Trimmed limiter room now) (absent : room.buckets.lookup key = none)
    (space : room.size < room.capacity) :
    Consumed limiter key max windowMs now (room.hit key max ⟨0, now + windowMs⟩)

theorem consumed (limiter : WindowLimiter κ) (key : κ) (max : ℕ) (windowMs now : ℤ) :
    Consumed limiter key max windowMs now (limiter.consume key max windowMs now) := by
  by_cases hOwn : ∃ own ∈ limiter.buckets.lookup key, own.Live now
  · obtain ⟨own, hMem, hLive⟩ := hOwn
    have hConsume : limiter.consume key max windowMs now = limiter.hit key max own := by
      unfold consume
      simp only [expire_of_live hMem hLive, Option.mem_def.1 hMem]
    rw [hConsume]
    exact .counted hMem hLive
  · push Not at hOwn
    have hNone := lookup_expire_of_dead hOwn
    have hRoom := trimmed_makeRoom (limiter.expire key now) now
    have hTrimmed := (trimmed_expire limiter key now).trans hRoom
    unfold consume
    simp only [hNone]
    split
    · rename_i hFull
      exact .refused hOwn hTrimmed rfl hFull
    · rename_i hSpace
      refine .opened hOwn hTrimmed ?_ (not_le.1 hSpace)
      apply Option.eq_none_iff_forall_not_mem.2
      intro bucket hMem
      cases hNone.symm.trans (hRoom.of_lookup key bucket hMem)

theorem lookup_consume_other (hKey : other ≠ key) (hBucket : bucket ∈ limiter.buckets.lookup other)
    (hLive : bucket.Live now) :
    bucket ∈ (limiter.consume key max windowMs now).2.buckets.lookup other := by
  have hStep := consumed limiter key max windowMs now
  generalize limiter.consume key max windowMs now = result at hStep
  cases hStep with
  | counted => rwa [lookup_hit_other hKey]
  | refused _ trimmed => exact trimmed.live other bucket hBucket hLive
  | opened _ trimmed =>
      rw [lookup_hit_other hKey]
      exact trimmed.live other bucket hBucket hLive

/-- A live bucket counts the requests of its key, up to one more than is allowed. -/
theorem consume_of_live (hBucket : bucket ∈ limiter.buckets.lookup key) (hLive : bucket.Live now) :
    limiter.consume key max windowMs now = limiter.hit key max bucket := by
  have hStep := consumed limiter key max windowMs now
  generalize limiter.consume key max windowMs now = result at hStep
  cases hStep with
  | counted mem =>
      cases (Option.mem_def.1 mem).symm.trans hBucket
      rfl
  | refused dead => exact absurd hLive (dead bucket hBucket)
  | opened dead => exact absurd hLive (dead bucket hBucket)

/-- A request that finds no live bucket of its key and is taken in. -/
def Opens (limiter : WindowLimiter κ) (key : κ) (max : ℕ) (windowMs now : ℤ) : Prop :=
  (∀ bucket ∈ limiter.buckets.lookup key, ¬ bucket.Live now) ∧
    (limiter.consume key max windowMs now).1.allowed = true

theorem lookup_of_opens (h : Opens limiter key max windowMs now) :
    (limiter.consume key max windowMs now).2.buckets.lookup key = some ⟨1, now + windowMs⟩ := by
  obtain ⟨hDead, hAllowed⟩ := h
  have hStep := consumed limiter key max windowMs now
  generalize limiter.consume key max windowMs now = result at hStep hAllowed
  cases hStep with
  | counted mem live => exact absurd live (hDead _ mem)
  | refused => cases hAllowed
  | opened =>
      rw [lookup_hit_self]
      simp

theorem origin_of_lookup_consume (hMax : 1 ≤ max)
    (h : bucket ∈ (limiter.consume key max windowMs now).2.buckets.lookup other) :
    (∃ old ∈ limiter.buckets.lookup other, old.resetAt = bucket.resetAt) ∨
      other = key ∧ Opens limiter key max windowMs now ∧ bucket.resetAt = now + windowMs := by
  unfold Opens
  have hStep := consumed limiter key max windowMs now
  generalize limiter.consume key max windowMs now = result at hStep h
  cases hStep with
  | counted mem =>
      left
      by_cases hKey : other = key
      · subst hKey
        rw [lookup_hit_self] at h
        cases h
        exact ⟨_, mem, rfl⟩
      · rw [lookup_hit_other hKey] at h
        exact ⟨bucket, h, rfl⟩
  | refused _ trimmed => exact .inl ⟨bucket, trimmed.of_lookup other bucket h, rfl⟩
  | opened dead trimmed =>
      by_cases hKey : other = key
      · subst hKey
        rw [lookup_hit_self] at h
        cases h
        exact .inr ⟨rfl, ⟨dead, allowed_hit.2 hMax⟩, rfl⟩
      · rw [lookup_hit_other hKey] at h
        exact .inl ⟨bucket, trimmed.of_lookup other bucket h, rfl⟩

theorem capacity_consume :
    (limiter.consume key max windowMs now).2.capacity = limiter.capacity := by
  have hStep := consumed limiter key max windowMs now
  generalize limiter.consume key max windowMs now = result at hStep
  cases hStep with
  | counted => rfl
  | refused _ trimmed => exact trimmed.capacity
  | opened _ trimmed => exact trimmed.capacity

theorem size_consume_le (h : limiter.size ≤ limiter.capacity) :
    (limiter.consume key max windowMs now).2.size ≤ limiter.capacity := by
  have hStep := consumed limiter key max windowMs now
  generalize limiter.consume key max windowMs now = result at hStep
  cases hStep with
  | counted mem => rwa [size_hit_of_some mem]
  | refused _ trimmed => exact le_trans trimmed.size_le h
  | opened _ trimmed absent space =>
      rw [size_hit_of_none absent, ← trimmed.capacity]
      exact space

end WindowLimiter

end Hyperspace.Http
