import Mathlib.Data.List.Sort
import Mathlib.Data.Set.Function

/-!
# Keeping the greatest

A stored value that gives way to what ranks as high, and a stored list of the `n` values that rank
highest. Both depend only on which values have been seen: not on their order, and not on how often
each of them came.
-/

namespace Hyperspace.Foundations

variable {α κ : Type*} [LinearOrder κ] {rank : α → κ} {l l' : List α} {a : α} {n : Nat}

/-! ### One value -/

/-- The value takes the place of a stored one that does not rank higher. -/
def replaceIfNewer (rank : α → κ) (a : α) : Option α → Option α
  | none => some a
  | some b => if rank b ≤ rank a then some a else some b

/-- The stored value is one of those that rank highest, and none where none was seen. -/
def Newest (rank : α → κ) (seen : α → Prop) : Option α → Prop
  | none => ∀ a, ¬ seen a
  | some a => seen a ∧ ∀ b, seen b → rank b ≤ rank a

theorem Newest.insert {seen : α → Prop} {stored : Option α} (h : Newest rank seen stored) :
    Newest rank (fun b => b = a ∨ seen b) (replaceIfNewer rank a stored) := by
  cases stored with
  | none =>
      refine ⟨.inl rfl, ?_⟩
      rintro b (rfl | hSeen)
      · exact le_rfl
      · exact absurd hSeen (h b)
  | some c =>
      obtain ⟨hSeen, hMost⟩ := h
      rw [replaceIfNewer]
      split
      · rename_i hLe
        refine ⟨.inl rfl, ?_⟩
        rintro b (rfl | hb)
        · exact le_rfl
        · exact (hMost b hb).trans hLe
      · rename_i hLt
        refine ⟨.inr hSeen, ?_⟩
        rintro b (rfl | hb)
        · exact le_of_not_ge hLt
        · exact hMost b hb

/-- The value takes the place of a stored one that ranks lower. -/
def replaceIfGreater (rank : α → κ) (a : α) : Option α → Option α
  | none => some a
  | some b => if rank b < rank a then some a else some b

theorem Newest.insert_greater {seen : α → Prop} {stored : Option α} (h : Newest rank seen stored) :
    Newest rank (fun b => b = a ∨ seen b) (replaceIfGreater rank a stored) := by
  cases stored with
  | none => exact h.insert
  | some c =>
      obtain ⟨hSeen, hMost⟩ := h
      rw [replaceIfGreater]
      split
      · rename_i hLt
        refine ⟨.inl rfl, ?_⟩
        rintro b (rfl | hb)
        · exact le_rfl
        · exact (hMost b hb).trans hLt.le
      · rename_i hGe
        refine ⟨.inr hSeen, ?_⟩
        rintro b (rfl | hb)
        · exact le_of_not_gt hGe
        · exact hMost b hb

theorem Newest.congr {seen seen' : α → Prop} {stored : Option α}
    (h : Newest rank seen stored) (hSame : ∀ a, seen a ↔ seen' a) : Newest rank seen' stored := by
  cases stored with
  | none => exact fun a hSeen => h a ((hSame a).2 hSeen)
  | some a => exact ⟨(hSame a).1 h.1, fun b hSeen => h.2 b ((hSame b).2 hSeen)⟩

/-- A loop that keeps what ranks highest of what its items give, and skips those that give
nothing. -/
theorem Newest.foldl {β : Type*} {f : β → Option α} {seen : α → Prop} {stored : Option α}
    (items : List β) (h : Newest rank seen stored) :
    Newest rank (fun a => seen a ∨ ∃ item ∈ items, f item = some a)
      (items.foldl (fun best item => (f item).elim best (replaceIfGreater rank · best))
        stored) := by
  induction items generalizing seen stored with
  | nil => simpa using h
  | cons item items ih =>
      rw [List.foldl_cons]
      cases hItem : f item with
      | none =>
          apply (ih h).congr
          intro a
          simp [hItem]
      | some c =>
          apply (ih h.insert_greater).congr
          intro a
          simp only [List.mem_cons, exists_eq_or_imp, hItem, Option.some.injEq]
          constructor
          · rintro ((rfl | hSeen) | hRest)
            · exact .inr (.inl rfl)
            · exact .inl hSeen
            · exact .inr (.inr hRest)
          · rintro (hSeen | rfl | hRest)
            · exact .inl (.inr hSeen)
            · exact .inl (.inl rfl)
            · exact .inr hRest

/-- The value ranks higher than all others. -/
def IsGreatest (rank : α → κ) (seen : α → Prop) (a : α) : Prop :=
  seen a ∧ ∀ b, seen b → b ≠ a → rank b < rank a

theorem Newest.eq_some_iff {seen : α → Prop} {stored : Option α}
    (hInj : Set.InjOn rank {a | seen a}) (h : Newest rank seen stored) :
    stored = some a ↔ IsGreatest rank seen a := by
  constructor
  · rintro rfl
    exact ⟨h.1,
      fun b hb hOther => lt_of_le_of_ne (h.2 b hb) fun hSame => hOther (hInj hb h.1 hSame)⟩
  · rintro ⟨hSeen, hGreatest⟩
    cases stored with
    | none => exact absurd hSeen (h a)
    | some b =>
        by_contra hOther
        have hLt : rank b < rank a := hGreatest b h.1 fun hSame => hOther (congrArg some hSame)
        exact absurd (h.2 a hSeen) (not_le_of_gt hLt)

/-! ### A bounded list -/

/-- The value ranks at least as high. -/
def RanksBefore (rank : α → κ) (a b : α) : Prop := rank b ≤ rank a

instance : DecidableRel (RanksBefore rank) :=
  fun a b => inferInstanceAs (Decidable (rank b ≤ rank a))

instance : Std.Total (RanksBefore rank) := ⟨fun a b => le_total (rank b) (rank a)⟩

instance : IsTrans α (RanksBefore rank) := ⟨fun _ _ _ h h' => le_trans h' h⟩

/-- The `n` values that rank highest, the highest first. -/
def greatest (rank : α → κ) (n : Nat) (l : List α) : List α :=
  (l.insertionSort (RanksBefore rank)).take n

theorem pairwise_greatest : (greatest rank n l).Pairwise (RanksBefore rank) :=
  (List.pairwise_insertionSort _ l).take

theorem length_greatest : (greatest rank n l).length ≤ n := List.length_take_le n _

theorem mem_of_mem_greatest (h : a ∈ greatest rank n l) : a ∈ l :=
  (List.mem_insertionSort _).1 (List.mem_of_mem_take h)

theorem greatest_perm (hInj : Set.InjOn rank {a | a ∈ l}) (h : l.Perm l') :
    greatest rank n l = greatest rank n l' := by
  have hSorted : l.insertionSort (RanksBefore rank) = l'.insertionSort (RanksBefore rank) := by
    refine List.Perm.eq_of_pairwise (fun a b ha hb hab hba => ?_)
      (List.pairwise_insertionSort _ l) (List.pairwise_insertionSort _ l')
      ((List.perm_insertionSort _ l).trans (h.trans (List.perm_insertionSort _ l').symm))
    have ha' : a ∈ l := (List.mem_insertionSort _).1 ha
    have hb' : b ∈ l := h.mem_iff.2 ((List.mem_insertionSort _).1 hb)
    exact hInj ha' hb' (le_antisymm hba hab)
  rw [greatest, greatest, hSorted]

/-- What comes behind the first `n` does not matter to what an insertion leaves there. -/
theorem take_orderedInsert {r : α → α → Prop} [DecidableRel r] :
    (l.orderedInsert r a).take n = ((l.take n).orderedInsert r a).take n := by
  induction l generalizing n with
  | nil => simp
  | cons b l ih =>
      cases n with
      | zero => simp
      | succ n =>
          rw [List.take_succ_cons, List.orderedInsert_cons, List.orderedInsert_cons]
          split
          · cases n <;> simp [List.take_take]
          · rw [List.take_succ_cons, List.take_succ_cons, ih]

theorem greatest_concat (hInj : Set.InjOn rank {b | b = a ∨ b ∈ l})
    (hSorted : l.Pairwise (RanksBefore rank)) :
    greatest rank n (l ++ [a]) = (l.orderedInsert (RanksBefore rank) a).take n := by
  have hInj' : Set.InjOn rank {b | b ∈ l ++ [a]} :=
    hInj.mono fun b hb => (List.mem_append.1 hb).symm.imp_left List.mem_singleton.1
  rw [greatest_perm hInj' List.perm_append_comm, greatest, List.singleton_append,
    List.insertionSort_cons, hSorted.insertionSort_eq]

theorem greatest_greatest_concat (hInj : Set.InjOn rank {b | b = a ∨ b ∈ l}) :
    greatest rank n (greatest rank n l ++ [a]) = greatest rank n (a :: l) := by
  have hInj' : Set.InjOn rank {b | b = a ∨ b ∈ greatest rank n l} :=
    hInj.mono fun b hb => Or.imp_right mem_of_mem_greatest hb
  rw [greatest_concat hInj' pairwise_greatest, greatest, ← take_orderedInsert]
  rfl

theorem greatest_greatest : greatest rank n (greatest rank n l) = greatest rank n l := by
  rw [greatest, pairwise_greatest.insertionSort_eq, List.take_of_length_le length_greatest]

theorem dropped_of_notMem_greatest (hInj : Set.InjOn rank {b | b ∈ l}) (hMem : a ∈ l)
    (hDropped : a ∉ greatest rank n l) :
    (greatest rank n l).length = n ∧ ∀ b ∈ greatest rank n l, rank a < rank b := by
  let sorted := l.insertionSort (RanksBefore rank)
  have hSplit : sorted.take n ++ sorted.drop n = sorted := List.take_append_drop n sorted
  have hRest : a ∈ sorted.drop n := by
    have hSorted : a ∈ sorted.take n ++ sorted.drop n := by
      rw [hSplit]
      exact (List.mem_insertionSort _).2 hMem
    exact (List.mem_append.1 hSorted).resolve_left hDropped
  constructor
  · have hLong : n < sorted.length := by
      by_contra hShort
      rw [List.drop_of_length_le (Nat.le_of_not_lt hShort)] at hRest
      cases hRest
    exact List.length_take.trans (Nat.min_eq_left hLong.le)
  · intro b hb
    have hPairwise : (sorted.take n ++ sorted.drop n).Pairwise (RanksBefore rank) := by
      rw [hSplit]
      exact List.pairwise_insertionSort _ l
    have hLe : rank a ≤ rank b := (List.pairwise_append.1 hPairwise).2.2 b hb a hRest
    refine lt_of_le_of_ne hLe fun hSame => hDropped ?_
    rwa [hInj hMem (mem_of_mem_greatest hb) hSame]

theorem orderedInsert_eq_concat {r : α → α → Prop} [DecidableRel r] (h : ∀ b ∈ l, ¬ r a b) :
    l.orderedInsert r a = l ++ [a] := by
  induction l with
  | nil => rfl
  | cons b l ih =>
      rw [List.orderedInsert_of_not_le _ _ (h b List.mem_cons_self),
        ih fun b hb => h b (List.mem_cons_of_mem _ hb), List.cons_append]

/-- A value that comes again leaves the list as it is, also where it was dropped long ago. -/
theorem greatest_greatest_again {p : α → Bool} (hInj : Set.InjOn rank {b | b ∈ l})
    (hNodup : l.Nodup)
    (hMem : a ∈ l) (hOther : ∀ b ∈ l, p b = true ↔ b ≠ a) :
    greatest rank n ((greatest rank n l).filter p ++ [a]) = greatest rank n l := by
  classical
  have hFilter : (greatest rank n l).filter p = (greatest rank n l).filter (· != a) := by
    refine List.filter_congr fun b hb => ?_
    rw [Bool.eq_iff_iff, hOther b (mem_of_mem_greatest hb), bne_iff_ne]
  have hInj' : Set.InjOn rank {b | b = a ∨ b ∈ greatest rank n l} := by
    refine hInj.mono ?_
    rintro b (rfl | hb)
    · exact hMem
    · exact mem_of_mem_greatest hb
  by_cases hKept : a ∈ greatest rank n l
  · have hNodup' : (greatest rank n l).Nodup :=
      ((List.perm_insertionSort _ l).nodup_iff.2 hNodup).sublist (List.take_sublist _ _)
    have hPerm : (greatest rank n l).Perm ((greatest rank n l).filter p ++ [a]) := by
      rw [hFilter, ← hNodup'.erase_eq_filter]
      exact (List.perm_cons_erase hKept).trans (List.perm_append_singleton a _).symm
    rw [← greatest_perm (hInj'.mono fun b hb => .inr hb) hPerm, greatest_greatest]
  · obtain ⟨hFull, hBelow⟩ := dropped_of_notMem_greatest hInj hMem hKept
    have hSame : (greatest rank n l).filter p = greatest rank n l := by
      refine List.filter_eq_self.2 fun b hb => (hOther b (mem_of_mem_greatest hb)).2 ?_
      rintro rfl
      exact hKept hb
    have hLast : ∀ b ∈ greatest rank n l, ¬ RanksBefore rank a b :=
      fun b hb => not_le_of_gt (hBelow b hb)
    rw [hSame, greatest_concat hInj' pairwise_greatest, orderedInsert_eq_concat hLast,
      List.take_left' hFull]

end Hyperspace.Foundations
