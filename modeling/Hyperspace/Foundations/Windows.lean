import Mathlib.Algebra.BigOperators.Group.List.Basic
import Mathlib.Algebra.BigOperators.Ring.Finset
import Mathlib.Algebra.BigOperators.Ring.List
import Mathlib.Algebra.Order.BigOperators.Group.List
import Mathlib.Data.Finset.Card
import Mathlib.Data.Int.ConditionallyCompleteOrder
import Mathlib.Data.Int.Interval
import Mathlib.Tactic.Linarith

/-!
# Half-open windows

A window `[start, finish)` of integers is given by its two ends. A quantity that is spread evenly
over one window is shared out to other windows by their overlap with it; as long as these are
apart, the shares never add up to more than the whole, however each of them is rounded down.
-/

namespace Hyperspace.Foundations

/-- The windows `[a, b)` and `[c, d)` have no point in common, for one ends before the other. -/
def Apart (a b c d : ℤ) : Prop := b ≤ c ∨ d ≤ a

instance (a b c d : ℤ) : Decidable (Apart a b c d) := inferInstanceAs (Decidable (_ ∨ _))

/-- How many points `[a, b)` and `[c, d)` have in common. -/
def overlap (a b c d : ℤ) : ℤ := max 0 (min b d - max a c)

/-- The part of a quantity spread over `[a, b)` that falls into `[c, d)`, rounded down. -/
def share (quantity a b c d : ℤ) : ℤ := quantity * overlap a b c d / (b - a)

section

variable {a b c d q : ℤ}

theorem Apart.symm (h : Apart a b c d) : Apart c d a b := Or.symm h

theorem Apart.not_mem (h : Apart a b c d) {x : ℤ} (hLeft : a ≤ x ∧ x < b) : ¬ (c ≤ x ∧ x < d) := by
  rintro ⟨hc, hd⟩
  rcases h with h | h
  all_goals omega

theorem Apart.map {g : ℤ → ℤ} (hMono : Monotone g) (h : Apart a b c d) :
    Apart (g a) (g b) (g c) (g d) :=
  h.imp (fun h => hMono h) fun h => hMono h

theorem Apart.ne (h : Apart a b c d) (hNonempty : a < b) : ¬ (a = c ∧ b = d) := by
  rintro ⟨rfl, rfl⟩
  rcases h with h | h
  all_goals omega

theorem overlap_nonneg : 0 ≤ overlap a b c d := le_max_left _ _

theorem overlap_eq_card :
    overlap a b c d = ((Finset.Ico a b ∩ Finset.Ico c d).card : ℤ) := by
  rw [Finset.Ico_inter_Ico, Int.card_Ico, Int.ofNat_toNat, max_comm, overlap]

theorem sum_card_le {α : Type*} [DecidableEq α] {parts : List (Finset α)} {whole : Finset α}
    (hDisjoint : parts.Pairwise Disjoint) (hParts : ∀ part ∈ parts, part ⊆ whole) :
    (parts.map Finset.card).sum ≤ whole.card := by
  induction parts generalizing whole with
  | nil => exact Nat.zero_le _
  | cons part parts ih =>
      obtain ⟨hHead, hTail⟩ := List.pairwise_cons.1 hDisjoint
      have hPart : part ⊆ whole := hParts part List.mem_cons_self
      have hRest : ∀ other ∈ parts, other ⊆ whole \ part := by
        intro other hOther
        refine Finset.subset_sdiff.2 ⟨hParts other (List.mem_cons_of_mem _ hOther), ?_⟩
        exact (hHead other hOther).symm
      have hSum := ih hTail hRest
      have hCard := Finset.card_sdiff_add_card_eq_card hPart
      rw [List.map_cons, List.sum_cons]
      omega

section

variable {ι : Type*} {windows : List ι} {start finish : ι → ℤ}

theorem sum_overlap_le (hab : a ≤ b)
    (hApart : windows.Pairwise fun i j => Apart (start i) (finish i) (start j) (finish j)) :
    (windows.map fun i => overlap a b (start i) (finish i)).sum ≤ b - a := by
  let part : ι → Finset ℤ := fun i => Finset.Ico a b ∩ Finset.Ico (start i) (finish i)
  have hDisjoint : (windows.map part).Pairwise Disjoint := by
    refine List.pairwise_map.2 (hApart.imp fun {i j} h => ?_)
    refine Finset.disjoint_left.2 fun x hx hx' => ?_
    have hLeft := Finset.mem_Ico.1 (Finset.mem_inter.1 hx).2
    have hRight := Finset.mem_Ico.1 (Finset.mem_inter.1 hx').2
    exact h.not_mem hLeft hRight
  have hParts : ∀ p ∈ windows.map part, p ⊆ Finset.Ico a b := by
    intro p hp
    obtain ⟨i, _, rfl⟩ := List.mem_map.1 hp
    exact Finset.inter_subset_left
  have hCard := sum_card_le hDisjoint hParts
  have hSum : (windows.map fun i => overlap a b (start i) (finish i)).sum =
      (((windows.map part).map Finset.card).sum : ℕ) := by
    simp only [overlap_eq_card, List.map_map, Nat.cast_list_sum]
    rfl
  rw [hSum]
  have hWhole : ((Finset.Ico a b).card : ℤ) = b - a := by
    rw [Int.card_Ico, Int.toNat_of_nonneg (sub_nonneg.2 hab)]
  rw [← hWhole]
  exact_mod_cast hCard

theorem sum_share_le (hab : a < b) (hq : 0 ≤ q)
    (hApart : windows.Pairwise fun i j => Apart (start i) (finish i) (start j) (finish j)) :
    (windows.map fun i => share q a b (start i) (finish i)).sum ≤ q := by
  have hLength : 0 < b - a := sub_pos.2 hab
  have hShares : (windows.map fun i => share q a b (start i) (finish i)).sum * (b - a) ≤
      (windows.map fun i => q * overlap a b (start i) (finish i)).sum := by
    rw [← List.sum_map_mul_right]
    exact List.sum_le_sum fun i _ => Int.ediv_mul_le _ hLength.ne'
  have hOverlaps :
      (windows.map fun i => q * overlap a b (start i) (finish i)).sum ≤ q * (b - a) := by
    rw [List.sum_map_mul_left]
    exact mul_le_mul_of_nonneg_left (sum_overlap_le hab.le hApart) hq
  exact le_of_mul_le_mul_right (hShares.trans hOverlaps) hLength

theorem sum_gain_le {f : ℤ → ℤ} (hMono : Monotone f) (hab : a ≤ b)
    (hApart : windows.Pairwise fun i j => Apart (start i) (finish i) (start j) (finish j))
    (hInside : ∀ i ∈ windows, start i ≤ finish i ∧ a ≤ f (start i) ∧ f (finish i) ≤ b) :
    (windows.map fun i => f (finish i) - f (start i)).sum ≤ b - a := by
  have hGain : (windows.map fun i => f (finish i) - f (start i)) =
      windows.map fun i => overlap a b (f (start i)) (f (finish i)) := by
    refine List.map_congr_left fun i hi => ?_
    obtain ⟨hOrder, hStart, hFinish⟩ := hInside i hi
    have hGrown : f (start i) ≤ f (finish i) := hMono hOrder
    rw [overlap]
    omega
  rw [hGain]
  exact sum_overlap_le hab (hApart.imp fun h => h.map hMono)

theorem length_le_one_of_common (x : ℤ)
    (hApart : windows.Pairwise fun i j => Apart (start i) (finish i) (start j) (finish j))
    (hCommon : ∀ i ∈ windows, start i ≤ x ∧ x < finish i) : windows.length ≤ 1 := by
  match windows with
  | [] => exact Nat.zero_le _
  | [_] => exact le_rfl
  | i :: j :: _ =>
      have hij := (List.pairwise_cons.1 hApart).1 j List.mem_cons_self
      exact absurd (hCommon j (by simp)) (hij.not_mem (hCommon i (by simp)))

end

theorem ediv_mul_mono (k : ℕ) : Monotone fun t : ℤ => t / k * k := by
  intro s t hst
  rcases Nat.eq_zero_or_pos k with rfl | hk
  · simp
  · have hDiv : s / k ≤ t / k := Int.ediv_le_ediv (Int.natCast_pos.2 hk) hst
    exact mul_le_mul_of_nonneg_right hDiv (Int.natCast_nonneg k)

/-- Points that are `width` apart from each other: so many of them lie in a stretch that is longer
than `span` by less than `width`. -/
theorem card_le_of_spaced {points : Finset ℤ} {width span start : ℤ} (hWidth : 0 < width)
    (hSpan : 0 ≤ span) (hApart : ∀ x ∈ points, ∀ y ∈ points, x < y → x + width ≤ y)
    (hInside : ∀ x ∈ points, start < x ∧ x ≤ start + span + width) :
    (points.card : ℤ) ≤ span / width + 2 := by
  have hSpanDiv : 0 ≤ span / width := Int.ediv_nonneg hSpan hWidth.le
  rcases points.eq_empty_or_nonempty with rfl | hNonempty
  · rw [Finset.card_empty, Nat.cast_zero]
    linarith
  · let first := points.min' hNonempty
    have hFirst : first ∈ points := Finset.min'_mem points hNonempty
    -- Each point is in a cell of its own, counted in widths from the first one.
    have hMaps : Set.MapsTo (fun x => (x - first) / width) points
        (Finset.Ico 0 (span / width + 2) : Finset ℤ) := by
      intro x hx
      have hLeast : first ≤ x := Finset.min'_le points x hx
      have hLow : 0 ≤ (x - first) / width := Int.ediv_nonneg (sub_nonneg.2 hLeast) hWidth.le
      have hHigh : (x - first) / width ≤ (span + 1 * width) / width := by
        refine Int.ediv_le_ediv hWidth ?_
        linarith [(hInside x hx).2, (hInside first hFirst).1]
      rw [Int.add_mul_ediv_right _ _ hWidth.ne'] at hHigh
      rw [Finset.coe_Ico, Set.mem_Ico]
      exact ⟨hLow, by linarith⟩
    have hStep : ∀ x ∈ points, ∀ y ∈ points, x < y → (x - first) / width < (y - first) / width := by
      intro x hx y hy hLess
      have hNext : (x - first + 1 * width) / width ≤ (y - first) / width :=
        Int.ediv_le_ediv hWidth (by linarith [hApart x hx y hy hLess])
      rw [Int.add_mul_ediv_right _ _ hWidth.ne'] at hNext
      linarith
    have hInj : Set.InjOn (fun x => (x - first) / width) points := by
      intro x hx y hy hSame
      rcases lt_trichotomy x y with hLess | hEq | hLess
      · exact absurd hSame (hStep x hx y hy hLess).ne
      · exact hEq
      · exact absurd hSame (hStep y hy x hx hLess).ne'
    have hCard := Finset.card_le_card_of_injOn _ hMaps hInj
    rw [Int.card_Ico] at hCard
    have hCast : (points.card : ℤ) ≤ ((span / width + 2 - 0).toNat : ℤ) := Int.ofNat_le.2 hCard
    rwa [Int.toNat_of_nonneg (by linarith), sub_zero] at hCast

end

end Hyperspace.Foundations
