import Mathlib.Data.List.Induction
import Mathlib.Data.List.Nodup
import Mathlib.Data.List.Sort

/-!
# Locking queries

`SELECT … WHERE … ORDER BY … FOR UPDATE SKIP LOCKED LIMIT n` as a function of the rows and of the
keys that other transactions have locked.
-/

namespace Hyperspace.Foundations

variable {ρ κ : Type*}

section

variable [DecidableEq κ] {key : ρ → κ} {wanted : ρ → Prop} [DecidablePred wanted]
  {before : ρ → ρ → Prop} [DecidableRel before] {locked : List κ} {limit : Nat} {rows : List ρ}
  {r : ρ}

/-- The rows the query returns, in its order. -/
def selectForUpdate (key : ρ → κ) (wanted : ρ → Prop) [DecidablePred wanted]
    (before : ρ → ρ → Prop) [DecidableRel before] (limit : Nat) (locked : List κ)
    (rows : List ρ) : List ρ :=
  ((rows.filter fun r => wanted r && key r ∉ locked).insertionSort before).take limit

theorem mem_of_mem_selectForUpdate (h : r ∈ selectForUpdate key wanted before limit locked rows) :
    r ∈ rows := by
  have hSorted := (List.mem_insertionSort _).1 (List.mem_of_mem_take h)
  exact (List.mem_filter.1 hSorted).1

theorem wanted_of_mem_selectForUpdate
    (h : r ∈ selectForUpdate key wanted before limit locked rows) : wanted r := by
  have hSorted := (List.mem_insertionSort _).1 (List.mem_of_mem_take h)
  have hFound := (List.mem_filter.1 hSorted).2
  simp only [Bool.and_eq_true, decide_eq_true_eq] at hFound
  exact hFound.1

theorem nodup_selectForUpdate (h : (rows.map key).Nodup) :
    ((selectForUpdate key wanted before limit locked rows).map key).Nodup := by
  have hFiltered : ((rows.filter fun r => wanted r && key r ∉ locked).map key).Nodup :=
    h.sublist (List.filter_sublist.map key)
  have hSorted := ((List.perm_insertionSort before
    (rows.filter fun r => wanted r && key r ∉ locked)).map key).nodup_iff.2 hFiltered
  exact hSorted.sublist ((List.take_sublist _ _).map key)

/-- A row that matches and is not locked is returned when all that match fit into the limit. -/
theorem mem_selectForUpdate_of_fits (hRow : r ∈ rows) (hWanted : wanted r) (hFree : key r ∉ locked)
    (hFits : (rows.filter fun r => wanted r && key r ∉ locked).length ≤ limit) :
    r ∈ selectForUpdate key wanted before limit locked rows := by
  rw [selectForUpdate, List.take_of_length_le]
  · simp [hRow, hWanted, hFree]
  · rw [List.length_insertionSort]
    exact hFits

/-- Where the query for the first row returns none, each row that matches is locked. -/
theorem locked_of_head?_selectForUpdate_eq_none
    (h : (selectForUpdate key wanted before 1 locked rows).head? = none) (hRow : r ∈ rows)
    (hWanted : wanted r) : key r ∈ locked := by
  by_contra hFree
  have hFound : r ∈ (rows.filter fun r => wanted r && key r ∉ locked).insertionSort before := by
    rw [List.mem_insertionSort, List.mem_filter]
    simp [hRow, hWanted, hFree]
  rw [List.head?_eq_none_iff, selectForUpdate, List.take_eq_nil_iff] at h
  rcases h with hLimit | hNone
  · cases hLimit
  · rw [hNone] at hFound
    cases hFound

end

section

variable {before : ρ → ρ → Prop} [DecidableRel before] {r : ρ} {n : Nat}

/-- A row of a list in strict order is among the first `n` when fewer than `n` come before it. -/
theorem mem_take_of_sorted {l : List ρ} (hSorted : l.Pairwise fun a b => before a b ∧ ¬ before b a)
    (hRefl : ∀ a, before a a) :
    r ∈ l.take n ↔ r ∈ l ∧ (l.filter fun a => before a r && !decide (before r a)).length < n := by
  induction l generalizing n with
  | nil => simp
  | cons a l ih =>
      rw [List.pairwise_cons] at hSorted
      cases n with
      | zero => simp
      | succ n =>
          rw [List.take_succ_cons, List.mem_cons, List.mem_cons, ih hSorted.2]
          constructor
          · rintro (rfl | ⟨hMem, hFew⟩)
            · have hNone : (r :: l).filter (fun a => before a r && !decide (before r a)) = [] := by
                rw [List.filter_eq_nil_iff]
                intro b hb
                rcases List.mem_cons.1 hb with rfl | hb
                · simp [hRefl]
                · simp [(hSorted.1 b hb).1]
              exact ⟨.inl rfl, by rw [hNone]; simp⟩
            · refine ⟨.inr hMem, ?_⟩
              have hFirst := hSorted.1 r hMem
              rw [List.filter_cons_of_pos (by simp [hFirst]), List.length_cons]
              omega
          · rintro ⟨rfl | hMem, hFew⟩
            · exact .inl rfl
            · have hFirst := hSorted.1 r hMem
              rw [List.filter_cons_of_pos (by simp [hFirst]), List.length_cons] at hFew
              exact .inr ⟨hMem, by omega⟩

end

section

variable [DecidableEq κ] {key : ρ → κ} {wanted : ρ → Prop} [DecidablePred wanted]
  {before : ρ → ρ → Prop} [DecidableRel before] [Std.Total before] [IsTrans ρ before]
  {locked : List κ} {limit : Nat} {rows : List ρ} {r : ρ}

theorem before_of_head?_selectForUpdate
    (h : (selectForUpdate key wanted before limit locked rows).head? = some r) {r' : ρ}
    (hRow : r' ∈ rows) (hWanted : wanted r') (hFree : key r' ∉ locked) : before r r' := by
  let found := (rows.filter fun a => wanted a && key a ∉ locked).insertionSort before
  have hMem : r' ∈ found := by
    rw [List.mem_insertionSort, List.mem_filter]
    simp [hRow, hWanted, hFree]
  have hSorted : found.Pairwise before := List.pairwise_insertionSort before _
  obtain ⟨rest, hTake⟩ : ∃ rest, found.take limit = r :: rest := List.head?_eq_some_iff.1 h
  have hSplit : found = r :: (rest ++ found.drop limit) := by
    rw [← List.cons_append, ← hTake, List.take_append_drop]
  rw [hSplit] at hMem hSorted
  rcases List.mem_cons.1 hMem with rfl | hLater
  · exact (Std.Total.total r' r').elim id id
  · exact (List.pairwise_cons.1 hSorted).1 r' hLater

/-- A row that matches and is not locked is returned exactly when fewer such rows than the limit
come before it. -/
theorem mem_selectForUpdate_iff (hNodup : (rows.map key).Nodup)
    (hAntisymm : ∀ a b, before a b → before b a → key a = key b)
    (hRow : r ∈ rows) (hWanted : wanted r) (hFree : key r ∉ locked) :
    r ∈ selectForUpdate key wanted before limit locked rows ↔
      (rows.filter fun a =>
        (wanted a && key a ∉ locked) && (before a r && !decide (before r a))).length < limit := by
  let found := rows.filter fun a => wanted a && key a ∉ locked
  have hPerm : (found.insertionSort before).Perm found := List.perm_insertionSort before found
  have hKeys : (found.map key).Nodup := hNodup.sublist (List.filter_sublist.map key)
  have hDistinct : (found.insertionSort before).Pairwise fun a b => key a ≠ key b :=
    List.pairwise_map.1 ((hPerm.map key).nodup_iff.2 hKeys)
  have hSorted : (found.insertionSort before).Pairwise fun a b => before a b ∧ ¬ before b a :=
    ((List.pairwise_insertionSort before found).and hDistinct).imp
      fun hBoth => ⟨hBoth.1, fun hBack => hBoth.2 (hAntisymm _ _ hBoth.1 hBack)⟩
  have hFound : r ∈ found.insertionSort before := by
    rw [List.mem_insertionSort, List.mem_filter]
    simp [hRow, hWanted, hFree]
  have hCount : ((found.insertionSort before).filter
      fun a => before a r && !decide (before r a)).length =
      (rows.filter fun a =>
        (wanted a && key a ∉ locked) && (before a r && !decide (before r a))).length := by
    rw [(hPerm.filter _).length_eq, List.filter_filter]
    simp only [Bool.and_comm]
  have hRank := mem_take_of_sorted (r := r) (n := limit) hSorted
    fun a => (Std.Total.total a a).elim (fun h => h) (fun h => h)
  rw [← hCount]
  exact hRank.trans (and_iff_right hFound)

end

/-- `ORDER BY time DESC LIMIT 1` of rows that were inserted in the order of their times. -/
theorem foldl_latest_eq_getLast? {τ : Type*} [LinearOrder τ] {time : ρ → τ} {rows : List ρ}
    (hSorted : rows.Pairwise fun a b => time a ≤ time b) :
    rows.foldl (fun last r => if last.all fun l => time l ≤ time r then some r else last) none =
      rows.getLast? := by
  induction rows using List.reverseRecOn with
  | nil => rfl
  | append_singleton rows r ih =>
      obtain ⟨hRows, -, hLast⟩ := List.pairwise_append.1 hSorted
      rw [List.foldl_append, ih hRows, List.getLast?_concat, List.foldl_cons, List.foldl_nil]
      refine if_pos ?_
      rw [Option.all_eq_true]
      intro l hl
      exact decide_eq_true (hLast l (List.mem_of_getLast? hl) r (List.mem_singleton_self r))

end Hyperspace.Foundations
