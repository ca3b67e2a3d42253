import Hyperspace.Deposits.Scan
import Mathlib.Data.List.TakeWhile

/-!
# Pages of signatures

The pages of an account go back from its newest signature. A page that holds a failed transaction
looks short and ends the scan, and so does the page limit.
-/

namespace Hyperspace.Deposits

open Hyperspace.Billing Hyperspace.Foundations

section Pages

variable {chain : Signature → SolanaTransaction} {history : List Signature}
  {latest before : Option Signature} {pageSize pages page : Nat} {answered : Nat → Bool}
  {records out : List SolanaAddressSignature}

theorem newerThan_initial (history : List Signature) : newerThan latest history <+: history := by
  cases latest with
  | none => exact List.prefix_rfl
  | some signature => exact List.takeWhile_prefix _

theorem ne_of_mem_newerThan {s : Signature} (hMem : s ∈ newerThan latest history) :
    latest ≠ some s := by
  cases latest with
  | none => simp
  | some signature =>
      have hNe := List.mem_takeWhile_imp hMem
      simp only [ne_eq, decide_not, Bool.not_eq_eq_eq_not, Bool.not_true,
        decide_eq_false_iff_not] at hNe
      exact fun hEq => hNe (Option.some.inj hEq).symm

theorem newerThan_append {newer older : List Signature}
    (hNewer : ∀ s ∈ newer, latest ≠ some s) :
    newerThan latest (newer ++ older) = newer ++ newerThan latest older := by
  cases latest with
  | none => rfl
  | some signature =>
      refine List.takeWhile_append_of_pos fun s hs => ?_
      simpa using fun hEq : s = signature => hNewer s hs (by rw [hEq])

theorem olderThan_of_nodup {newer older : List Signature} {s : Signature}
    (hNodup : (newer ++ s :: older).Nodup) :
    olderThan (some s) (newer ++ s :: older) = older := by
  have hNotMem : ∀ t ∈ newer, t ≠ s := by
    intro t ht hEq
    subst hEq
    exact (List.nodup_append.1 hNodup).2.2 t ht t List.mem_cons_self rfl
  simp only [olderThan]
  rw [List.dropWhile_append_of_pos (by simpa using hNotMem)]
  simp

/-- What is left to load behind `before`. -/
def unloaded (history : List Signature) (latest before : Option Signature) : List Signature :=
  newerThan latest (olderThan before history)

theorem fullPage (hNodup : history.Nodup) (hSuffix : olderThan before history <:+ history)
    (hPos : 0 < pageSize)
    (hFull : pageSize ≤ (findFinalizedSolanaSignaturesForAddress chain history latest before
      pageSize).length) :
    let next := (findFinalizedSolanaSignaturesForAddress chain history latest before
      pageSize).getLast?.map (·.signature)
    unloaded history latest next = (unloaded history latest before).drop pageSize ∧
      olderThan next history <:+ history := by
  set rest := unloaded history latest before with hRest
  have hBatch : findFinalizedSolanaSignaturesForAddress chain history latest before pageSize =
      ((rest.take pageSize).filter (fun s => !(chain s).failed)).map
        fun s => ⟨s, (chain s).blockTime⟩ := rfl
  have hTake : (rest.take pageSize).length ≤ pageSize := by simp
  have hFilter := List.length_filter_le (fun s => !(chain s).failed) (rest.take pageSize)
  rw [hBatch, List.length_map] at hFull
  have hAll : (rest.take pageSize).filter (fun s => !(chain s).failed) = rest.take pageSize :=
    List.filter_eq_self.2 (List.length_filter_eq_length_iff.1 (by omega))
  have hNonempty : rest.take pageSize ≠ [] := by
    intro hNil
    rw [hNil] at hFull
    simp only [List.filter_nil, List.length_nil, Nat.le_zero_eq] at hFull
    omega
  obtain ⟨newer, last, hLast⟩ := List.eq_nil_or_concat' (rest.take pageSize) |>.resolve_left
    hNonempty
  have hNext : (findFinalizedSolanaSignaturesForAddress chain history latest before
      pageSize).getLast?.map (·.signature) = some last := by
    rw [hBatch, hAll, hLast]
    simp
  obtain ⟨older, hOlder⟩ := @newerThan_initial latest (olderThan before history)
  obtain ⟨newest, hNewest⟩ := hSuffix
  have hSplit : rest = newer ++ last :: rest.drop pageSize := by
    conv_lhs => rw [← List.take_append_drop pageSize rest, hLast]
    simp
  have hHistory : history = (newest ++ newer) ++ last :: (rest.drop pageSize ++ older) := by
    rw [← hNewest, ← hOlder]
    change newest ++ (rest ++ older) = _
    conv_lhs => rw [hSplit]
    simp
  have hBehind : olderThan (some last) history = rest.drop pageSize ++ older := by
    rw [hHistory] at hNodup ⊢
    exact olderThan_of_nodup hNodup
  simp only [hNext]
  refine ⟨?_, ?_⟩
  · have hNe : ∀ s ∈ rest.take pageSize, latest ≠ some s := fun s hs =>
      ne_of_mem_newerThan (List.mem_of_mem_take hs)
    have hWhole : newerThan latest (rest.take pageSize ++ (rest.drop pageSize ++ older)) =
        rest := by
      rw [← List.append_assoc, List.take_append_drop]
      exact congrArg (newerThan latest) hOlder
    rw [newerThan_append hNe] at hWhole
    have hCancel : rest.take pageSize ++ newerThan latest (rest.drop pageSize ++ older) =
        rest.take pageSize ++ rest.drop pageSize := by
      rw [hWhole, List.take_append_drop]
    rw [unloaded, hBehind]
    exact List.append_cancel_left hCancel
  · rw [hBehind, hHistory]
    exact ⟨newest ++ newer ++ [last], by simp⟩

theorem loadPages_succ (hLoad : loadPages chain history latest pageSize answered (pages + 1) page
    before records = some out) :
    let batch := findFinalizedSolanaSignaturesForAddress chain history latest before pageSize
    (batch.length < pageSize ∧ out = records ++ batch) ∨
      (pageSize ≤ batch.length ∧ loadPages chain history latest pageSize answered pages (page + 1)
        (batch.getLast?.map (·.signature)) (records ++ batch) = some out) := by
  simp only [loadPages] at hLoad
  split_ifs at hLoad with hAnswered hShort
  · exact .inl ⟨hShort, (Option.some.inj hLoad).symm⟩
  · exact .inr ⟨Nat.le_of_not_lt hShort, hLoad⟩

theorem mem_loadPages_of_mem {r : SolanaAddressSignature} (hMem : r ∈ records)
    (hLoad : loadPages chain history latest pageSize answered pages page before records =
      some out) : r ∈ out := by
  induction pages generalizing page before records with
  | zero =>
      cases hLoad
      exact hMem
  | succ pages ih =>
      rcases loadPages_succ hLoad with ⟨_, rfl⟩ | ⟨_, hRest⟩
      · exact List.mem_append_left _ hMem
      · exact ih (List.mem_append_left _ hMem) hRest

theorem mem_batch {r : SolanaAddressSignature} :
    r ∈ findFinalizedSolanaSignaturesForAddress chain history latest before pageSize ↔
      ∃ s ∈ (unloaded history latest before).take pageSize,
        (chain s).failed = false ∧ r = ⟨s, (chain s).blockTime⟩ := by
  simp only [findFinalizedSolanaSignaturesForAddress, getSignaturesForAddress, List.mem_map,
    List.mem_filter, Bool.not_eq_eq_eq_not, Bool.not_true, unloaded]
  constructor
  · rintro ⟨s, ⟨hMem, hOk⟩, rfl⟩
    exact ⟨s, hMem, hOk, rfl⟩
  · rintro ⟨s, hMem, hOk, rfl⟩
    exact ⟨s, ⟨hMem, hOk⟩, rfl⟩

theorem of_mem_loadPages (hNodup : history.Nodup)
    (hSuffix : olderThan before history <:+ history) (hPos : 0 < pageSize)
    (hLoad : loadPages chain history latest pageSize answered pages page before records =
      some out) {r : SolanaAddressSignature} (hMem : r ∈ out) :
    r ∈ records ∨
      (r.signature ∈ unloaded history latest before ∧ r.blockTime = (chain r.signature).blockTime)
    := by
  induction pages generalizing page before records with
  | zero =>
      cases hLoad
      exact .inl hMem
  | succ pages ih =>
      have hOfAppend : r ∈ records ++ findFinalizedSolanaSignaturesForAddress chain history latest
          before pageSize → r ∈ records ∨ (r.signature ∈ unloaded history latest before ∧
            r.blockTime = (chain r.signature).blockTime) := by
        intro hAppend
        rcases List.mem_append.1 hAppend with hOld | hNew
        · exact .inl hOld
        · obtain ⟨s, hs, _, rfl⟩ := mem_batch.1 hNew
          exact .inr ⟨List.mem_of_mem_take hs, rfl⟩
      rcases loadPages_succ hLoad with ⟨_, rfl⟩ | ⟨hFull, hRest⟩
      · exact hOfAppend hMem
      · obtain ⟨hDrop, hSuffix'⟩ := fullPage hNodup hSuffix hPos hFull
        rcases ih hSuffix' hRest with hOld | ⟨hNew, hBlockTime⟩
        · exact hOfAppend hOld
        · rw [hDrop] at hNew
          exact .inr ⟨List.mem_of_mem_drop hNew, hBlockTime⟩

theorem mem_loadPages (hNodup : history.Nodup)
    (hSuffix : olderThan before history <:+ history) (hPos : 0 < pageSize)
    (hLoad : loadPages chain history latest pageSize answered pages page before records =
      some out) {i : Nat} {s : Signature} (hAt : (unloaded history latest before)[i]? = some s)
    (hReached : i / pageSize < pages)
    (hBefore : ∀ t ∈ (unloaded history latest before).take (i / pageSize * pageSize),
      (chain t).failed = false)
    (hOk : (chain s).failed = false) : ⟨s, (chain s).blockTime⟩ ∈ out := by
  induction pages generalizing page before records i with
  | zero => exact absurd hReached (Nat.not_lt_zero _)
  | succ pages ih =>
      set rest := unloaded history latest before
      by_cases hHere : i < pageSize
      · have hBatch : (⟨s, (chain s).blockTime⟩ : SolanaAddressSignature) ∈
            findFinalizedSolanaSignaturesForAddress chain history latest before pageSize := by
          refine mem_batch.2 ⟨s, ?_, hOk, rfl⟩
          have hAt' : (rest.take pageSize)[i]? = some s := by
            rw [List.getElem?_take_of_lt hHere]
            exact hAt
          exact List.mem_of_getElem? hAt'
        rcases loadPages_succ hLoad with ⟨_, rfl⟩ | ⟨_, hRest⟩
        · exact List.mem_append_right _ hBatch
        · exact mem_loadPages_of_mem (List.mem_append_right _ hBatch) hRest
      · have hLater : i = pageSize + (i - pageSize) := by omega
        have hDiv : i / pageSize = (i - pageSize) / pageSize + 1 := by
          conv_lhs => rw [hLater]
          rw [Nat.add_comm, Nat.add_div_right _ hPos]
        have hSplit :
            i / pageSize * pageSize = pageSize + (i - pageSize) / pageSize * pageSize := by
          rw [hDiv, Nat.succ_mul, Nat.add_comm]
        have hLength : i < rest.length := (List.getElem?_eq_some_iff.1 hAt).1
        -- No transaction of the page failed, so the page is as long as it was asked to be.
        have hFull : pageSize ≤ (findFinalizedSolanaSignaturesForAddress chain history latest before
            pageSize).length := by
          have hAll : (rest.take pageSize).filter (fun t => !(chain t).failed) =
              rest.take pageSize := by
            refine List.filter_eq_self.2 fun t ht => ?_
            have hMem : t ∈ rest.take (i / pageSize * pageSize) :=
              (List.take_subset_take_left rest (by omega)) ht
            simpa using hBefore t hMem
          change _ ≤ (List.map _ ((rest.take pageSize).filter (fun t => !(chain t).failed))).length
          rw [hAll, List.length_map, List.length_take]
          omega
        obtain ⟨hDrop, hSuffix'⟩ := fullPage hNodup hSuffix hPos hFull
        rcases loadPages_succ hLoad with ⟨hShort, _⟩ | ⟨_, hRest⟩
        · omega
        · refine @ih _ _ _ hSuffix' hRest (i - pageSize) ?_ (by omega) ?_
          · rw [hDrop, List.getElem?_drop, ← hLater]
            exact hAt
          · intro t ht
            rw [hDrop] at ht
            refine hBefore t ?_
            rw [hSplit, List.take_add]
            exact List.mem_append_right _ ht

end Pages

end Hyperspace.Deposits
