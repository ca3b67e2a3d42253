import Mathlib.Data.List.Basic

/-!
# Maps that are built from entries

A map keeps the last of the entries with the same key.
-/

namespace Hyperspace.Foundations

variable {κ α β : Type*} [DecidableEq κ] {entries : List (κ × α)} {key : κ} {a : α}

/-- What a map that is built from the entries has at the key. -/
def mapGet (entries : List (κ × α)) (key : κ) : Option α :=
  (entries.reverse.find? fun entry => entry.1 = key).map Prod.snd

theorem mem_of_mapGet (h : mapGet entries key = some a) : (key, a) ∈ entries := by
  obtain ⟨entry, hFind, rfl⟩ := Option.map_eq_some_iff.1 h
  have hKey : entry.1 = key := by simpa using List.find?_some hFind
  have hMem : entry ∈ entries := List.mem_reverse.1 (List.mem_of_find?_eq_some hFind)
  rwa [← hKey]

theorem mapGet_of_mem (hMem : (key, a) ∈ entries) (hOnly : ∀ b, (key, b) ∈ entries → b = a) :
    mapGet entries key = some a := by
  cases hGet : mapGet entries key with
  | none =>
      have hNone := List.find?_eq_none.1 (Option.map_eq_none_iff.1 hGet) _ (List.mem_reverse.2 hMem)
      simp at hNone
  | some b => rw [hOnly b (mem_of_mapGet hGet)]

/-- A map from the keys of rows to the rows, for a key that no two rows share. -/
theorem mapGet_rows {keyOf : α → κ} {rows : List α}
    (hUnique : ∀ r ∈ rows, ∀ r' ∈ rows, keyOf r = key → keyOf r' = key → r = r') :
    mapGet (rows.map fun r => (keyOf r, r)) key = some a ↔ a ∈ rows ∧ keyOf a = key := by
  constructor
  · intro hGet
    obtain ⟨r, hr, hEntry⟩ := List.mem_map.1 (mem_of_mapGet hGet)
    obtain ⟨hKey, rfl⟩ := Prod.mk.inj hEntry
    exact ⟨hr, hKey⟩
  · rintro ⟨hMem, rfl⟩
    apply mapGet_of_mem (List.mem_map.2 ⟨a, hMem, rfl⟩ :
      (keyOf a, a) ∈ rows.map fun r => (keyOf r, r))
    intro b hb
    obtain ⟨r, hr, hEntry⟩ := List.mem_map.1 hb
    obtain ⟨hKey, rfl⟩ := Prod.mk.inj hEntry
    exact hUnique r hr a hMem hKey rfl

theorem mapGet_zip {keys : List κ} {values : List α} {i : ℕ} (hKey : keys[i]? = some key)
    (hOnly : ∀ j, keys[j]? = some key → j = i) : mapGet (keys.zip values) key = values[i]? := by
  have hAt : ∀ a, (key, a) ∈ keys.zip values → values[i]? = some a := by
    intro a hMem
    obtain ⟨j, hj⟩ := List.mem_iff_getElem?.1 hMem
    obtain ⟨hKey', hValue⟩ := List.getElem?_zip_eq_some.1 hj
    rw [← hOnly j hKey']
    exact hValue
  cases hGet : mapGet (keys.zip values) key with
  | some a => exact (hAt a (mem_of_mapGet hGet)).symm
  | none =>
      cases hValue : values[i]? with
      | none => rfl
      | some a =>
          have hMem : (key, a) ∈ keys.zip values :=
            List.mem_iff_getElem?.2 ⟨i, List.getElem?_zip_eq_some.2 ⟨hKey, hValue⟩⟩
          rw [mapGet_of_mem hMem] at hGet
          · cases hGet
          · intro b hb
            exact Option.some.inj ((hAt b hb).symm.trans hValue)

theorem mapGet_zip_of_notMem {keys : List κ} {values : List α} (h : key ∉ keys) :
    mapGet (keys.zip values) key = none := by
  cases hGet : mapGet (keys.zip values) key with
  | none => rfl
  | some a => exact absurd (List.of_mem_zip (mem_of_mapGet hGet)).1 h

end Hyperspace.Foundations
