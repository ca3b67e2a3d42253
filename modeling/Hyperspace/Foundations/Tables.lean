import Mathlib.Algebra.BigOperators.Group.List.Basic
import Mathlib.Algebra.BigOperators.Ring.List
import Mathlib.Algebra.Ring.Int.Defs
import Mathlib.Data.List.Nodup

/-!
# Tables with a unique key

A table is the list of its rows in insertion order, together with the proof that no two rows
share a key. The operations are the ones a relational store offers: insert unless the key is
taken, look a row up by its key, and rewrite the row under a key.
-/

namespace Hyperspace.Foundations

/-- Rows with pairwise different keys. -/
structure Table {ρ κ : Type*} (key : ρ → κ) where
  rows : List ρ
  keysNodup : (rows.map key).Nodup

namespace Table

variable {ρ κ : Type*} {key : ρ → κ}

def empty : Table key := ⟨[], List.nodup_nil⟩

instance : EmptyCollection (Table key) := ⟨empty⟩

@[simp] theorem rows_empty : (∅ : Table key).rows = [] := rfl

/-- The sum of a quantity over all rows. -/
def sum (t : Table key) (f : ρ → Int) : Int := (t.rows.map f).sum

/-- Some row has this key. -/
def HasKey (t : Table key) (k : κ) : Prop := k ∈ t.rows.map key

@[simp] theorem sum_empty {f : ρ → Int} : (∅ : Table key).sum f = 0 := rfl

theorem sum_eq_mul {t : Table key} {f g : ρ → Int} {c : Int} (h : ∀ r ∈ t.rows, f r = c * g r) :
    t.sum f = c * t.sum g := by
  rw [sum, sum, List.map_congr_left h, List.sum_map_mul_left]

theorem hasKey_iff {t : Table key} {k : κ} : t.HasKey k ↔ ∃ r ∈ t.rows, key r = k := by
  simp only [HasKey, List.mem_map]

theorem HasKey.of_mem {t : Table key} {r : ρ} (h : r ∈ t.rows) : t.HasKey (key r) :=
  List.mem_map_of_mem h

theorem row_unique {t : Table key} {r r' : ρ} (h : r ∈ t.rows) (h' : r' ∈ t.rows)
    (hKey : key r = key r') : r = r' :=
  List.inj_on_of_nodup_map t.keysNodup h h' hKey

/-- Rewrite every row by a function that leaves the keys alone. -/
def modify (t : Table key) (f : ρ → ρ) (hf : ∀ r, key (f r) = key r) : Table key where
  rows := t.rows.map f
  keysNodup := by
    have hComp : key ∘ f = key := funext hf
    rw [List.map_map, hComp]
    exact t.keysNodup

theorem hasKey_modify {t : Table key} {k : κ} {f : ρ → ρ} (hf : ∀ r, key (f r) = key r) :
    (t.modify f hf).HasKey k ↔ t.HasKey k := by
  have hComp : key ∘ f = key := funext hf
  simp only [HasKey, modify, List.map_map, hComp]

theorem mem_modify {t : Table key} {f : ρ → ρ} (hf : ∀ r, key (f r) = key r) {r : ρ} :
    r ∈ (t.modify f hf).rows ↔ ∃ r' ∈ t.rows, f r' = r := by
  simp only [modify, List.mem_map]

theorem modify_id {t : Table key} : t.modify id (fun _ => rfl) = t := by
  simp only [modify, List.map_id]

theorem modify_modify {t : Table key} {f g : ρ → ρ} {hf : ∀ r, key (f r) = key r}
    {hg : ∀ r, key (g r) = key r} :
    (t.modify f hf).modify g hg = t.modify (g ∘ f) fun r => (hg _).trans (hf r) := by
  simp only [modify, List.map_map]

/-- Delete the rows that do not satisfy a condition. -/
def filter (t : Table key) (p : ρ → Bool) : Table key where
  rows := t.rows.filter p
  keysNodup := t.keysNodup.sublist (List.filter_sublist.map key)

theorem mem_filter {t : Table key} {p : ρ → Bool} {r : ρ} :
    r ∈ (t.filter p).rows ↔ r ∈ t.rows ∧ p r := by
  simp only [filter, List.mem_filter]

theorem sum_modify_of_eq {t : Table key} {f : ρ → ρ} (hf : ∀ r, key (f r) = key r)
    {g : ρ → Int} (h : ∀ r ∈ t.rows, g (f r) = g r) : (t.modify f hf).sum g = t.sum g := by
  simp only [sum, modify, List.map_map]
  exact congrArg List.sum (List.map_congr_left h)

section

variable [DecidableEq κ]

instance (t : Table key) (k : κ) : Decidable (t.HasKey k) :=
  inferInstanceAs (Decidable (k ∈ t.rows.map key))

/-- The row under a key. -/
def find? (t : Table key) (k : κ) : Option ρ := t.rows.find? fun r => key r = k

/-- Insert on conflict do nothing: `none` when the key is taken. -/
def insert (t : Table key) (r : ρ) : Option (Table key) :=
  if h : t.HasKey (key r) then none
  else some ⟨t.rows ++ [r], by
    rw [List.map_append, List.nodup_append]
    refine ⟨t.keysNodup, by simp, ?_⟩
    intro k hk k' hk' hkk'
    rw [List.map_cons, List.map_nil, List.mem_singleton] at hk'
    exact h (hk' ▸ hkk' ▸ hk)⟩

/-- Rewrite the row under a key by a function that leaves the key alone. -/
def update (t : Table key) (k : κ) (f : ρ → ρ) (hf : ∀ r, key (f r) = key r) : Table key :=
  t.modify (fun r => if key r = k then f r else r) fun r => by split <;> simp [hf]

/-- Insert on conflict do update: the row takes the place of the one with its key. -/
def upsert (t : Table key) (r : ρ) : Table key :=
  (t.insert r).getD (t.modify (fun r' => if key r' = key r then r else r') fun r' => by
    split <;> simp_all)

theorem insert_eq_some {t t' : Table key} {r : ρ} (h : t.insert r = some t') :
    ¬ t.HasKey (key r) ∧ t'.rows = t.rows ++ [r] := by
  rw [insert] at h
  split at h
  · cases h
  · rename_i hFree
    cases h
    exact ⟨hFree, rfl⟩

theorem insert_eq_none {t : Table key} {r : ρ} : t.insert r = none ↔ t.HasKey (key r) := by
  rw [insert]
  split <;> simp_all

theorem exists_insert {t : Table key} {r : ρ} (hFree : ¬ t.HasKey (key r)) :
    ∃ t', t.insert r = some t' := by
  cases hInsert : t.insert r with
  | none => exact absurd (insert_eq_none.1 hInsert) hFree
  | some t' => exact ⟨t', rfl⟩

theorem find?_eq_some {t : Table key} {k : κ} {r : ρ} (h : t.find? k = some r) :
    r ∈ t.rows ∧ key r = k :=
  ⟨List.mem_of_find?_eq_some h, by simpa using List.find?_some h⟩

theorem find?_eq_none {t : Table key} {k : κ} : t.find? k = none ↔ ¬ t.HasKey k := by
  simp only [find?, List.find?_eq_none, decide_eq_true_eq, hasKey_iff, not_exists, not_and]

theorem find?_of_mem {t : Table key} {r : ρ} (h : r ∈ t.rows) : t.find? (key r) = some r := by
  cases hFind : t.find? (key r) with
  | none => exact absurd (HasKey.of_mem h) (find?_eq_none.1 hFind)
  | some r' =>
      obtain ⟨hMem, hKey⟩ := find?_eq_some hFind
      rw [row_unique hMem h hKey]

theorem find?_modify {t : Table key} {k : κ} {f : ρ → ρ} (hf : ∀ r, key (f r) = key r) :
    (t.modify f hf).find? k = (t.find? k).map f := by
  simp only [find?, modify, List.find?_map, Function.comp_def, hf]

theorem find?_eq_some_iff {t : Table key} {k : κ} {r : ρ} :
    t.find? k = some r ↔ r ∈ t.rows ∧ key r = k := by
  constructor
  · exact find?_eq_some
  · rintro ⟨hMem, rfl⟩
    exact find?_of_mem hMem

theorem find?_filter {t : Table key} {k : κ} {p : ρ → Bool} :
    (t.filter p).find? k = (t.find? k).filter p := by
  cases hFind : t.find? k with
  | none =>
      rw [find?_eq_none, hasKey_iff] at hFind
      rw [Option.filter_none, find?_eq_none, hasKey_iff]
      rintro ⟨r, hMem, hKey⟩
      exact hFind ⟨r, (mem_filter.1 hMem).1, hKey⟩
  | some r =>
      obtain ⟨hMem, hKey⟩ := find?_eq_some hFind
      cases hKeep : p r with
      | true =>
          rw [Option.filter_some_pos hKeep, find?_eq_some_iff]
          exact ⟨mem_filter.2 ⟨hMem, hKeep⟩, hKey⟩
      | false =>
          rw [Option.filter_some_neg (by simp [hKeep]), find?_eq_none, hasKey_iff]
          rintro ⟨r', hMem', hKey'⟩
          obtain ⟨hOld, hKept⟩ := mem_filter.1 hMem'
          have hSame : r' = r := row_unique hOld hMem (hKey'.trans hKey.symm)
          rw [hSame, hKeep] at hKept
          cases hKept

theorem find?_filter_of_drop {t : Table key} {k : κ} {p : ρ → Bool}
    (hDrop : ∀ r, key r = k → p r = false) : (t.filter p).find? k = none := by
  rw [find?_filter, Option.filter_eq_none_iff]
  intro r hFind
  simp [hDrop r (find?_eq_some_iff.1 hFind).2]

theorem find?_filter_of_keep {t : Table key} {k : κ} {p : ρ → Bool}
    (hKeep : ∀ r, key r = k → p r) : (t.filter p).find? k = t.find? k := by
  rw [find?_filter]
  cases hFind : t.find? k with
  | none => rfl
  | some r => exact Option.filter_some_pos (hKeep r (find?_eq_some_iff.1 hFind).2)

theorem find?_update {t : Table key} {k k' : κ} {f : ρ → ρ} (hf : ∀ r, key (f r) = key r) :
    (t.update k f hf).find? k' = if k' = k then (t.find? k').map f else t.find? k' := by
  rw [update, find?_modify]
  cases hFind : t.find? k' with
  | none => simp
  | some r =>
      have hKey : key r = k' := (find?_eq_some hFind).2
      simp only [Option.map_some, hKey]
      split <;> rfl

theorem find?_insert {t t' : Table key} {r : ρ} {k : κ} (h : t.insert r = some t') :
    t'.find? k = if k = key r then some r else t.find? k := by
  obtain ⟨hFree, hRows⟩ := insert_eq_some h
  have hSplit : t'.find? k = (t.find? k).or ([r].find? fun r => key r = k) := by
    rw [find?, find?, hRows, List.find?_append]
  rw [hSplit]
  by_cases hKey : k = key r
  · subst hKey
    rw [find?_eq_none.2 hFree]
    simp
  · have hOther : ¬ key r = k := fun hEq => hKey hEq.symm
    simp [hKey, hOther]

theorem sum_insert {t t' : Table key} {r : ρ} (h : t.insert r = some t') (f : ρ → Int) :
    t'.sum f = t.sum f + f r := by
  rw [sum, sum, (insert_eq_some h).2, List.map_append, List.sum_append]
  simp

theorem mem_insert {t t' : Table key} {r r' : ρ} (h : t.insert r = some t') :
    r' ∈ t'.rows ↔ r' ∈ t.rows ∨ r' = r := by
  rw [(insert_eq_some h).2, List.mem_append, List.mem_singleton]

theorem mem_upsert {t : Table key} {r r' : ρ} :
    r' ∈ (t.upsert r).rows ↔ r' = r ∨ r' ∈ t.rows ∧ key r' ≠ key r := by
  rw [upsert]
  cases hInsert : t.insert r with
  | some t' =>
      have hFree : ∀ r' ∈ t.rows, key r' ≠ key r := fun r' hMem hKey =>
        (insert_eq_some hInsert).1 (hKey ▸ HasKey.of_mem hMem)
      rw [Option.getD_some, mem_insert hInsert]
      grind
  | none =>
      obtain ⟨r₀, hMem, hKey⟩ := hasKey_iff.1 (insert_eq_none.1 hInsert)
      rw [Option.getD_none, mem_modify]
      grind

theorem hasKey_insert {t t' : Table key} {r : ρ} {k : κ} (h : t.insert r = some t') :
    t'.HasKey k ↔ t.HasKey k ∨ k = key r := by
  simp only [HasKey, (insert_eq_some h).2, List.map_append, List.mem_append, List.map_cons,
    List.map_nil, List.mem_singleton]

theorem hasKey_update {t : Table key} {k k' : κ} {f : ρ → ρ} (hf : ∀ r, key (f r) = key r) :
    (t.update k f hf).HasKey k' ↔ t.HasKey k' := hasKey_modify _

theorem mem_update {t : Table key} {k : κ} {f : ρ → ρ} (hf : ∀ r, key (f r) = key r) {r : ρ} :
    r ∈ (t.update k f hf).rows ↔ ∃ r' ∈ t.rows, (if key r' = k then f r' else r') = r :=
  mem_modify _

theorem sum_update {t : Table key} {k : κ} {f : ρ → ρ} {hf : ∀ r, key (f r) = key r} {r : ρ}
    (h : t.find? k = some r) (g : ρ → Int) :
    (t.update k f hf).sum g = t.sum g + (g (f r) - g r) := by
  obtain ⟨hMem, hKey⟩ := find?_eq_some h
  have hNodup := t.keysNodup
  simp only [sum, update, modify, List.map_map]
  generalize t.rows = rows at hMem hNodup
  induction rows with
  | nil => cases hMem
  | cons r₀ rows ih =>
      rw [List.map_cons, List.nodup_cons] at hNodup
      simp only [List.map_cons, List.sum_cons, Function.comp_apply]
      rcases List.mem_cons.1 hMem with rfl | hTail
      · -- the row is the head, so no row of the tail has its key
        have hRest : rows.map (g ∘ fun r' => if key r' = k then f r' else r') = rows.map g := by
          refine List.map_congr_left fun r' hr' => ?_
          have hne : key r' ≠ k := fun heq =>
            hNodup.1 (List.mem_map.2 ⟨r', hr', heq.trans hKey.symm⟩)
          simp [hne]
        rw [if_pos hKey, hRest]
        omega
      · have hne : key r₀ ≠ k := fun heq =>
          hNodup.1 (List.mem_map.2 ⟨r, hTail, hKey.trans heq.symm⟩)
        rw [if_neg hne, ih hTail hNodup.2]
        omega

end

end Table

/-- A table whose keys are drawn from a counter, so that a key is never used again. -/
structure SerialTable {ρ : Type*} (key : ρ → Nat) where
  table : Table key
  next : Nat
  fresh : ∀ r ∈ table.rows, key r < next

namespace SerialTable

variable {ρ : Type*} {key : ρ → Nat}

instance : EmptyCollection (SerialTable key) := ⟨⟨∅, 0, by simp⟩⟩

def rows (t : SerialTable key) : List ρ := t.table.rows

def find? (t : SerialTable key) (k : Nat) : Option ρ := t.table.find? k

/-- Append the row that `make` builds for the next key. -/
def insert (t : SerialTable key) (make : Nat → ρ) (hKey : ∀ n, key (make n) = n) :
    SerialTable key where
  table :=
    { rows := t.table.rows ++ [make t.next]
      keysNodup := by
        rw [List.map_append, List.nodup_append]
        refine ⟨t.table.keysNodup, by simp, ?_⟩
        intro k hk k' hk' hEq
        obtain ⟨r, hr, rfl⟩ := List.mem_map.1 hk
        rw [List.map_cons, List.map_nil, List.mem_singleton, hKey] at hk'
        have hLess : key r < t.next := t.fresh r hr
        omega }
  next := t.next + 1
  fresh := by
    intro r hr
    rcases List.mem_append.1 hr with hr | hr
    · exact Nat.lt_succ_of_lt (t.fresh r hr)
    · rw [List.mem_singleton.1 hr, hKey]
      exact Nat.lt_succ_self _

/-- Rewrite every row by a function that leaves the keys alone. -/
def modify (t : SerialTable key) (f : ρ → ρ) (hf : ∀ r, key (f r) = key r) :
    SerialTable key where
  table := t.table.modify f hf
  next := t.next
  fresh := by
    intro r hr
    obtain ⟨r', hr', rfl⟩ := (Table.mem_modify hf).1 hr
    rw [hf]
    exact t.fresh r' hr'

/-- Rewrite the row under a key by a function that leaves the key alone. -/
def update (t : SerialTable key) (k : Nat) (f : ρ → ρ) (hf : ∀ r, key (f r) = key r) :
    SerialTable key :=
  t.modify (fun r => if key r = k then f r else r) fun r => by split <;> simp [hf]

/-- Delete the rows that do not satisfy a condition. -/
def filter (t : SerialTable key) (p : ρ → Bool) : SerialTable key where
  table := t.table.filter p
  next := t.next
  fresh := fun r hr => t.fresh r (Table.mem_filter.1 hr).1

section

variable {t : SerialTable key} {r : ρ}

@[simp] theorem rows_empty : (∅ : SerialTable key).rows = [] := rfl

theorem row_unique {r' : ρ} (h : r ∈ t.rows) (h' : r' ∈ t.rows) (hKey : key r = key r') :
    r = r' := Table.row_unique h h' hKey

theorem find?_eq_some {k : Nat} (h : t.find? k = some r) : r ∈ t.rows ∧ key r = k :=
  Table.find?_eq_some h

theorem find?_of_mem (h : r ∈ t.rows) : t.find? (key r) = some r := Table.find?_of_mem h

theorem mem_insert {make : Nat → ρ} {hKey : ∀ n, key (make n) = n} :
    r ∈ (t.insert make hKey).rows ↔ r ∈ t.rows ∨ r = make t.next := by
  simp only [rows, insert, List.mem_append, List.mem_singleton]

theorem find?_next : t.find? t.next = none := by
  cases hFind : t.find? t.next with
  | none => rfl
  | some r =>
      obtain ⟨hMem, hSame⟩ := find?_eq_some hFind
      have hLess := t.fresh r hMem
      omega

theorem find?_insert {make : Nat → ρ} {hKey : ∀ n, key (make n) = n} {k : Nat} :
    (t.insert make hKey).find? k = if k = t.next then some (make t.next) else t.find? k := by
  have hSplit : (t.insert make hKey).find? k =
      (t.find? k).or ([make t.next].find? fun r => key r = k) := by
    simp only [find?, Table.find?, insert, List.find?_append]
  rw [hSplit]
  by_cases hNew : k = t.next
  · subst hNew
    simp [find?_next, hKey]
  · have hOther : ¬t.next = k := Ne.symm hNew
    simp [hNew, hKey, hOther]

theorem find?_update {k k' : Nat} {f : ρ → ρ} {hf : ∀ r, key (f r) = key r} :
    (t.update k f hf).find? k' = if k' = k then (t.find? k').map f else t.find? k' :=
  Table.find?_update hf

theorem mem_modify {f : ρ → ρ} {hf : ∀ r, key (f r) = key r} :
    r ∈ (t.modify f hf).rows ↔ ∃ r' ∈ t.rows, f r' = r := Table.mem_modify hf

theorem mem_update {k : Nat} {f : ρ → ρ} {hf : ∀ r, key (f r) = key r} :
    r ∈ (t.update k f hf).rows ↔ ∃ r' ∈ t.rows, (if key r' = k then f r' else r') = r :=
  mem_modify

theorem mem_filter {p : ρ → Bool} : r ∈ (t.filter p).rows ↔ r ∈ t.rows ∧ p r := Table.mem_filter

end

end SerialTable

end Hyperspace.Foundations
