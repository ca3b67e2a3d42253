import Hyperspace.Foundations.Runs
import Mathlib.Data.List.Infix
import Mathlib.Data.List.Nodup
import Mathlib.Data.List.Sort

/-!
# Migrations

`runMigrations` asks for each file whether it is recorded and otherwise runs it in a transaction
that records it. Nothing locks out a second process that does the same: only the primary key of
`schema_migrations` is between them.
-/

namespace Hyperspace.Database

open Hyperspace.Foundations

/-! ### Files -/

/-- The code units of a string. -/
def utf16 (s : String) : List Nat :=
  s.toList.flatMap fun c =>
    if c.toNat < 0x10000 then [c.toNat]
    else [0xD800 + (c.toNat - 0x10000) / 0x400, 0xDC00 + (c.toNat - 0x10000) % 0x400]

def precedes : List Nat → List Nat → Bool
  | [], _ => true
  | _ :: _, [] => false
  | a :: as, b :: bs => a < b || (a = b && precedes as bs)

/-- `file.endsWith(".sql")`. -/
def isSql (file : String) : Bool := ".sql".toList.isSuffixOf file.toList

/-- The entries of the directory that are run, in the order of `sort`. -/
def migrationFiles (entries : List String) (selectedFiles : Option (List String)) : List String :=
  (entries.filter fun file => isSql file && selectedFiles.all (file ∈ ·)).insertionSort
    fun file file' => precedes (utf16 file) (utf16 file') = true

/-- `file.replace(/\.sql$/, "")`. -/
def versionOf (file : String) : String :=
  if isSql file then String.ofList (file.toList.take (file.toList.length - 4)) else file

/-! ### Processes -/

/-- Where a process is, with the files that are left. -/
inductive RunnerStage (σ : Type) where
  /-- Before the query for the first of the files. -/
  | checking (files : List String)
  /-- Before the transaction of the file. -/
  | missing (file : String) (rest : List String)
  /-- Before the insert and the commit, with what the statements of the file have made. -/
  | executed (file : String) (rest : List String) (schema : σ)

/-- A process that runs the migrations, with the versions it has applied. -/
structure MigrationRunner (σ : Type) where
  stage : RunnerStage σ
  applied : List String

/-- What is committed, with the recorded versions in the order of their commits. -/
structure MigrationDb (σ : Type) where
  schema : σ
  versions : List String
  runners : List (MigrationRunner σ)
  /-- What the processes that returned have returned. -/
  returned : List (List String)

/-- What a runner does next, or what becomes of it. -/
inductive MigrationEvent where
  | start
  | check (i : Nat)
  | execute (i : Nat)
  | commit (i : Nat)
  /-- The process returns. -/
  | finish (i : Nat)
  /-- The process or its connection is lost. -/
  | lose (i : Nat)

namespace MigrationDb

variable {σ : Type} (files : List String) (execute : String → σ → Option σ) (db : MigrationDb σ)

def advance (i : Nat) (runner : MigrationRunner σ) : MigrationDb σ :=
  { db with runners := db.runners.set i runner }

/-- The transaction is rolled back and the process throws. -/
def remove (i : Nat) : MigrationDb σ := { db with runners := db.runners.eraseIdx i }

/-- The events of one process, in the order of the loop. -/
def stepRunner (i : Nat) (runner : MigrationRunner σ) : MigrationEvent → Option (MigrationDb σ)
  | .start => none
  | .check _ =>
    match runner.stage with
    | .checking (file :: rest) =>
      some (db.advance i { runner with
        stage := if versionOf file ∈ db.versions then .checking rest else .missing file rest })
    | .checking [] | .missing _ _ | .executed _ _ _ => none
  | .execute _ =>
    match runner.stage with
    | .missing file rest =>
      match execute file db.schema with
      | some schema => some (db.advance i { runner with stage := .executed file rest schema })
      | none => some (db.remove i)
    | .checking _ | .executed _ _ _ => none
  | .commit _ =>
    match runner.stage with
    | .executed file rest schema =>
      if versionOf file ∈ db.versions then some (db.remove i)
      else some
        { db.advance i ⟨.checking rest, runner.applied ++ [versionOf file]⟩ with
          schema
          versions := db.versions ++ [versionOf file] }
    | .checking _ | .missing _ _ => none
  | .finish _ =>
    match runner.stage with
    | .checking [] => some { db.remove i with returned := db.returned ++ [runner.applied] }
    | .checking (_ :: _) | .missing _ _ | .executed _ _ _ => none
  | .lose _ => some (db.remove i)

def step (e : MigrationEvent) : Option (MigrationDb σ) :=
  match e with
  | .start => some { db with runners := db.runners ++ [⟨.checking files, []⟩] }
  | .check i | .execute i | .commit i | .finish i | .lose i => do
    let runner ← db.runners[i]?
    db.stepRunner execute i runner e

end MigrationDb

/-! ### What is recorded -/

theorem versionOf_inj {file file' : String} (h : isSql file) (h' : isSql file')
    (hEq : versionOf file = versionOf file') : file = file' := by
  have hWhole : ∀ {file : String}, isSql file → ∃ version, file.toList = version ++ ".sql".toList ∧
      versionOf file = String.ofList version := by
    intro file h
    obtain ⟨version, hFile⟩ := List.isSuffixOf_iff_suffix.1 h
    refine ⟨version, hFile.symm, ?_⟩
    rw [versionOf, if_pos h, ← hFile]
    simp
  obtain ⟨version, hFile, hVersion⟩ := hWhole h
  obtain ⟨version', hFile', hVersion'⟩ := hWhole h'
  rw [hVersion, hVersion'] at hEq
  apply String.toList_inj.1
  rw [hFile, hFile', String.ofList_injective hEq]

theorem nodup_versions {entries : List String} {selectedFiles : Option (List String)}
    (hEntries : entries.Nodup) : ((migrationFiles entries selectedFiles).map versionOf).Nodup := by
  have hPerm := List.perm_insertionSort
    (fun file file' => precedes (utf16 file) (utf16 file') = true)
    (entries.filter fun file => isSql file && selectedFiles.all (file ∈ ·))
  refine List.Nodup.map_on (fun file hFile file' hFile' hEq => versionOf_inj ?_ ?_ hEq)
    (hPerm.nodup_iff.2 (hEntries.filter _))
  · have hMem := (List.mem_filter.1 (hPerm.mem_iff.1 hFile)).2
    exact (Bool.and_eq_true_iff.1 hMem).1
  · have hMem := (List.mem_filter.1 (hPerm.mem_iff.1 hFile')).2
    exact (Bool.and_eq_true_iff.1 hMem).1

section

variable {σ : Type} {files : List String} {execute : String → σ → Option σ} {initial : σ}
  {db db' : MigrationDb σ} {e : MigrationEvent} {n : Nat}

/-- The first `n` files are recorded, and have been run one after another on what was there. -/
structure RunThrough (files : List String) (execute : String → σ → Option σ) (initial : σ)
    (db : MigrationDb σ) (n : Nat) : Prop where
  bounded : n ≤ files.length
  versions : db.versions = (files.take n).map versionOf
  schema : (files.take n).foldlM (fun schema file => execute file schema) initial = some db.schema

/-- A process has left only recorded files behind, and what it has executed was executed on the
schema of now, unless that file is recorded already. -/
def RunnerStage.Behind (files : List String) (execute : String → σ → Option σ) (schema : σ)
    (n : Nat) : RunnerStage σ → Prop
  | .checking rest => ∃ k ≤ n, rest = files.drop k
  | .missing file rest => ∃ k ≤ n, file :: rest = files.drop k
  | .executed file rest made =>
    ∃ k ≤ n, file :: rest = files.drop k ∧ (k = n → execute file schema = some made)

/-- After `n` files, in order, the table and the schema agree, and no runner is ahead of them. -/
structure Tracked (files : List String) (execute : String → σ → Option σ) (initial : σ)
    (db : MigrationDb σ) (n : Nat) : Prop where
  done : RunThrough files execute initial db n
  runners : ∀ runner ∈ db.runners, runner.stage.Behind files execute db.schema n
  returned : db.returned ≠ [] → n = files.length

theorem RunnerStage.Behind.succ {schema schema' : σ} {stage : RunnerStage σ}
    (h : stage.Behind files execute schema n) : stage.Behind files execute schema' (n + 1) := by
  cases stage with
  | checking rest =>
      obtain ⟨k, hLe, hRest⟩ := h
      exact ⟨k, by omega, hRest⟩
  | missing file rest =>
      obtain ⟨k, hLe, hRest⟩ := h
      exact ⟨k, by omega, hRest⟩
  | executed file rest made =>
      obtain ⟨k, hLe, hRest, -⟩ := h
      exact ⟨k, by omega, hRest, by omega⟩

theorem head_drop {file : String} {rest : List String} {k : Nat} (h : file :: rest = files.drop k) :
    k < files.length ∧ files[k]? = some file ∧ rest = files.drop (k + 1) := by
  have hSome : files[k]? = some file := by
    rw [← List.head?_drop, ← h]
    rfl
  obtain ⟨hBound, -⟩ := List.getElem?_eq_some_iff.1 hSome
  refine ⟨hBound, hSome, ?_⟩
  rw [← List.tail_drop, ← h]
  rfl

theorem Tracked.recorded_iff (h : Tracked files execute initial db n)
    (hNodup : (files.map versionOf).Nodup) {file : String} {k : Nat}
    (hFile : files[k]? = some file) :
    versionOf file ∈ db.versions ↔ k < n := by
  rw [h.done.versions, List.map_take]
  have hAt : (files.map versionOf)[k]? = some (versionOf file) := by
    rw [List.getElem?_map, hFile]
    rfl
  constructor
  · intro hMem
    obtain ⟨j, hj⟩ := List.mem_iff_getElem?.1 hMem
    obtain ⟨hBound, -⟩ := List.getElem?_eq_some_iff.1 hj
    rw [List.length_take] at hBound
    rw [List.getElem?_take_of_lt (by omega), ← hAt] at hj
    obtain ⟨hLess, -⟩ := List.getElem?_eq_some_iff.1 hAt
    have hSame : j = k := (List.getElem?_inj (by omega) hNodup).1 hj
    omega
  · intro hLess
    refine List.mem_iff_getElem?.2 ⟨k, ?_⟩
    rw [List.getElem?_take_of_lt hLess, hAt]

theorem Tracked.removed (h : Tracked files execute initial db n) (i : Nat) :
    Tracked files execute initial (db.remove i) n where
  done := ⟨h.done.bounded, h.done.versions, h.done.schema⟩
  runners := fun runner hMem => h.runners runner (List.mem_of_mem_eraseIdx hMem)
  returned := h.returned

theorem Tracked.advanced (h : Tracked files execute initial db n) {i : Nat}
    {runner : MigrationRunner σ}
    (hBehind : runner.stage.Behind files execute db.schema n) :
    Tracked files execute initial (db.advance i runner) n where
  done := ⟨h.done.bounded, h.done.versions, h.done.schema⟩
  runners := by
    intro other hMem
    rcases List.mem_or_eq_of_mem_set hMem with hOld | rfl
    · exact h.runners other hOld
    · exact hBehind
  returned := h.returned

/-- Nobody else can have recorded a file between its statements and the insert that succeeds. -/
theorem Tracked.committed (h : Tracked files execute initial db n)
    (hNodup : (files.map versionOf).Nodup) {i k : Nat} {file : String} {rest : List String}
    {schema : σ} {applied : List String} (hLe : k ≤ n) (hRest : file :: rest = files.drop k)
    (hMade : k = n → execute file db.schema = some schema) (hNew : versionOf file ∉ db.versions) :
    Tracked files execute initial
      { db.advance i ⟨.checking rest, applied⟩ with
        schema
        versions := db.versions ++ [versionOf file] } (n + 1) := by
  obtain ⟨hBound, hFile, hTail⟩ := head_drop hRest
  rw [h.recorded_iff hNodup hFile] at hNew
  have hNow : k = n := by omega
  have hTake : files.take (n + 1) = files.take n ++ [file] := by
    rw [List.take_add_one, ← hNow, hFile]
    rfl
  refine ⟨⟨by omega, ?_, ?_⟩, ?_, fun hReturned => ?_⟩
  · show db.versions ++ [versionOf file] = _
    rw [hTake, List.map_append, h.done.versions]
    rfl
  · show (files.take (n + 1)).foldlM _ initial = some schema
    rw [hTake, List.foldlM_append, h.done.schema]
    simpa using hMade hNow
  · intro runner hMem
    rcases List.mem_or_eq_of_mem_set hMem with hOld | rfl
    · exact (h.runners runner hOld).succ
    · exact ⟨n + 1, le_rfl, by rw [hTail, hNow]⟩
  · have hAll := h.returned hReturned
    omega

theorem Tracked.stepRunner (h : Tracked files execute initial db n)
    (hNodup : (files.map versionOf).Nodup) {i : Nat} {runner : MigrationRunner σ}
    (hRunner : db.runners[i]? = some runner) (hStep : db.stepRunner execute i runner e = some db') :
    ∃ n', Tracked files execute initial db' n' := by
  have hBehind := h.runners runner (List.mem_of_getElem? hRunner)
  cases e with
  | start => cases hStep
  | lose j =>
      cases hStep
      exact ⟨n, h.removed i⟩
  | check j =>
      rw [MigrationDb.stepRunner] at hStep
      split at hStep
      · rename_i file rest hStage
        rw [hStage] at hBehind
        obtain ⟨k, hLe, hRest⟩ := hBehind
        obtain ⟨-, hFile, hTail⟩ := head_drop hRest
        cases hStep
        refine ⟨n, h.advanced ?_⟩
        dsimp only
        split
        · rename_i hRecorded
          rw [h.recorded_iff hNodup hFile] at hRecorded
          exact ⟨k + 1, hRecorded, hTail⟩
        · exact ⟨k, hLe, hRest⟩
      all_goals cases hStep
  | execute j =>
      rw [MigrationDb.stepRunner] at hStep
      split at hStep
      · rename_i file rest hStage
        rw [hStage] at hBehind
        obtain ⟨k, hLe, hRest⟩ := hBehind
        split at hStep
        · rename_i schema hSchema
          cases hStep
          exact ⟨n, h.advanced ⟨k, hLe, hRest, fun _ => hSchema⟩⟩
        · cases hStep
          exact ⟨n, h.removed i⟩
      all_goals cases hStep
  | commit j =>
      rw [MigrationDb.stepRunner] at hStep
      split at hStep
      · rename_i file rest schema hStage
        rw [hStage] at hBehind
        obtain ⟨k, hLe, hRest, hMade⟩ := hBehind
        split at hStep
        · cases hStep
          exact ⟨n, h.removed i⟩
        · rename_i hNew
          cases hStep
          exact ⟨n + 1, h.committed hNodup hLe hRest hMade hNew⟩
      all_goals cases hStep
  | finish j =>
      rw [MigrationDb.stepRunner] at hStep
      split at hStep
      · rename_i hStage
        rw [hStage] at hBehind
        obtain ⟨k, hLe, hRest⟩ := hBehind
        have hAll : files.length ≤ k := List.drop_eq_nil_iff.1 hRest.symm
        have hBounded := h.done.bounded
        cases hStep
        have hRemoved := h.removed i
        exact ⟨n, ⟨hRemoved.done.bounded, hRemoved.done.versions, hRemoved.done.schema⟩,
          hRemoved.runners, fun _ => by omega⟩
      all_goals cases hStep

theorem Tracked.step (h : Tracked files execute initial db n) (hNodup : (files.map versionOf).Nodup)
    (hStep : db.step files execute e = some db') : ∃ n', Tracked files execute initial db' n' := by
  cases e with
  | start =>
      cases hStep
      refine ⟨n, ⟨h.done.bounded, h.done.versions, h.done.schema⟩, fun runner hMem => ?_,
        h.returned⟩
      rcases List.mem_append.1 hMem with hOld | hNew
      · exact h.runners runner hOld
      · rw [List.mem_singleton.1 hNew]
        exact ⟨0, Nat.zero_le n, rfl⟩
  | check i | execute i | commit i | finish i | lose i =>
      obtain ⟨runner, hRunner, hRest⟩ := Option.bind_eq_some_iff.1 hStep
      exact h.stepRunner hNodup hRunner hRest

/-- Any number of processes, lost or failing at any point: the files are recorded in their order,
each has run once, on what those before it have left, and all of them have when a process returns.
-/
theorem migrations_run_in_order {entries : List String} {selectedFiles : Option (List String)}
    {es : List MigrationEvent} (hEntries : entries.Nodup)
    (hRun : run (MigrationDb.step (migrationFiles entries selectedFiles) execute)
      ⟨initial, [], [], []⟩ es = some db) :
    ∃ n, RunThrough (migrationFiles entries selectedFiles) execute initial db n ∧
      (db.returned ≠ [] → n = (migrationFiles entries selectedFiles).length) := by
  have hNodup : ((migrationFiles entries selectedFiles).map versionOf).Nodup :=
    nodup_versions hEntries
  have hInitially : ∃ n, Tracked (migrationFiles entries selectedFiles) execute initial
      ⟨initial, [], [], []⟩ n :=
    ⟨0, ⟨Nat.zero_le _, rfl, rfl⟩, by simp, by simp⟩
  have hSteps : ∀ (db : MigrationDb σ) e db',
      (∃ n, Tracked (migrationFiles entries selectedFiles) execute initial db n) →
      db.step (migrationFiles entries selectedFiles) execute e = some db' →
      ∃ n, Tracked (migrationFiles entries selectedFiles) execute initial db' n := by
    rintro db e db' ⟨n, h⟩ hStep
    exact h.step hNodup hStep
  obtain ⟨n, h⟩ := run_invariant hSteps hInitially hRun
  exact ⟨n, h.done, h.returned⟩

/-- Two processes run the first file; the second one fails to record it, starts again and returns.
-/
def racingRunners : List MigrationEvent :=
  [.start, .start, .check 0, .check 1, .execute 0, .execute 1, .commit 0, .commit 1, .check 0,
    .execute 0, .lose 0, .start, .check 0, .check 0, .execute 0, .commit 0, .finish 0]

theorem racing_runners_agree : ∃ db ∈
    run (MigrationDb.step (migrationFiles ["0002_b.sql", "notes.md", "0001_a.sql"] none)
      fun file schema => some (schema ++ [file])) ⟨[], [], [], []⟩ racingRunners,
    db.schema = ["0001_a.sql", "0002_b.sql"] ∧
      ∃ n, RunThrough (migrationFiles ["0002_b.sql", "notes.md", "0001_a.sql"] none)
        (fun file schema => some (schema ++ [file])) [] db n ∧
        (db.returned ≠ [] →
          n = (migrationFiles ["0002_b.sql", "notes.md", "0001_a.sql"] none).length) := by
  have hExists : ∃ db ∈
      run (MigrationDb.step (migrationFiles ["0002_b.sql", "notes.md", "0001_a.sql"] none)
        fun file schema => some (schema ++ [file])) ⟨[], [], [], []⟩ racingRunners,
      db.schema = ["0001_a.sql", "0002_b.sql"] := by
    decide +kernel
  obtain ⟨db, hRun, hSchema⟩ := hExists
  exact ⟨db, hRun, hSchema, migrations_run_in_order (by decide) hRun⟩

end

end Hyperspace.Database
