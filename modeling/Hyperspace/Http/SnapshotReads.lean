import Hyperspace.Foundations.Joins
import Hyperspace.Http.ReadSnapshots

/-!
# What readers of a snapshot are served

There is one load at a time, started only after the pause that follows a failure. What is served is
the data of the newest load that returned, within its age limit and marked by how the last load
went.
-/

namespace Hyperspace.Http

open Hyperspace.Foundations

variable {α : Type} {options : SnapshotOptions} {stringify : α → String}

/-! ### Outcomes -/

/-- The data of a load that returned, and when. -/
def LoadOutcome.data? : LoadOutcome α → Option (α × Int)
  | .loaded data time => some (data, time)
  | .failed _ => none

/-- The newest data. -/
def newest? (outcomes : List (LoadOutcome α)) : Option (α × Int) :=
  outcomes.findSome? LoadOutcome.data?

def lastFailed : List (LoadOutcome α) → Bool
  | .failed _ :: _ => true
  | .loaded _ _ :: _ | [] => false

/-- The end of the pause after a failure. -/
def retryAfter (options : SnapshotOptions) : List (LoadOutcome α) → Int
  | .failed time :: _ => time + options.retryMs
  | .loaded _ _ :: _ | [] => 0

namespace PublicReadSnapshot

variable {s s' : PublicReadSnapshot α} {e : SnapshotEvent α} {reader : ReaderId}
  {r : SnapshotRead α} {value : StoredSnapshot α}

/-! ### What every step keeps -/

/-- The pending load is the one that runs, and the value is the newest that a load returned. -/
structure Sound (options : SnapshotOptions) (stringify : α → String) (s : PublicReadSnapshot α) :
    Prop where
  loads : s.loads.map (·.id) = s.pending.toList
  value : ∀ v ∈ s.value, newest? s.outcomes = some (v.data, v.loadedAt) ∧
    v.etag = weakEtag (stringify v.data) ∧ (stringify v.data).utf8ByteSize ≤ options.maxBytes
  failed : s.failed = lastFailed s.outcomes
  retryAt : s.retryAt = retryAfter options s.outcomes
  waiting : ∀ w ∈ s.waiting, s.pending = some w.2
  answers : ∀ a ∈ s.answers, ∀ r ∈ a.2, r.etag = weakEtag (stringify r.data)

/-- What is served is the newest data, young enough, and says how old it is. -/
structure Serves (options : SnapshotOptions) (stringify : α → String) (s : PublicReadSnapshot α)
    (r : SnapshotRead α) (loadedAt : Int) : Prop where
  newest : newest? s.outcomes = some (r.data, loadedAt)
  young : 0 ≤ s.now - loadedAt ∧ s.now - loadedAt ≤ options.maxAgeMs
  age : r.ageSeconds = (s.now - loadedAt) / 1000
  etag : r.etag = weakEtag (stringify r.data)
  size : (stringify r.data).utf8ByteSize ≤ options.maxBytes
  stale : r.state = .stale ↔ lastFailed s.outcomes = true
  live : r.state = .live ↔ lastFailed s.outcomes = false ∧ s.now - loadedAt < options.freshMs

theorem Serves.of_eq {loadedAt : Int} (h : s.Serves options stringify r loadedAt)
    (hNow : s'.now = s.now) (hOutcomes : s'.outcomes = s.outcomes) :
    s'.Serves options stringify r loadedAt := by
  obtain ⟨hNewest, hYoung, hAge, hEtag, hSize, hStale, hLive⟩ := h
  rw [← hOutcomes] at hNewest hStale hLive
  rw [← hNow] at hYoung hAge hLive
  exact ⟨hNewest, hYoung, hAge, hEtag, hSize, hStale, hLive⟩

theorem serves_of_usable (h : s.Sound options stringify)
    (hUsable : s.usable? options = some value) :
    s.Serves options stringify (s.serve options value) value.loadedAt := by
  obtain ⟨hValue, hYoung⟩ := Option.filter_eq_some_iff.1 hUsable
  obtain ⟨hNewest, hEtag, hSize⟩ := h.value value hValue
  rw [Bool.and_eq_true, decide_eq_true_eq, decide_eq_true_eq] at hYoung
  refine ⟨hNewest, hYoung, rfl, hEtag, hSize, ?_, ?_⟩
  · rw [← h.failed, serve]
    by_cases hOld : (options.freshMs : Int) ≤ s.now - value.loadedAt
    · cases s.failed <;> simp [hOld]
    · cases s.failed <;> simp [hOld]
  · rw [← h.failed, serve]
    by_cases hOld : (options.freshMs : Int) ≤ s.now - value.loadedAt
    · cases s.failed <;> simp [hOld]
    · cases s.failed <;> simp [hOld, not_le.1 hOld]

theorem Sound.answer (h : s.Sound options stringify) {result : Option (SnapshotRead α)}
    (hResult : ∀ r ∈ result, r.etag = weakEtag (stringify r.data)) :
    (s.answer reader result).Sound options stringify where
  loads := h.loads
  value := h.value
  failed := h.failed
  retryAt := h.retryAt
  waiting := h.waiting
  answers := by
    intro a hMem
    rcases List.mem_cons.1 hMem with rfl | hOld
    · exact hResult
    · exact h.answers a hOld

theorem refresh_cases (s : PublicReadSnapshot α) :
    s.refresh.1 = s ∨ s.pending = none ∧ s.retryAt ≤ s.now ∧ s.refresh.1 =
      { s with
        pending := some s.nextLoad
        loads := s.loads ++ [⟨s.nextLoad, none⟩]
        nextLoad := s.nextLoad + 1 } := by
  unfold refresh
  split
  · exact .inl rfl
  · rename_i hPending
    split
    · exact .inl rfl
    · rename_i hTime
      exact .inr ⟨hPending, not_lt.1 hTime, rfl⟩

theorem Sound.refresh (h : s.Sound options stringify) : s.refresh.1.Sound options stringify := by
  rcases s.refresh_cases with hSame | ⟨hNone, -, hStarted⟩
  · rw [hSame]
    exact h
  · have hLoads := h.loads
    rw [hNone] at hLoads
    have hWaiting : s.waiting = [] := by
      rw [List.eq_nil_iff_forall_not_mem]
      intro w hw
      cases hNone.symm.trans (h.waiting w hw)
    rw [hStarted]
    refine ⟨?_, h.value, h.failed, h.retryAt, ?_, h.answers⟩
    · show (s.loads ++ [(⟨s.nextLoad, none⟩ : SnapshotLoad)]).map (·.id) = [s.nextLoad]
      rw [List.map_append, hLoads]
      rfl
    · show ∀ w ∈ s.waiting, _
      rw [hWaiting]
      simp

theorem Sound.settleValue (h : s.Sound options stringify) (result : Option α) :
    (s.settleValue options stringify result).1.Sound options stringify := by
  unfold PublicReadSnapshot.settleValue
  split
  · rename_i data hData
    obtain ⟨-, hSize⟩ := Option.filter_eq_some_iff.1 hData
    rw [decide_eq_true_eq] at hSize
    refine ⟨h.loads, ?_, rfl, rfl, h.waiting, h.answers⟩
    rintro v hv
    cases hv
    exact ⟨rfl, rfl, hSize⟩
  · exact ⟨h.loads, h.value, rfl, rfl, h.waiting, h.answers⟩

theorem Sound.settle (h : s.Sound options stringify) {id : Nat} {result : Option α}
    (hStep : s.settle options stringify id result = some s') : s'.Sound options stringify := by
  unfold PublicReadSnapshot.settle at hStep
  split at hStep
  · cases hStep
    have hSettled := h.settleValue result
    refine ⟨?_, hSettled.value, hSettled.failed, hSettled.retryAt, hSettled.waiting,
      hSettled.answers⟩
    have hPending : (s.settleValue options stringify result).1.pending = s.pending := by
      unfold PublicReadSnapshot.settleValue
      split <;> rfl
    show (s.loads.map _).map SnapshotLoad.id =
      (s.settleValue options stringify result).1.pending.toList
    rw [hPending, ← h.loads, List.map_map]
    refine List.map_congr_left fun load _ => ?_
    rw [Function.comp_apply]
    split <;> rfl
  · cases hStep

theorem Sound.finish (h : s.Sound options stringify) {id : Nat} (hStep : s.finish id = some s') :
    s'.Sound options stringify := by
  obtain ⟨load, hFound, hRest⟩ := Option.bind_eq_some_iff.1 hStep
  obtain ⟨ok, hSettled, hEq⟩ := Option.bind_eq_some_iff.1 hRest
  cases hEq
  have hMem : load.id ∈ s.pending.toList := by
    rw [← h.loads]
    exact List.mem_map_of_mem (List.mem_of_find?_eq_some hFound)
  have hId : load.id = id := by simpa using List.find?_some hFound
  have hPending : s.pending = some id := by
    rw [← hId]
    exact Option.mem_toList.1 hMem
  refine ⟨?_, h.value, h.failed, h.retryAt, ?_, h.answers⟩
  · show (s.loads.filter _).map SnapshotLoad.id =
      (if s.pending = some id then none else s.pending).toList
    rw [if_pos hPending, Option.toList_none, List.map_eq_nil_iff, List.filter_eq_nil_iff]
    intro other hOther
    have hOtherMem : other.id ∈ s.pending.toList := by
      rw [← h.loads]
      exact List.mem_map_of_mem hOther
    rw [hPending, Option.toList_some, List.mem_singleton] at hOtherMem
    simp [hOtherMem]
  · intro w hw
    obtain ⟨hOld, hNe⟩ := List.mem_filter.1 hw
    have hAwaited := h.waiting w hOld
    rw [hPending] at hAwaited
    cases hAwaited
    simp at hNe

theorem readState_cases (options : SnapshotOptions) (s : PublicReadSnapshot α) :
    s.readState options = s ∨ s.readState options = s.refresh.1 := by
  unfold readState
  dsimp only
  split
  · exact .inr rfl
  · exact .inl rfl

theorem Sound.readState (h : s.Sound options stringify) :
    (s.readState options).Sound options stringify := by
  rcases s.readState_cases options with hSame | hRefreshed
  · rw [hSame]
    exact h
  · rw [hRefreshed]
    exact h.refresh

theorem rest_readState (options : SnapshotOptions) (s : PublicReadSnapshot α) :
    (s.readState options).value = s.value ∧ (s.readState options).now = s.now ∧
      (s.readState options).answers = s.answers := by
  rcases s.readState_cases options with hSame | hRefreshed
  · rw [hSame]
    exact ⟨rfl, rfl, rfl⟩
  · rw [hRefreshed]
    rcases s.refresh_cases with hSame | ⟨-, -, hStarted⟩
    · rw [hSame]
      exact ⟨rfl, rfl, rfl⟩
    · rw [hStarted]
      exact ⟨rfl, rfl, rfl⟩

/-- A reader is served, waits for the pending load, or is turned away. -/
inductive ReadsTo (options : SnapshotOptions) (s : PublicReadSnapshot α) (reader : ReaderId) :
    PublicReadSnapshot α → Prop
  | served (value : StoredSnapshot α)
      (hUsable : (s.readState options).usable? options = some value) :
      ReadsTo options s reader
        ((s.readState options).answer reader (some ((s.readState options).serve options value)))
  | waits (id : Nat) (hUsable : (s.readState options).usable? options = none)
      (hPending : (s.readState options).pending = some id) :
      ReadsTo options s reader
        { s.readState options with waiting := (s.readState options).waiting ++ [(reader, id)] }
  | refused (hUsable : (s.readState options).usable? options = none) :
      ReadsTo options s reader ((s.readState options).answer reader none)

theorem readsTo_read : s.ReadsTo options reader (s.read options reader) := by
  rw [PublicReadSnapshot.read]
  split
  · rename_i value hUsable
    exact .served value hUsable
  · rename_i hUsable
    split
    · rename_i id hPending
      exact .waits id hUsable hPending
    · exact .refused hUsable

theorem Sound.read (h : s.Sound options stringify) :
    (s.read options reader).Sound options stringify := by
  have hState := h.readState
  have hReads : s.ReadsTo options reader (s.read options reader) := readsTo_read
  generalize s.read options reader = s' at hReads
  cases hReads with
  | served value hUsable =>
      refine hState.answer fun r hr => ?_
      cases hr
      exact (serves_of_usable hState hUsable).etag
  | waits id hUsable hPending =>
      refine ⟨hState.loads, hState.value, hState.failed, hState.retryAt, ?_, hState.answers⟩
      intro w hw
      rcases List.mem_append.1 hw with hOld | hNew
      · exact hState.waiting w hOld
      · rw [List.mem_singleton.1 hNew]
        exact hPending
  | refused hUsable => exact hState.answer fun r hr => by cases hr

theorem resume_cases (h : s.resume options reader = some s') :
    ∃ ready, s' = { s with ready, answers := (reader, none) :: s.answers } ∨
      ∃ value, s.usable? options = some value ∧
        s' = { s with ready, answers := (reader, some (s.serve options value)) :: s.answers } := by
  obtain ⟨⟨r, ok⟩, -, hEq⟩ := Option.bind_eq_some_iff.1 h
  cases hEq
  refine ⟨s.ready.eraseP fun waiting => waiting.1 = reader, ?_⟩
  cases ok with
  | false => exact .inl rfl
  | true =>
      cases hUsable : s.usable? options with
      | none =>
          left
          show PublicReadSnapshot.answer _ reader ((s.usable? options).map _) = _
          rw [hUsable]
          rfl
      | some value =>
          right
          refine ⟨value, rfl, ?_⟩
          show PublicReadSnapshot.answer _ reader ((s.usable? options).map _) = _
          rw [hUsable]
          rfl

theorem Sound.resume (h : s.Sound options stringify) (hStep : s.resume options reader = some s') :
    s'.Sound options stringify := by
  obtain ⟨ready, rfl | ⟨value, hUsable, rfl⟩⟩ := resume_cases hStep
  · have hAnswered : (s.answer reader none).Sound options stringify :=
      h.answer fun r hr => by cases hr
    exact ⟨h.loads, h.value, h.failed, h.retryAt, h.waiting, hAnswered.answers⟩
  · have hAnswered : (s.answer reader (some (s.serve options value))).Sound options stringify := by
      refine h.answer fun r hr => ?_
      cases hr
      exact (serves_of_usable h hUsable).etag
    exact ⟨h.loads, h.value, h.failed, h.retryAt, h.waiting, hAnswered.answers⟩

theorem Sound.step (h : s.Sound options stringify) (hStep : s.step options stringify e = some s') :
    s'.Sound options stringify := by
  cases e with
  | setClock now =>
      cases hStep
      exact ⟨h.loads, h.value, h.failed, h.retryAt, h.waiting, h.answers⟩
  | refresh =>
      cases hStep
      exact h.refresh
  | settle id result => exact h.settle hStep
  | finish id => exact h.finish hStep
  | read reader =>
      cases hStep
      exact h.read
  | resume reader => exact h.resume hStep
  | close =>
      cases hStep
      exact ⟨h.loads, h.value, h.failed, h.retryAt, h.waiting, h.answers⟩
  | drop =>
      rw [PublicReadSnapshot.step] at hStep
      split at hStep
      · cases hStep
        exact ⟨h.loads, by simp, h.failed, h.retryAt, h.waiting, h.answers⟩
      · cases hStep

theorem sound_new {now : Int} : (PublicReadSnapshot.new α now).Sound options stringify := by
  constructor <;> simp [PublicReadSnapshot.new, lastFailed, retryAfter]

theorem sound_of_run {now : Int} {es : List (SnapshotEvent α)}
    (hRun : run (PublicReadSnapshot.step options stringify) (.new α now) es = some s) :
    s.Sound options stringify :=
  run_invariant (fun _ _ _ h hStep => Sound.step h hStep) sound_new hRun

/-! ### Answers -/

/-- Only readers are answered, each with the value of that moment. -/
theorem answer_of_step (h : s.Sound options stringify)
    (hStep : s.step options stringify e = some s')
    (hAnswer : s'.answers = (reader, some r) :: s.answers) :
    ∃ loadedAt, s'.Serves options stringify r loadedAt := by
  have hNo : ∀ {β : Type} {a : β} {l : List β}, l ≠ a :: l := fun {_ a l} hEq =>
    List.cons_ne_self a l hEq.symm
  cases e with
  | setClock now | close =>
      cases hStep
      exact absurd hAnswer hNo
  | refresh =>
      cases hStep
      rcases s.refresh_cases with hSame | ⟨-, -, hStarted⟩
      · rw [hSame] at hAnswer
        exact absurd hAnswer hNo
      · rw [hStarted] at hAnswer
        exact absurd hAnswer hNo
  | settle id result =>
      replace hStep : s.settle options stringify id result = some s' := hStep
      have hAnswers : s'.answers = s.answers := by
        unfold PublicReadSnapshot.settle PublicReadSnapshot.settleValue at hStep
        split at hStep
        · cases hStep
          dsimp only
          split <;> rfl
        · cases hStep
      rw [hAnswers] at hAnswer
      exact absurd hAnswer hNo
  | finish id =>
      obtain ⟨load, -, hRest⟩ := Option.bind_eq_some_iff.1 hStep
      obtain ⟨ok, -, hEq⟩ := Option.bind_eq_some_iff.1 hRest
      cases hEq
      exact absurd hAnswer hNo
  | read other =>
      cases hStep
      obtain ⟨-, -, hAnswers⟩ := rest_readState options s
      have hReads : s.ReadsTo options other (s.read options other) := readsTo_read
      generalize s.read options other = s' at hReads hAnswer
      cases hReads with
      | served value hUsable =>
          obtain ⟨hServed, -⟩ := List.cons.inj hAnswer
          cases hServed
          exact ⟨_, (serves_of_usable h.readState hUsable).of_eq rfl rfl⟩
      | waits id hUsable hPending =>
          rw [← hAnswers] at hAnswer
          exact absurd hAnswer hNo
      | refused hUsable =>
          obtain ⟨hServed, -⟩ := List.cons.inj hAnswer
          cases hServed
  | resume other =>
      obtain ⟨ready, rfl | ⟨value, hUsable, rfl⟩⟩ := resume_cases hStep
      · obtain ⟨hServed, -⟩ := List.cons.inj hAnswer
        cases hServed
      · obtain ⟨hServed, -⟩ := List.cons.inj hAnswer
        cases hServed
        exact ⟨_, (serves_of_usable h hUsable).of_eq rfl rfl⟩
  | drop =>
      rw [PublicReadSnapshot.step] at hStep
      split at hStep
      · cases hStep
        exact absurd hAnswer hNo
      · cases hStep

theorem answers_read_of_usable (hUsable : s.usable? options = some value) :
    ∃ r, (s.read options reader).answers = (reader, some r) :: s.answers := by
  obtain ⟨hValue, hNow, hAnswers⟩ := rest_readState options s
  have hStill : (s.readState options).usable? options = some value := by
    rw [← hUsable, usable?, usable?, hValue, hNow]
  refine ⟨(s.readState options).serve options value, ?_⟩
  rw [PublicReadSnapshot.read, hStill, ← hAnswers]
  rfl

/-- Whatever the clock, the loads and the readers do: a reader is served the newest data that a load
returned, within the age limit and marked as it is; and one that comes while it is young enough is
served at once. -/
theorem readers_served_newest {now : Int} {es : List (SnapshotEvent α)}
    (hRun : run (PublicReadSnapshot.step options stringify) (.new α now) es = some s) :
    (∀ e s' reader r, s.step options stringify e = some s' →
      s'.answers = (reader, some r) :: s.answers →
        ∃ loadedAt, s'.Serves options stringify r loadedAt) ∧
    ∀ reader value, s.usable? options = some value →
      ∃ r, (s.read options reader).answers = (reader, some r) :: s.answers :=
  ⟨fun _ _ _ _ hStep hAnswer => answer_of_step (sound_of_run hRun) hStep hAnswer,
    fun _ _ hUsable => answers_read_of_usable hUsable⟩

/-- A load returns, and thirteen seconds later the next one throws. -/
def failedReload : List (SnapshotEvent Nat) :=
  [.read 0, .settle 0 (some 7), .finish 0, .resume 0, .setClock 13000, .read 1, .settle 1 none,
    .finish 1, .setClock 14000]

theorem stale_read_served : ∃ s ∈
    run (PublicReadSnapshot.step defaultOptions fun _ => "7") (.new Nat 0) failedReload,
    (∀ e s' reader r, s.step defaultOptions (fun _ => "7") e = some s' →
      s'.answers = (reader, some r) :: s.answers →
        ∃ loadedAt, s'.Serves defaultOptions (fun _ => "7") r loadedAt) ∧
    ∃ r, (s.read defaultOptions 2).answers = (2, some r) :: s.answers ∧ r.state = .stale := by
  have hExists : ∃ s ∈
      run (PublicReadSnapshot.step defaultOptions fun _ => "7") (.new Nat 0) failedReload,
      (s.usable? defaultOptions).isSome ∧
        ∀ a ∈ (s.read defaultOptions 2).answers.head?, ∀ r ∈ a.2, r.state = .stale := by
    decide +kernel
  obtain ⟨s, hRun, hSome, hStale⟩ := hExists
  obtain ⟨value, hUsable⟩ := Option.isSome_iff_exists.1 hSome
  obtain ⟨hServed, hAtOnce⟩ := readers_served_newest hRun
  obtain ⟨r, hAnswers⟩ := hAtOnce 2 value hUsable
  refine ⟨s, hRun, hServed, r, hAnswers, ?_⟩
  rw [hAnswers] at hStale
  exact hStale _ rfl r rfl

/-! ### Loads -/

theorem nextLoad_of_step (hStep : s.step options stringify e = some s') :
    s'.nextLoad = s.nextLoad ∨ s.pending = none ∧ s.retryAt ≤ s.now := by
  have hRefresh : s.refresh.1.nextLoad = s.nextLoad ∨ s.pending = none ∧ s.retryAt ≤ s.now := by
    rcases s.refresh_cases with hSame | ⟨hNone, hTime, -⟩
    · exact .inl (congrArg PublicReadSnapshot.nextLoad hSame)
    · exact .inr ⟨hNone, hTime⟩
  have hState : (s.readState options).nextLoad = s.nextLoad ∨
      s.pending = none ∧ s.retryAt ≤ s.now := by
    rcases s.readState_cases options with hSame | hRefreshed
    · exact .inl (congrArg PublicReadSnapshot.nextLoad hSame)
    · rw [hRefreshed]
      exact hRefresh
  cases e with
  | setClock now | close =>
      cases hStep
      exact .inl rfl
  | refresh =>
      cases hStep
      exact hRefresh
  | settle id result =>
      replace hStep : s.settle options stringify id result = some s' := hStep
      left
      unfold PublicReadSnapshot.settle PublicReadSnapshot.settleValue at hStep
      split at hStep
      · cases hStep
        dsimp only
        split <;> rfl
      · cases hStep
  | finish id =>
      obtain ⟨load, -, hRest⟩ := Option.bind_eq_some_iff.1 hStep
      obtain ⟨ok, -, hEq⟩ := Option.bind_eq_some_iff.1 hRest
      cases hEq
      exact .inl rfl
  | read other =>
      cases hStep
      have hReads : s.ReadsTo options other (s.read options other) := readsTo_read
      generalize s.read options other = s' at hReads
      cases hReads with
      | served value hUsable => exact hState
      | waits id hUsable hPending => exact hState
      | refused hUsable => exact hState
  | resume other =>
      obtain ⟨ready, rfl | ⟨value, -, rfl⟩⟩ := resume_cases hStep
      · exact .inl rfl
      · exact .inl rfl
  | drop =>
      rw [PublicReadSnapshot.step] at hStep
      split at hStep
      · cases hStep
        exact .inl rfl
      · cases hStep

/-- However many readers there are: one load at a time, for which all that wait are waiting, and
none before the pause after a failure is over. -/
theorem loads_shared_and_spaced {now : Int} {es : List (SnapshotEvent α)}
    (hRun : run (PublicReadSnapshot.step options stringify) (.new α now) es = some s) :
    s.loads.length ≤ 1 ∧ (∀ w ∈ s.waiting, ∃ load, s.loads = [load] ∧ load.id = w.2) ∧
      ∀ e s', s.step options stringify e = some s' → s'.nextLoad ≠ s.nextLoad →
        s.loads = [] ∧ retryAfter options s.outcomes ≤ s.now := by
  have h := sound_of_run hRun
  have hLoads := h.loads
  refine ⟨?_, fun w hw => ?_, fun e s' hStep hStarted => ?_⟩
  · rw [← List.length_map SnapshotLoad.id, hLoads]
    cases s.pending <;> simp
  · rw [h.waiting w hw, Option.toList_some, List.map_eq_singleton_iff] at hLoads
    obtain ⟨load, hLoad, hId⟩ := hLoads
    exact ⟨load, hLoad, hId⟩
  · rcases nextLoad_of_step hStep with hSame | ⟨hNone, hTime⟩
    · exact absurd hSame hStarted
    · rw [hNone, Option.toList_none, List.map_eq_nil_iff] at hLoads
      rw [← h.retryAt]
      exact ⟨hLoads, hTime⟩

theorem readers_share_load : ∃ s ∈
    run (PublicReadSnapshot.step defaultOptions fun _ => "7") (.new Nat 0)
      [.read 0, .read 1, .read 2],
    s.waiting.length = 3 ∧ s.loads.length ≤ 1 ∧
      (∀ w ∈ s.waiting, ∃ load, s.loads = [load] ∧ load.id = w.2) ∧
      ∀ e s', s.step defaultOptions (fun _ => "7") e = some s' → s'.nextLoad ≠ s.nextLoad →
        s.loads = [] ∧ retryAfter defaultOptions s.outcomes ≤ s.now := by
  have hExists : ∃ s ∈ run (PublicReadSnapshot.step defaultOptions fun _ => "7") (.new Nat 0)
      [.read 0, .read 1, .read 2], s.waiting.length = 3 := by
    decide +kernel
  obtain ⟨s, hRun, hThree⟩ := hExists
  exact ⟨s, hRun, hThree, loads_shared_and_spaced hRun⟩

end PublicReadSnapshot

end Hyperspace.Http
