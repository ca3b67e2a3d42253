import Hyperspace.Foundations.Windows
import Hyperspace.Metering.Counters

/-!
# Traffic that is counted once

The usage of a sample is counted from the latest earlier sample that its statement has read. A
sample that comes late, or beside another one, is counted from a sample that a later one has been
counted from already, and the traffic between them is billed twice.
-/

namespace Hyperspace.Metering

open Hyperspace.Billing (SessionId Timestamp)
open Hyperspace.ControlPlane Hyperspace.Foundations Hyperspace.Provisioning

/-- The true counters at each time. -/
abbrev Traffic := CounterKey → Timestamp → Counters

/-- The true counters under a key only grow. -/
def Traffic.Grows (traffic : Traffic) (key : CounterKey) : Prop :=
  ∀ c, Monotone fun t => traffic key t c

/-- The sample shows the true counters. -/
def CounterSample.Shows (s : CounterSample) (traffic : Traffic) : Prop :=
  s.counters = traffic s.key s.sampledAt

/-- What a gate reports under a key is true. -/
def MeteringEvent.IsTrue (traffic : Traffic) (key : CounterKey) : MeteringEvent → Prop
  | .start gateId bootId counter => ∀ b ∈ bootId, (counter.sample gateId b).key = key →
      (counter.sample gateId b).Shows traffic
  | .finish _ | .abort _ | .assign .. | .entitle _ => True

namespace MeteringDb

variable {db db' db₀ : MeteringDb} {traffic : Traffic} {e : MeteringEvent} {st : CounterStatement}
  {es : List MeteringEvent}

/-! ### What is counted -/

/-- The sum of the usage that was inserted for the counters under a key. -/
def usage (db : MeteringDb) (key : CounterKey) (c : Counter) : Int :=
  ((db.deltas.filter fun d => d.key = key).map fun d => (d.counters c : Int)).sum

/-- The values of a counter in the samples under a key. -/
def delivered (db : MeteringDb) (key : CounterKey) (c : Counter) : List Nat :=
  (db.samples.rows.filter fun s => s.key = key).map (·.counters c)

/-- The largest delivered sample less the smallest one. -/
def spread (db : MeteringDb) (key : CounterKey) (c : Counter) : Int :=
  ((db.delivered key c).max?.getD 0 : Int) - (db.delivered key c).min?.getD 0

/-- The payload of a session, as its egress gates report it. -/
def sessionPayload (db : MeteringDb) (id : SessionId) : Int :=
  ((db.deltas.filter fun d => d.role = .egress && d.key.assignmentId.1 = id).map
    fun d => (d.payloadBytes : Int)).sum

/-- A counter of an assignment, as egress gates report it. -/
def egressUsage (db : MeteringDb) (id : AssignmentId) (c : Counter) : Int :=
  ((db.deltas.filter fun d => d.role = .egress && d.key.assignmentId = id).map
    fun d => (d.counters c : Int)).sum

/-- A figure of the totals of an assignment. -/
def total (db : MeteringDb) (figure : UsageTotals → Int) (id : AssignmentId) : Int :=
  (db.usageTotals id).elim 0 figure

/-- No statement has run yet. -/
structure IsFresh (db : MeteringDb) : Prop where
  samples : db.samples.rows = []
  deltas : db.deltas = []
  statements : db.statements = []

/-- When a statement stores a sample under the key, nothing between the sample and its baseline was
billed before. -/
def NotBilledYet (key : CounterKey) (db : MeteringDb) : MeteringEvent → Prop
  | .finish n => ∀ st ∈ db.statements[n]?, st.sample.key = key → st.target →
      ¬ db.samples.HasKey st.sample.id →
      ∀ p ∈ st.previous, ∀ d ∈ db.deltas, d.key = key → d.windowStart < d.windowEnd →
        Apart p.sampledAt st.sample.sampledAt d.windowStart d.windowEnd
  | .start .. | .abort _ | .assign .. | .entitle _ => True

/-- When a statement for a sample under the key ends, no sample is later than its own, and none was
stored since it has started. -/
def InOrder (key : CounterKey) (db : MeteringDb) : MeteringEvent → Prop
  | .finish n => ∀ st ∈ db.statements[n]?, st.sample.key = key →
      (∀ s ∈ db.samples.rows, s.key = key → s.sampledAt ≤ st.sample.sampledAt) ∧
        st.previous = db.previousSample st.sample
  | .start .. | .abort _ | .assign .. | .entitle _ => True

/-- What a run that ends in `db` has counted of the counters under a key. -/
structure CountedOnce (key : CounterKey) (db₀ : MeteringDb) (es : List MeteringEvent)
    (db : MeteringDb) : Prop where
  bounded : ∀ c, db.usage key c ≤ db.spread key c
  consumed : ∀ id bytes, db₀.consumedBytes id = some bytes →
    db.consumedBytes id = some (bytes + db.sessionPayload id)
  toDestination : ∀ id, db.total (·.bytesToDestination) id =
    db₀.total (·.bytesToDestination) id + db.egressUsage id .forwardedToDestinationBytes
  fromDestination : ∀ id, db.total (·.bytesFromDestination) id =
    db₀.total (·.bytesFromDestination) id + db.egressUsage id .forwardedFromDestinationBytes
  exact_inOrder : StepsMeet step (InOrder key) db₀ es → ∀ c, db.usage key c = db.spread key c

/-! ### Steps -/

/-- What a statement leaves that stores its sample. -/
def stored (db : MeteringDb) (st : CounterStatement) (samples : Table CounterSample.id) :
    MeteringDb :=
  ({ db with samples }.insertUsageDelta st.usageDelta).addSessionUsage st.usageDelta st.entitled

theorem stored_samples {samples : Table CounterSample.id} :
    (db.stored st samples).samples = samples := by
  rw [stored, addSessionUsage, insertUsageDelta, accumulateGateAssignmentUsage]
  split <;> split <;> rfl

theorem stored_deltas {samples : Table CounterSample.id} :
    (db.stored st samples).deltas = db.deltas ++ [st.usageDelta] := by
  rw [stored, addSessionUsage, insertUsageDelta, accumulateGateAssignmentUsage]
  split <;> split <;> rfl

theorem stored_statements {samples : Table CounterSample.id} :
    (db.stored st samples).statements = db.statements := by
  rw [stored, addSessionUsage, insertUsageDelta, accumulateGateAssignmentUsage]
  split <;> split <;> rfl

theorem stored_consumedBytes {samples : Table CounterSample.id} :
    (db.stored st samples).consumedBytes =
      if st.sample.role = .egress ∧ st.entitled then
        Function.update db.consumedBytes st.sample.key.assignmentId.1
          ((db.consumedBytes st.sample.key.assignmentId.1).map (· + st.usageDelta.payloadBytes))
      else db.consumedBytes := by
  have hUnchanged : ({ db with samples }.insertUsageDelta st.usageDelta).consumedBytes =
      db.consumedBytes := by
    rw [insertUsageDelta, accumulateGateAssignmentUsage]
    split <;> rfl
  rw [stored, addSessionUsage]
  simp only [hUnchanged]
  by_cases hEgress : st.usageDelta.role = .egress ∧ st.entitled
  · rw [if_pos hEgress]
    exact (if_pos hEgress).symm
  · rw [if_neg hEgress, hUnchanged]
    exact (if_neg hEgress).symm

theorem stored_usageTotals {samples : Table CounterSample.id} :
    (db.stored st samples).usageTotals =
      if st.sample.role = .egress then
        Function.update db.usageTotals st.sample.key.assignmentId
          (some (accumulate st.usageDelta (db.usageTotals st.sample.key.assignmentId)))
      else db.usageTotals := by
  have hUnchanged : (db.stored st samples).usageTotals =
      ({ db with samples }.insertUsageDelta st.usageDelta).usageTotals := by
    rw [stored, addSessionUsage]
    split <;> rfl
  rw [hUnchanged, insertUsageDelta, accumulateGateAssignmentUsage]
  by_cases hEgress : st.usageDelta.role = .egress
  · rw [if_pos hEgress]
    exact (if_pos hEgress).symm
  · rw [if_neg hEgress]
    exact (if_neg hEgress).symm

/-- What a step does. -/
inductive Change (db : MeteringDb) : MeteringEvent → MeteringDb → Prop where
  | started (gateId : GateId) (bootId : BootId) (counter : GateAssignmentCounterReport) :
      Change db (.start gateId (some bootId) counter) { db with
        statements := db.statements ++ [db.readCounterStatement (counter.sample gateId bootId)] }
  | stored (n : Nat) (st : CounterStatement) (samples : Table CounterSample.id)
      (running : db.statements[n]? = some st) (target : st.target)
      (inserted : db.samples.insert st.sample = some samples) :
      Change db (.finish n)
        ({ db with statements := db.statements.eraseIdx n }.stored st samples)
  | other (e : MeteringEvent) (db' : MeteringDb) (samples : db'.samples = db.samples)
      (deltas : db'.deltas = db.deltas) (usageTotals : db'.usageTotals = db.usageTotals)
      (statements : ∀ st ∈ db'.statements, st ∈ db.statements)
      (consumedBytes : ∀ id bytes, db.consumedBytes id = some bytes →
        db'.consumedBytes id = some bytes) :
      Change db e db'

theorem change_of_step (h : step db e = some db') : Change db e db' := by
  have hErased : ∀ n, ∀ st ∈ db.statements.eraseIdx n, st ∈ db.statements :=
    fun n st hMem => List.mem_of_mem_eraseIdx hMem
  cases e with
  | start gateId bootId counter =>
      cases bootId with
      | none =>
          cases h
          exact .other _ _ rfl rfl rfl (fun _ h => h) fun _ _ h => h
      | some bootId =>
          cases h
          exact .started gateId bootId counter
  | finish n =>
      obtain ⟨st, hRunning, rfl⟩ := Option.map_eq_some_iff.1 h
      rw [writeCounterStatement]
      by_cases hTarget : st.target
      · rw [if_pos hTarget]
        cases hInsert : db.samples.insert st.sample with
        | none => exact .other _ _ rfl rfl rfl (hErased n) fun _ _ h => h
        | some samples => exact .stored n st samples hRunning hTarget hInsert
      · rw [if_neg hTarget]
        exact .other _ _ rfl rfl rfl (hErased n) fun _ _ h => h
  | abort n =>
      rw [step] at h
      split at h
      · cases h
        exact .other _ _ rfl rfl rfl (hErased n) fun _ _ h => h
      · cases h
  | assign =>
      cases h
      exact .other _ _ rfl rfl rfl (fun _ h => h) fun _ _ h => h
  | entitle id =>
      cases h
      refine .other _ _ rfl rfl rfl (fun _ h => h) fun id' bytes hBytes => ?_
      by_cases hSame : id' = id
      · subst hSame
        simp [hBytes]
      · simp [hSame, hBytes]

/-! ### True samples -/

theorem previousSample_eq_some {s p : CounterSample} (h : db.previousSample s = some p) :
    p ∈ db.samples.rows ∧ p.key = s.key ∧ p.sampledAt < s.sampledAt := by
  obtain ⟨hRow, hFound⟩ := List.mem_filter.1 (List.argmax_mem h)
  simp only [Bool.and_eq_true, decide_eq_true_eq] at hFound
  exact ⟨hRow, hFound.1, hFound.2⟩

/-- The samples under a key and what is counted from them show the true counters. -/
structure Truthful (db : MeteringDb) (traffic : Traffic) (key : CounterKey) : Prop where
  samples : ∀ s ∈ db.samples.rows, s.key = key → s.Shows traffic
  statements : ∀ st ∈ db.statements, st.sample.key = key → st.sample.Shows traffic
  previous : ∀ st ∈ db.statements, ∀ p ∈ st.previous,
    p ∈ db.samples.rows ∧ p.key = st.sample.key ∧ p.sampledAt < st.sample.sampledAt
  windows : ∀ d ∈ db.deltas, d.windowStart ≤ d.windowEnd ∧
    (∃ s ∈ db.samples.rows, s.id = (d.key, d.windowStart)) ∧
    ∃ s ∈ db.samples.rows, s.id = (d.key, d.windowEnd)
  counters : ∀ d ∈ db.deltas, d.key = key → ∀ c, d.counters c =
    traffic key d.windowEnd c - traffic key d.windowStart c

theorem Truthful.of_fresh {key : CounterKey} (h : db.IsFresh) : db.Truthful traffic key := by
  constructor <;> simp [h.samples, h.deltas, h.statements]

/-- The window of a new delta begins and ends at samples. -/
theorem Truthful.usageDelta_window {key : CounterKey} (h : db.Truthful traffic key)
    (hRunning : st ∈ db.statements) :
    st.usageDelta.windowStart ≤ st.usageDelta.windowEnd ∧
      (∃ s ∈ db.samples.rows ++ [st.sample],
        s.id = (st.usageDelta.key, st.usageDelta.windowStart)) ∧
      ∃ s ∈ db.samples.rows ++ [st.sample],
        s.id = (st.usageDelta.key, st.usageDelta.windowEnd) := by
  have hEnd : st.sample ∈ db.samples.rows ++ [st.sample] :=
    List.mem_append_right _ (List.mem_singleton_self _)
  cases hPrevious : st.previous with
  | none =>
      rw [CounterStatement.usageDelta, hPrevious]
      exact ⟨le_rfl, ⟨st.sample, hEnd, rfl⟩, st.sample, hEnd, rfl⟩
  | some p =>
      obtain ⟨hRow, hKey, hEarlier⟩ := h.previous st hRunning p hPrevious
      rw [CounterStatement.usageDelta, hPrevious]
      exact ⟨hEarlier.le, ⟨p, List.mem_append_left _ hRow, by rw [CounterSample.id, hKey]; rfl⟩,
        st.sample, hEnd, rfl⟩

theorem Truthful.usageDelta_counters {key : CounterKey} (h : db.Truthful traffic key)
    (hRunning : st ∈ db.statements) (hSame : st.sample.key = key) (c : Counter) :
    st.usageDelta.counters c =
      traffic key st.usageDelta.windowEnd c - traffic key st.usageDelta.windowStart c := by
  have hShows := h.statements st hRunning
  cases hPrevious : st.previous with
  | none => simp only [CounterStatement.usageDelta, hPrevious, Option.getD_none,
      Option.elim_none, Nat.sub_self]
  | some p =>
      obtain ⟨hRow, hKey, -⟩ := h.previous st hRunning p hPrevious
      simp only [CounterStatement.usageDelta, hPrevious, Option.getD_some, Option.elim_some]
      rw [hShows hSame, h.samples p hRow (hKey.trans hSame), hKey, hSame]

theorem Truthful.change {key : CounterKey} (h : db.Truthful traffic key)
    (hTrue : e.IsTrue traffic key) (hChange : Change db e db') : db'.Truthful traffic key := by
  cases hChange with
  | started gateId bootId counter =>
      refine { h with statements := fun st hst => ?_, previous := fun st hst => ?_ }
      · rcases List.mem_append.1 hst with hOld | hNew
        · exact h.statements st hOld
        · rw [List.mem_singleton.1 hNew]
          exact hTrue bootId rfl
      · rcases List.mem_append.1 hst with hOld | hNew
        · exact h.previous st hOld
        · rw [List.mem_singleton.1 hNew]
          exact fun p hp => previousSample_eq_some hp
  | stored n st samples running target inserted =>
      have hRunning : st ∈ db.statements := List.mem_of_getElem? running
      have hRows : samples.rows = db.samples.rows ++ [st.sample] :=
        (Table.insert_eq_some inserted).2
      have hShows := h.statements st hRunning
      constructor
      · intro s hs
        rw [stored_samples, hRows] at hs
        rcases List.mem_append.1 hs with hOld | hNew
        · exact h.samples s hOld
        · rw [List.mem_singleton.1 hNew]
          exact hShows
      · intro st' hst'
        rw [stored_statements] at hst'
        exact h.statements st' (List.mem_of_mem_eraseIdx hst')
      · intro st' hst' p hp
        rw [stored_statements] at hst'
        obtain ⟨hRow, hSame⟩ := h.previous st' (List.mem_of_mem_eraseIdx hst') p hp
        rw [stored_samples, hRows]
        exact ⟨List.mem_append_left _ hRow, hSame⟩
      · intro d hd
        rw [stored_samples, hRows]
        rw [stored_deltas] at hd
        rcases List.mem_append.1 hd with hOld | hNew
        · obtain ⟨hOrder, ⟨s, hs, hStart⟩, t, ht, hEnd⟩ := h.windows d hOld
          exact ⟨hOrder, ⟨s, List.mem_append_left _ hs, hStart⟩, t, List.mem_append_left _ ht, hEnd⟩
        · rw [List.mem_singleton.1 hNew]
          exact h.usageDelta_window hRunning
      · intro d hd hSame c
        rw [stored_deltas] at hd
        rcases List.mem_append.1 hd with hOld | hNew
        · exact h.counters d hOld hSame c
        · rw [List.mem_singleton.1 hNew] at hSame ⊢
          exact h.usageDelta_counters hRunning hSame c
  | other e db' samples deltas usageTotals statements consumedBytes =>
      constructor
      · rw [samples]
        exact h.samples
      · exact fun st hst => h.statements st (statements st hst)
      · rw [samples]
        exact fun st hst => h.previous st (statements st hst)
      · rw [samples, deltas]
        exact h.windows
      · rw [deltas]
        exact h.counters

/-! ### Windows that are apart -/

/-- The usage under a key that was counted over some time. -/
def billed (db : MeteringDb) (key : CounterKey) : List UsageDelta :=
  db.deltas.filter fun d => d.key = key && d.windowStart < d.windowEnd

def WindowsApart (db : MeteringDb) (key : CounterKey) : Prop :=
  (db.billed key).Pairwise fun d d' => Apart d.windowStart d.windowEnd d'.windowStart d'.windowEnd

section

variable {key : CounterKey} {c : Counter} {samples : Table CounterSample.id}

theorem mem_billed {d : UsageDelta} :
    d ∈ db.billed key ↔ d ∈ db.deltas ∧ d.key = key ∧ d.windowStart < d.windowEnd := by
  simp [billed]

theorem WindowsApart.change (h : db.WindowsApart key) (hMeet : db.NotBilledYet key e)
    (hChange : Change db e db') : db'.WindowsApart key := by
  cases hChange with
  | started => exact h
  | stored n st samples running target inserted =>
      have hFree := (Table.insert_eq_some inserted).1
      rw [WindowsApart, billed, stored_deltas, List.filter_append, List.pairwise_append]
      refine ⟨h, (List.pairwise_singleton _ _).sublist List.filter_sublist, ?_⟩
      intro d hd d' hd'
      obtain ⟨hOld, hKey, hLong⟩ := mem_billed.1 hd
      obtain ⟨hNew, hFound⟩ := List.mem_filter.1 hd'
      rw [List.mem_singleton.1 hNew] at hFound ⊢
      simp only [Bool.and_eq_true, decide_eq_true_eq] at hFound
      cases hPrevious : st.previous with
      | none => simp [CounterStatement.usageDelta, hPrevious] at hFound
      | some p =>
          have hApart := hMeet st running hFound.1 target hFree p hPrevious d hOld hKey hLong
          rw [CounterStatement.usageDelta, hPrevious]
          exact hApart.symm
  | other e db' samples deltas =>
      rw [WindowsApart, billed, deltas]
      exact h

theorem usage_eq_billed (h : db.Truthful traffic key) :
    db.usage key c = ((db.billed key).map fun d => (d.counters c : Int)).sum := by
  have hEmpty : ∀ d ∈ db.deltas, d.key = key → ¬ d.windowStart < d.windowEnd →
      d.counters c = 0 := by
    intro d hd hKey hShort
    have hSame := le_antisymm (h.windows d hd).1 (not_lt.1 hShort)
    rw [h.counters d hd hKey, hSame, Nat.sub_self]
  rw [usage, billed]
  generalize db.deltas = deltas at hEmpty
  induction deltas with
  | nil => rfl
  | cons d deltas ih =>
      have hRest := ih fun d hd => hEmpty d (List.mem_cons_of_mem _ hd)
      by_cases hKey : d.key = key
      · by_cases hLong : d.windowStart < d.windowEnd
        · simp [hKey, hLong, hRest]
        · simp [hKey, hLong, hRest, hEmpty d List.mem_cons_self hKey hLong]
      · simp [hKey, hRest]

theorem spread_nonneg : 0 ≤ db.spread key c := by
  rw [spread]
  cases hValues : db.delivered key c with
  | nil => simp
  | cons v values =>
      have hMax := List.le_max?_getD_of_mem (k := 0) (@List.mem_cons_self _ v values)
      have hMin := List.min?_getD_le_of_mem (k := 0) (@List.mem_cons_self _ v values)
      omega

theorem mem_delivered {s : CounterSample}
    (h : db.Truthful traffic key) (hs : s ∈ db.samples.rows) (hKey : s.key = key) :
    traffic key s.sampledAt c ∈ db.delivered key c := by
  refine List.mem_map.2 ⟨s, List.mem_filter.2 ⟨hs, decide_eq_true hKey⟩, ?_⟩
  rw [h.samples s hs hKey, hKey]

theorem usage_le_spread (h : db.Truthful traffic key) (hGrows : traffic.Grows key)
    (hApart : db.WindowsApart key) : db.usage key c ≤ db.spread key c := by
  have hMono : Monotone fun t => (traffic key t c : Int) :=
    fun t t' hLe => Int.ofNat_le.2 (hGrows c hLe)
  have hGain : ∀ d ∈ db.billed key, (d.counters c : Int) =
      traffic key d.windowEnd c - traffic key d.windowStart c := by
    intro d hd
    obtain ⟨hRow, hKey, hLong⟩ := mem_billed.1 hd
    rw [h.counters d hRow hKey, Nat.cast_sub (hGrows c hLong.le)]
  rw [usage_eq_billed h, List.map_congr_left hGain]
  have hBounds :
      (((db.delivered key c).min?.getD 0 : Nat) : Int) ≤ (db.delivered key c).max?.getD 0 := by
    have hNonneg := @spread_nonneg db key c
    rw [spread] at hNonneg
    omega
  refine sum_gain_le hMono hBounds hApart fun d hd => ?_
  obtain ⟨hRow, hKey, -⟩ := mem_billed.1 hd
  obtain ⟨hOrder, ⟨s, hs, hStart⟩, t, ht, hEnd⟩ := h.windows d hRow
  have hMin := List.min?_getD_le_of_mem (k := 0)
    (mem_delivered (c := c) h hs ((congrArg Prod.fst hStart).trans hKey))
  have hMax := List.le_max?_getD_of_mem (k := 0)
    (mem_delivered (c := c) h ht ((congrArg Prod.fst hEnd).trans hKey))
  rw [show s.sampledAt = d.windowStart from congrArg Prod.snd hStart] at hMin
  rw [show t.sampledAt = d.windowEnd from congrArg Prod.snd hEnd] at hMax
  exact ⟨hOrder, Int.ofNat_le.2 hMin, Int.ofNat_le.2 hMax⟩

end

/-! ### What grows with the usage -/

/-- An entitlement from before the run is seen by every statement of the run. -/
structure Grown (db₀ db : MeteringDb) : Prop where
  entitled : ∀ st ∈ db.statements,
    (db₀.consumedBytes st.sample.key.assignmentId.1).isSome → st.entitled
  consumed : ∀ id bytes, db₀.consumedBytes id = some bytes →
    db.consumedBytes id = some (bytes + db.sessionPayload id)

theorem Grown.of_fresh (h : db₀.IsFresh) : Grown db₀ db₀ := by
  constructor <;> simp [sessionPayload, h.deltas, h.statements]

theorem Grown.change (h : Grown db₀ db) (hChange : Change db e db') : Grown db₀ db' := by
  cases hChange with
  | started gateId bootId counter =>
      refine ⟨fun st hst hSome => ?_, h.consumed⟩
      rcases List.mem_append.1 hst with hOld | hNew
      · exact h.entitled st hOld hSome
      · rw [List.mem_singleton.1 hNew] at hSome ⊢
        obtain ⟨bytes, hBytes⟩ := Option.isSome_iff_exists.1 hSome
        exact Option.isSome_iff_exists.2 ⟨_, h.consumed _ _ hBytes⟩
  | stored n st samples running target inserted =>
      refine ⟨fun st' hst' => ?_, fun id bytes hBytes => ?_⟩
      · rw [stored_statements] at hst'
        exact h.entitled st' (List.mem_of_mem_eraseIdx hst')
      · have hOld := h.consumed id bytes hBytes
        rw [sessionPayload, stored_deltas, stored_consumedBytes, List.filter_append,
          List.map_append,
          List.sum_append, ← add_assoc]
        by_cases hMine : st.sample.key.assignmentId.1 = id
        · by_cases hEgress : st.sample.role = .egress
          · have hEntitled : st.entitled := h.entitled st (List.mem_of_getElem? running)
              (by rw [hMine, hBytes]; rfl)
            rw [if_pos ⟨hEgress, hEntitled⟩, hMine, Function.update_self]
            simp only [hOld, Option.map_some, CounterStatement.usageDelta, List.filter_singleton,
              hEgress, hMine]
            rfl
          · rw [if_neg fun hBoth => hEgress hBoth.1]
            simp only [hOld, CounterStatement.usageDelta, List.filter_singleton, hEgress]
            simp [sessionPayload]
        · have hKept : (if st.sample.role = .egress ∧ st.entitled then
                Function.update db.consumedBytes st.sample.key.assignmentId.1
                  ((db.consumedBytes st.sample.key.assignmentId.1).map
                    (· + (st.usageDelta.payloadBytes : Int)))
              else db.consumedBytes) id = db.consumedBytes id := by
            split
            · exact Function.update_of_ne (Ne.symm hMine) _ _
            · rfl
          rw [hKept, hOld]
          simp [CounterStatement.usageDelta, hMine, sessionPayload]
  | other e db' samples deltas usageTotals statements consumedBytes =>
      refine ⟨fun st hst => h.entitled st (statements st hst), fun id bytes hBytes => ?_⟩
      rw [sessionPayload, deltas]
      exact consumedBytes id _ (h.consumed id bytes hBytes)

/-- A figure of the totals that adds up a counter. -/
def Counts (figure : UsageTotals → Int) (c : Counter) : Prop :=
  ∀ d totals, figure (accumulate d totals) = totals.elim 0 figure + d.counters c

theorem counts_toDestination : Counts (·.bytesToDestination) .forwardedToDestinationBytes := by
  intro d totals
  cases totals <;> simp [accumulate]

theorem counts_fromDestination :
    Counts (·.bytesFromDestination) .forwardedFromDestinationBytes := by
  intro d totals
  cases totals <;> simp [accumulate]

theorem total_change {figure : UsageTotals → Int} {c : Counter} {id : AssignmentId}
    (hCounts : Counts figure c)
    (h : db.total figure id = db₀.total figure id + db.egressUsage id c)
    (hChange : Change db e db') :
    db'.total figure id = db₀.total figure id + db'.egressUsage id c := by
  cases hChange with
  | started => exact h
  | stored n st samples running target inserted =>
      rw [egressUsage, stored_deltas, List.filter_append, List.map_append, List.sum_append,
        ← add_assoc]
      have hOld : db₀.total figure id + (((db.deltas.filter fun d =>
          d.role = .egress && d.key.assignmentId = id).map fun d => (d.counters c : Int)).sum) =
          (db.usageTotals id).elim 0 figure := h.symm
      rw [hOld, total, stored_usageTotals]
      by_cases hMine : st.sample.key.assignmentId = id
      · by_cases hEgress : st.sample.role = .egress
        · rw [if_pos hEgress, hMine, Function.update_self, Option.elim_some, hCounts]
          simp [CounterStatement.usageDelta, hEgress, hMine]
        · rw [if_neg hEgress]
          simp [CounterStatement.usageDelta, hEgress]
      · have hKept : (if st.sample.role = .egress then
              Function.update db.usageTotals st.sample.key.assignmentId
                (some (accumulate st.usageDelta (db.usageTotals st.sample.key.assignmentId)))
            else db.usageTotals) id = db.usageTotals id := by
          split
          · exact Function.update_of_ne (Ne.symm hMine) _ _
          · rfl
        rw [hKept]
        simp [CounterStatement.usageDelta, hMine]
  | other e db' samples deltas usageTotals =>
      rw [total, usageTotals, egressUsage, deltas]
      exact h

/-! ### Samples in order -/

/-- The usage under a key is what the counters have gained from the first to the last sample. -/
def IsExact (db : MeteringDb) (key : CounterKey) : Prop :=
  ((∀ s ∈ db.samples.rows, s.key ≠ key) ∧ ∀ c, db.usage key c = 0) ∨
    ∃ first ∈ db.samples.rows, ∃ last ∈ db.samples.rows, first.key = key ∧ last.key = key ∧
      (∀ s ∈ db.samples.rows, s.key = key →
        first.sampledAt ≤ s.sampledAt ∧ s.sampledAt ≤ last.sampledAt) ∧
      ∀ c, db.usage key c = (last.counters c : Int) - first.counters c

section

variable {key : CounterKey} {c : Counter} {samples : Table CounterSample.id}

theorem usage_stored :
    (db.stored st samples).usage key c =
      db.usage key c + if st.sample.key = key then (st.usageDelta.counters c : Int) else 0 := by
  rw [usage, stored_deltas, List.filter_append, List.map_append, List.sum_append]
  by_cases hMine : st.sample.key = key <;> simp [usage, CounterStatement.usageDelta, hMine]

theorem previousSample_eq_last {s last : CounterSample} (hLast : last ∈ db.samples.rows)
    (hKey : last.key = s.key) (hEarlier : last.sampledAt < s.sampledAt)
    (hBound : ∀ t ∈ db.samples.rows, t.key = s.key → t.sampledAt ≤ last.sampledAt) :
    db.previousSample s = some last := by
  have hFound : last ∈ db.samples.rows.filter fun p =>
      p.key = s.key && p.sampledAt < s.sampledAt := by
    simp [hLast, hKey, hEarlier]
  cases hPrevious : db.previousSample s with
  | none =>
      have hNone := List.argmax_eq_none.1 hPrevious
      rw [hNone] at hFound
      cases hFound
  | some p =>
      obtain ⟨hRow, hSame, -⟩ := previousSample_eq_some hPrevious
      have hLater : last.sampledAt ≤ p.sampledAt := List.le_of_mem_argmax hFound hPrevious
      have hTime := le_antisymm (hBound p hRow hSame) hLater
      have hId : p.id = last.id := by
        rw [CounterSample.id, CounterSample.id, hSame, hKey, hTime]
      rw [Table.row_unique hRow hLast hId]

theorem IsExact.stored_of_ne (h : db.IsExact key)
    (hRows : samples.rows = db.samples.rows ++ [st.sample]) (hOther : st.sample.key ≠ key) :
    (db.stored st samples).IsExact key := by
  have hOld : ∀ s ∈ samples.rows, s.key = key → s ∈ db.samples.rows := by
    intro s hs hKey
    rw [hRows] at hs
    rcases List.mem_append.1 hs with hRow | hNew
    · exact hRow
    · exact absurd ((congrArg CounterSample.key (List.mem_singleton.1 hNew)).symm.trans hKey) hOther
  rw [IsExact, stored_samples]
  simp only [usage_stored, if_neg hOther, add_zero]
  rcases h with ⟨hNone, hZero⟩ | ⟨first, hFirst, last, hLast, hFirstKey, hLastKey, hBounds, hSum⟩
  · exact .inl ⟨fun s hs hKey => hNone s (hOld s hs hKey) hKey, hZero⟩
  · refine .inr ⟨first, ?_, last, ?_, hFirstKey, hLastKey,
      fun s hs hKey => hBounds s (hOld s hs hKey) hKey, hSum⟩
    · rw [hRows]
      exact List.mem_append_left _ hFirst
    · rw [hRows]
      exact List.mem_append_left _ hLast

theorem IsExact.stored (h : db.IsExact key) (hInserted : db.samples.insert st.sample = some samples)
    (hMine : st.sample.key = key) (hPrevious : st.previous = db.previousSample st.sample)
    (hNewest : ∀ s ∈ db.samples.rows, s.key = key →
      s.sampledAt ≤ st.sample.sampledAt ∧ ∀ c, s.counters c ≤ st.sample.counters c) :
    (db.stored st samples).IsExact key := by
  obtain ⟨hFree, hRows⟩ := Table.insert_eq_some hInserted
  have hMem : st.sample ∈ samples.rows := by
    rw [hRows]
    exact List.mem_append_right _ (List.mem_singleton_self _)
  have hCases : ∀ s ∈ samples.rows, s ∈ db.samples.rows ∨ s = st.sample := by
    intro s hs
    rw [hRows] at hs
    simpa using hs
  rw [IsExact, stored_samples]
  simp only [usage_stored, if_pos hMine]
  rcases h with ⟨hNone, hZero⟩ | ⟨first, hFirst, last, hLast, hFirstKey, hLastKey, hBounds, hSum⟩
  · refine .inr ⟨st.sample, hMem, st.sample, hMem, hMine, hMine, fun s hs hKey => ?_, fun c => ?_⟩
    · rcases hCases s hs with hRow | rfl
      · exact absurd hKey (hNone s hRow)
      · exact ⟨le_rfl, le_rfl⟩
    · have hFirstOne : st.previous = none := by
        cases hSome : st.previous with
        | none => rfl
        | some p =>
            obtain ⟨hRow, hKey, -⟩ := previousSample_eq_some (hPrevious.symm.trans hSome)
            exact absurd (hKey.trans hMine) (hNone p hRow)
      simp [hZero c, CounterStatement.usageDelta, hFirstOne]
  · obtain ⟨hLastOld, hGain⟩ := hNewest last hLast hLastKey
    have hEarlier : last.sampledAt < st.sample.sampledAt := by
      refine lt_of_le_of_ne hLastOld fun hTime => hFree (Table.hasKey_iff.2 ⟨last, hLast, ?_⟩)
      rw [CounterSample.id, CounterSample.id, hLastKey, hMine, hTime]
    have hBaseline : st.previous = some last := by
      rw [hPrevious]
      refine previousSample_eq_last hLast (hLastKey.trans hMine.symm) hEarlier fun t ht hKey => ?_
      exact (hBounds t ht (hKey.trans hMine)).2
    refine .inr ⟨first, ?_, st.sample, hMem, hFirstKey, hMine, fun s hs hKey => ?_, fun c => ?_⟩
    · rw [hRows]
      exact List.mem_append_left _ hFirst
    · rcases hCases s hs with hRow | rfl
      · exact ⟨(hBounds s hRow hKey).1, (hNewest s hRow hKey).1⟩
      · exact ⟨(hNewest first hFirst hFirstKey).1, le_rfl⟩
    · have hDelta : st.usageDelta.counters c = st.sample.counters c - last.counters c := by
        simp [CounterStatement.usageDelta, hBaseline]
      rw [hSum c, hDelta, Nat.cast_sub (hGain c)]
      ring

theorem IsExact.change (h : db.IsExact key) (hTruthful : db.Truthful traffic key)
    (hGrows : traffic.Grows key) (hMeet : db.InOrder key e) (hChange : Change db e db') :
    db'.IsExact key := by
  cases hChange with
  | started => exact h
  | stored n st samples running target inserted =>
      by_cases hMine : st.sample.key = key
      · obtain ⟨hNewest, hPrevious⟩ := hMeet st running hMine
        refine IsExact.stored h inserted hMine hPrevious fun s hs hKey => ?_
        have hLater := hNewest s hs hKey
        refine ⟨hLater, fun c => ?_⟩
        rw [hTruthful.samples s hs hKey,
          hTruthful.statements st (List.mem_of_getElem? running) hMine, hKey, hMine]
        exact hGrows c hLater
      · exact IsExact.stored_of_ne h (Table.insert_eq_some inserted).2 hMine
  | other e db' samples deltas =>
      rw [IsExact, samples]
      simp only [usage, deltas]
      exact h

theorem usage_eq_spread (h : db.IsExact key)
    (hTruthful : db.Truthful traffic key) (hGrows : traffic.Grows key) :
    db.usage key c = db.spread key c := by
  rcases h with ⟨hNone, hZero⟩ | ⟨first, hFirst, last, hLast, hFirstKey, hLastKey, hBounds, hSum⟩
  · have hEmpty : db.delivered key c = [] := by
      rw [delivered, List.map_eq_nil_iff, List.filter_eq_nil_iff]
      exact fun s hs => by simpa using hNone s hs
    rw [hZero c, spread, hEmpty]
    rfl
  · have hMem : ∀ s ∈ db.samples.rows, s.key = key → s.counters c ∈ db.delivered key c :=
      fun s hs hKey => List.mem_map.2 ⟨s, List.mem_filter.2 ⟨hs, decide_eq_true hKey⟩, rfl⟩
    have hRange : ∀ v ∈ db.delivered key c, first.counters c ≤ v ∧ v ≤ last.counters c := by
      intro v hv
      obtain ⟨s, hs, rfl⟩ := List.mem_map.1 hv
      obtain ⟨hRow, hKey⟩ := List.mem_filter.1 hs
      have hKey : s.key = key := of_decide_eq_true hKey
      obtain ⟨hAfter, hBefore⟩ := hBounds s hRow hKey
      rw [hTruthful.samples s hRow hKey, hTruthful.samples first hFirst hFirstKey,
        hTruthful.samples last hLast hLastKey, hFirstKey, hLastKey, hKey]
      exact ⟨hGrows c hAfter, hGrows c hBefore⟩
    have hMax : (db.delivered key c).max? = some (last.counters c) :=
      List.max?_eq_some_iff.2 ⟨hMem last hLast hLastKey, fun v hv => (hRange v hv).2⟩
    have hMin : (db.delivered key c).min? = some (first.counters c) :=
      List.min?_eq_some_iff.2 ⟨hMem first hFirst hFirstKey, fun v hv => (hRange v hv).1⟩
    rw [hSum c, spread, hMax, hMin]
    rfl

end

/-! ### Runs -/

/-- In every run whose statements bill nothing again under a key, its traffic is counted once. -/
theorem countedOnce {key : CounterKey} (hGrows : traffic.Grows key) (hFresh : db₀.IsFresh)
    (hTrue : ∀ e ∈ es, e.IsTrue traffic key) (hRun : run step db₀ es = some db)
    (hMeet : StepsMeet step (NotBilledYet key) db₀ es) : CountedOnce key db₀ es db := by
  have hTrueSteps : StepsMeet step (fun _ e => e.IsTrue traffic key) db₀ es :=
    stepsMeet_of_forall fun e he _ => hTrue e he
  have hTruthful : db.Truthful traffic key :=
    @run_invariant_of_stepsMeet _ _ step _ (fun db => db.Truthful traffic key)
      (fun _ _ _ h hTrue hStep => h.change hTrue (change_of_step hStep)) _ _ _
      (.of_fresh hFresh) hRun hTrueSteps
  have hApart : db.WindowsApart key := by
    refine @run_invariant_of_stepsMeet _ _ step _ (fun db => db.WindowsApart key)
      (fun _ _ _ h hMeet hStep => h.change hMeet (change_of_step hStep)) _ _ _ ?_ hRun hMeet
    simp [WindowsApart, billed, hFresh.deltas]
  have hGrown : Grown db₀ db :=
    run_invariant (fun _ _ _ h hStep => h.change (change_of_step hStep)) (.of_fresh hFresh) hRun
  have hTotal : ∀ {figure c}, Counts figure c → ∀ id,
      db.total figure id = db₀.total figure id + db.egressUsage id c := by
    intro figure c hCounts id
    refine @run_invariant _ _ step
      (fun db => db.total figure id = db₀.total figure id + db.egressUsage id c)
      (fun _ _ _ h hStep => total_change hCounts h (change_of_step hStep)) _ _ _ ?_ hRun
    simp [egressUsage, hFresh.deltas]
  refine ⟨fun c => usage_le_spread hTruthful hGrows hApart, hGrown.consumed,
    hTotal counts_toDestination, hTotal counts_fromDestination, fun hInOrder c => ?_⟩
  have hExact : db.Truthful traffic key ∧ db.IsExact key := by
    refine @run_invariant_of_stepsMeet _ _ step _
      (fun db => db.Truthful traffic key ∧ db.IsExact key)
      (fun db e db' h hBoth hStep => ?_) _ _ _ ⟨.of_fresh hFresh, .inl ?_⟩ hRun
      (stepsMeet_and hTrueSteps hInOrder)
    · exact ⟨h.1.change hBoth.1 (change_of_step hStep),
        h.2.change h.1 hGrows hBoth.2 (change_of_step hStep)⟩
    · exact ⟨by simp [hFresh.samples], fun c => by simp [usage, hFresh.deltas]⟩
  exact usage_eq_spread hExact.2 hTruthful hGrows

instance {key : CounterKey} : DecidablePred (db.NotBilledYet key)
  | .finish n => inferInstanceAs (Decidable (∀ st ∈ db.statements[n]?, _))
  | .start .. | .abort _ | .assign .. | .entitle _ => inferInstanceAs (Decidable True)

/-! ### Sample runs -/

/-- An egress assignment on gate 5 of a session with an entitlement. -/
def sampleDb : MeteringDb where
  gateOf id := if id = (1, .egress) then some 5 else none
  samples := ∅
  deltas := []
  consumedBytes id := if id = 1 then some 0 else none
  usageTotals _ := none
  statements := []

theorem isFresh_sampleDb : sampleDb.IsFresh := ⟨rfl, rfl, rfl⟩

/-- Every counter grows by one in a microsecond. -/
def sampleTraffic : Traffic := fun _ t _ => t.toNat

def sampleKey : CounterKey := ⟨5, (1, .egress), 1, 1⟩

theorem sampleTraffic_grows {key : CounterKey} : sampleTraffic.Grows key :=
  fun _ _ _ h => Int.toNat_le_toNat h

/-- The gate reports the counters of a time, and the statement runs by itself. -/
def reportAt (t : Timestamp) : List MeteringEvent :=
  [.start 5 (some 1) ⟨(1, .egress), .egress, 1, t, sampleTraffic sampleKey t⟩, .finish 0]

theorem isTrue_reportAt {key : CounterKey} {t : Timestamp} :
    ∀ e ∈ reportAt t, e.IsTrue sampleTraffic key := by
  refine List.forall_mem_cons.2 ⟨fun b hb _ => ?_, List.forall_mem_singleton.2 trivial⟩
  cases hb
  rfl

theorem isTrue_reports {key : CounterKey} {times : List Timestamp} :
    ∀ e ∈ times.flatMap reportAt, e.IsTrue sampleTraffic key := by
  intro e he
  obtain ⟨t, -, he⟩ := List.mem_flatMap.1 he
  exact isTrue_reportAt e he

/-- Samples in order, one of them twice. -/
theorem countedOnce_sample : ∃ db, run step sampleDb ([1, 2, 2, 3].flatMap reportAt) = some db ∧
    CountedOnce sampleKey sampleDb ([1, 2, 2, 3].flatMap reportAt) db := by
  obtain ⟨db, hRun⟩ := Option.isSome_iff_exists.1
    (show (run step sampleDb ([1, 2, 2, 3].flatMap reportAt)).isSome by decide +kernel)
  exact ⟨db, hRun, countedOnce sampleTraffic_grows isFresh_sampleDb isTrue_reports hRun
    (by decide +kernel)⟩

/-- The second of three samples comes last: of two microseconds, three are counted. -/
theorem not_countedOnce : ∃ traffic : Traffic, ∃ key db₀ es db,
    (∀ key, traffic.Grows key) ∧ db₀.IsFresh ∧ (∀ key, ∀ e ∈ es, e.IsTrue traffic key) ∧
      run step db₀ es = some db ∧ ¬ CountedOnce key db₀ es db := by
  have hRun : ∃ db ∈ run step sampleDb ([1, 3, 2].flatMap reportAt),
      db.spread sampleKey .forwardedToDestinationBytes <
        db.usage sampleKey .forwardedToDestinationBytes := by
    decide +kernel
  obtain ⟨db, hRun, hMore⟩ := hRun
  exact ⟨sampleTraffic, sampleKey, sampleDb, _, db, fun _ => sampleTraffic_grows,
    isFresh_sampleDb, fun _ => isTrue_reports, hRun, fun hOnce => (hOnce.bounded _).not_gt hMore⟩

end MeteringDb

end Hyperspace.Metering
