import Hyperspace.Foundations.Runs
import Hyperspace.Probes.Measurements

/-!
# Projections of measurements

Which events have been delivered determines the lists of the latest benchmarks, the latest trading
results and their rollups. The order of the deliveries and their repetitions do not matter.
-/

namespace Hyperspace.Probes

open Hyperspace.Foundations

variable {parse : String → Option Milliseconds} {event event' : ProbeEvent}
  {seen seen' events : List ProbeEvent} {store store' : MeasurementStore} {routeId : RouteId}

/-! ### What an event contributes -/

/-- The element of the list of a route. -/
def ProbeEvent.recent? (parse : String → Option Milliseconds) (routeId : RouteId)
    (event : ProbeEvent) : Option RecentBenchmark :=
  match event.payload with
  | .benchmark value =>
    if value.routeId = routeId then
      (parse value.metric.measuredAt).map fun measuredAt => ⟨event.id, measuredAt, value.metric⟩
    else none
  | .trading _ => none

/-- The document of a trading event. -/
def ProbeEvent.document? (parse : String → Option Milliseconds) (event : ProbeEvent) :
    Option TradingDocument :=
  match event.payload with
  | .benchmark _ => none
  | .trading value => (parse value.measuredAt).map fun measuredAt => { value with measuredAt }

theorem ProbeEvent.recent?_eventId {item : RecentBenchmark}
    (h : event.recent? parse routeId = some item) : item.eventId = event.id := by
  rw [ProbeEvent.recent?] at h
  split at h
  · split at h
    · obtain ⟨_, -, rfl⟩ := Option.map_eq_some_iff.1 h
      rfl
    · cases h
  · cases h

/-- The events of the list are of the route. -/
def recents (parse : String → Option Milliseconds) (routeId : RouteId) (events : List ProbeEvent) :
    List RecentBenchmark :=
  events.filterMap (·.recent? parse routeId)

/-- The documents of a key. -/
def IsLatest (parse : String → Option Milliseconds) (id : TradingId) (events : List ProbeEvent)
    (document : TradingDocument) : Prop :=
  document.latestId = id ∧ ∃ event ∈ events, event.document? parse = some document

/-- The rollups of a bucket of a key. -/
def IsRollup (parse : String → Option Milliseconds) (id : TradingId × Milliseconds)
    (events : List ProbeEvent) (rollup : TradingRollup) : Prop :=
  rollup.rollupId = id ∧
    ∃ event ∈ events, ∃ document ∈ event.document? parse, document.rollup = rollup

def TradingRollup.rank (rollup : TradingRollup) : Milliseconds ×ₗ Int :=
  rollup.toTradingDocument.rank

theorem replaceTradingIfNewer_eq {ρ : Type} {fields : ρ → TradingDocument} {document : ρ}
    {stored : Option ρ} :
    some (replaceTradingIfNewer fields document stored) =
      replaceIfNewer (fun d => (fields d).rank) document stored := by
  cases stored with
  | none => rfl
  | some other =>
      simp only [replaceTradingIfNewer, replaceIfNewer, TradingDocument.rank, Prod.Lex.le_iff,
        apply_ite some]
      rfl

/-! ### Delivered events -/

/-- The projections are those of the events that have been delivered. -/
structure Projects (parse : String → Option Milliseconds) (events seen : List ProbeEvent)
    (store : MeasurementStore) : Prop where
  subset : seen ⊆ events
  ids : (seen.map ProbeEvent.id).Nodup
  recent : ∀ routeId, (store.benchmarkLatest routeId).getD [] =
    greatest RecentBenchmark.rank 2 (recents parse routeId seen)
  latest : ∀ id, Newest TradingDocument.rank (IsLatest parse id seen) (store.tradingLatest id)
  rollups : ∀ id, Newest TradingRollup.rank (IsRollup parse id seen) (store.tradingRollups id) ∨
    store.tradingRollups id = none ∧ id.2 + 14 * DAY ≤ store.now

theorem recents_eq_of_eventId {item item' : RecentBenchmark}
    (hIds : (events.map ProbeEvent.id).Nodup) (hItem : item ∈ recents parse routeId events)
    (hItem' : item' ∈ recents parse routeId events) (hSame : item.eventId = item'.eventId) :
    item = item' := by
  obtain ⟨event, hMem, hRecent⟩ := List.mem_filterMap.1 hItem
  obtain ⟨event', hMem', hRecent'⟩ := List.mem_filterMap.1 hItem'
  have hEvent : event = event' := by
    refine List.inj_on_of_nodup_map hIds hMem hMem' ?_
    rw [← ProbeEvent.recent?_eventId hRecent, hSame, ProbeEvent.recent?_eventId hRecent']
  subst hEvent
  exact Option.some.inj (hRecent.symm.trans hRecent')

theorem injOn_recents (hIds : (events.map ProbeEvent.id).Nodup) :
    Set.InjOn RecentBenchmark.rank {item | item ∈ recents parse routeId events} := by
  intro item hItem item' hItem' hRank
  have hSame : item.eventId = item'.eventId := congrArg (fun r => (ofLex r).2) hRank
  exact recents_eq_of_eventId hIds hItem hItem' hSame

theorem sublist_recents :
    ((recents parse routeId seen).map RecentBenchmark.eventId).Sublist
      (seen.map ProbeEvent.id) := by
  induction seen with
  | nil => exact List.Sublist.slnil
  | cons event seen ih =>
      rw [recents, List.filterMap_cons]
      split
      · exact ih.cons event.id
      · rename_i item hItem
        rw [List.map_cons, ProbeEvent.recent?_eventId hItem, List.map_cons]
        exact ih.cons_cons event.id

theorem nodup_recents (hIds : (seen.map ProbeEvent.id).Nodup) :
    (recents parse routeId seen).Nodup :=
  (hIds.sublist sublist_recents).of_map _

theorem eventId_mem_of_mem_recents {item : RecentBenchmark}
    (h : item ∈ recents parse routeId seen) : item.eventId ∈ seen.map ProbeEvent.id :=
  sublist_recents.subset (List.mem_map_of_mem h)

theorem Projects.empty {start : Milliseconds} : Projects parse events [] (emptyStore start) where
  subset := List.nil_subset _
  ids := List.nodup_nil
  recent _ := rfl
  latest _ := by
    rintro document ⟨-, event, hMem, -⟩
    cases hMem
  rollups _ := .inl (by
    rintro rollup ⟨-, event, hMem, -⟩
    cases hMem)

theorem recents_cons_of_new {item : RecentBenchmark}
    (hRecent : event.recent? parse routeId = some item)
    (hIds : ((event :: seen).map ProbeEvent.id).Nodup) :
    greatest RecentBenchmark.rank 2 ((greatest RecentBenchmark.rank 2
        (recents parse routeId seen)).filter (fun other => other.eventId ≠ item.eventId) ++
          [item]) =
      greatest RecentBenchmark.rank 2 (recents parse routeId (event :: seen)) := by
  have hCons : recents parse routeId (event :: seen) = item :: recents parse routeId seen :=
    List.filterMap_cons_some hRecent
  have hKept : (greatest RecentBenchmark.rank 2 (recents parse routeId seen)).filter
      (fun other => other.eventId ≠ item.eventId) =
      greatest RecentBenchmark.rank 2 (recents parse routeId seen) := by
    refine List.filter_eq_self.2 fun other hOther => decide_eq_true ?_
    intro hSame
    rw [ProbeEvent.recent?_eventId hRecent] at hSame
    have hMem : event.id ∈ seen.map ProbeEvent.id :=
      hSame ▸ eventId_mem_of_mem_recents (mem_of_mem_greatest hOther)
    exact (List.nodup_cons.1 hIds).1 hMem
  have hInj : Set.InjOn RecentBenchmark.rank
      {other | other = item ∨ other ∈ recents parse routeId seen} := by
    refine (@injOn_recents parse (event :: seen) routeId hIds).mono fun other hOther => ?_
    rw [Set.mem_ofPred_eq, hCons, List.mem_cons]
    exact hOther
  rw [hKept, greatest_greatest_concat hInj, hCons]

theorem recents_of_seen {item : RecentBenchmark}
    (hRecent : event.recent? parse routeId = some item) (hMem : event ∈ seen)
    (hIds : (seen.map ProbeEvent.id).Nodup) :
    greatest RecentBenchmark.rank 2 ((greatest RecentBenchmark.rank 2
        (recents parse routeId seen)).filter (fun other => other.eventId ≠ item.eventId) ++
          [item]) =
      greatest RecentBenchmark.rank 2 (recents parse routeId seen) := by
  have hItem : item ∈ recents parse routeId seen := List.mem_filterMap.2 ⟨event, hMem, hRecent⟩
  refine greatest_greatest_again (injOn_recents hIds) (nodup_recents hIds) hItem
    fun other hOther => ?_
  rw [decide_eq_true_iff]
  constructor
  · rintro hDifferent rfl
    exact hDifferent rfl
  · exact fun hDifferent hSame => hDifferent (recents_eq_of_eventId hIds hOther hItem hSame)

theorem exists_delivered (hEvents : (events.map ProbeEvent.id).Nodup) (hMem : event ∈ events)
    (hSubset : seen ⊆ events) (hIds : (seen.map ProbeEvent.id).Nodup) :
    ∃ seen' : List ProbeEvent, (∀ e, e ∈ seen' ↔ e = event ∨ e ∈ seen) ∧
      (seen'.map ProbeEvent.id).Nodup ∧
      (∀ routeId, event.recent? parse routeId = none →
        recents parse routeId seen' = recents parse routeId seen) ∧
      ∀ routeId item, event.recent? parse routeId = some item →
        greatest RecentBenchmark.rank 2 ((greatest RecentBenchmark.rank 2
          (recents parse routeId seen)).filter (fun other => other.eventId ≠ item.eventId) ++
            [item]) =
          greatest RecentBenchmark.rank 2 (recents parse routeId seen') := by
  by_cases hSeen : event ∈ seen
  · refine ⟨seen, fun e => ?_, hIds, fun _ _ => rfl, fun _ _ hRecent => ?_⟩
    · exact ⟨.inr, fun h => h.elim (fun hEq => hEq ▸ hSeen) id⟩
    · exact recents_of_seen hRecent hSeen hIds
  · have hNew : event.id ∉ seen.map ProbeEvent.id := by
      intro hId
      obtain ⟨e, he, hSame⟩ := List.mem_map.1 hId
      exact hSeen (List.inj_on_of_nodup_map hEvents (hSubset he) hMem hSame ▸ he)
    have hIds' : ((event :: seen).map ProbeEvent.id).Nodup := List.nodup_cons.2 ⟨hNew, hIds⟩
    refine ⟨event :: seen, fun _ => List.mem_cons, hIds', fun _ hNone => ?_, fun _ _ hRecent => ?_⟩
    · exact List.filterMap_cons_none hNone
    · exact recents_cons_of_new hRecent hIds'

theorem isLatest_iff {id : TradingId} {document : TradingDocument}
    (hSeen : ∀ e, e ∈ seen' ↔ e = event ∨ e ∈ seen) :
    IsLatest parse id seen' document ↔
      (document.latestId = id ∧ event.document? parse = some document) ∨
        IsLatest parse id seen document := by
  simp only [IsLatest, hSeen, or_and_right, exists_or, exists_eq_left, and_or_left]

theorem isRollup_iff {id : TradingId × Milliseconds} {rollup : TradingRollup}
    (hSeen : ∀ e, e ∈ seen' ↔ e = event ∨ e ∈ seen) :
    IsRollup parse id seen' rollup ↔
      (rollup.rollupId = id ∧ ∃ document ∈ event.document? parse, document.rollup = rollup) ∨
        IsRollup parse id seen rollup := by
  simp only [IsRollup, hSeen, or_and_right, exists_or, exists_eq_left, and_or_left]

theorem TradingDocument.expiry_le_rollup {document : TradingDocument} :
    document.measuredAt + DAY ≤ document.rollup.bucketStart + 14 * DAY := by
  have hFloor : ∀ t : Int, t + 86400000 ≤ t / 300000 * 300000 + 14 * 86400000 := fun t => by omega
  exact hFloor document.measuredAt

/-- An event is expired a day after its measurement. -/
def ProbeEvent.Fresh (parse : String → Option Milliseconds) (now : Milliseconds)
    (event : ProbeEvent) : Prop :=
  ∀ measuredAt ∈ parse event.measuredAt, now < measuredAt + DAY

/-- The delivery of the event does not throw. -/
def ProbeEvent.Accepted (parse : String → Option Milliseconds) (now : Milliseconds)
    (event : ProbeEvent) : Prop :=
  ∃ measuredAt, validDate parse now event.measuredAt = .ok measuredAt

theorem parse_of_validDate {now measuredAt : Milliseconds} {value : String}
    (h : validDate parse now value = .ok measuredAt) : parse value = some measuredAt := by
  rw [validDate] at h
  split at h
  · cases h
  · split at h
    · cases h
    · cases h
      assumption

section

variable (h : Projects parse events seen store) (hSubset : seen' ⊆ events)
  (hIds : (seen'.map ProbeEvent.id).Nodup) (hSeen : ∀ e, e ∈ seen' ↔ e = event ∨ e ∈ seen)
  (hOther : ∀ routeId, event.recent? parse routeId = none →
    recents parse routeId seen' = recents parse routeId seen)

include h hSubset hIds hSeen hOther

theorem Projects.deliver_benchmark {value : BenchmarkMeasurement} {measuredAt : Milliseconds}
    (hOwn : ∀ routeId item, event.recent? parse routeId = some item →
      greatest RecentBenchmark.rank 2 ((greatest RecentBenchmark.rank 2
        (recents parse routeId seen)).filter (fun other => other.eventId ≠ item.eventId) ++
          [item]) =
        greatest RecentBenchmark.rank 2 (recents parse routeId seen'))
    (hPayload : event.payload = .benchmark value)
    (hDate : parse value.metric.measuredAt = some measuredAt)
    (hResults : store'.benchmarkLatest = store.benchmarkLatest ∧
      store'.tradingLatest = store.tradingLatest ∧
      store'.tradingRollups = store.tradingRollups ∧ store'.now = store.now) :
    Projects parse events seen'
      (store'.updateRecent value.routeId ⟨event.id, measuredAt, value.metric⟩) := by
  obtain ⟨hBenchmarks, hLatest, hRollups, hNow⟩ := hResults
  have hNone : event.document? parse = none := by
    rw [ProbeEvent.document?, hPayload]
  refine ⟨hSubset, hIds, fun routeId => ?_, fun id => ?_, fun id => ?_⟩
  · rw [MeasurementStore.updateRecent, hBenchmarks]
    dsimp only
    by_cases hRoute : routeId = value.routeId
    · subst hRoute
      have hRecent : event.recent? parse value.routeId =
          some ⟨event.id, measuredAt, value.metric⟩ := by
        rw [ProbeEvent.recent?, hPayload]
        simp [hDate]
      rw [Function.update_self, Option.getD_some, h.recent]
      exact hOwn value.routeId _ hRecent
    · have hRecent : event.recent? parse routeId = none := by
        rw [ProbeEvent.recent?, hPayload]
        simp [Ne.symm hRoute]
      rw [Function.update_of_ne hRoute, h.recent, hOther routeId hRecent]
  · rw [MeasurementStore.updateRecent, hLatest]
    refine (h.latest id).congr fun document => ?_
    rw [isLatest_iff hSeen, hNone]
    simp
  · rw [MeasurementStore.updateRecent, hRollups, hNow]
    refine (h.rollups id).imp_left fun hNewest => hNewest.congr fun rollup => ?_
    rw [isRollup_iff hSeen, hNone]
    simp

theorem Projects.deliver_trading {value : TradingMeasurement} {document : TradingDocument}
    (hPayload : event.payload = .trading value)
    (hDocument : event.document? parse = some document)
    (hFresh : store.now < document.measuredAt + DAY)
    (hResults : store'.benchmarkLatest = store.benchmarkLatest ∧
      store'.tradingLatest = store.tradingLatest ∧
      store'.tradingRollups = store.tradingRollups ∧ store'.now = store.now) :
    Projects parse events seen'
      ((store'.replaceLatest document).replaceRollup document.rollup) := by
  obtain ⟨hBenchmarks, hLatest, hRollups, hNow⟩ := hResults
  have hOpen : store.now < document.rollup.bucketStart + 14 * DAY :=
    lt_of_lt_of_le hFresh TradingDocument.expiry_le_rollup
  have hWritten : (store'.replaceLatest document).replaceRollup document.rollup =
      { store'.replaceLatest document with
        tradingRollups := Function.update store.tradingRollups document.rollup.rollupId
          (some (replaceTradingIfNewer TradingRollup.toTradingDocument document.rollup
            (store.tradingRollups document.rollup.rollupId))) } := by
    have hLive : (store'.replaceLatest document).now < document.rollup.expiresAt := by
      rw [MeasurementStore.replaceLatest, hNow]
      exact hOpen
    rw [MeasurementStore.replaceRollup, if_pos hLive, MeasurementStore.replaceLatest, hRollups]
  rw [hWritten, MeasurementStore.replaceLatest]
  refine ⟨hSubset, hIds, fun routeId => ?_, fun id => ?_, fun id => ?_⟩
  · have hNone : event.recent? parse routeId = none := by
      rw [ProbeEvent.recent?, hPayload]
    rw [hBenchmarks, h.recent, hOther routeId hNone]
  · rw [hLatest]
    dsimp only
    by_cases hId : id = document.latestId
    · subst hId
      rw [Function.update_self, replaceTradingIfNewer_eq]
      refine (h.latest document.latestId).insert.congr fun other => ?_
      rw [isLatest_iff hSeen, hDocument, Option.some.injEq]
      refine or_congr_left ⟨?_, fun hBoth => hBoth.2.symm⟩
      rintro rfl
      exact ⟨rfl, rfl⟩
    · rw [Function.update_of_ne hId]
      refine (h.latest id).congr fun other => ?_
      rw [isLatest_iff hSeen, hDocument, Option.some.injEq]
      refine ⟨.inr, fun hBoth => hBoth.resolve_left ?_⟩
      rintro ⟨rfl, rfl⟩
      exact hId rfl
  · dsimp only
    by_cases hId : id = document.rollup.rollupId
    · subst hId
      rw [Function.update_self, replaceTradingIfNewer_eq]
      refine .inl ?_
      have hStored : Newest TradingRollup.rank (IsRollup parse document.rollup.rollupId seen)
          (store.tradingRollups document.rollup.rollupId) := by
        refine (h.rollups document.rollup.rollupId).resolve_right fun hExpired => ?_
        exact absurd hOpen (not_lt_of_ge hExpired.2)
      refine hStored.insert.congr fun other => ?_
      rw [isRollup_iff hSeen, hDocument]
      simp only [Option.mem_def, Option.some.injEq, exists_eq_left']
      refine or_congr_left ⟨?_, fun hBoth => hBoth.2.symm⟩
      rintro rfl
      exact ⟨rfl, rfl⟩
    · rw [Function.update_of_ne hId]
      have hNow' : (store'.replaceLatest document).now = store.now := hNow
      refine (h.rollups id).imp (fun hNewest => hNewest.congr fun other => ?_) fun hExpired =>
        ⟨hExpired.1, hNow ▸ hExpired.2⟩
      rw [isRollup_iff hSeen, hDocument]
      simp only [Option.mem_def, Option.some.injEq, exists_eq_left']
      refine ⟨.inr, fun hBoth => hBoth.resolve_left ?_⟩
      rintro ⟨rfl, rfl⟩
      exact hId rfl

end

theorem Projects.deliver (h : Projects parse events seen store)
    (hEvents : (events.map ProbeEvent.id).Nodup) (hMem : event ∈ events)
    (hFresh : event.Fresh parse store.now) (hOk : store.deliver parse event = .ok store') :
    ∃ seen', (∀ e, e ∈ seen' ↔ e = event ∨ e ∈ seen) ∧ Projects parse events seen' store' := by
  obtain ⟨seen', hSeen, hIds, hOther, hOwn⟩ :=
    @exists_delivered parse event seen events hEvents hMem h.subset h.ids
  have hSubset : seen' ⊆ events := fun e he =>
    ((hSeen e).1 he).elim (fun hEq => hEq ▸ hMem) fun hOld => h.subset hOld
  refine ⟨seen', hSeen, ?_⟩
  cases hPayload : event.payload with
  | benchmark value =>
      rw [MeasurementStore.deliver, hPayload] at hOk
      cases hDate : validDate parse store.now value.metric.measuredAt with
      | error e => simp [hDate, bind, Except.bind] at hOk
      | ok measuredAt =>
          simp only [hDate, bind, Except.bind, pure, Except.pure, Except.ok.injEq] at hOk
          subst hOk
          refine h.deliver_benchmark hSubset hIds hSeen hOther hOwn hPayload
            (parse_of_validDate hDate) ?_
          rw [MeasurementStore.recordBenchmark]
          split <;> exact ⟨rfl, rfl, rfl, rfl⟩
  | trading value =>
      rw [MeasurementStore.deliver, hPayload] at hOk
      cases hDate : validDate parse store.now value.measuredAt with
      | error e => simp [hDate, bind, Except.bind] at hOk
      | ok measuredAt =>
          simp only [hDate, bind, Except.bind, pure, Except.pure, Except.ok.injEq] at hOk
          subst hOk
          have hParsed := parse_of_validDate hDate
          refine h.deliver_trading hSubset hIds hSeen hOther hPayload ?_ (hFresh measuredAt ?_) ?_
          · rw [ProbeEvent.document?, hPayload]
            simp [hParsed]
          · rw [ProbeEvent.measuredAt, hPayload]
            exact hParsed
          · rw [MeasurementStore.recordTrading]
            split <;> exact ⟨rfl, rfl, rfl, rfl⟩

theorem Projects.atTime {now : Milliseconds} (h : Projects parse events seen store)
    (hNow : store.now ≤ now) : Projects parse events seen { store with now } where
  subset := h.subset
  ids := h.ids
  recent := h.recent
  latest := h.latest
  rollups id := (h.rollups id).imp_right fun hExpired => ⟨hExpired.1, hExpired.2.trans hNow⟩

theorem Projects.removeExpired (h : Projects parse events seen store) :
    Projects parse events seen store.removeExpired where
  subset := h.subset
  ids := h.ids
  recent := h.recent
  latest := h.latest
  rollups id := by
    rcases h.rollups id with hNewest | ⟨hNone, hExpired⟩
    · cases hStored : store.tradingRollups id with
      | none =>
          refine .inl ?_
          rw [hStored] at hNewest
          simpa [MeasurementStore.removeExpired, hStored] using hNewest
      | some rollup =>
          rw [hStored] at hNewest
          by_cases hLive : store.now < rollup.expiresAt
          · refine .inl ?_
            simpa [MeasurementStore.removeExpired, hStored, Option.filter, hLive] using hNewest
          · refine .inr ⟨?_, ?_⟩
            · simp [MeasurementStore.removeExpired, hStored, Option.filter, hLive]
            · obtain ⟨⟨rfl, _, -, document, -, rfl⟩, -⟩ := hNewest
              exact le_of_not_gt hLive
    · exact .inr ⟨by simp [MeasurementStore.removeExpired, hNone], hExpired⟩

theorem accepted_of_deliver_ok (h : store.deliver parse event = .ok store') :
    event.Accepted parse store.now := by
  rw [MeasurementStore.deliver] at h
  rw [ProbeEvent.Accepted, ProbeEvent.measuredAt]
  split at h
  · rename_i value hPayload
    cases hDate : validDate parse store.now value.metric.measuredAt with
    | error e => simp [hDate, bind, Except.bind] at h
    | ok measuredAt => exact ⟨measuredAt, rfl⟩
  · rename_i value hPayload
    cases hDate : validDate parse store.now value.measuredAt with
    | error e => simp [hDate, bind, Except.bind] at h
    | ok measuredAt => exact ⟨measuredAt, rfl⟩

theorem not_accepted_of_deliver_error {e : DeliveryError}
    (h : store.deliver parse event = .error e) : ¬ event.Accepted parse store.now := by
  rintro ⟨measuredAt, hDate⟩
  rw [ProbeEvent.measuredAt] at hDate
  rw [MeasurementStore.deliver] at h
  split at h
  · rename_i value hPayload
    rw [hPayload] at hDate
    simp [hDate, bind, Except.bind, pure, Except.pure] at h
  · rename_i value hPayload
    rw [hPayload] at hDate
    simp [hDate, bind, Except.bind, pure, Except.pure] at h

variable {steps : List StoreEvent}

/-- The events that a run has delivered. -/
def DeliveredIn (parse : String → Option Milliseconds) (steps : List StoreEvent)
    (event : ProbeEvent) : Prop :=
  ∃ step ∈ steps, step.action = .deliver event ∧ event.Accepted parse step.now

/-- Only events of the set are delivered, and before they expire. -/
def DeliversFresh (parse : String → Option Milliseconds) (events : List ProbeEvent)
    (steps : List StoreEvent) : Prop :=
  ∀ step ∈ steps, ∀ event, step.action = .deliver event →
    event ∈ events ∧ event.Fresh parse step.now

theorem deliveredIn_cons {step : StoreEvent} :
    DeliveredIn parse (step :: steps) event ↔
      (step.action = .deliver event ∧ event.Accepted parse step.now) ∨
        DeliveredIn parse steps event := by
  simp only [DeliveredIn, List.mem_cons, or_and_right, exists_or, exists_eq_left]

theorem Projects.run (hEvents : (events.map ProbeEvent.id).Nodup)
    (hFresh : DeliversFresh parse events steps)
    (hRun : Foundations.run (MeasurementStore.step parse) store steps = some store')
    (h : Projects parse events seen store) :
    ∃ seen', (∀ e, e ∈ seen' ↔ e ∈ seen ∨ DeliveredIn parse steps e) ∧
      Projects parse events seen' store' := by
  induction steps generalizing seen store with
  | nil =>
      cases hRun
      exact ⟨seen, fun e => by simp [DeliveredIn], h⟩
  | cons step steps ih =>
      obtain ⟨store₁, hStep, hRest⟩ := run_cons.1 hRun
      have hFresh' : DeliversFresh parse events steps :=
        fun step' hMem => hFresh step' (List.mem_cons_of_mem _ hMem)
      rw [MeasurementStore.step] at hStep
      split at hStep
      · rename_i hNow
        cases hStep
        have hTimed := h.atTime hNow
        have hNext : ∃ seen₁, (∀ e, e ∈ seen₁ ↔ e ∈ seen ∨
            step.action = .deliver e ∧ e.Accepted parse step.now) ∧
            Projects parse events seen₁
              ({ store with now := step.now }.perform parse step.action) := by
          cases hAction : step.action with
          | removeExpired => exact ⟨seen, fun e => by simp, hTimed.removeExpired⟩
          | deliver event =>
              obtain ⟨hMem, hLive⟩ := hFresh step List.mem_cons_self event hAction
              rw [MeasurementStore.perform]
              cases hDeliver :
                MeasurementStore.deliver { store with now := step.now } parse event with
              | error e =>
                  refine ⟨seen, fun e => ⟨.inl, fun hBoth => hBoth.resolve_right ?_⟩, hTimed⟩
                  rintro ⟨hSame, hAccepted⟩
                  cases hSame
                  exact not_accepted_of_deliver_error hDeliver hAccepted
              | ok store₁ =>
                  obtain ⟨seen₁, hSeen, hProjects⟩ :=
                    hTimed.deliver hEvents hMem hLive hDeliver
                  refine ⟨seen₁, fun e => ?_, hProjects⟩
                  rw [hSeen, or_comm]
                  refine or_congr_right ⟨?_, ?_⟩
                  · rintro rfl
                    exact ⟨rfl, accepted_of_deliver_ok hDeliver⟩
                  · rintro ⟨hSame, -⟩
                    cases hSame
                    rfl
        obtain ⟨seen₁, hSeen₁, hProjects₁⟩ := hNext
        obtain ⟨seen', hSeen', hProjects'⟩ := ih hFresh' hRest hProjects₁
        refine ⟨seen', fun e => ?_, hProjects'⟩
        rw [hSeen', hSeen₁, deliveredIn_cons, or_assoc]
      · cases hStep

/-- The trading events of a key differ in the time or in the revision of the target. -/
def DistinctRanks (parse : String → Option Milliseconds) (events : List ProbeEvent) : Prop :=
  ∀ event ∈ events, ∀ event' ∈ events, ∀ document ∈ event.document? parse,
    ∀ document' ∈ event'.document? parse, document.latestId = document'.latestId →
      document.rank = document'.rank → event = event'

theorem DistinctRanks.injOn_latest {id : TradingId} (h : DistinctRanks parse events) :
    Set.InjOn TradingDocument.rank {document | IsLatest parse id events document} := by
  rintro document ⟨hId, event, hMem, hDocument⟩ document' ⟨hId', event', hMem', hDocument'⟩ hRank
  obtain rfl := h event hMem event' hMem' document hDocument document' hDocument'
    (hId.trans hId'.symm) hRank
  exact Option.some.inj (hDocument.symm.trans hDocument')

theorem DistinctRanks.injOn_rollups {id : TradingId × Milliseconds}
    (h : DistinctRanks parse events) :
    Set.InjOn TradingRollup.rank {rollup | IsRollup parse id events rollup} := by
  rintro rollup ⟨hId, event, hMem, document, hDocument, rfl⟩ rollup'
    ⟨hId', event', hMem', document', hDocument', rfl⟩ hRank
  obtain rfl := h event hMem event' hMem' document hDocument document' hDocument'
    (congrArg Prod.fst (hId.trans hId'.symm)) hRank
  rw [Option.some.inj (hDocument.symm.trans hDocument')]

/-- After every event has been delivered, in whatever order and however often, each list has the two
latest benchmarks of its route, each latest document is the greatest of its key, and so is each
rollup. -/
theorem projections_converge {start : Milliseconds} {store : MeasurementStore}
    (hIds : (events.map ProbeEvent.id).Nodup) (hRanks : DistinctRanks parse events)
    (hFresh : DeliversFresh parse events steps)
    (hDelivered : ∀ event ∈ events, DeliveredIn parse steps event)
    (hRun : run (MeasurementStore.step parse) (emptyStore start) steps = some store) :
    (∀ routeId, (store.benchmarkLatest routeId).getD [] =
      greatest RecentBenchmark.rank 2 (recents parse routeId events)) ∧
    (∀ id document, store.tradingLatest id = some document ↔
      IsGreatest TradingDocument.rank (IsLatest parse id events) document) ∧
    ∀ id rollup, (store.tradingRollups id = some rollup →
        IsGreatest TradingRollup.rank (IsRollup parse id events) rollup) ∧
      (store.now < id.2 + 14 * DAY →
        IsGreatest TradingRollup.rank (IsRollup parse id events) rollup →
          store.tradingRollups id = some rollup) := by
  obtain ⟨seen, hSeen, h⟩ := Projects.empty.run hIds hFresh hRun
  have hSame : ∀ e, e ∈ seen ↔ e ∈ events := fun e =>
    ⟨fun hMem => h.subset hMem, fun hMem => (hSeen e).2 (.inr (hDelivered e hMem))⟩
  have hPerm : seen.Perm events :=
    (List.perm_ext_iff_of_nodup (h.ids.of_map _) (hIds.of_map _)).2 hSame
  refine ⟨fun routeId => ?_, fun id document => ?_, fun id rollup => ?_⟩
  · rw [h.recent]
    exact greatest_perm (injOn_recents h.ids) (hPerm.filterMap _)
  · have hNewest : Newest TradingDocument.rank (IsLatest parse id events)
        (store.tradingLatest id) :=
      (h.latest id).congr fun document => by simp only [IsLatest, hSame]
    exact hNewest.eq_some_iff hRanks.injOn_latest
  · have hNewest : Newest TradingRollup.rank (IsRollup parse id events)
        (store.tradingRollups id) ∨
        store.tradingRollups id = none ∧ id.2 + 14 * DAY ≤ store.now :=
      (h.rollups id).imp_left fun hNewest => hNewest.congr fun rollup => by
        simp only [IsRollup, hSame]
    constructor
    · intro hStored
      rcases hNewest with hNewest | ⟨hNone, -⟩
      · exact (hNewest.eq_some_iff hRanks.injOn_rollups).1 hStored
      · cases hNone.symm.trans hStored
    · intro hLive hGreatest
      have hKept := hNewest.resolve_right fun hExpired => absurd hLive (not_lt_of_ge hExpired.2)
      exact (hKept.eq_some_iff hRanks.injOn_rollups).2 hGreatest

/-! ### A sample run -/

/-- Three minutes of a day. -/
def sampleParse : String → Option Milliseconds
  | "00:00" => some 0
  | "00:01" => some 60000
  | "00:02" => some 120000
  | _ => none

def sampleBenchmark (id measuredAt : String) : ProbeEvent :=
  ⟨id, .benchmark ⟨1, 2, ⟨.publicInternet, measuredAt, .null⟩⟩⟩

def sampleTrading (id measuredAt : String) : ProbeEvent :=
  ⟨id, .trading ⟨3, 4, "direct", some 1, measuredAt, .null⟩⟩

def sampleEvents : List ProbeEvent :=
  [sampleBenchmark "a" "00:00", sampleBenchmark "b" "00:01", sampleBenchmark "c" "00:02",
    sampleTrading "d" "00:00", sampleTrading "e" "00:01"]

/-- The newest events come first, one of them twice, and the oldest benchmark comes last. -/
def sampleSteps : List StoreEvent :=
  [⟨150000, .deliver (sampleBenchmark "c" "00:02")⟩, ⟨150000, .deliver (sampleTrading "e" "00:01")⟩,
    ⟨160000, .deliver (sampleBenchmark "b" "00:01")⟩, ⟨160000, .removeExpired⟩,
    ⟨170000, .deliver (sampleBenchmark "c" "00:02")⟩,
    ⟨170000, .deliver (sampleTrading "d" "00:00")⟩,
    ⟨180000, .deliver (sampleBenchmark "a" "00:00")⟩]

theorem projections_converge_sample : ∃ store,
    run (MeasurementStore.step sampleParse) (emptyStore 0) sampleSteps = some store ∧
    (∀ routeId, (store.benchmarkLatest routeId).getD [] =
      greatest RecentBenchmark.rank 2 (recents sampleParse routeId sampleEvents)) ∧
    (∀ id document, store.tradingLatest id = some document ↔
      IsGreatest TradingDocument.rank (IsLatest sampleParse id sampleEvents) document) ∧
    ∀ id rollup, (store.tradingRollups id = some rollup →
        IsGreatest TradingRollup.rank (IsRollup sampleParse id sampleEvents) rollup) ∧
      (store.now < id.2 + 14 * DAY →
        IsGreatest TradingRollup.rank (IsRollup sampleParse id sampleEvents) rollup →
          store.tradingRollups id = some rollup) := by
  obtain ⟨store, hRun⟩ := Option.isSome_iff_exists.1
    (show (run (MeasurementStore.step sampleParse) (emptyStore 0) sampleSteps).isSome by
      decide +kernel)
  have hRanks : DistinctRanks sampleParse sampleEvents := by
    simp [DistinctRanks, sampleEvents, ProbeEvent.document?, sampleBenchmark, sampleTrading,
      sampleParse, TradingDocument.rank]
  have hFresh : DeliversFresh sampleParse sampleEvents sampleSteps := by
    simp [DeliversFresh, sampleSteps, sampleEvents, ProbeEvent.Fresh, ProbeEvent.measuredAt,
      sampleBenchmark, sampleTrading, sampleParse, DAY]
  have hDelivered : ∀ event ∈ sampleEvents, DeliveredIn sampleParse sampleSteps event := by
    simp [sampleEvents, DeliveredIn, sampleSteps, ProbeEvent.Accepted, ProbeEvent.measuredAt,
      validDate, sampleBenchmark, sampleTrading, sampleParse]
  exact ⟨store, hRun, projections_converge (by decide) hRanks hFresh hDelivered hRun⟩

end Hyperspace.Probes
