import Hyperspace.Foundations.Greatest
import Hyperspace.Trading.PairsSnapshot
import Mathlib.Data.Prod.Lex
import Mathlib.Tactic.Linarith

/-!
# Presets

A row that may be bought stands for measurements that are fresh and belong together, and for the
fastest egress that improves both legs; and there is such a row wherever there is such an egress.
All of this is about what the maps of `buildTradingPairsSnapshot` tell, in which the last entry of a
key counts.
-/

namespace Hyperspace.Trading

open Hyperspace.Foundations

/-! ### Times -/

theorem foldl_mem {op : Int → Int → Int} (hOp : ∀ a b, op a b = a ∨ op a b = b) (a : Int)
    (times : List Int) : times.foldl op a ∈ a :: times := by
  induction times generalizing a with
  | nil => simp
  | cons b times ih =>
      rw [List.foldl_cons]
      rcases List.mem_cons.1 (ih (op a b)) with hFirst | hRest
      · rw [hFirst]
        rcases hOp a b with h | h <;> simp [h]
      · simp [hRest]

/-- What relates both operands to the result relates all items of a fold to its result. -/
theorem rel_foldl {op : Int → Int → Int} {r : Int → Int → Prop} [IsPreorder Int r]
    (hLeft : ∀ a b, r a (op a b)) (hRight : ∀ a b, r b (op a b)) (a : Int) (times : List Int) :
    ∀ t ∈ a :: times, r t (times.foldl op a) := by
  induction times generalizing a with
  | nil => simp [refl_of r a]
  | cons b times ih =>
      have hFirst : r (op a b) (times.foldl op (op a b)) := ih (op a b) _ List.mem_cons_self
      intro t ht
      rw [List.foldl_cons]
      rcases List.mem_cons.1 ht with rfl | hRest
      · exact trans_of r (hLeft t b) hFirst
      · rcases List.mem_cons.1 hRest with rfl | hRest
        · exact trans_of r (hRight a t) hFirst
        · exact ih (op a b) t (List.mem_cons_of_mem _ hRest)

theorem spreadExceeds_eq_false_iff {times : List Int} {bound : Int} (hSome : times ≠ []) :
    spreadExceeds (times.map some) bound = false ↔
      ∀ t ∈ times, ∀ t' ∈ times, t - t' ≤ bound := by
  have hAll : (times.map some).mapM id = some times := by
    induction times with
    | nil => rfl
    | cons t times ih => cases times <;> simp_all
  obtain ⟨a, rest, rfl⟩ := List.exists_cons_of_ne_nil hSome
  simp only [spreadExceeds, hAll, Option.any_some, decide_eq_false_iff_not, not_lt]
  constructor
  · intro h t ht t' ht'
    have hLatest : t ≤ latest (a :: rest) :=
      rel_foldl (r := (· ≤ ·)) le_max_left le_max_right a rest t ht
    have hEarliest : earliest (a :: rest) ≤ t' :=
      rel_foldl (r := (· ≥ ·)) min_le_left min_le_right a rest t' ht'
    omega
  · intro h
    apply h
    · exact foldl_mem (fun a b => by omega) a rest
    · exact foldl_mem (fun a b => by omega) a rest

/-! ### What the maps tell of a preset -/

section

variable {localeCompare : String → String → Ordering} {latency : TradingLatencyResponse}
  {matrix : GateBenchmarkMatrix} {now : Int} {source egress : TradingPairNode}
  {venueA venueB : Target} {e : Estimate}

/-- The gate that the map has for the id is there for a route. -/
def MapSchedulable (matrix : GateBenchmarkMatrix) (gateId : Option String) : Prop :=
  ∃ gate, gateOf matrix gateId = some gate ∧ gate.ready = true ∧ gate.schedulable = true

/-- The map has this measurement of the venue from the node, and calls it fresh. -/
def MapFresh (localeCompare : String → String → Ordering) (latency : TradingLatencyResponse)
    (matrix : GateBenchmarkMatrix) (now : Int) (nodeId targetId : String) (m : Measurement) :
    Prop :=
  measurementOf latency nodeId targetId = some m ∧
    measurementStateOf localeCompare latency matrix now nodeId targetId = some .fresh

/-- The metric of the route that the map has for the two gates is usable. -/
def MapBackbone (matrix : GateBenchmarkMatrix) (now : Int)
    (sourceGateId egressGateId : Option String)
    (e : Estimate) : Prop :=
  ∃ a ∈ sourceGateId, ∃ b ∈ egressGateId, routeOf matrix a b = some e.route ∧
    e.route.doublezero = some e.backbone ∧ usableBackbone now e.route e.backbone = true

def Estimate.measurements (e : Estimate) : List Measurement :=
  [e.directA, e.directB, e.exitA, e.exitB]

/-- The egress joins the venues to the source, whether or not this saves time. -/
structure MapConnects (localeCompare : String → String → Ordering)
    (latency : TradingLatencyResponse)
    (matrix : GateBenchmarkMatrix) (now : Int) (source egress : TradingPairNode)
    (venueA venueB : Target) (e : Estimate) : Prop where
  sourceGate : MapSchedulable matrix source.gateId
  egressGate : MapSchedulable matrix egress.gateId
  distinct : source.gateId ≠ egress.gateId
  directA : MapFresh localeCompare latency matrix now source.id venueA.id e.directA
  directB : MapFresh localeCompare latency matrix now source.id venueB.id e.directB
  exitA : MapFresh localeCompare latency matrix now egress.id venueA.id e.exitA
  exitB : MapFresh localeCompare latency matrix now egress.id venueB.id e.exitB
  together : ∀ m ∈ e.measurements, ∀ m' ∈ e.measurements, ∀ t ∈ m.measuredAt,
    ∀ t' ∈ m'.measuredAt, t - t' ≤ probeInterval venueA venueB
  backbone : MapBackbone matrix now source.gateId egress.gateId e

/-- The egress is one for a preset: it loses time to no venue, and saves some. -/
structure MapImproves (localeCompare : String → String → Ordering)
    (latency : TradingLatencyResponse)
    (matrix : GateBenchmarkMatrix) (now : Int) (source egress : TradingPairNode)
    (venueA venueB : Target) (e : Estimate) : Prop
    extends MapConnects localeCompare latency matrix now source egress venueA venueB e where
  savedA : 0 ≤ e.savedA
  savedB : 0 ≤ e.savedB
  saved : 0 < e.savedMs

/-! ### Measurements -/

theorem tradingMeasurementState_eq_fresh {nodeFresh : Bool} {target : Target}
    {measurement : Option Measurement}
    (h : tradingMeasurementState nodeFresh target measurement now = .fresh) :
    ∃ m ∈ measurement, (∃ t, m.measuredAt = some t) ∧ ∃ ms, m.tcpMs = some ms ∧ 0 ≤ ms := by
  unfold tradingMeasurementState at h
  split at h
  · cases h
  · split at h
    · cases h
    · rename_i m
      split at h
      · cases h
      · rename_i hRecent
        split at h
        · cases h
        · split at h
          · cases h
          · rename_i hFit
            refine ⟨m, rfl, ?_, ?_⟩
            · cases hTime : m.measuredAt with
              | none => simp [isRecent, hTime] at hRecent
              | some t => exact ⟨t, rfl⟩
            · cases hTcp : m.tcpMs with
              | none => simp [finiteNonnegative, hTcp] at hFit
              | some ms =>
                  simp [finiteNonnegative, hTcp] at hFit
                  exact ⟨ms, rfl, hFit.2⟩

theorem MapFresh.measured {nodeId targetId : String} {m : Measurement}
    (h : MapFresh localeCompare latency matrix now nodeId targetId m) :
    (∃ t, m.measuredAt = some t) ∧ ∃ ms, m.tcpMs = some ms ∧ 0 ≤ ms := by
  obtain ⟨hMeasurement, hState⟩ := h
  obtain ⟨node, -, hVenue⟩ := List.mem_flatMap.1 (mem_of_mapGet hState)
  obtain ⟨venue, -, hEntry⟩ := List.mem_map.1 hVenue
  have hKey : joinedKey node.id venue.id = joinedKey nodeId targetId := congrArg Prod.fst hEntry
  have hSame : measurementOf latency node.id venue.id = some m := by
    rw [← hMeasurement, measurementOf, measurementOf, hKey]
  obtain ⟨m', hm', hMeasured⟩ := tradingMeasurementState_eq_fresh (congrArg Prod.snd hEntry)
  rw [hSame] at hm'
  cases hm'
  exact hMeasured

theorem spreadExceeds_measuredAt {rows : List Measurement} {bound : Int} (hSome : rows ≠ [])
    (hTimes : ∀ m ∈ rows, ∃ t, m.measuredAt = some t) :
    spreadExceeds (rows.map (·.measuredAt)) bound = false ↔
      ∀ m ∈ rows, ∀ m' ∈ rows, ∀ t ∈ m.measuredAt, ∀ t' ∈ m'.measuredAt, t - t' ≤ bound := by
  have hTimes' : rows.map (·.measuredAt) = (rows.map (·.measuredAt.getD 0)).map some := by
    rw [List.map_map]
    apply List.map_congr_left
    intro m hm
    obtain ⟨t, ht⟩ := hTimes m hm
    simp [ht]
  rw [hTimes', spreadExceeds_eq_false_iff (by simpa using hSome)]
  simp only [List.forall_mem_map]
  constructor
  · intro h m hm m' hm' t ht t' ht'
    have hBound := h m hm m' hm'
    simpa [Option.mem_def.1 ht, Option.mem_def.1 ht'] using hBound
  · intro h m hm m' hm'
    obtain ⟨t, ht⟩ := hTimes m hm
    obtain ⟨t', ht'⟩ := hTimes m' hm'
    simpa [ht, ht'] using h m hm m' hm' t ht t' ht'

/-! ### The loop over the egress nodes -/

theorem schedulable_iff {node : TradingPairNode} (h : node ∈ pairNodes latency matrix) :
    node.schedulable = true ↔ MapSchedulable matrix node.gateId := by
  obtain ⟨row, -, rfl⟩ := List.mem_map.1 h
  simp [MapSchedulable, Option.any_eq_true]

theorem MapSchedulable.gateId {gateId : Option String} (h : MapSchedulable matrix gateId) :
    ∃ id, gateId = some id ∧ id ≠ "" := by
  obtain ⟨gate, hGate, -⟩ := h
  cases gateId with
  | none => cases hGate
  | some id =>
      refine ⟨id, rfl, ?_⟩
      rintro rfl
      simp [gateOf] at hGate

theorem estimateOf_eq_some_iff {directA directB : Measurement}
    (hEgress : egress ∈ pairNodes latency matrix) (hSource : MapSchedulable matrix source.gateId)
    (hA : MapFresh localeCompare latency matrix now source.id venueA.id directA)
    (hB : MapFresh localeCompare latency matrix now source.id venueB.id directB) :
    estimateOf localeCompare latency matrix now source egress venueA venueB directA directB =
        some e ↔
      MapConnects localeCompare latency matrix now source egress venueA venueB e ∧
        e.directA = directA ∧ e.directB = directB := by
  have hTimes : ∀ {e : Estimate}, e.directA = directA → e.directB = directB →
      MapFresh localeCompare latency matrix now egress.id venueA.id e.exitA →
      MapFresh localeCompare latency matrix now egress.id venueB.id e.exitB →
      ∀ m ∈ e.measurements, ∃ t, m.measuredAt = some t := by
    rintro e rfl rfl hExitA hExitB m hm
    simp only [Estimate.measurements, List.mem_cons, List.not_mem_nil, or_false] at hm
    rcases hm with rfl | rfl | rfl | rfl
    exacts [hA.measured.1, hB.measured.1, hExitA.measured.1, hExitB.measured.1]
  simp only [estimateOf, Option.bind_eq_bind, Option.bind_eq_some_iff, Option.guard_eq_some',
    Option.pure_def, Option.some.injEq, Bool.not_eq_true']
  constructor
  · rintro ⟨a, hSourceId, b, hEgressId, -, ⟨hSome, hOther, hReady⟩, route, hRoute, backbone,
      hBackbone, -, hUsable, exitA, hExitA, exitB, hExitB, -, ⟨hFreshA, hFreshB⟩, -, hSpread, rfl⟩
    refine ⟨⟨hSource, (schedulable_iff hEgress).1 hReady, ?_, hA, hB, ⟨hExitA, hFreshA⟩,
      ⟨hExitB, hFreshB⟩, ?_, ⟨a, hSourceId, b, hEgressId, hRoute, hBackbone, hUsable⟩⟩, rfl, rfl⟩
    · rw [hSourceId, hEgressId]
      exact fun hSame => hOther (Option.some.inj hSame).symm
    · exact (spreadExceeds_measuredAt (by simp [Estimate.measurements])
        (hTimes rfl rfl ⟨hExitA, hFreshA⟩ ⟨hExitB, hFreshB⟩)).1 hSpread
  · rintro ⟨h, rfl, rfl⟩
    obtain ⟨a, hSourceId, b, hEgressId, hRoute, hBackbone, hUsable⟩ := h.backbone
    obtain ⟨b', hEgressId', hSome⟩ := h.egressGate.gateId
    obtain rfl : b = b' := Option.some.inj (hEgressId.symm.trans hEgressId')
    refine ⟨a, hSourceId, b, hEgressId, (), ⟨hSome, ?_, (schedulable_iff hEgress).2 h.egressGate⟩,
      e.route, hRoute, e.backbone, hBackbone, (), hUsable, e.exitA, h.exitA.1, e.exitB, h.exitB.1,
      (), ⟨h.exitA.2, h.exitB.2⟩, (), ?_, rfl⟩
    · rintro rfl
      exact h.distinct (hSourceId.trans hEgressId.symm)
    · exact (spreadExceeds_measuredAt (by simp [Estimate.measurements])
        (hTimes rfl rfl h.exitA h.exitB)).2 h.together

/-- What the best candidate is ranked by. -/
def TradingPairRow.rank (row : TradingPairRow) : Bool ×ₗ ℚᵒᵈ :=
  toLex (row.configEligible, OrderDual.toDual (row.estimatedIndexMs.getD 0))

theorem replaces_eq {row : TradingPairRow} {best : Option TradingPairRow} :
    (if replaces row best then some row else best) =
      replaceIfGreater TradingPairRow.rank row best := by
  cases best with
  | none => rfl
  | some best =>
      have hRank : replaces row (some best) = true ↔ best.rank < row.rank := by
        simp only [replaces, TradingPairRow.rank, Prod.Lex.toLex_lt_toLex,
          OrderDual.toDual_lt_toDual]
        cases row.configEligible <;> cases best.configEligible <;> simp
      simp only [replaceIfGreater, hRank]

theorem newest_bestCandidate {directA directB : Measurement} :
    Newest TradingPairRow.rank
      (fun row => ∃ egress ∈ pairNodes latency matrix, ∃ e,
        estimateOf localeCompare latency matrix now source egress venueA venueB directA directB =
          some e ∧
        row = e.candidate now (baseRow localeCompare latency matrix now source venueA venueB) source
          egress)
      (bestCandidate localeCompare latency matrix now source venueA venueB directA directB) := by
  let candidateOf (egress : TradingPairNode) : Option TradingPairRow :=
    (estimateOf localeCompare latency matrix now source egress venueA venueB directA directB).map
      fun e => e.candidate now (baseRow localeCompare latency matrix now source venueA venueB)
        source
        egress
  have hLoop : bestCandidate localeCompare latency matrix now source venueA venueB directA directB =
      (pairNodes latency matrix).foldl
        (fun best egress => (candidateOf egress).elim best
          (replaceIfGreater TradingPairRow.rank · best)) none := by
    unfold bestCandidate
    congr
    funext best egress
    simp only [candidateOf]
    cases estimateOf localeCompare latency matrix now source egress venueA venueB directA
      directB with
    | none => rfl
    | some e => exact replaces_eq
  rw [hLoop]
  have hNone : Newest TradingPairRow.rank (fun _ => False) none := fun _ h => h
  apply (hNone.foldl (pairNodes latency matrix)).congr
  intro row
  simp [candidateOf, eq_comm]

/-! ### The row of a pair -/

theorem candidate_eligible_iff {base : TradingPairRow} :
    (e.candidate now base source egress).configEligible = true ↔
      0 ≤ e.savedA ∧ 0 ≤ e.savedB ∧ 0 < e.savedMs := by
  simp only [Estimate.candidate, Estimate.regression, Bool.and_eq_true, decide_eq_true_eq,
    Bool.not_eq_true', Bool.or_eq_false_iff, decide_eq_false_iff_not, not_lt]
  exact ⟨fun ⟨h, hA, hB⟩ => ⟨hA, hB, h⟩, fun ⟨hA, hB, h⟩ => ⟨h, hA, hB⟩⟩

theorem MapConnects.improves_iff
    (h : MapConnects localeCompare latency matrix now source egress venueA venueB e) :
    MapImproves localeCompare latency matrix now source egress venueA venueB e ↔
      0 ≤ e.savedA ∧ 0 ≤ e.savedB ∧ 0 < e.savedMs :=
  ⟨fun h => ⟨h.savedA, h.savedB, h.saved⟩, fun ⟨hA, hB, hSaved⟩ => ⟨h, hA, hB, hSaved⟩⟩

/-- An estimate is not negative, so what improves on the baseline has one. -/
theorem MapImproves.directIndexMs_pos
    (h : MapImproves localeCompare latency matrix now source egress venueA venueB e) :
    0 < e.directIndexMs := by
  obtain ⟨_, _, _, _, _, _, hUsable⟩ := h.backbone
  have hBackbone : 0 ≤ e.backboneRttMs := by
    simp only [usableBackbone, Bool.and_eq_true] at hUsable
    obtain ⟨ms, hMs, hNonneg⟩ := Option.any_eq_true _ _ |>.1 hUsable.1.1.2
    simpa [Estimate.backboneRttMs, hMs] using hNonneg
  obtain ⟨a, hExitA, hA⟩ := h.exitA.measured.2
  obtain ⟨b, hExitB, hB⟩ := h.exitB.measured.2
  have hSaved := h.saved
  simp only [Estimate.savedMs, Estimate.estimatedIndexMs, Estimate.estimatedA, Estimate.estimatedB,
    hExitA, hExitB, Option.getD_some] at hSaved
  linarith

theorem pairRow_eligible (hSource : source ∈ pairNodes latency matrix)
    (hEligible :
      (pairRow localeCompare latency matrix now source venueA venueB).configEligible = true) :
    ∃ directA directB best, MapSchedulable matrix source.gateId ∧
      MapFresh localeCompare latency matrix now source.id venueA.id directA ∧
      MapFresh localeCompare latency matrix now source.id venueB.id directB ∧
      bestCandidate localeCompare latency matrix now source venueA venueB directA directB =
        some best ∧ best.configEligible = true ∧
      pairRow localeCompare latency matrix now source venueA venueB =
        { best with id := routeId source.id (best.egressNodeId.getD "") venueA venueB } := by
  unfold pairRow at hEligible ⊢
  split at hEligible
  · rename_i hStates
    rw [if_pos hStates]
    split at hEligible
    · rename_i directA directB hA hB
      split at hEligible
      · cases hEligible
      · rename_i hWindow
        dsimp only at hEligible
        split at hEligible
        · cases hEligible
        · rename_i hReady
          split at hEligible
          · rename_i best hBest
            have hGate : source.schedulable = true := by simpa using fun h => hReady (.inr (.inr h))
            refine ⟨directA, directB, best, (schedulable_iff hSource).1 hGate, ⟨hA, hStates.1⟩,
              ⟨hB, hStates.2⟩, hBest, hEligible, ?_⟩
            simp only [if_neg hWindow, if_neg hReady]
          · cases hEligible
    · cases hEligible
  · cases hEligible

theorem bestCandidate_eq_some {directA directB : Measurement} {best : TradingPairRow}
    (hSource : MapSchedulable matrix source.gateId)
    (hA : MapFresh localeCompare latency matrix now source.id venueA.id directA)
    (hB : MapFresh localeCompare latency matrix now source.id venueB.id directB)
    (hBest : bestCandidate localeCompare latency matrix now source venueA venueB directA directB =
      some best) :
    (∃ egress ∈ pairNodes latency matrix, ∃ e,
      MapConnects localeCompare latency matrix now source egress venueA venueB e ∧
      best = e.candidate now (baseRow localeCompare latency matrix now source venueA venueB) source
        egress) ∧
      ∀ egress ∈ pairNodes latency matrix, ∀ e,
        MapConnects localeCompare latency matrix now source egress venueA venueB e →
          (e.candidate now (baseRow localeCompare latency matrix now source venueA venueB) source
            egress).rank ≤ best.rank := by
  have hNewest := @newest_bestCandidate localeCompare latency matrix now source venueA venueB
    directA directB
  rw [hBest] at hNewest
  obtain ⟨⟨egress, hEgress, e, hEstimate, hCandidate⟩, hMost⟩ := hNewest
  constructor
  · exact ⟨egress, hEgress, e, ((estimateOf_eq_some_iff hEgress hSource hA hB).1 hEstimate).1,
      hCandidate⟩
  · intro egress hEgress e hConnects
    apply hMost
    refine ⟨egress, hEgress, e,
      (estimateOf_eq_some_iff hEgress hSource hA hB).2 ⟨hConnects, ?_, ?_⟩,
      rfl⟩
    · exact Option.some.inj (hConnects.directA.1.symm.trans hA.1)
    · exact Option.some.inj (hConnects.directB.1.symm.trans hB.1)

theorem rank_candidate_le {base base' : TradingPairRow} {egress' : TradingPairNode} {e' : Estimate}
    (hEligible : (e.candidate now base source egress).configEligible = true)
    (hEligible' : (e'.candidate now base' source egress').configEligible = true)
    (h : (e'.candidate now base' source egress').rank ≤ (e.candidate now base source egress).rank) :
    e.estimatedIndexMs ≤ e'.estimatedIndexMs := by
  simp only [TradingPairRow.rank, hEligible, hEligible', Prod.Lex.toLex_le_toLex] at h
  simpa [Estimate.candidate] using h

/-- An eligible row has the egress with the smallest index of those that improve both legs. -/
theorem pairRow_sound (hSource : source ∈ pairNodes latency matrix)
    (hEligible :
      (pairRow localeCompare latency matrix now source venueA venueB).configEligible = true) :
    ∃ egress ∈ pairNodes latency matrix, ∃ e,
      MapImproves localeCompare latency matrix now source egress venueA venueB e ∧
      pairRow localeCompare latency matrix now source venueA venueB =
        { e.candidate now (baseRow localeCompare latency matrix now source venueA venueB) source
            egress with id := routeId source.id egress.id venueA venueB } ∧
      ∀ egress' ∈ pairNodes latency matrix, ∀ e',
        MapImproves localeCompare latency matrix now source egress' venueA venueB e' →
          e.estimatedIndexMs ≤ e'.estimatedIndexMs := by
  obtain ⟨directA, directB, best, hGate, hA, hB, hBest, hBestEligible, hRow⟩ :=
    pairRow_eligible hSource hEligible
  obtain ⟨⟨egress, hEgress, e, hConnects, rfl⟩, hMost⟩ := bestCandidate_eq_some hGate hA hB hBest
  refine ⟨egress, hEgress, e, hConnects.improves_iff.2 (candidate_eligible_iff.1 hBestEligible),
    hRow, ?_⟩
  intro egress' hEgress' e' hImproves
  have hEligible' : (e'.candidate now
      (baseRow localeCompare latency matrix now source venueA venueB) source
        egress').configEligible = true :=
    candidate_eligible_iff.2 (hImproves.toMapConnects.improves_iff.1 hImproves)
  exact rank_candidate_le hBestEligible hEligible'
    (hMost egress' hEgress' e' hImproves.toMapConnects)

theorem pairRow_complete (hSource : source ∈ pairNodes latency matrix)
    (hEgress : egress ∈ pairNodes latency matrix)
    (h : MapImproves localeCompare latency matrix now source egress venueA venueB e) :
    (pairRow localeCompare latency matrix now source venueA venueB).configEligible = true := by
  have hWindow : spreadExceeds ([e.directA, e.directB].map (·.measuredAt))
      (probeInterval venueA venueB) = false := by
    have hSubset : ∀ m ∈ [e.directA, e.directB], m ∈ e.measurements := by
      simp [Estimate.measurements]
    rw [spreadExceeds_measuredAt (by simp)
      (by simp [h.directA.measured.1, h.directB.measured.1])]
    intro m hm m' hm'
    exact h.together m (hSubset m hm) m' (hSubset m' hm')
  obtain ⟨a, hGateId, hSome⟩ := h.sourceGate.gateId
  have hReady : ¬ (e.directA.tcpMs.getD 0 + e.directB.tcpMs.getD 0 ≤ 0 ∨
      source.gateId.getD "" = "" ∨ source.schedulable = false) := by
    rintro (hIndex | hNoGate | hNot)
    · exact absurd h.directIndexMs_pos (not_lt_of_ge hIndex)
    · rw [hGateId] at hNoGate
      exact hSome hNoGate
    · rw [(schedulable_iff hSource).2 h.sourceGate] at hNot
      cases hNot
  have hCandidate : (e.candidate now
      (baseRow localeCompare latency matrix now source venueA venueB) source
        egress).configEligible = true :=
    candidate_eligible_iff.2 (h.toMapConnects.improves_iff.1 h)
  have hSeen := (estimateOf_eq_some_iff hEgress h.sourceGate h.directA h.directB).2
    ⟨h.toMapConnects, rfl, rfl⟩
  have hNewest := @newest_bestCandidate localeCompare latency matrix now source venueA venueB
    e.directA e.directB
  unfold pairRow
  simp only [List.map_cons, List.map_nil] at hWindow
  simp only [h.directA.2, h.directB.2, and_self, if_true, h.directA.1, h.directB.1, hWindow,
    Bool.false_eq_true, if_false, if_neg hReady]
  cases hBest : bestCandidate localeCompare latency matrix now source venueA venueB e.directA
      e.directB with
  | none =>
      rw [hBest] at hNewest
      exact absurd ⟨egress, hEgress, e, hSeen, rfl⟩ (hNewest _)
  | some best =>
      rw [hBest] at hNewest
      have hRank := hNewest.2 _ ⟨egress, hEgress, e, hSeen, rfl⟩
      simp only [TradingPairRow.rank, hCandidate, Prod.Lex.toLex_le_toLex] at hRank
      cases hEligible : best.configEligible with
      | true => rfl
      | false =>
          simp [hEligible] at hRank
          exact absurd hRank (by decide)

end

end Hyperspace.Trading
