import Hyperspace.Trading.Presets

/-!
# Sound presets

What a preset promises, in terms of the responses that it is computed from. The maps say the same of
nodes, targets, gates, measurements and routes that the responses tell apart by their ids.
-/

namespace Hyperspace.Trading

open Hyperspace.Foundations

/-! ### What a preset stands for -/

section

variable (latency : TradingLatencyResponse) (matrix : GateBenchmarkMatrix) (now : Int)

/-- The gate is in the matrix, ready and schedulable. -/
def GateSchedulable (gateId : Option String) : Prop :=
  ∃ gate ∈ matrix.gates, gateId = some gate.id ∧ gate.ready = true ∧ gate.schedulable = true

instance {gateId : Option String} : Decidable (GateSchedulable matrix gateId) :=
  inferInstanceAs (Decidable (∃ gate ∈ matrix.gates, _))

/-- A direct measurement of the venue from the node that is fresh. -/
def Fresh (node : LatencyNode) (venue : Target) (m : Measurement) : Prop :=
  m ∈ directMeasurements latency ∧ m.nodeId = node.id ∧ m.targetId = venue.id ∧
    tradingMeasurementState node.fresh venue (some m) now = .fresh

instance {node : LatencyNode} {venue : Target} {m : Measurement} :
    Decidable (Fresh latency now node venue m) :=
  inferInstanceAs (Decidable (_ ∧ _ ∧ _ ∧ _))

/-- A route of the matrix between the gates of the nodes, with a usable backbone. -/
def Backbone (source egress : LatencyNode) (route : GateBenchmarkRoute)
    (backbone : GateBenchmarkMetric) : Prop :=
  route ∈ matrix.routes ∧ source.gateId = some route.sourceGateId ∧
    egress.gateId = some route.targetGateId ∧ route.doublezero = some backbone ∧
    usableBackbone now route backbone = true

instance {source egress : LatencyNode} {route : GateBenchmarkRoute}
    {backbone : GateBenchmarkMetric} :
    Decidable (Backbone matrix now source egress route backbone) :=
  inferInstanceAs (Decidable (_ ∧ _ ∧ _ ∧ _ ∧ _))

/-- The egress is one for a preset: it joins the venues to the source by measurements that are fresh
and belong together, loses time to neither venue, and saves some. -/
structure Improves (source egress : LatencyNode) (venueA venueB : Target) (e : Estimate) :
    Prop where
  sourceGate : GateSchedulable matrix source.gateId
  egressGate : GateSchedulable matrix egress.gateId
  distinct : source.gateId ≠ egress.gateId
  directA : Fresh latency now source venueA e.directA
  directB : Fresh latency now source venueB e.directB
  exitA : Fresh latency now egress venueA e.exitA
  exitB : Fresh latency now egress venueB e.exitB
  together : ∀ m ∈ e.measurements, ∀ m' ∈ e.measurements, ∀ t ∈ m.measuredAt,
    ∀ t' ∈ m'.measuredAt, t - t' ≤ probeInterval venueA venueB
  backbone : Backbone matrix now source egress e.route e.backbone
  savedA : 0 ≤ e.savedA
  savedB : 0 ≤ e.savedB
  saved : 0 < e.savedMs

instance {source egress : LatencyNode} {venueA venueB : Target} {e : Estimate} :
    Decidable (Improves latency matrix now source egress venueA venueB e) :=
  decidable_of_iff
    ((GateSchedulable matrix source.gateId ∧ GateSchedulable matrix egress.gateId ∧
        source.gateId ≠ egress.gateId) ∧
      (Fresh latency now source venueA e.directA ∧ Fresh latency now source venueB e.directB ∧
        Fresh latency now egress venueA e.exitA ∧ Fresh latency now egress venueB e.exitB) ∧
      (∀ m ∈ e.measurements, ∀ m' ∈ e.measurements, ∀ t ∈ m.measuredAt, ∀ t' ∈ m'.measuredAt,
        t - t' ≤ probeInterval venueA venueB) ∧
      Backbone matrix now source egress e.route e.backbone ∧
      0 ≤ e.savedA ∧ 0 ≤ e.savedB ∧ 0 < e.savedMs)
    ⟨fun ⟨⟨h1, h2, h3⟩, ⟨h4, h5, h6, h7⟩, h8, h9, h10, h11, h12⟩ =>
        ⟨h1, h2, h3, h4, h5, h6, h7, h8, h9, h10, h11, h12⟩,
      fun h => ⟨⟨h.sourceGate, h.egressGate, h.distinct⟩, ⟨h.directA, h.directB, h.exitA, h.exitB⟩,
        h.together, h.backbone, h.savedA, h.savedB, h.saved⟩⟩

/-- The row shows the pair of venues from the source through the egress. -/
structure Shows (row : TradingPairRow) (source egress : LatencyNode) (venueA venueB : Target)
    (e : Estimate) : Prop where
  source : row.sourceNodeId = source.id
  egress : row.egressNodeId = some egress.id
  venueA : row.venueAId = venueA.id
  venueB : row.venueBId = venueB.id
  savedA : row.legA.savedMs = some e.savedA
  savedB : row.legB.savedMs = some e.savedB
  estimatedIndexMs : row.estimatedIndexMs = some e.estimatedIndexMs
  savedMs : row.savedMs = some e.savedMs

/-- Every row that may be bought shows the fastest egress that improves both legs, and where an
egress does so, the row of the source and the two venues may be bought. -/
structure SoundAndOptimal (rows : List TradingPairRow) : Prop where
  sound : ∀ row ∈ rows, row.configEligible = true →
    ∃ source ∈ latency.nodes, ∃ venueA ∈ curate [] latency.targets,
    ∃ venueB ∈ curate [] latency.targets, venueA ≠ venueB ∧
      ∃ egress ∈ latency.nodes, ∃ e, Shows row source egress venueA venueB e ∧
        Improves latency matrix now source egress venueA venueB e ∧
        ∀ egress' ∈ latency.nodes, ∀ e',
          Improves latency matrix now source egress' venueA venueB e' →
            e.estimatedIndexMs ≤ e'.estimatedIndexMs
  complete : ∀ source ∈ latency.nodes, ∀ venueA ∈ curate [] latency.targets,
    ∀ venueB ∈ curate [] latency.targets, venueA ≠ venueB →
    ∀ egress ∈ latency.nodes, ∀ e, Improves latency matrix now source egress venueA venueB e →
      ∃ row ∈ rows, row.configEligible = true ∧ row.sourceNodeId = source.id ∧
        (row.venueAId = venueA.id ∧ row.venueBId = venueB.id ∨
          row.venueAId = venueB.id ∧ row.venueBId = venueA.id)

/-- The responses tell their rows apart by ids, and so do the keys that join two ids with a colon.
-/
structure Identified : Prop where
  nodes : (latency.nodes.map (·.id)).Nodup
  targets : (latency.targets.map (·.id)).Nodup
  measurements : ((directMeasurements latency).map fun m => (m.nodeId, m.targetId)).Nodup
  gates : (matrix.gates.map (·.id)).Nodup
  routes : (matrix.routes.map fun route => (route.sourceGateId, route.targetGateId)).Nodup
  nodeIds : ∀ node ∈ latency.nodes, ':' ∉ node.id.toList
  measuredIds : ∀ m ∈ latency.measurements, ':' ∉ m.nodeId.toList
  gateIds : ∀ gate ∈ matrix.gates, gate.id ≠ "" ∧ ':' ∉ gate.id.toList
  routeIds : ∀ route ∈ matrix.routes, ':' ∉ route.sourceGateId.toList

end

/-! ### Pairs of venues -/

theorem mem_combinations {α : Type} {a b : α} {items : List α} (ha : a ∈ items) (hb : b ∈ items)
    (hne : a ≠ b) : (a, b) ∈ combinations items ∨ (b, a) ∈ combinations items := by
  induction items with
  | nil => cases ha
  | cons item items ih =>
      unfold combinations
      simp only [List.mem_append, List.mem_map, Prod.mk.injEq]
      rcases List.mem_cons.1 ha with rfl | haRest
      · rcases List.mem_cons.1 hb with rfl | hbRest
        · exact absurd rfl hne
        · exact .inl (.inl ⟨b, hbRest, rfl, rfl⟩)
      · rcases List.mem_cons.1 hb with rfl | hbRest
        · exact .inr (.inl ⟨a, haRest, rfl, rfl⟩)
        · rcases ih haRest hbRest with hFirst | hSecond
          · exact .inl (.inr hFirst)
          · exact .inr (.inr hSecond)

theorem of_mem_combinations {α : Type} {a b : α} {items : List α} (hNodup : items.Nodup)
    (h : (a, b) ∈ combinations items) : a ∈ items ∧ b ∈ items ∧ a ≠ b := by
  induction items with
  | nil => cases h
  | cons item items ih =>
      unfold combinations at h
      obtain ⟨hItem, hRest⟩ := List.nodup_cons.1 hNodup
      rcases List.mem_append.1 h with hHead | hTail
      · obtain ⟨b', hb', hEq⟩ := List.mem_map.1 hHead
        cases hEq
        refine ⟨List.mem_cons_self, List.mem_cons_of_mem _ hb', ?_⟩
        rintro rfl
        exact hItem hb'
      · obtain ⟨ha, hb, hne⟩ := ih hRest hTail
        exact ⟨List.mem_cons_of_mem _ ha, List.mem_cons_of_mem _ hb, hne⟩

theorem curate_sublist (venueKeys : List String) (targets : List Target) :
    (curate venueKeys targets).Sublist targets := by
  induction targets generalizing venueKeys with
  | nil => exact .refl _
  | cons target targets ih =>
      unfold curate
      split
      · exact (ih _).cons _
      · split
        · exact (ih _).cons _
        · exact (ih _).cons_cons _

section

variable {localeCompare : String → String → Ordering} {latency : TradingLatencyResponse}
  {matrix : GateBenchmarkMatrix} {now : Int} {source egress node : LatencyNode}
  {venue venueA venueB : Target} {e : Estimate} {m : Measurement}

theorem mem_venues : venue ∈ venues localeCompare latency ↔ venue ∈ curate [] latency.targets :=
  List.mem_insertionSort _

theorem Identified.curate_nodup (h : Identified latency matrix) :
    (curate [] latency.targets).Nodup :=
  (curate_sublist [] latency.targets).nodup (List.Nodup.of_map _ h.targets)

theorem Identified.venues_nodup (h : Identified latency matrix) :
    (venues localeCompare latency).Nodup :=
  (List.perm_insertionSort _ _).nodup_iff.2 h.curate_nodup

/-- The venues of an estimate in the other order. -/
def Estimate.swap (e : Estimate) : Estimate :=
  { e with
    directA := e.directB
    directB := e.directA
    exitA := e.exitB
    exitB := e.exitA }

theorem Improves.swap (h : Improves latency matrix now source egress venueA venueB e) :
    Improves latency matrix now source egress venueB venueA e.swap where
  sourceGate := h.sourceGate
  egressGate := h.egressGate
  distinct := h.distinct
  directA := h.directB
  directB := h.directA
  exitA := h.exitB
  exitB := h.exitA
  together := by
    have hSame : ∀ m, m ∈ e.swap.measurements → m ∈ e.measurements := by
      intro m hm
      simp only [Estimate.measurements, Estimate.swap, List.mem_cons, List.not_mem_nil,
        or_false] at hm ⊢
      grind
    have hInterval : probeInterval venueB venueA = probeInterval venueA venueB := max_comm _ _
    intro m hm m' hm' t ht t' ht'
    rw [hInterval]
    exact h.together m (hSame m hm) m' (hSame m' hm') t ht t' ht'
  backbone := h.backbone
  savedA := h.savedB
  savedB := h.savedA
  saved := by
    have hSaved := h.saved
    simp only [Estimate.savedMs, Estimate.directIndexMs, Estimate.estimatedIndexMs,
      Estimate.estimatedA, Estimate.estimatedB, Estimate.backboneRttMs, Estimate.swap] at hSaved ⊢
    linarith

/-! ### What the maps tell -/

theorem joinedKey_inj {a b c d : String} (hA : ':' ∉ a.toList) (hC : ':' ∉ c.toList)
    (h : joinedKey a b = joinedKey c d) : a = c ∧ b = d := by
  have hChars : a.toList ++ ':' :: b.toList = c.toList ++ ':' :: d.toList := by
    simpa [joinedKey] using congrArg String.toList h
  have hHead : a.toList = c.toList := by
    rcases List.append_eq_append_iff.1 hChars with ⟨rest, hRest, hTail⟩ | ⟨rest, hRest, hTail⟩
    · cases rest with
      | nil => simpa using hRest.symm
      | cons x rest =>
          obtain ⟨rfl, -⟩ := List.cons.inj hTail
          exact absurd (by simp [hRest]) hC
    · cases rest with
      | nil => simpa using hRest
      | cons x rest =>
          obtain ⟨rfl, -⟩ := List.cons.inj hTail
          exact absurd (by simp [hRest]) hA
  rw [hHead, List.append_cancel_left_eq] at hChars
  exact ⟨String.toList_inj.1 hHead, String.toList_inj.1 (List.cons.inj hChars).2⟩

/-- Rows under the key that joins two of their ids: the first id has no colon. -/
theorem mapGet_joinedRows {α : Type} {rows : List α} {row : α} {first second : α → String}
    {a b : String} (hNodup : (rows.map fun row => (first row, second row)).Nodup)
    (hFirst : ∀ row ∈ rows, ':' ∉ (first row).toList) (hA : ':' ∉ a.toList) :
    mapGet (rows.map fun row => (joinedKey (first row) (second row), row)) (joinedKey a b) =
      some row ↔ row ∈ rows ∧ first row = a ∧ second row = b := by
  have hKey : ∀ row ∈ rows, joinedKey (first row) (second row) = joinedKey a b →
      first row = a ∧ second row = b :=
    fun row hRow => joinedKey_inj (hFirst row hRow) hA
  have hRows : mapGet (rows.map fun row => (joinedKey (first row) (second row), row))
      (joinedKey a b) = some row ↔
        row ∈ rows ∧ joinedKey (first row) (second row) = joinedKey a b := by
    apply mapGet_rows
    intro row hRow row' hRow' hJoined hJoined'
    obtain ⟨hSame, hSame'⟩ := hKey row hRow hJoined
    obtain ⟨hOther, hOther'⟩ := hKey row' hRow' hJoined'
    exact List.inj_on_of_nodup_map hNodup hRow hRow'
      (Prod.ext (hSame.trans hOther.symm) (hSame'.trans hOther'.symm))
  refine hRows.trans (and_congr_right fun hMem => ⟨hKey row hMem, ?_⟩)
  rintro ⟨hA, hB⟩
  rw [hA, hB]

/-- A node with what the snapshot adds to it. -/
def pairNode (matrix : GateBenchmarkMatrix) (node : LatencyNode) : TradingPairNode :=
  { node with
    gateName := (gateOf matrix node.gateId).map (·.name)
    schedulable := (gateOf matrix node.gateId).any fun gate => gate.ready && gate.schedulable }

theorem mem_pairNodes {pair : TradingPairNode} :
    pair ∈ pairNodes latency matrix ↔ ∃ node ∈ latency.nodes, pairNode matrix node = pair :=
  List.mem_map

theorem pairNode_mem (h : node ∈ latency.nodes) :
    pairNode matrix node ∈ pairNodes latency matrix :=
  mem_pairNodes.2 ⟨node, h, rfl⟩

variable (h : Identified latency matrix)
include h

theorem Identified.gateOf_eq_some_iff {gateId : Option String} {gate : GateSummary} :
    gateOf matrix gateId = some gate ↔ gate ∈ matrix.gates ∧ gateId = some gate.id := by
  cases gateId with
  | none => simp [gateOf]
  | some id =>
      have hRows : mapGet (matrix.gates.map fun gate => (gate.id, gate)) id = some gate ↔
          gate ∈ matrix.gates ∧ gate.id = id :=
        mapGet_rows fun row hRow row' hRow' hId hId' =>
          List.inj_on_of_nodup_map h.gates hRow hRow' (hId.trans hId'.symm)
      unfold gateOf
      rw [Option.some.injEq, eq_comm (a := id), ← hRows]
      constructor
      · intro hGate
        exact (Option.ite_none_left_eq_some.1 hGate).2
      · intro hGate
        have hMem := hRows.1 hGate
        exact (if_neg (hMem.2 ▸ (h.gateIds gate hMem.1).1)).trans hGate

theorem Identified.schedulable_iff {gateId : Option String} :
    MapSchedulable matrix gateId ↔ GateSchedulable matrix gateId := by
  constructor
  · rintro ⟨gate, hGate, hReady⟩
    obtain ⟨hMem, hId⟩ := h.gateOf_eq_some_iff.1 hGate
    exact ⟨gate, hMem, hId, hReady⟩
  · rintro ⟨gate, hMem, hId, hReady⟩
    exact ⟨gate, h.gateOf_eq_some_iff.2 ⟨hMem, hId⟩, hReady⟩

theorem Identified.measurementOf_eq_some_iff (hNode : node ∈ latency.nodes) {targetId : String} :
    measurementOf latency node.id targetId = some m ↔
      m ∈ directMeasurements latency ∧ m.nodeId = node.id ∧ m.targetId = targetId :=
  mapGet_joinedRows h.measurements
    (fun row hRow => h.measuredIds row (List.mem_of_mem_filter hRow)) (h.nodeIds node hNode)

theorem Identified.measurementStateOf_eq (hNode : node ∈ latency.nodes)
    (hVenue : venue ∈ curate [] latency.targets) :
    measurementStateOf localeCompare latency matrix now node.id venue.id =
      some (tradingMeasurementState node.fresh venue (measurementOf latency node.id venue.id)
        now) := by
  have hVenue' : venue ∈ venues localeCompare latency := mem_venues.2 hVenue
  apply mapGet_of_mem
  · exact List.mem_flatMap.2 ⟨pairNode matrix node, pairNode_mem hNode,
      List.mem_map.2 ⟨venue, hVenue', rfl⟩⟩
  · intro state hState
    obtain ⟨pair, hPair, hVenues⟩ := List.mem_flatMap.1 hState
    obtain ⟨node', hNode', rfl⟩ := mem_pairNodes.1 hPair
    obtain ⟨venue', hMem, hEntry⟩ := List.mem_map.1 hVenues
    obtain ⟨hJoined, rfl⟩ := Prod.mk.inj hEntry
    obtain ⟨hNodeId, hVenueId⟩ :=
      joinedKey_inj (h.nodeIds node' hNode') (h.nodeIds node hNode) hJoined
    have hTarget : ∀ {target : Target}, target ∈ curate [] latency.targets →
        target ∈ latency.targets := fun hTarget => (curate_sublist [] _).subset hTarget
    obtain rfl : node' = node := List.inj_on_of_nodup_map h.nodes hNode' hNode hNodeId
    obtain rfl : venue' = venue :=
      List.inj_on_of_nodup_map h.targets (hTarget (mem_venues.1 hMem)) (hTarget hVenue) hVenueId
    rfl

theorem Identified.fresh_iff (hNode : node ∈ latency.nodes)
    (hVenue : venue ∈ curate [] latency.targets) :
    MapFresh localeCompare latency matrix now node.id venue.id m ↔
      Fresh latency now node venue m := by
  unfold MapFresh Fresh
  rw [h.measurementStateOf_eq hNode hVenue, h.measurementOf_eq_some_iff hNode, Option.some.injEq]
  constructor
  · rintro ⟨⟨hMem, hNodeId, hTargetId⟩, hState⟩
    rw [(h.measurementOf_eq_some_iff hNode).2 ⟨hMem, hNodeId, hTargetId⟩] at hState
    exact ⟨hMem, hNodeId, hTargetId, hState⟩
  · rintro ⟨hMem, hNodeId, hTargetId, hState⟩
    rw [(h.measurementOf_eq_some_iff hNode).2 ⟨hMem, hNodeId, hTargetId⟩]
    exact ⟨⟨hMem, hNodeId, hTargetId⟩, hState⟩

theorem Identified.routeOf_eq_some_iff {sourceGateId targetGateId : String}
    (hGate : ':' ∉ sourceGateId.toList) {route : GateBenchmarkRoute} :
    routeOf matrix sourceGateId targetGateId = some route ↔
      route ∈ matrix.routes ∧ route.sourceGateId = sourceGateId ∧
        route.targetGateId = targetGateId :=
  mapGet_joinedRows h.routes h.routeIds hGate

theorem Identified.backbone_iff (hSource : GateSchedulable matrix source.gateId) :
    MapBackbone matrix now source.gateId egress.gateId e ↔
      Backbone matrix now source egress e.route e.backbone := by
  obtain ⟨gate, hGate, hSourceId, -⟩ := hSource
  have hRoute : ∀ targetGateId, routeOf matrix gate.id targetGateId = some e.route ↔
      e.route ∈ matrix.routes ∧ e.route.sourceGateId = gate.id ∧
        e.route.targetGateId = targetGateId :=
    fun _ => h.routeOf_eq_some_iff (h.gateIds gate hGate).2
  constructor
  · rintro ⟨a, ha, b, hb, hFound, hBackbone, hUsable⟩
    obtain rfl : gate.id = a := Option.some.inj (hSourceId.symm.trans ha)
    obtain ⟨hMem, hFrom, hTo⟩ := (hRoute b).1 hFound
    exact ⟨hMem, hSourceId.trans (congrArg some hFrom.symm), hb.trans (congrArg some hTo.symm),
      hBackbone, hUsable⟩
  · rintro ⟨hMem, hFrom, hTo, hBackbone, hUsable⟩
    have hSame : gate.id = e.route.sourceGateId := Option.some.inj (hSourceId.symm.trans hFrom)
    exact ⟨gate.id, hSourceId, e.route.targetGateId, hTo, (hRoute _).2 ⟨hMem, hSame.symm, rfl⟩,
      hBackbone, hUsable⟩

theorem Identified.improves_iff (hSource : source ∈ latency.nodes)
    (hEgress : egress ∈ latency.nodes)
    (hA : venueA ∈ curate [] latency.targets) (hB : venueB ∈ curate [] latency.targets) :
    MapImproves localeCompare latency matrix now (pairNode matrix source) (pairNode matrix egress)
        venueA venueB e ↔
      Improves latency matrix now source egress venueA venueB e := by
  constructor
  · intro hImproves
    have hGate := h.schedulable_iff.1 hImproves.sourceGate
    exact {
      sourceGate := hGate
      egressGate := h.schedulable_iff.1 hImproves.egressGate
      distinct := hImproves.distinct
      directA := (h.fresh_iff hSource hA).1 hImproves.directA
      directB := (h.fresh_iff hSource hB).1 hImproves.directB
      exitA := (h.fresh_iff hEgress hA).1 hImproves.exitA
      exitB := (h.fresh_iff hEgress hB).1 hImproves.exitB
      together := hImproves.together
      backbone := (h.backbone_iff hGate).1 hImproves.backbone
      savedA := hImproves.savedA
      savedB := hImproves.savedB
      saved := hImproves.saved }
  · intro hImproves
    exact {
      sourceGate := h.schedulable_iff.2 hImproves.sourceGate
      egressGate := h.schedulable_iff.2 hImproves.egressGate
      distinct := hImproves.distinct
      directA := (h.fresh_iff hSource hA).2 hImproves.directA
      directB := (h.fresh_iff hSource hB).2 hImproves.directB
      exitA := (h.fresh_iff hEgress hA).2 hImproves.exitA
      exitB := (h.fresh_iff hEgress hB).2 hImproves.exitB
      together := hImproves.together
      backbone := (h.backbone_iff hImproves.sourceGate).2 hImproves.backbone
      savedA := hImproves.savedA
      savedB := hImproves.savedB
      saved := hImproves.saved }

omit h in
theorem mem_snapshotRows {row : TradingPairRow} :
    row ∈ (buildTradingPairsSnapshot localeCompare latency matrix now).rows ↔
      ∃ source ∈ latency.nodes, ∃ pair ∈ combinations (venues localeCompare latency),
        pairRow localeCompare latency matrix now (pairNode matrix source) pair.1 pair.2 = row := by
  simp only [buildTradingPairsSnapshot, snapshotRows, List.mem_flatMap, List.mem_map, mem_pairNodes]
  constructor
  · rintro ⟨_, ⟨source, hSource, rfl⟩, hPair⟩
    exact ⟨source, hSource, hPair⟩
  · rintro ⟨source, hSource, hPair⟩
    exact ⟨_, ⟨source, hSource, rfl⟩, hPair⟩

theorem Identified.sound {row : TradingPairRow}
    (hRow : row ∈ (buildTradingPairsSnapshot localeCompare latency matrix now).rows)
    (hEligible : row.configEligible = true) :
    ∃ source ∈ latency.nodes, ∃ venueA ∈ curate [] latency.targets,
    ∃ venueB ∈ curate [] latency.targets, venueA ≠ venueB ∧
      ∃ egress ∈ latency.nodes, ∃ e, Shows row source egress venueA venueB e ∧
        Improves latency matrix now source egress venueA venueB e ∧
        ∀ egress' ∈ latency.nodes, ∀ e',
          Improves latency matrix now source egress' venueA venueB e' →
            e.estimatedIndexMs ≤ e'.estimatedIndexMs := by
  obtain ⟨source, hSource, ⟨venueA, venueB⟩, hPair, rfl⟩ := mem_snapshotRows.1 hRow
  obtain ⟨hMemA, hMemB, hne⟩ := of_mem_combinations h.venues_nodup hPair
  have hA := mem_venues.1 hMemA
  have hB := mem_venues.1 hMemB
  obtain ⟨pair, hEgressPair, e, hImproves, hShown, hLeast⟩ :=
    pairRow_sound (pairNode_mem hSource) hEligible
  obtain ⟨egress, hEgress, rfl⟩ := mem_pairNodes.1 hEgressPair
  refine ⟨source, hSource, venueA, hA, venueB, hB, hne, egress, hEgress, e, ?_,
    (h.improves_iff hSource hEgress hA hB).1 hImproves, ?_⟩
  · rw [hShown]
    exact ⟨rfl, rfl, rfl, rfl, rfl, rfl, rfl, rfl⟩
  · intro egress' hEgress' e' hImproves'
    exact hLeast _ (pairNode_mem hEgress') e' ((h.improves_iff hSource hEgress' hA hB).2 hImproves')

theorem Identified.exists_eligible (hSource : source ∈ latency.nodes)
    (hEgress : egress ∈ latency.nodes) (hA : venueA ∈ curate [] latency.targets)
    (hB : venueB ∈ curate [] latency.targets)
    (hPair : (venueA, venueB) ∈ combinations (venues localeCompare latency))
    (hImproves : Improves latency matrix now source egress venueA venueB e) :
    ∃ row ∈ (buildTradingPairsSnapshot localeCompare latency matrix now).rows,
      row.configEligible = true ∧ row.sourceNodeId = source.id ∧ row.venueAId = venueA.id ∧
        row.venueBId = venueB.id := by
  have hMapImproves : MapImproves localeCompare latency matrix now (pairNode matrix source)
      (pairNode matrix egress) venueA venueB e :=
    (h.improves_iff hSource hEgress hA hB).2 hImproves
  have hEligible := pairRow_complete (pairNode_mem hSource) (pairNode_mem hEgress) hMapImproves
  obtain ⟨_, _, _, -, hShown, -⟩ := pairRow_sound (pairNode_mem hSource) hEligible
  refine ⟨_, mem_snapshotRows.2 ⟨source, hSource, _, hPair, rfl⟩, hEligible, ?_, ?_, ?_⟩
  · rw [hShown]
    rfl
  · rw [hShown]
    rfl
  · rw [hShown]
    rfl

end

/-- Presets are sound and optimal when the responses tell their rows apart. -/
theorem presets_sound_and_optimal {localeCompare : String → String → Ordering}
    {latency : TradingLatencyResponse} {matrix : GateBenchmarkMatrix} {now : Int}
    (h : Identified latency matrix) :
    SoundAndOptimal latency matrix now
      (buildTradingPairsSnapshot localeCompare latency matrix now).rows where
  sound row hRow hEligible := h.sound hRow hEligible
  complete source hSource venueA hA venueB hB hne egress hEgress e hImproves := by
    have hMemA : venueA ∈ venues localeCompare latency := mem_venues.2 hA
    have hMemB : venueB ∈ venues localeCompare latency := mem_venues.2 hB
    rcases mem_combinations hMemA hMemB hne with hPair | hPair
    · obtain ⟨row, hRow, hEligible, hSourceId, hIds⟩ :=
        h.exists_eligible hSource hEgress hA hB hPair hImproves
      exact ⟨row, hRow, hEligible, hSourceId, .inl hIds⟩
    · obtain ⟨row, hRow, hEligible, hSourceId, hIds⟩ :=
        h.exists_eligible hSource hEgress hB hA hPair hImproves.swap
      exact ⟨row, hRow, hEligible, hSourceId, .inr hIds⟩

/-! ### Two gates -/

def sampleMeasurement (status : ProbeStatus) (nodeId targetId : String) (tcpMs : ℚ) : Measurement :=
  ⟨some .ipv4, nodeId, targetId, some 1, "direct", status, some 999000, some tcpMs, some 500,
    some 600, 3, 0⟩

def sampleVenue (id key : String) : Target := ⟨id, key, some 1, some 60, some key, some .cex⟩

/-- Two gates and the venues `idA` and `b`, at the second 1000 of a clock that started with the
probes. -/
def latencyOf (idA : String) : TradingLatencyResponse where
  nodes := [⟨"source", some "source", true⟩, ⟨"egress", some "egress", true⟩]
  targets := [sampleVenue idA "first", sampleVenue "b" "second"]
  measurements :=
    [sampleMeasurement .succeeded "source" idA 100, sampleMeasurement .succeeded "source" "b" 120,
      sampleMeasurement .succeeded "egress" idA 20, sampleMeasurement .succeeded "egress" "b" 30]

def sampleLatency : TradingLatencyResponse := latencyOf "a"

def sampleRoute : GateBenchmarkRoute :=
  ⟨"source", "egress", some ⟨.succeeded, some 999000, none, none, some 30⟩,
    some ⟨.succeeded, some 999000, some "doublezero0", some 0, some 10⟩, none⟩

def sampleMatrix : GateBenchmarkMatrix where
  gates := [⟨"source", "gate-source", true, true⟩, ⟨"egress", "gate-egress", true, true⟩]
  routes := [sampleRoute]

/-- The rows of the snapshot at the second 1000. -/
def rowsOf (latency : TradingLatencyResponse) (matrix : GateBenchmarkMatrix) :
    List TradingPairRow :=
  (buildTradingPairsSnapshot (fun _ _ => .eq) latency matrix 1000000).rows

/-- The backbone leads from the source to the egress, and not back. -/
example : ((rowsOf sampleLatency sampleMatrix).map
    fun row => (row.configEligible, row.estimatedIndexMs, row.savedMs)) =
      [(true, some 70, some 150), (false, none, none)] := by decide +kernel

theorem presets_sound_and_optimal_sample :
    SoundAndOptimal sampleLatency sampleMatrix 1000000 (rowsOf sampleLatency sampleMatrix) := by
  apply presets_sound_and_optimal
  constructor <;> decide +kernel

/-! ### Rows with one key -/

/-- The first row of the source has the gate, the second one is fresh. -/
def twoSources : TradingLatencyResponse :=
  { sampleLatency with
    nodes := [⟨"source", some "source", false⟩, ⟨"source", none, true⟩,
      ⟨"egress", some "egress", true⟩] }

/-- A second target with the id of the first venue has another revision. -/
def twoTargets : TradingLatencyResponse :=
  { sampleLatency with
    targets := sampleLatency.targets ++ [⟨"a", "c", some 2, some 60, some "third", some .cex⟩] }

/-- A second measurement of the first venue has failed. -/
def twoMeasurements : TradingLatencyResponse :=
  { sampleLatency with
    measurements := sampleLatency.measurements ++ [sampleMeasurement .failed "egress" "a" 20] }

/-- A measurement of another node and venue has the key of one of the egress. -/
def joinedAlike : TradingLatencyResponse :=
  { latencyOf "x:a" with
    measurements :=
      (latencyOf "x:a").measurements ++ [sampleMeasurement .failed "egress:x" "a" 20] }

/-- A second row of the egress gate is not ready. -/
def twoGates : GateBenchmarkMatrix :=
  { sampleMatrix with
    gates := sampleMatrix.gates ++ [⟨"egress", "gate-egress", false, false⟩] }

/-- A second row of the route has no backbone. -/
def twoRoutes : GateBenchmarkMatrix :=
  { sampleMatrix with
    routes := sampleMatrix.routes ++ [⟨"source", "egress", none, none, none⟩] }

def estimateThrough (idA : String) : Estimate where
  directA := sampleMeasurement .succeeded "source" idA 100
  directB := sampleMeasurement .succeeded "source" "b" 120
  exitA := sampleMeasurement .succeeded "egress" idA 20
  exitB := sampleMeasurement .succeeded "egress" "b" 30
  route := sampleRoute
  backbone := ⟨.succeeded, some 999000, some "doublezero0", some 0, some 10⟩

/-- The egress improves both legs, and no row may be bought. -/
def Misses (idA : String) (latency : TradingLatencyResponse) (matrix : GateBenchmarkMatrix) :
    Prop :=
  Improves latency matrix 1000000 ⟨"source", some "source", true⟩ ⟨"egress", some "egress", true⟩
      (sampleVenue idA "first") (sampleVenue "b" "second") (estimateThrough idA) ∧
    ⟨"source", some "source", true⟩ ∈ latency.nodes ∧
    ⟨"egress", some "egress", true⟩ ∈ latency.nodes ∧
    sampleVenue idA "first" ∈ curate [] latency.targets ∧
    sampleVenue "b" "second" ∈ curate [] latency.targets ∧
    sampleVenue idA "first" ≠ sampleVenue "b" "second" ∧
    ∀ row ∈ rowsOf latency matrix, row.configEligible = false

instance {idA : String} {latency : TradingLatencyResponse} {matrix : GateBenchmarkMatrix} :
    Decidable (Misses idA latency matrix) :=
  inferInstanceAs (Decidable (_ ∧ _ ∧ _ ∧ _ ∧ _ ∧ _ ∧ _))

theorem not_soundAndOptimal_of_misses (idA : String) {latency : TradingLatencyResponse}
    {matrix : GateBenchmarkMatrix} (h : Misses idA latency matrix) :
    ¬SoundAndOptimal latency matrix 1000000 (rowsOf latency matrix) := by
  obtain ⟨hImproves, hSource, hEgress, hA, hB, hne, hNone⟩ := h
  intro hOptimal
  obtain ⟨row, hRow, hEligible, -⟩ :=
    hOptimal.complete _ hSource _ hA _ hB hne _ hEgress _ hImproves
  rw [hNone row hRow] at hEligible
  cases hEligible

/-- A row is bought for the gate of a source that is not fresh, and an egress is missed wherever a
second row has the key of the first one. -/
theorem not_presets_sound_and_optimal :
    ¬SoundAndOptimal twoSources sampleMatrix 1000000 (rowsOf twoSources sampleMatrix) ∧
    ¬SoundAndOptimal twoTargets sampleMatrix 1000000 (rowsOf twoTargets sampleMatrix) ∧
    ¬SoundAndOptimal twoMeasurements sampleMatrix 1000000 (rowsOf twoMeasurements sampleMatrix) ∧
    ¬SoundAndOptimal joinedAlike sampleMatrix 1000000 (rowsOf joinedAlike sampleMatrix) ∧
    ¬SoundAndOptimal sampleLatency twoGates 1000000 (rowsOf sampleLatency twoGates) ∧
    ¬SoundAndOptimal sampleLatency twoRoutes 1000000 (rowsOf sampleLatency twoRoutes) := by
  refine ⟨?_, not_soundAndOptimal_of_misses "a" (by decide +kernel),
    not_soundAndOptimal_of_misses "a" (by decide +kernel),
    not_soundAndOptimal_of_misses "x:a" (by decide +kernel),
    not_soundAndOptimal_of_misses "a" (by decide +kernel),
    not_soundAndOptimal_of_misses "a" (by decide +kernel)⟩
  · intro hSound
    have hExists : ∃ row ∈ rowsOf twoSources sampleMatrix,
        row.configEligible = true ∧ row.sourceNodeId = "source" := by
      decide +kernel
    obtain ⟨row, hRow, hEligible, hSourceId⟩ := hExists
    obtain ⟨source, hSource, _, _, _, _, -, _, -, _, hShows, hImproves, -⟩ :=
      hSound.sound row hRow hEligible
    have hId : source.id = "source" := hShows.source.symm.trans hSourceId
    have hFresh : tradingMeasurementState source.fresh _ _ _ = .fresh := hImproves.directA.2.2.2
    have hGate : source.gateId ≠ none := by
      obtain ⟨gate, -, hGateId, -⟩ := hImproves.sourceGate
      simp [hGateId]
    simp only [twoSources, List.mem_cons, List.not_mem_nil, or_false] at hSource
    rcases hSource with rfl | rfl | rfl
    · cases hFresh
    · exact hGate rfl
    · exact absurd hId (by decide)

end Hyperspace.Trading
