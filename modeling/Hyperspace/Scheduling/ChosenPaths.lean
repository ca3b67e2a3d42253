import Hyperspace.Scheduling.Paths

/-!
# Paths lead over gates that are available

The query asks for the row of a gate, three conditions, its last report and its lease. Conditions
are written by heartbeats and overwritten by the worker, so they follow from the last heartbeat as
long as its lease lasts, provided that the worker writes no row of a gate that has been heard of
since it read the lease. Then a gate is schedulable exactly when it is enabled, no deployment is
under way and it has reported within thirty seconds that it is fit.
-/

namespace Hyperspace.Scheduling

open Hyperspace.Billing (Timestamp)
open Hyperspace.Foundations Hyperspace.Provisioning

variable {locale : Locale} {db db' : GateDb} {g : Gate} {id : GateId} {staleSeconds : Nat}

/-! ### What a path needs of a gate -/

/-- The last heartbeat makes the gate fit for paths, by the row it was read with and by the row
now. -/
structure Heartbeat.Serves (locale : Locale) (now : Timestamp) (g : Gate) (h : Heartbeat) :
    Prop where
  fresh : now < h.heardAt + 30 * second
  enabled : h.gate.desiredState = .enabled
  ready : (h.readiness locale).ready = true
  doubleZeroReady : (h.readiness locale).doubleZeroReady = true
  fits : GateStatus.Fits locale ⟨h.report.capabilities, h.report.doubleZero⟩ g

/-- The gate is enabled, not being deployed, and its last heartbeat serves. -/
structure GateDb.Available (locale : Locale) (db : GateDb) (g : Gate) : Prop where
  enabled : g.desiredState = .enabled
  idle : g.id ∉ db.deploying
  serves : ∃ h ∈ db.heard g.id, h.Serves locale db.now g

/-- The first gate of those that are available and admitted. -/
structure GateDb.IsBest (locale : Locale) (db : GateDb) (filter : GateFilter) (g : Gate) :
    Prop where
  row : g ∈ db.gates.rows
  available : db.Available locale g
  admitted : filter.Admits locale db g
  first : ∀ g' ∈ db.gates.rows, db.Available locale g' → filter.Admits locale db g' →
    g.Precedes locale g'

/-! ### Rows that follow from the last heartbeat -/

namespace GateDb

/-- What lease, report and conditions say about the last heartbeat. -/
structure Tracked (locale : Locale) (db : GateDb) : Prop where
  known : ∀ id, ∀ h ∈ db.heard id, ∃ g ∈ db.gates.rows, g.id = id
  silent : ∀ id, db.heard id = none → db.leases id = none
  status : ∀ id, ∀ h ∈ db.heard id,
    db.status id = some ⟨h.report.capabilities, h.report.doubleZero⟩
  lease : ∀ id, ∀ h ∈ db.heard id, db.leases id = some ⟨h.heardAt + 30 * second, h.heardAt⟩
  conditions : ∀ id, ∀ h ∈ db.heard id,
    (∀ c ∈ h.conditions locale, db.conditions id c.type = some c.toGateCondition) ∨
      h.heardAt + 30 * second ≤ db.now

theorem exists_row_update {t : SerialTable Gate.id} {key : GateId} {f : Gate → Gate}
    (hf : ∀ g, (f g).id = g.id) (h : ∃ g ∈ t.rows, g.id = id) :
    ∃ g ∈ (t.update key f hf).rows, g.id = id := by
  obtain ⟨g, hg, hId⟩ := h
  by_cases hKey : g.id = key
  · exact ⟨f g, SerialTable.mem_update.2 ⟨g, hg, if_pos hKey⟩, (hf g).trans hId⟩
  · exact ⟨g, SerialTable.mem_update.2 ⟨g, hg, if_neg hKey⟩, hId⟩

theorem tracked_empty : emptyGateDb.Tracked locale := by
  constructor <;> simp [emptyGateDb]

theorem conditions_saveGateHeartbeatStatus_of_ne {other : GateId} {report : GateHeartbeatReport}
    {conditions : List GateLifecycleCondition} (h : other ≠ id) :
    (db.saveGateHeartbeatStatus id report conditions).conditions other = db.conditions other := by
  unfold saveGateHeartbeatStatus
  have hFold : ∀ db : GateDb, (conditions.foldl (fun db c => db.upsertGateCondition id c)
      db).conditions other = db.conditions other := by
    induction conditions with
    | nil => exact fun _ => rfl
    | cons c conditions ih =>
        intro db
        rw [List.foldl_cons, ih]
        exact Function.update_of_ne h ..
  exact hFold _

theorem rest_saveGateHeartbeatStatus {report : GateHeartbeatReport}
    {conditions : List GateLifecycleCondition} :
    let saved := db.saveGateHeartbeatStatus id report conditions
    saved.now = db.now ∧ saved.gates = db.gates ∧ saved.leases = db.leases ∧
      saved.heard = db.heard ∧
      saved.status =
        Function.update db.status id (some ⟨report.capabilities, report.doubleZero⟩) := by
  have hFold : ∀ db : GateDb,
      let saved := conditions.foldl (fun db c => db.upsertGateCondition id c) db
      saved.now = db.now ∧ saved.gates = db.gates ∧ saved.leases = db.leases ∧
        saved.heard = db.heard ∧ saved.status = db.status := by
    induction conditions with
    | nil => exact fun _ => ⟨rfl, rfl, rfl, rfl, rfl⟩
    | cons c conditions ih => exact fun db => ih (db.upsertGateCondition id c)
  exact hFold _

theorem rest_recordGateHeartbeat {gate : GateRuntimeIdentity} {report : GateHeartbeatReport} :
    let recorded := db.recordGateHeartbeat locale gate report
    recorded.now = db.now ∧ recorded.gates = db.gates ∧
      recorded.status =
        Function.update db.status gate.id (some ⟨report.capabilities, report.doubleZero⟩) ∧
      recorded.leases =
        Function.update db.leases gate.id (some ⟨db.now + 30 * second, db.now⟩) ∧
      recorded.heard = Function.update db.heard gate.id (some ⟨db.now, gate, report⟩) := by
  obtain ⟨hNow, hGates, hLeases, hHeard, hStatus⟩ := @rest_saveGateHeartbeatStatus db gate.id report
    ((⟨db.now, gate, report⟩ : Heartbeat).conditions locale)
  refine ⟨hNow, hGates, hStatus, ?_, rfl⟩
  unfold recordGateHeartbeat upsertGateLease
  dsimp only
  rw [hLeases, hNow]
  rfl

theorem conditions_recordGateHeartbeat_self {gate : GateRuntimeIdentity}
    {report : GateHeartbeatReport}
    {c : GateLifecycleCondition} (hc : c ∈ (⟨db.now, gate, report⟩ : Heartbeat).conditions locale) :
    (db.recordGateHeartbeat locale gate report).conditions gate.id c.type =
      some c.toGateCondition := by
  simp only [Heartbeat.conditions, resolveGateHeartbeatConditions, List.mem_cons, List.not_mem_nil,
    or_false] at hc
  rcases hc with rfl | rfl | rfl <;>
    simp [recordGateHeartbeat, saveGateHeartbeatStatus, upsertGateLease, upsertGateCondition,
      Heartbeat.conditions, resolveGateHeartbeatConditions, resolveGateAgentConnectedCondition]

namespace Tracked

theorem tick (h : db.Tracked locale) {now : Timestamp} (hNow : db.now ≤ now) :
    ({ db with now } : GateDb).Tracked locale where
  known := h.known
  silent := h.silent
  status := h.status
  lease := h.lease
  conditions id heartbeat hHeard := (h.conditions id heartbeat hHeard).imp_right (·.trans hNow)

theorem seedGate {seed : GateSeed} (h : db.Tracked locale) : (db.seedGate seed).Tracked locale := by
  unfold GateDb.seedGate
  split
  · refine ⟨?_, h.silent, h.status, h.lease, h.conditions⟩
    intro id heartbeat hHeard
    refine exists_row_update ?_ (h.known id heartbeat hHeard)
    exact fun _ => rfl
  · refine ⟨?_, h.silent, ?_, h.lease, h.conditions⟩
    · intro id heartbeat hHeard
      obtain ⟨g, hg, hId⟩ := h.known id heartbeat hHeard
      exact ⟨g, SerialTable.mem_insert.2 (.inl hg), hId⟩
    · intro id heartbeat hHeard
      obtain ⟨g, hg, hId⟩ := h.known id heartbeat hHeard
      have hOld : id ≠ db.gates.next := by
        rw [← hId]
        exact (db.gates.fresh g hg).ne
      exact (Function.update_of_ne hOld ..).trans (h.status id heartbeat hHeard)

theorem updateGateDesiredState {desiredState : GateDesiredState} (h : db.Tracked locale) :
    (db.updateGateDesiredState id desiredState).Tracked locale := by
  refine ⟨?_, h.silent, h.status, h.lease, h.conditions⟩
  intro other heartbeat hHeard
  refine exists_row_update ?_ (h.known other heartbeat hHeard)
  exact fun _ => rfl

theorem recordGateHeartbeat {gate : GateRuntimeIdentity} {report : GateHeartbeatReport}
    (h : db.Tracked locale) (hKnown : ∃ g ∈ db.gates.rows, g.id = gate.id) :
    (db.recordGateHeartbeat locale gate report).Tracked locale := by
  obtain ⟨hNow, hGates, hStatus, hLeases, hHeard⟩ := @rest_recordGateHeartbeat locale db gate report
  have hOther : ∀ id, id ≠ gate.id → ∀ heartbeat,
      heartbeat ∈ (db.recordGateHeartbeat locale gate report).heard id →
        heartbeat ∈ db.heard id := by
    intro id hId heartbeat hMem
    rw [hHeard, Function.update_of_ne hId] at hMem
    exact hMem
  have hSelf : ∀ heartbeat, heartbeat ∈ (db.recordGateHeartbeat locale gate report).heard gate.id →
      heartbeat = ⟨db.now, gate, report⟩ := by
    intro heartbeat hMem
    rw [hHeard, Function.update_self] at hMem
    exact (Option.some.inj hMem).symm
  constructor
  · intro id heartbeat hMem
    rw [hGates]
    by_cases hId : id = gate.id
    · exact hId ▸ hKnown
    · exact h.known id heartbeat (hOther id hId heartbeat hMem)
  · intro id hNone
    have hId : id ≠ gate.id := by
      rintro rfl
      rw [hHeard, Function.update_self] at hNone
      cases hNone
    rw [hHeard, Function.update_of_ne hId] at hNone
    rw [hLeases, Function.update_of_ne hId]
    exact h.silent id hNone
  · intro id heartbeat hMem
    rw [hStatus]
    by_cases hId : id = gate.id
    · subst hId
      rw [hSelf heartbeat hMem, Function.update_self]
    · rw [Function.update_of_ne hId]
      exact h.status id heartbeat (hOther id hId heartbeat hMem)
  · intro id heartbeat hMem
    rw [hLeases]
    by_cases hId : id = gate.id
    · subst hId
      rw [hSelf heartbeat hMem, Function.update_self]
    · rw [Function.update_of_ne hId]
      exact h.lease id heartbeat (hOther id hId heartbeat hMem)
  · intro id heartbeat hMem
    rw [hNow]
    by_cases hId : id = gate.id
    · subst hId
      rw [hSelf heartbeat hMem]
      exact .inl fun c hc => conditions_recordGateHeartbeat_self hc
    · have hSame : (db.recordGateHeartbeat locale gate report).conditions id = db.conditions id :=
        @conditions_saveGateHeartbeatStatus_of_ne db gate.id id report
          ((⟨db.now, gate, report⟩ : Heartbeat).conditions locale) hId
      rw [hSame]
      exact h.conditions id heartbeat (hOther id hId heartbeat hMem)

theorem markStaleGateCondition {c : GateLifecycleCondition} (h : db.Tracked locale)
    (hLonger : 30 ≤ staleSeconds) (hStale : db.IsStale staleSeconds id) :
    (db.markStaleGateCondition id c).Tracked locale := by
  refine ⟨h.known, h.silent, h.status, h.lease, ?_⟩
  intro other heartbeat hHeard
  by_cases hSame : other = id
  · subst hSame
    -- A gate that is marked has an expired lease: the worker waits longer than a lease lasts.
    right
    rcases hStale _ (h.lease other heartbeat hHeard) with hExpired | hOld
    · exact hExpired
    · have hThirty : 30 * second ≤ staleSeconds * second :=
        Int.mul_le_mul_of_nonneg_right (by exact_mod_cast hLonger) (by decide)
      exact Int.add_le_of_le_sub_right (hOld.le.trans (Int.sub_le_sub_left hThirty _))
  · have hKept : (db.markStaleGateCondition id c).conditions other = db.conditions other :=
      Function.update_of_ne hSame ..
    rw [hKept]
    exact h.conditions other heartbeat hHeard

theorem perform {action : GateAction} (h : db.Tracked locale) (hLonger : 30 ≤ staleSeconds)
    (hMarks : ∀ id c, action = .markStale id c → db.IsStale staleSeconds id)
    (hPerform : db.perform locale staleSeconds action = some db') : db'.Tracked locale := by
  cases action with
  | seed seed =>
      cases hPerform
      exact h.seedGate
  | setDesiredState id desiredState =>
      cases hPerform
      exact h.updateGateDesiredState
  | heartbeat gate report =>
      rw [GateDb.perform] at hPerform
      split at hPerform
      · rename_i hKnown
        cases hPerform
        obtain ⟨g, hg⟩ := Option.isSome_iff_exists.1 hKnown
        exact h.recordGateHeartbeat ⟨g, SerialTable.find?_eq_some hg⟩
      · cases hPerform
  | readStale c =>
      rw [GateDb.perform] at hPerform
      split at hPerform
      · cases hPerform
        exact ⟨h.known, h.silent, h.status, h.lease, h.conditions⟩
      · cases hPerform
  | markStale id c =>
      rw [GateDb.perform] at hPerform
      split at hPerform
      · cases hPerform
        exact h.markStaleGateCondition hLonger (hMarks id c rfl)
      · cases hPerform
  | deploy id | endDeployment id =>
      cases hPerform
      exact ⟨h.known, h.silent, h.status, h.lease, h.conditions⟩

end Tracked

/-- A row that the worker marks is of a gate that is still stale: no heartbeat has come in since the
statement read the leases. -/
def MarksStale (staleSeconds : Nat) (db : GateDb) (e : GateEvent) : Prop :=
  match e.action with
  | .markStale id _ => ({ db with now := e.now } : GateDb).IsStale staleSeconds id
  | _ => True

instance {e : GateEvent} : Decidable (db.MarksStale staleSeconds e) := by
  unfold MarksStale
  split <;> infer_instance

theorem Tracked.step {e : GateEvent} (h : db.Tracked locale) (hLonger : 30 ≤ staleSeconds)
    (hMarks : db.MarksStale staleSeconds e)
    (hStep : db.step locale staleSeconds e = some db') : db'.Tracked locale := by
  rw [GateDb.step] at hStep
  split at hStep
  · rename_i hNow
    refine (h.tick hNow).perform hLonger (fun id c hAction => ?_) hStep
    rw [MarksStale, hAction] at hMarks
    exact hMarks
  · cases hStep

theorem tracked_of_run {es : List GateEvent} (hLonger : 30 ≤ staleSeconds) (h : db.Tracked locale)
    (hRun : run (step locale staleSeconds) db es = some db')
    (hMarks : StepsMeet (step locale staleSeconds) (MarksStale staleSeconds) db es) :
    db'.Tracked locale :=
  run_invariant_of_stepsMeet
    (fun _ _ _ hTracked hMark hStep => hTracked.step hLonger hMark hStep) h hRun hMarks

/-! ### The query agrees -/

theorem isSchedulable_iff {r : GateReadiness} {desiredState : GateDesiredState} :
    isGateSchedulable r.ready r.doubleZeroReady desiredState = true ↔
      r.ready = true ∧ r.doubleZeroReady = true ∧ desiredState = .enabled := by
  simp only [isGateSchedulable, Bool.and_eq_true, decide_eq_true_eq, and_assoc]

theorem isTrue_of_conditions {h : Heartbeat}
    (hConditions : ∀ c ∈ h.conditions locale, db.conditions id c.type = some c.toGateCondition) :
    db.IsTrue id .agentConnected ∧ (db.IsTrue id .ready ↔ (h.readiness locale).ready = true) ∧
      (db.IsTrue id .schedulable ↔ (h.readiness locale).ready = true ∧
        (h.readiness locale).doubleZeroReady = true ∧ h.gate.desiredState = .enabled) := by
  obtain ⟨hAgent, hReady, hSchedulable⟩ :
      db.conditions id .agentConnected =
        some (resolveGateAgentConnectedCondition true).toGateCondition ∧
        (∃ c : GateCondition, db.conditions id .ready = some c ∧
          c.status = (h.readiness locale).ready) ∧
        ∃ c : GateCondition, db.conditions id .schedulable = some c ∧
          c.status = isGateSchedulable (h.readiness locale).ready
            (h.readiness locale).doubleZeroReady h.gate.desiredState :=
    ⟨hConditions _ List.mem_cons_self,
      ⟨_, hConditions _ (List.mem_cons_of_mem _ List.mem_cons_self), rfl⟩,
      ⟨_, hConditions _ (List.mem_cons_of_mem _ (List.mem_cons_of_mem _ List.mem_cons_self)), rfl⟩⟩
  refine ⟨⟨_, hAgent, rfl⟩, ?_, ?_⟩
  · obtain ⟨c, hc, hStatus⟩ := hReady
    unfold IsTrue
    rw [hc]
    simp [hStatus]
  · obtain ⟨c, hc, hStatus⟩ := hSchedulable
    rw [← isSchedulable_iff]
    unfold IsTrue
    rw [hc]
    simp [hStatus]

/-- Row, conditions, report and lease say together what the row and the last heartbeat say. -/
theorem schedulable_iff (h : db.Tracked locale) :
    db.Schedulable locale g ↔ db.Available locale g := by
  constructor
  · rintro ⟨hEnabled, -, -, hSchedulable, hIdle, ⟨status, hStatus, hFits⟩, lease, hLease, hFresh⟩
    cases hHeard : db.heard g.id with
    | none =>
        rw [h.silent g.id hHeard] at hLease
        cases hLease
    | some heartbeat =>
        cases (h.lease g.id heartbeat hHeard).symm.trans hLease
        cases (h.status g.id heartbeat hHeard).symm.trans hStatus
        have hConditions := (h.conditions g.id heartbeat hHeard).resolve_right hFresh.not_ge
        obtain ⟨hReady, hDoubleZero, hHeardEnabled⟩ :=
          (isTrue_of_conditions hConditions).2.2.1 hSchedulable
        exact ⟨hEnabled, hIdle, heartbeat, hHeard, hFresh, hHeardEnabled, hReady, hDoubleZero,
          hFits⟩
  · rintro ⟨hEnabled, hIdle, heartbeat, hHeard, hFresh, hHeardEnabled, hReady, hDoubleZero, hFits⟩
    have hConditions := (h.conditions g.id heartbeat hHeard).resolve_right hFresh.not_ge
    obtain ⟨hAgent, hReadyIff, hSchedulableIff⟩ := isTrue_of_conditions hConditions
    exact ⟨hEnabled, hAgent, hReadyIff.2 hReady,
      hSchedulableIff.2 ⟨hReady, hDoubleZero, hHeardEnabled⟩,
      hIdle, ⟨_, h.status g.id heartbeat hHeard, hFits⟩, _, h.lease g.id heartbeat hHeard, hFresh⟩

end GateDb

/-! ### The choice -/

instance : Std.Total (Gate.Precedes locale) where
  total a b := by
    rcases lt_trichotomy a.schedulingWeight b.schedulingWeight with hLess | hSame | hMore
    · exact .inr (.inl hLess)
    · exact (locale.total a.name b.name).imp (fun hName => .inr ⟨hSame, hName⟩)
        fun hName => .inr ⟨hSame.symm, hName⟩
    · exact .inl (.inl hMore)

instance : IsTrans Gate (Gate.Precedes locale) where
  trans a b c := by
    rintro (hMore | ⟨hSame, hName⟩) (hMore' | ⟨hSame', hName'⟩)
    · exact .inl (hMore'.trans hMore)
    · exact .inl (hSame' ▸ hMore)
    · exact .inl (hSame ▸ hMore')
    · exact .inr ⟨hSame.trans hSame', locale.trans _ _ _ hName hName'⟩

section choice

variable {filter : GateFilter}

theorem isBest_of_select (h : db.Tracked locale)
    (hSelect : selectSchedulableGate locale db filter = some g) : db.IsBest locale filter g := by
  have hMem := List.mem_of_head? hSelect
  obtain ⟨hSchedulable, hAdmitted⟩ := wanted_of_mem_selectForUpdate hMem
  refine ⟨mem_of_mem_selectForUpdate hMem, (GateDb.schedulable_iff h).1 hSchedulable, hAdmitted, ?_⟩
  intro g' hRow hAvailable hAdmits
  exact before_of_head?_selectForUpdate hSelect hRow
    ⟨(GateDb.schedulable_iff h).2 hAvailable, hAdmits⟩ List.not_mem_nil

theorem none_of_select (h : db.Tracked locale)
    (hSelect : selectSchedulableGate locale db filter = none) (hRow : g ∈ db.gates.rows)
    (hAvailable : db.Available locale g) : ¬filter.Admits locale db g := by
  intro hAdmits
  have hLocked := locked_of_head?_selectForUpdate_eq_none hSelect hRow
    ⟨(GateDb.schedulable_iff h).2 hAvailable, hAdmits⟩
  cases hLocked

end choice

/-- What `choosePath` answers, by the gates that are available when it asks. -/
inductive Planned (locale : Locale) (db later : GateDb) (spec : Json) (protocol : ClientProtocol)
    (ingressGateId egressGateId : Option GateId) : Option PathChoice → Prop where
  /-- The best ingress, and the best of the other gates. -/
  | path {ingress egress : Gate}
      (hIngress : db.IsBest locale (ingressFilter locale spec protocol ingressGateId) ingress)
      (hEgress : later.IsBest locale (egressFilter locale spec ingress egressGateId) egress)
      (hDistinct : egress.id ≠ ingress.id) :
      Planned locale db later spec protocol ingressGateId egressGateId
        (some ⟨ingress.id, ingress.name, ingress.publicIpv4, egress.id, egress.name,
          egress.publicIpv4⟩)
  | noIngress
      (hNone : ∀ g ∈ db.gates.rows, db.Available locale g →
        ¬(ingressFilter locale spec protocol ingressGateId).Admits locale db g) :
      Planned locale db later spec protocol ingressGateId egressGateId none
  /-- No other gate goes with the best ingress. -/
  | noEgress {ingress : Gate}
      (hIngress : db.IsBest locale (ingressFilter locale spec protocol ingressGateId) ingress)
      (hNone : ∀ g ∈ later.gates.rows, later.Available locale g →
        ¬(egressFilter locale spec ingress egressGateId).Admits locale later g) :
      Planned locale db later spec protocol ingressGateId egressGateId none

/-- However seeds, heartbeats, deployments and the marking of stale gates follow one another, a path
leads over two gates that are enabled, free of deployments and heard from as fit in the last thirty
seconds, and the best of those that the request admits, as long as no mark is written over a
heartbeat that its statement has not seen. -/
theorem choosePath_plans {es fs : List GateEvent} {later : GateDb} {spec : Json}
    {protocol : ClientProtocol} {ingressGateId egressGateId : Option GateId}
    (hRun : run (GateDb.step locale staleSeconds) emptyGateDb es = some db)
    (hLater : run (GateDb.step locale staleSeconds) db fs = some later)
    (hMarks : StepsMeet (GateDb.step locale staleSeconds) (GateDb.MarksStale staleSeconds)
      emptyGateDb (es ++ fs))
    (hLonger : 30 ≤ staleSeconds)
    (hProtocol : Sessions.readSessionClientProtocol (spec.field? "clientProtocol") = some protocol)
    (hIngressId : readGateId locale (spec.readString "ingressGateId") = .ok ingressGateId)
    (hEgressId : readGateId locale (spec.readString "egressGateId") = .ok egressGateId) :
    ∃ choice, choosePath locale db later spec = .ok choice ∧
      Planned locale db later spec protocol ingressGateId egressGateId choice := by
  have hTracked : db.Tracked locale :=
    GateDb.tracked_of_run hLonger GateDb.tracked_empty hRun
      (stepsMeet_of_initial (List.prefix_append es fs) hMarks)
  have hTrackedLater : later.Tracked locale :=
    GateDb.tracked_of_run hLonger hTracked hLater (stepsMeet_append hRun hMarks)
  rw [choosePath, hProtocol]
  dsimp only
  rw [hIngressId]
  cases hIngress : selectSchedulableGate locale db
      (ingressFilter locale spec protocol ingressGateId) with
  | none =>
      refine ⟨none, ?_, .noIngress fun g hRow => none_of_select hTracked hIngress hRow⟩
      simp only [bind, Except.bind, hIngress]
  | some ingress =>
      have hBest := isBest_of_select hTracked hIngress
      cases hEgress : selectSchedulableGate locale later
          (egressFilter locale spec ingress egressGateId) with
      | none =>
          refine ⟨none, ?_, .noEgress hBest fun g hRow => none_of_select hTrackedLater hEgress hRow⟩
          simp only [bind, Except.bind, hIngress, hEgressId, hEgress]
      | some egress =>
          have hBest' := isBest_of_select hTrackedLater hEgress
          refine ⟨some _, ?_, .path hBest hBest' (hBest'.admitted.1 ingress.id rfl)⟩
          simp only [bind, Except.bind, hIngress, hEgressId, hEgress]

/-- The first 32 characters as one number, so that texts in ASCII are ordered by their codes. -/
def asciiRank (s : String) : Nat :=
  ((s.toList.map Char.toNat ++ List.replicate 32 0).take 32).foldl (fun n c => n * 256 + c) 0

def asciiLocale : Locale where
  lower s := String.ofList (s.toList.map Char.toLower)
  toLowerCase s := String.ofList (s.toList.map Char.toLower)
  jsonText _ := ""
  uuid? _ := none
  collates a b := asciiRank a ≤ asciiRank b
  decidableCollates _ _ := inferInstance
  total _ _ := Nat.le_total _ _
  trans _ _ _ := Nat.le_trans

/-- A gate of the catalog in a city. -/
def sampleSeed (name city country publicIpv4 : String) : GateSeed :=
  ⟨name, .enabled, city, country, publicIpv4, .obj [("doubleZeroEnv", .str "testnet")]⟩

/-- A heartbeat of a gate that is fit. -/
def fitHeartbeat (id : GateId) (publicIpv4 : String) : GateAction :=
  .heartbeat ⟨id, .enabled, publicIpv4, .obj [("doubleZeroEnv", .str "testnet")]⟩
    ⟨["wireguard-tools:present", "iproute2:present", "nft:present", "doublezero0:up"],
      .obj [("tunnelStatus", .str "BGP Session Up"), ("network", .str "testnet"),
        ("tunnelSrc", .str publicIpv4)]⟩

/-- Three gates are heard of; one is being deployed to, and the heartbeats of all are stale once. -/
def threeGates : List GateEvent :=
  [⟨1, .seed (sampleSeed "gate-eu-01" "Frankfurt" "Germany" "192.0.2.1")⟩,
    ⟨2, .seed (sampleSeed "gate-eu-02" "Amsterdam" "Netherlands" "192.0.2.2")⟩,
    ⟨3, .seed (sampleSeed "gate-na-01" "Chicago" "United States" "192.0.2.3")⟩,
    ⟨4, fitHeartbeat 0 "192.0.2.1"⟩, ⟨5, fitHeartbeat 1 "192.0.2.2"⟩, ⟨6, .deploy 2⟩,
    ⟨60000000, .readStale (resolveGateAgentConnectedCondition false)⟩,
    ⟨60000001, .markStale 1 (resolveGateAgentConnectedCondition false)⟩,
    ⟨60000002, fitHeartbeat 0 "192.0.2.1"⟩, ⟨60000003, fitHeartbeat 1 "192.0.2.2"⟩,
    ⟨60000004, fitHeartbeat 2 "192.0.2.3"⟩, ⟨60000005, .endDeployment 2⟩]

/-- Between the two queries the ingress is taken for a deployment. -/
def betweenQueries : List GateEvent := [⟨60000006, .deploy 1⟩]

/-- No gate in Germany. -/
def sampleRequest : Json :=
  .obj [("clientProtocol", .str "wireguard"),
    ("pathPolicy", .obj [("excludeCountries", .arr [.str "DE"])])]

theorem path_avoids_germany :
    ∃ db ∈ run (GateDb.step asciiLocale 45) emptyGateDb threeGates,
      ∃ later ∈ run (GateDb.step asciiLocale 45) db betweenQueries,
        ∃ choice, choosePath asciiLocale db later sampleRequest = .ok choice ∧
          Planned asciiLocale db later sampleRequest .wireguard none none choice ∧
          choice = some ⟨1, "gate-eu-02", "192.0.2.2", 2, "gate-na-01", "192.0.2.3"⟩ := by
  have hExists : ∃ db ∈ run (GateDb.step asciiLocale 45) emptyGateDb threeGates,
      ∃ later ∈ run (GateDb.step asciiLocale 45) db betweenQueries,
        choosePath asciiLocale db later sampleRequest =
          .ok (some ⟨1, "gate-eu-02", "192.0.2.2", 2, "gate-na-01", "192.0.2.3"⟩) := by
    decide +kernel
  obtain ⟨db, hRun, later, hLater, hChoice⟩ := hExists
  obtain ⟨choice, hChoose, hPlanned⟩ :=
    @choosePath_plans asciiLocale db 45 _ _ later sampleRequest .wireguard none none hRun hLater
      (by decide +kernel) (by decide) rfl (by decide +kernel) (by decide +kernel)
  refine ⟨db, hRun, later, hLater, choice, hChoose, hPlanned, ?_⟩
  exact Except.ok.inj (hChoose.symm.trans hChoice)

/-- The mark of a gate is written after the heartbeat that its statement has not seen: for a time no
path leads over a gate that is heard of as fit. -/
example : ∃ db ∈ run (GateDb.step asciiLocale 45) emptyGateDb (threeGates ++
    [⟨60000007, .markStale 0 (resolveGateAgentConnectedCondition false)⟩]),
      ∃ g ∈ db.gates.rows, g.id = 0 ∧ g.desiredState = .enabled ∧ g.id ∉ db.deploying ∧
        (∃ lease ∈ db.leases 0, db.now < lease.leaseExpiresAt) ∧ ¬db.Schedulable asciiLocale g := by
  decide +kernel

end Hyperspace.Scheduling
