import Hyperspace.Foundations.Runs
import Hyperspace.Gate.Recovery

/-!
# Recoveries are rate limited and confirmed

The record is saved whenever it changes, so an agent that starts again goes on with what the last
one knew. The since-time of the record is the time of an observation after which every observation
was a trigger or was made during a recovery. The next eligible time lies a cooldown after every
start. Both are stored in whole seconds, which costs each bound less than one second.

The clock of the gate may jump: nothing here needs the times of the observations to be in order.
-/

namespace Hyperspace.Gate

open Hyperspace.Foundations

/-- A call of `Observe`, as it was when it held the lock. -/
structure Observation where
  time : Int
  cfg : Config
  /-- How many recoveries of the process were running. -/
  recoveries : Nat
  currentDevice : String
  tunnelStatus : String
  deviceState : String
  starts : Bool

namespace Observation

/-- The device is drained, or the session of a known device failed. -/
def IsTrigger (o : Observation) : Prop :=
  o.deviceState = "drained" ∨
    o.tunnelStatus = "BGP Session Failed" ∧ trimSpace o.currentDevice ≠ ""

/-- The observation does not speak against the condition. -/
def Confirms (o : Observation) : Prop :=
  0 < o.recoveries ∨ o.IsTrigger

/-- The observation may start a recovery after the earlier ones: none is running, recovery is
enabled, each earlier start is a cooldown ago, and the condition has lasted. -/
structure MayStart (o : Observation) (earlier : List Observation) : Prop where
  alone : o.recoveries = 0
  enabled : o.cfg.doubleZeroRecoveryEnabled = true
  cooled : ∀ a ∈ earlier, a.starts = true →
    a.cfg.doubleZeroRecoveryCooldown - second ≤ o.time - a.time
  confirmed : ∃ before first span, earlier ++ [o] = before ++ first :: span ∧
    o.cfg.doubleZeroRecoveryConfirmation - second ≤ o.time - first.time ∧
    ∀ a ∈ first :: span, a.Confirms

end Observation

/-- Every start among the observations was allowed after the ones before it. -/
def StartsAllowed (observations : List Observation) : Prop :=
  ∀ earlier o, earlier ++ [o] <+: observations → o.starts = true → o.MayStart earlier

theorem startsAllowed_nil : StartsAllowed [] := by
  intro earlier o hPrefix
  simp at hPrefix

theorem startsAllowed_concat {observations : List Observation} {o : Observation}
    (h : StartsAllowed observations) (hLast : o.starts = true → o.MayStart observations) :
    StartsAllowed (observations ++ [o]) := by
  intro earlier a hPrefix hStarts
  rcases List.prefix_concat_iff.1 hPrefix with hEq | hEarlier
  · obtain ⟨rfl, hSame⟩ := List.append_inj' hEq rfl
    cases hSame
    exact hLast hStarts
  · exact h earlier a hEarlier hStarts

/-! ## The system -/

/-- A process of the agent, its recoveries that are running, and all observations so far, also those
of the processes before it. -/
structure RecoverySystem where
  manager : DoubleZeroRecoveryManager
  recoveries : List Recovery
  observations : List Observation

/-- What happens to the manager: observations, ends of recoveries, restarts. -/
inductive RecoveryEvent where
  | observe (status : StatusMap) (routeState : RouteState) (lookup : Except String String)
      (now : Int)
  /-- The `k`-th running recovery ends. -/
  | complete (k : Nat) (commands : RecoveryCommands) (now : Int)
  /-- The agent dies and starts again, perhaps with other settings. -/
  | restart (cfg : Config)

namespace RecoverySystem

/-- A gate whose agent starts for the first time. -/
def boot (cfg : Config) : RecoverySystem where
  manager := newDoubleZeroRecoveryManager cfg none
  recoveries := []
  observations := []

def observe (s : RecoverySystem) (status : StatusMap) (routeState : RouteState)
    (lookup : Except String String) (now : Int) : RecoverySystem :=
  let observed := s.manager.observe status routeState lookup now
  { manager := observed.manager
    recoveries := s.recoveries ++ observed.started.toList
    observations :=
      s.observations ++
        [{ time := now
           cfg := s.manager.cfg
           recoveries := s.recoveries.length
           currentDevice := readMapString status "currentDevice"
           tunnelStatus := readMapString status "tunnelStatus"
           deviceState := observed.currentDeviceStatus
           starts := observed.started.isSome }] }

def step (s : RecoverySystem) : RecoveryEvent → Option RecoverySystem
  | .observe status routeState lookup now => some (s.observe status routeState lookup now)
  | .complete k commands now =>
    match s.recoveries[k]? with
    | none => none
    | some recovery =>
      some
        { s with
          manager := s.manager.runRecovery recovery commands now
          recoveries := s.recoveries.eraseIdx k }
  | .restart cfg =>
    some
      { s with
        manager := newDoubleZeroRecoveryManager cfg s.manager.stateFile
        recoveries := [] }

end RecoverySystem

/-! ## What the manager does to its record -/

namespace DoubleZeroRecoveryManager

variable {manager : DoubleZeroRecoveryManager} {state : RecoveryState} {reason : RecoveryReason}
  {since : StoredTime}

/-- A new process would read the record that this one has. -/
structure Saved (manager : DoubleZeroRecoveryManager) : Prop where
  version : manager.record.schemaVersion = 1
  read : readRecord manager.stateFile = manager.record

theorem persistLocked_saved (h : manager.record.schemaVersion = 1) :
    manager.persistLocked.Saved where
  version := h
  read := if_pos h

theorem transitionLocked_saved (h : manager.Saved) :
    (manager.transitionLocked state reason since).Saved := by
  unfold transitionLocked
  split
  · exact h
  · apply persistLocked_saved
    exact h.version

theorem transitionLocked_record :
    (manager.transitionLocked state reason since).record =
      { manager.record with
        state := state
        reason := reason
        drainedSince := since } := by
  unfold transitionLocked
  split
  · rename_i hSame
    obtain ⟨rfl, rfl, rfl⟩ := hSame
    rfl
  · rfl

@[simp] theorem transitionLocked_running :
    (manager.transitionLocked state reason since).running = manager.running := by
  unfold transitionLocked
  split <;> rfl

@[simp] theorem transitionLocked_cfg :
    (manager.transitionLocked state reason since).cfg = manager.cfg := by
  unfold transitionLocked
  split <;> rfl

theorem readCurrentDeviceState_keeps {currentDevice network tunnelStatus : String} {now : Int}
    {lookup : Except String String} :
    ∃ device state at',
      (manager.readCurrentDeviceState currentDevice network tunnelStatus now lookup).1 =
        { manager with
          cachedDevice := device
          cachedDeviceState := state
          cachedDeviceAt := at' } := by
  unfold readCurrentDeviceState
  split
  · exact ⟨_, _, _, rfl⟩
  · split
    · exact ⟨_, _, _, rfl⟩
    · cases lookup <;> exact ⟨_, _, _, rfl⟩

theorem isSome_trigger_iff {deviceState tunnelStatus currentDevice : String} :
    (doubleZeroAutomaticRecoveryTrigger deviceState tunnelStatus currentDevice).isSome ↔
      deviceState = "drained" ∨
        tunnelStatus = "BGP Session Failed" ∧ trimSpace currentDevice ≠ "" := by
  unfold doubleZeroAutomaticRecoveryTrigger
  split
  · simp [*]
  · split <;> simp [*]

@[simp] theorem noteTrigger_running {triggerReason : TriggerReason} {now : Int} :
    (manager.noteTrigger triggerReason now).running = manager.running := by
  unfold noteTrigger
  split <;> simp

@[simp] theorem noteTrigger_cfg {triggerReason : TriggerReason} {now : Int} :
    (manager.noteTrigger triggerReason now).cfg = manager.cfg := by
  unfold noteTrigger
  split <;> simp

/-- What `Observe` can do, where `triggers` says whether it sees a reason to reconnect. -/
inductive Observes (manager : DoubleZeroRecoveryManager) (triggers : Prop) (now : Int)
    (after : DoubleZeroRecoveryManager) : Option Recovery → Prop
  | during (hBefore : manager.running = true) (hAfter : after.running = true)
      (hSince : after.record.drainedSince = manager.record.drainedSince)
      (hNext : after.record.nextEligibleAt = manager.record.nextEligibleAt) :
      Observes manager triggers now after none
  | ends (hBefore : manager.running = false) (hAfter : after.running = false)
      (hSince : after.record.drainedSince = none)
      (hNext : after.record.nextEligibleAt = manager.record.nextEligibleAt) :
      Observes manager triggers now after none
  | lasts (hBefore : manager.running = false) (hAfter : after.running = false) (hTrigger : triggers)
      (hSince : after.record.drainedSince = manager.record.drainedSince.or (formatTime now))
      (hNext : after.record.nextEligibleAt = manager.record.nextEligibleAt) :
      Observes manager triggers now after none
  | starts (recovery : Recovery) (hBefore : manager.running = false)
      (hAfter : after.running = true) (hTrigger : triggers)
      (hEnabled : manager.cfg.doubleZeroRecoveryEnabled = true)
      (hSince : after.record.drainedSince = manager.record.drainedSince.or (formatTime now))
      (hConfirmed : ∀ since ∈ after.record.drainedSince,
        manager.cfg.doubleZeroRecoveryConfirmation ≤ now - since * second)
      (hEligible : ∀ next ∈ manager.record.nextEligibleAt, next * second ≤ now)
      (hNext : after.record.nextEligibleAt =
        formatTime (now + manager.cfg.doubleZeroRecoveryCooldown)) :
      Observes manager triggers now after (some recovery)

theorem noteTrigger_record {triggerReason : TriggerReason} {now : Int} :
    (manager.noteTrigger triggerReason now).record.drainedSince =
        manager.record.drainedSince.or (formatTime now) ∧
      (manager.noteTrigger triggerReason now).record.nextEligibleAt =
        manager.record.nextEligibleAt := by
  unfold noteTrigger
  split
  · rename_i hNone
    simp [transitionLocked_record, hNone]
  · rename_i hSome
    obtain ⟨since, hSince⟩ := Option.ne_none_iff_exists'.1 hSome
    simp [hSince]

theorem Observes.cached {triggers : Prop} {now : Int} {after : DoubleZeroRecoveryManager}
    {started : Option Recovery} {device state : String} {at' : Int}
    (h : Observes
      { manager with
        cachedDevice := device
        cachedDeviceState := state
        cachedDeviceAt := at' } triggers now after started) :
    Observes manager triggers now after started := by
  cases h with
  | during hBefore hAfter hSince hNext => exact .during hBefore hAfter hSince hNext
  | ends hBefore hAfter hSince hNext => exact .ends hBefore hAfter hSince hNext
  | lasts hBefore hAfter hTrigger hSince hNext =>
      exact .lasts hBefore hAfter hTrigger hSince hNext
  | starts recovery hBefore hAfter hTrigger hEnabled hSince hConfirmed hEligible hNext =>
      exact .starts recovery hBefore hAfter hTrigger hEnabled hSince hConfirmed hEligible hNext

theorem eligible_of_coolingDown {record : DoubleZeroRecoveryRecord} {now : Int}
    (h : record.coolingDown now = false) : ∀ next ∈ record.nextEligibleAt, next * second ≤ now := by
  intro next hNext
  rw [Option.mem_def] at hNext
  unfold DoubleZeroRecoveryRecord.coolingDown at h
  rw [hNext] at h
  simpa [parseRecoveryTime] using h

theorem confirmed_of_unconfirmed {record : DoubleZeroRecoveryRecord} {now confirmation : Int}
    (h : record.unconfirmed now confirmation = false) :
    ∀ since ∈ record.drainedSince, confirmation ≤ now - since * second := by
  intro since hSince
  rw [Option.mem_def] at hSince
  unfold DoubleZeroRecoveryRecord.unconfirmed at h
  rw [hSince] at h
  simpa [parseRecoveryTime] using h

theorem startOrWait_observes {triggerReason : TriggerReason} {network currentDevice : String}
    {now : Int} {noted : DoubleZeroRecoveryManager} {triggers : Prop} (hTriggers : triggers)
    (hRunning : manager.running = false) (hNoted : noted.running = false)
    (hCfg : noted.cfg = manager.cfg)
    (hSince : noted.record.drainedSince = manager.record.drainedSince.or (formatTime now))
    (hNext : noted.record.nextEligibleAt = manager.record.nextEligibleAt) :
    Observes manager triggers now
      (noted.startOrWait triggerReason network currentDevice now).1
      (noted.startOrWait triggerReason network currentDevice now).2 := by
  have waits : ∀ state reason, Observes manager triggers now
      (noted.transitionLocked state reason noted.record.drainedSince) none := by
    intro state reason
    apply Observes.lasts hRunning <;> simp [transitionLocked_record, *]
  unfold startOrWait
  dsimp only
  split
  · apply waits
  rename_i hEnabled
  split
  · by_cases hFailed : noted.record.lastOutcome = some .failed
    · rw [if_pos hFailed]
      apply waits
    · rw [if_neg hFailed]
      apply waits
  rename_i hEligible
  split
  · apply waits
  rename_i hConfirmed
  split
  · apply waits
  apply Observes.starts _ hRunning rfl hTriggers
  · simpa [hCfg] using hEnabled
  · exact hSince
  · rw [hCfg, Bool.not_eq_true] at hConfirmed
    exact confirmed_of_unconfirmed hConfirmed
  · rw [Bool.not_eq_true] at hEligible
    rw [← hNext]
    exact eligible_of_coolingDown hEligible
  · rw [← hCfg]
    rfl

theorem observeLocked_observes {currentDevice tunnelStatus network deviceState : String}
    {routeState : RouteState} {now : Int} :
    Observes manager
      (deviceState = "drained" ∨
        tunnelStatus = "BGP Session Failed" ∧ trimSpace currentDevice ≠ "") now
      (manager.observeLocked currentDevice tunnelStatus network deviceState routeState now).1
      (manager.observeLocked currentDevice tunnelStatus network deviceState routeState now).2 := by
  unfold observeLocked
  split
  · rename_i hRunning
    apply Observes.during hRunning <;> simp [transitionLocked_record, hRunning]
  rename_i hRunning
  rw [Bool.not_eq_true] at hRunning
  split
  · dsimp only
    split <;> exact .ends hRunning hRunning rfl rfl
  · rw [← isSome_trigger_iff]
    cases hTrigger : doubleZeroAutomaticRecoveryTrigger deviceState tunnelStatus currentDevice with
    | none => apply Observes.ends hRunning <;> simp [transitionLocked_record, hRunning]
    | some triggerReason =>
        apply startOrWait_observes rfl hRunning
        · simp [hRunning]
        · simp
        · exact noteTrigger_record.1
        · exact noteTrigger_record.2

theorem noteTrigger_saved {triggerReason : TriggerReason} {now : Int} (h : manager.Saved) :
    (manager.noteTrigger triggerReason now).Saved := by
  unfold noteTrigger
  split
  · exact transitionLocked_saved h
  · exact h

theorem startOrWait_saved {triggerReason : TriggerReason} {network currentDevice : String}
    {now : Int} (h : manager.Saved) :
    (manager.startOrWait triggerReason network currentDevice now).1.Saved := by
  have waits : ∀ state reason,
      (manager.transitionLocked state reason manager.record.drainedSince).Saved :=
    fun _ _ => transitionLocked_saved h
  unfold startOrWait
  split_ifs
  iterate 5 apply waits
  apply persistLocked_saved
  exact h.version

theorem observeLocked_saved {currentDevice tunnelStatus network deviceState : String}
    {routeState : RouteState} {now : Int} (h : manager.Saved) :
    (manager.observeLocked currentDevice tunnelStatus network deviceState routeState
      now).1.Saved := by
  unfold observeLocked
  split
  · exact transitionLocked_saved h
  split
  · dsimp only
    split
    · apply persistLocked_saved
      exact h.version
    · -- The record is the healthy one already.
      rename_i hSame
      simp only [ne_eq, not_or, not_not] at hSame
      obtain ⟨hState, hReason, hSince⟩ := hSame
      rw [← hState, ← hReason, ← hSince]
      exact h
  split
  · exact transitionLocked_saved h
  · exact startOrWait_saved (noteTrigger_saved h)

theorem observe_saved {status : StatusMap} {routeState : RouteState}
    {lookup : Except String String} {now : Int} (h : manager.Saved) :
    (manager.observe status routeState lookup now).manager.Saved := by
  obtain ⟨device, state, at', hRead⟩ := @readCurrentDeviceState_keeps manager
    (readMapString status "currentDevice") (readMapString status "network")
    (readMapString status "tunnelStatus") now lookup
  dsimp only [observe]
  rw [hRead]
  apply observeLocked_saved
  exact ⟨h.version, h.read⟩

theorem observe_observes {status : StatusMap} {routeState : RouteState}
    {lookup : Except String String} {now : Int} :
    let observed := manager.observe status routeState lookup now
    Observes manager
      (observed.currentDeviceStatus = "drained" ∨
        readMapString status "tunnelStatus" = "BGP Session Failed" ∧
          trimSpace (readMapString status "currentDevice") ≠ "") now
      observed.manager observed.started := by
  obtain ⟨device, state, at', hRead⟩ := @readCurrentDeviceState_keeps manager
    (readMapString status "currentDevice") (readMapString status "network")
    (readMapString status "tunnelStatus") now lookup
  dsimp only [observe]
  rw [hRead]
  exact Observes.cached observeLocked_observes

theorem new_saved {cfg : Config} (h : manager.Saved) :
    (newDoubleZeroRecoveryManager cfg manager.stateFile).Saved where
  version := by
    rw [← h.version, ← h.read]
    rfl
  read := rfl

theorem runRecovery_saved {recovery : Recovery} {commands : RecoveryCommands} {now : Int}
    (h : manager.Saved) : (manager.runRecovery recovery commands now).Saved := by
  apply persistLocked_saved
  dsimp only
  split <;> exact h.version

theorem runRecovery_record {recovery : Recovery} {commands : RecoveryCommands} {now : Int} :
    ((manager.runRecovery recovery commands now).record.drainedSince = none ∨
        (manager.runRecovery recovery commands now).record.drainedSince =
          manager.record.drainedSince) ∧
      (manager.runRecovery recovery commands now).record.nextEligibleAt =
        manager.record.nextEligibleAt := by
  dsimp only [runRecovery, completeRecovery, persistLocked]
  split
  · exact ⟨.inl rfl, rfl⟩
  · exact ⟨.inr rfl, rfl⟩

end DoubleZeroRecoveryManager

/-! ## The invariant -/

/-- Since the second `since`, no observation speaks against the condition. -/
def LastsSince (observations : List Observation) (since : Int) : Prop :=
  ∃ before first span, observations = before ++ first :: span ∧ first.time / second = since ∧
    ∀ a ∈ first :: span, a.Confirms

theorem LastsSince.concat {observations : List Observation} {since : Int} {o : Observation}
    (h : LastsSince observations since) (hConfirms : o.Confirms) :
    LastsSince (observations ++ [o]) since := by
  obtain ⟨before, first, span, rfl, hTime, hSpan⟩ := h
  refine ⟨before, first, span ++ [o], by simp, hTime, ?_⟩
  intro a ha
  rw [← List.cons_append] at ha
  rcases List.mem_append.1 ha with hOld | hLast
  · exact hSpan a hOld
  · rw [List.mem_singleton.1 hLast]
    exact hConfirms

theorem lastsSince_last {observations : List Observation} {o : Observation}
    (hConfirms : o.Confirms) : LastsSince (observations ++ [o]) (o.time / second) :=
  ⟨observations, o, [], rfl, rfl, by simpa⟩

/-- The next recovery is not eligible before the cooldown of the start, up to a second. -/
def CooledBy (next : StoredTime) (a : Observation) : Prop :=
  ∃ seconds ∈ next, (a.time + a.cfg.doubleZeroRecoveryCooldown) / second ≤ seconds

theorem lastsSince_or {observations : List Observation} {o : Observation} {before : StoredTime}
    {now : Int} (hNow : o.time = now) (h : ∀ since ∈ before, LastsSince observations since)
    (hConfirms : o.Confirms) :
    ∀ since ∈ before.or (formatTime now), LastsSince (observations ++ [o]) since := by
  intro since hSince
  subst hNow
  cases before with
  | none =>
      cases hSince
      exact lastsSince_last hConfirms
  | some earlier =>
      cases hSince
      exact (h _ rfl).concat hConfirms

theorem LastsSince.confirmed {observations : List Observation} {o : Observation} {since : Int}
    (h : LastsSince (observations ++ [o]) since)
    (hLong : o.cfg.doubleZeroRecoveryConfirmation ≤ o.time - since * second) :
    ∃ before first span, observations ++ [o] = before ++ first :: span ∧
      o.cfg.doubleZeroRecoveryConfirmation - second ≤ o.time - first.time ∧
      ∀ a ∈ first :: span, a.Confirms := by
  obtain ⟨before, first, span, hSplit, hTime, hSpan⟩ := h
  refine ⟨before, first, span, hSplit, ?_, hSpan⟩
  unfold second at *
  omega

theorem CooledBy.apart {next : StoredTime} {a o : Observation} (h : CooledBy next a)
    (hEligible : ∀ seconds ∈ next, seconds * second ≤ o.time) :
    a.cfg.doubleZeroRecoveryCooldown - second ≤ o.time - a.time := by
  obtain ⟨seconds, hNext, hLe⟩ := h
  have hNow := hEligible seconds hNext
  unfold second at *
  omega

theorem cooledBy_self {o : Observation} :
    CooledBy (formatTime (o.time + o.cfg.doubleZeroRecoveryCooldown)) o :=
  ⟨_, rfl, Int.le_refl _⟩

theorem CooledBy.later {next : StoredTime} {a : Observation} (h : CooledBy next a) {now : Int}
    (hEligible : ∀ seconds ∈ next, seconds * second ≤ now) {cfg : Config} :
    CooledBy (formatTime (now + cfg.doubleZeroRecoveryCooldown)) a := by
  obtain ⟨seconds, hNext, hLe⟩ := h
  have hNow := hEligible seconds hNext
  have hCooldown := cfg.hour_le_cooldown
  refine ⟨_, rfl, ?_⟩
  unfold hour minute second at *
  omega

namespace RecoverySystem

/-- What the manager has saved justifies every recovery that it has started. -/
structure Limited (s : RecoverySystem) : Prop where
  saved : s.manager.Saved
  recoveries : s.recoveries.length = if s.manager.running then 1 else 0
  lasts : ∀ since ∈ s.manager.record.drainedSince, LastsSince s.observations since
  cooled : ∀ a ∈ s.observations, a.starts = true → CooledBy s.manager.record.nextEligibleAt a
  allowed : StartsAllowed s.observations

theorem limited_boot {cfg : Config} : (boot cfg).Limited where
  saved := ⟨rfl, rfl⟩
  recoveries := rfl
  lasts := by
    intro since hSince
    cases hSince
  cooled := by simp [boot]
  allowed := startsAllowed_nil

variable {s s' : RecoverySystem}

theorem Limited.waits (h : s.Limited) {manager : DoubleZeroRecoveryManager} {o : Observation}
    (hSaved : manager.Saved) (hRunning : manager.running = s.manager.running)
    (hLasts : ∀ since ∈ manager.record.drainedSince, LastsSince (s.observations ++ [o]) since)
    (hNext : manager.record.nextEligibleAt = s.manager.record.nextEligibleAt)
    (hStarts : o.starts = false) :
    Limited
      { manager := manager
        recoveries := s.recoveries
        observations := s.observations ++ [o] } where
  saved := hSaved
  recoveries := by
    rw [hRunning]
    exact h.recoveries
  lasts := hLasts
  cooled := by
    intro a ha haStarts
    rcases List.mem_append.1 ha with hOld | hLast
    · rw [hNext]
      exact h.cooled a hOld haStarts
    · rw [List.mem_singleton.1 hLast, hStarts] at haStarts
      cases haStarts
  allowed := by
    apply startsAllowed_concat h.allowed
    rw [hStarts]
    exact fun hFalse => absurd hFalse Bool.false_ne_true

theorem Limited.starts (h : s.Limited) {manager : DoubleZeroRecoveryManager} {o : Observation}
    {recovery : Recovery} (hSaved : manager.Saved) (hBefore : s.manager.running = false)
    (hAfter : manager.running = true)
    (hRecoveries : o.recoveries = s.recoveries.length) (hConfirms : o.Confirms)
    (hEnabled : o.cfg.doubleZeroRecoveryEnabled = true)
    (hSince : manager.record.drainedSince =
      s.manager.record.drainedSince.or (formatTime o.time))
    (hConfirmed : ∀ since ∈ manager.record.drainedSince,
      o.cfg.doubleZeroRecoveryConfirmation ≤ o.time - since * second)
    (hEligible : ∀ next ∈ s.manager.record.nextEligibleAt, next * second ≤ o.time)
    (hNext : manager.record.nextEligibleAt =
      formatTime (o.time + o.cfg.doubleZeroRecoveryCooldown)) :
    Limited
      { manager := manager
        recoveries := s.recoveries ++ [recovery]
        observations := s.observations ++ [o] } := by
  have hNone : s.recoveries.length = 0 := by
    rw [h.recoveries, hBefore]
    rfl
  have hLasts : ∀ since ∈ manager.record.drainedSince,
      LastsSince (s.observations ++ [o]) since := by
    rw [hSince]
    exact lastsSince_or rfl h.lasts hConfirms
  constructor
  · exact hSaved
  · rw [List.length_append, hNone, hAfter]
    rfl
  · exact hLasts
  · intro a ha hStarts
    rw [hNext]
    rcases List.mem_append.1 ha with hOld | hLast
    · exact (h.cooled a hOld hStarts).later hEligible
    · rw [List.mem_singleton.1 hLast]
      exact cooledBy_self
  · apply startsAllowed_concat h.allowed
    intro _
    obtain ⟨since, hMem⟩ : ∃ since, since ∈ manager.record.drainedSince := by
      rw [hSince]
      cases s.manager.record.drainedSince <;> exact ⟨_, rfl⟩
    constructor
    · rw [hRecoveries, hNone]
    · exact hEnabled
    · intro a ha hStarts
      exact (h.cooled a ha hStarts).apart hEligible
    · exact (hLasts since hMem).confirmed (hConfirmed since hMem)

theorem Limited.observe (h : s.Limited) {status : StatusMap} {routeState : RouteState}
    {lookup : Except String String} {now : Int} :
    (s.observe status routeState lookup now).Limited := by
  have hObserves :=
    @DoubleZeroRecoveryManager.observe_observes s.manager status routeState lookup now
  have hSaved : (s.manager.observe status routeState lookup now).manager.Saved :=
    DoubleZeroRecoveryManager.observe_saved h.saved
  unfold RecoverySystem.observe
  generalize s.manager.observe status routeState lookup now = observed at hObserves hSaved ⊢
  obtain ⟨manager, deviceStatus, deviceErr, started⟩ := observed
  dsimp only at hObserves hSaved ⊢
  cases hObserves with
  | during hBefore hAfter hSince hNext =>
      rw [Option.toList_none, List.append_nil]
      apply h.waits hSaved (hAfter.trans hBefore.symm) _ hNext rfl
      rw [hSince]
      intro since hMem
      apply (h.lasts since hMem).concat
      left
      dsimp only
      rw [h.recoveries, hBefore]
      decide
  | ends hBefore hAfter hSince hNext =>
      rw [Option.toList_none, List.append_nil]
      apply h.waits hSaved (hAfter.trans hBefore.symm) _ hNext rfl
      rw [hSince]
      intro since hMem
      cases hMem
  | lasts hBefore hAfter hTrigger hSince hNext =>
      rw [Option.toList_none, List.append_nil]
      apply h.waits hSaved (hAfter.trans hBefore.symm) _ hNext rfl
      rw [hSince]
      apply lastsSince_or _ h.lasts
      · exact .inr hTrigger
      · rfl
  | starts recovery hBefore hAfter hTrigger hEnabled hSince hConfirmed hEligible hNext =>
      exact h.starts hSaved hBefore hAfter rfl (.inr hTrigger) hEnabled hSince hConfirmed
        hEligible hNext

theorem Limited.complete (h : s.Limited) {k : Nat} {recovery : Recovery}
    (hRecovery : s.recoveries[k]? = some recovery) {commands : RecoveryCommands} {now : Int} :
    Limited
      { s with
        manager := s.manager.runRecovery recovery commands now
        recoveries := s.recoveries.eraseIdx k } where
  saved := DoubleZeroRecoveryManager.runRecovery_saved h.saved
  recoveries := by
    have hBound : k < s.recoveries.length := (List.getElem?_eq_some_iff.1 hRecovery).1
    have hLength := h.recoveries
    have hEnded : (s.manager.runRecovery recovery commands now).running = false := rfl
    rw [List.length_eraseIdx_of_lt hBound, hEnded]
    split at hLength <;> simp <;> omega
  lasts := by
    intro since hSince
    rcases (@DoubleZeroRecoveryManager.runRecovery_record s.manager recovery commands now).1 with
      hNone | hSame
    · rw [hNone] at hSince
      cases hSince
    · rw [hSame] at hSince
      exact h.lasts since hSince
  cooled := by
    intro a ha hStarts
    rw [DoubleZeroRecoveryManager.runRecovery_record.2]
    exact h.cooled a ha hStarts
  allowed := h.allowed

theorem Limited.restart (h : s.Limited) {cfg : Config} :
    Limited
      { s with
        manager := newDoubleZeroRecoveryManager cfg s.manager.stateFile
        recoveries := [] } := by
  have hRecord : (newDoubleZeroRecoveryManager cfg s.manager.stateFile).record =
      s.manager.record := h.saved.read
  constructor
  · exact DoubleZeroRecoveryManager.new_saved h.saved
  · rfl
  · rw [hRecord]
    exact h.lasts
  · rw [hRecord]
    exact h.cooled
  · exact h.allowed

theorem limited_step {e : RecoveryEvent} (h : s.Limited) (hStep : s.step e = some s') :
    s'.Limited := by
  cases e with
  | observe status routeState lookup now =>
      cases hStep
      exact h.observe
  | complete k commands now =>
      dsimp only [step] at hStep
      split at hStep
      · cases hStep
      · rename_i recovery hRecovery
        cases hStep
        exact h.complete hRecovery
  | restart cfg =>
      cases hStep
      exact h.restart

/-- Over every run of the agent, however often it restarts: a recovery starts only while no other
one of the process runs and recovery is enabled, at least the cooldown after every earlier start,
and after a span of at least the confirmation time in which every observation outside a recovery was
a trigger; each bound up to the second that the stored times lose. -/
theorem recoveries_limited {cfg : Config} {events : List RecoveryEvent}
    (hRun : run step (boot cfg) events = some s) : StartsAllowed s.observations :=
  (run_invariant (fun _ _ _ hLimited hStep => limited_step hLimited hStep) limited_boot
    hRun).allowed

/-- The session of a known device failed. -/
def failedStatus : StatusMap
  | "currentDevice" => some (.str "cherydam")
  | "tunnelStatus" => some (.str "BGP Session Failed")
  | "network" => some (.str "testnet")
  | _ => none

def observeFailed (now : Int) : RecoveryEvent :=
  .observe failedStatus .empty (.ok "activated") now

/-- The agent dies during its first recovery and waits for the end of the cooldown. -/
theorem recoveries_limited_restart :
    ∃ s, run step (boot (loadConfig none none none))
        [observeFailed 0, observeFailed (3 * minute), .restart (loadConfig none none none),
          observeFailed (4 * minute), observeFailed (7 * hour)] = some s ∧
      s.observations.map (·.starts) = [false, true, false, true] ∧
      StartsAllowed s.observations := by
  have hExists : ∃ s ∈ run step (boot (loadConfig none none none))
      [observeFailed 0, observeFailed (3 * minute), .restart (loadConfig none none none),
        observeFailed (4 * minute), observeFailed (7 * hour)],
      s.observations.map (·.starts) = [false, true, false, true] := by
    decide +kernel
  obtain ⟨s, hRun, hStarts⟩ := hExists
  exact ⟨s, hRun, hStarts, recoveries_limited hRun⟩

end RecoverySystem

end Hyperspace.Gate
