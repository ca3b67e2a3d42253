import Hyperspace.Foundations.Json

/-!
# Automatic DoubleZero recovery

At every heartbeat the gate agent looks at its DoubleZero tunnel. When the device it is attached to
is drained, or its BGP session has failed, and this has lasted, the agent disconnects and connects
again. One record on disk outlives the process.

Instants and durations are in nanoseconds.
-/

namespace Hyperspace.Gate

open Hyperspace.Foundations

def second : Int := 1000000000

def minute : Int := 60 * second

def hour : Int := 60 * minute

/-- `unicode.IsSpace`. -/
def isSpace (c : Char) : Bool :=
  c.toNat ∈ [0x9, 0xA, 0xB, 0xC, 0xD, 0x20, 0x85, 0xA0, 0x1680, 0x2028, 0x2029, 0x202F, 0x205F,
    0x3000] || (0x2000 ≤ c.toNat && c.toNat ≤ 0x200A)

/-- `strings.TrimSpace`. -/
def trimSpace (s : String) : String :=
  String.ofList ((s.toList.dropWhile isSpace).reverse.dropWhile isSpace).reverse

/-- A `map[string]any`. -/
abbrev StatusMap := String → Option Json

def readMapString (values : StatusMap) (key : String) : String :=
  match values key with
  | some (.str text) => trimSpace text
  | some .null | some (.bool _) | some (.num _) | some (.arr _) | some (.obj _) | none => ""

/-! ## Settings -/

/-- A duration from the environment; `none` when it is not set or cannot be parsed. -/
def durationEnvMin (value : Option Int) (fallback minimum : Int) : Int :=
  if value.getD fallback < minimum then fallback else value.getD fallback

theorem le_durationEnvMin {value : Option Int} {fallback minimum : Int}
    (hFallback : minimum ≤ fallback) : minimum ≤ durationEnvMin value fallback minimum := by
  unfold durationEnvMin
  split
  · exact hFallback
  · omega

/-- What of the configuration is about recovery. -/
structure Config where
  doubleZeroRecoveryEnabled : Bool
  doubleZeroRecoveryConfirmation : Int
  doubleZeroRecoveryCooldown : Int
  minute_le_confirmation : minute ≤ doubleZeroRecoveryConfirmation
  hour_le_cooldown : hour ≤ doubleZeroRecoveryCooldown
  deriving DecidableEq

def loadConfig (autoRecovery : Option Bool) (confirmation cooldown : Option Int) : Config where
  doubleZeroRecoveryEnabled := autoRecovery.getD true
  doubleZeroRecoveryConfirmation := durationEnvMin confirmation (2 * minute) minute
  doubleZeroRecoveryCooldown := durationEnvMin cooldown (6 * hour) hour
  minute_le_confirmation := le_durationEnvMin (by decide)
  hour_le_cooldown := le_durationEnvMin (by decide)

/-! ## The record -/

/-- Why a reconnect is started. -/
inductive TriggerReason where
  | currentDoubleZeroDeviceDrained
  | persistentBgpSessionFailed
  deriving DecidableEq, Repr

/-- `reason` of the record. -/
inductive RecoveryReason where
  | doubleZeroReady
  | automaticReconnectRunning
  | doubleZeroCurrentDeviceUnknown
  | doubleZeroDeviceStatusUnknown
  | doubleZeroNotReadyDeviceNotDrained
  | trigger (reason : TriggerReason)
  | automaticRecoveryDisabled
  | automaticReconnectFailedCooldown
  | automaticReconnectCooldown
  | automaticRecoverySafetyGuard
  | automaticReconnectRestoredDoubleZero
  deriving DecidableEq, Repr

/-- `state` of the record. -/
inductive RecoveryState where
  | notRequired
  | observing
  | manualRequired
  | cooldown
  | inProgress
  | succeeded
  | failed
  deriving DecidableEq, Repr

inductive RecoveryOutcome where
  | succeeded
  | failed
  deriving DecidableEq, Repr

/-- `stage` of the record: how far the last reconnect has come. -/
inductive RecoveryStage where
  | scheduled
  | preflightFailed
  | disconnectFailed
  | connectFailed
  | verificationFailed
  | verifying
  | verified
  deriving DecidableEq, Repr

/-- A stored time: RFC 3339 text, which keeps whole seconds; `none` is the empty text. -/
abbrev StoredTime := Option Int

def formatTime (t : Int) : StoredTime := some (t / second)

def parseRecoveryTime : StoredTime → Option Int
  | some seconds => some (seconds * second)
  | none => none

/-- What the manager saves between restarts. -/
structure DoubleZeroRecoveryRecord where
  schemaVersion : Nat
  state : RecoveryState
  reason : RecoveryReason
  drainedSince : StoredTime
  lastAttemptAt : StoredTime
  lastCompletedAt : StoredTime
  lastOutcome : Option RecoveryOutcome
  lastStage : Option RecoveryStage
  lastError : String
  beforeDevice : String
  afterDevice : String
  nextEligibleAt : StoredTime
  deriving DecidableEq

/-- The manager with its file. -/
structure DoubleZeroRecoveryManager where
  cfg : Config
  record : DoubleZeroRecoveryRecord
  running : Bool
  cachedDevice : String
  cachedDeviceState : String
  cachedDeviceAt : Int
  /-- The file at `statePath()`. -/
  stateFile : Option DoubleZeroRecoveryRecord

/-- The record of an agent that finds no file. -/
def initialRecord : DoubleZeroRecoveryRecord where
  schemaVersion := 1
  state := .notRequired
  reason := .doubleZeroReady
  drainedSince := none
  lastAttemptAt := none
  lastCompletedAt := none
  lastOutcome := none
  lastStage := none
  lastError := ""
  beforeDevice := ""
  afterDevice := ""
  nextEligibleAt := none

def readRecord : Option DoubleZeroRecoveryRecord → DoubleZeroRecoveryRecord
  | some persisted => if persisted.schemaVersion = 1 then persisted else initialRecord
  | none => initialRecord

/-- The zero `time.Time`, the first instant of the year 1. -/
def zeroTime : Int := -62135596800 * second

def newDoubleZeroRecoveryManager (cfg : Config) (stateFile : Option DoubleZeroRecoveryRecord) :
    DoubleZeroRecoveryManager where
  cfg := cfg
  record := readRecord stateFile
  running := false
  cachedDevice := ""
  cachedDeviceState := ""
  cachedDeviceAt := zeroTime
  stateFile := stateFile

namespace DoubleZeroRecoveryManager

def persistLocked (manager : DoubleZeroRecoveryManager) : DoubleZeroRecoveryManager :=
  { manager with stateFile := some manager.record }

def transitionLocked (manager : DoubleZeroRecoveryManager) (state : RecoveryState)
    (reason : RecoveryReason) (drainedSince : StoredTime) : DoubleZeroRecoveryManager :=
  if manager.record.state = state ∧ manager.record.reason = reason ∧
      manager.record.drainedSince = drainedSince then manager
  else
    persistLocked
      { manager with
        record :=
          { manager.record with
            state := state
            reason := reason
            drainedSince := drainedSince } }

end DoubleZeroRecoveryManager

/-! ## Looking at the tunnel -/

def validDoubleZeroNetwork (network : String) : Bool :=
  network = "testnet" || network = "mainnet-beta"

/-- What `doublezero0` and the BGP routes over it look like. -/
inductive RouteState where
  | unavailable
  | empty
  | sparse
  | ready
  deriving DecidableEq, Repr

def doubleZeroAutomaticRecoveryTrigger (deviceState tunnelStatus currentDevice : String) :
    Option TriggerReason :=
  if deviceState = "drained" then some .currentDoubleZeroDeviceDrained
  else if tunnelStatus = "BGP Session Failed" ∧ trimSpace currentDevice ≠ "" then
    some .persistentBgpSessionFailed
  else none

namespace DoubleZeroRecoveryRecord

def coolingDown (record : DoubleZeroRecoveryRecord) (now : Int) : Bool :=
  match parseRecoveryTime record.nextEligibleAt with
  | some nextEligible => now < nextEligible
  | none => false

def unconfirmed (record : DoubleZeroRecoveryRecord) (now confirmation : Int) : Bool :=
  match parseRecoveryTime record.drainedSince with
  | some conditionSince => now - conditionSince < confirmation
  | none => true

end DoubleZeroRecoveryRecord

def shouldStartDoubleZeroRecovery (record : DoubleZeroRecoveryRecord)
    (triggerReason : Option TriggerReason) (enabled running : Bool) (now confirmation : Int) :
    Bool :=
  if !enabled || running || triggerReason = none then false
  else
    match parseRecoveryTime record.drainedSince with
    | none => false
    | some drainedSince =>
      if now - drainedSince < confirmation then false
      else
        match parseRecoveryTime record.nextEligibleAt with
        | some nextEligible => !(now < nextEligible)
        | none => true

/-- The arguments of `runRecovery`. -/
structure Recovery where
  network : String
  beforeDevice : String
  deriving DecidableEq

/-- What comes out of `Observe`: the manager it leaves, what it adds to the status about the
device, and the recovery it starts. -/
structure Observed where
  manager : DoubleZeroRecoveryManager
  currentDeviceStatus : String
  currentDeviceStatusError : String
  started : Option Recovery

namespace DoubleZeroRecoveryManager

def cacheTTL (tunnelStatus : String) : Int :=
  if tunnelStatus ≠ "BGP Session Up" then 30 * second else 5 * minute

/-- The state of the device and the error, with the answer of `lookupDoubleZeroDeviceState` for when
nothing is cached. -/
def readCurrentDeviceState (manager : DoubleZeroRecoveryManager)
    (currentDevice network tunnelStatus : String) (now : Int) (lookup : Except String String) :
    DoubleZeroRecoveryManager × String × String :=
  if currentDevice = "" ∨ !validDoubleZeroNetwork network then
    (manager, "", "device lookup requires a current device and a supported network")
  else
    if manager.cachedDevice = currentDevice ∧
        now - manager.cachedDeviceAt < cacheTTL tunnelStatus then
      (manager, manager.cachedDeviceState, "")
    else
      match lookup with
      | .error err => (manager, "", err)
      | .ok state =>
        ({ manager with
            cachedDevice := currentDevice
            cachedDeviceState := state
            cachedDeviceAt := now }, state, "")

/-- `Observe` sees a trigger: the condition lasts at least since now. -/
def noteTrigger (manager : DoubleZeroRecoveryManager) (triggerReason : TriggerReason) (now : Int) :
    DoubleZeroRecoveryManager :=
  if manager.record.drainedSince = none then
    manager.transitionLocked .observing (.trigger triggerReason) (formatTime now)
  else manager

/-- `Observe` goes on after a noted trigger. -/
def startOrWait (manager : DoubleZeroRecoveryManager) (triggerReason : TriggerReason)
    (network currentDevice : String) (now : Int) : DoubleZeroRecoveryManager × Option Recovery :=
  let drainedSince := manager.record.drainedSince
  if !manager.cfg.doubleZeroRecoveryEnabled then
    (manager.transitionLocked .manualRequired .automaticRecoveryDisabled drainedSince, none)
  else if manager.record.coolingDown now then
    if manager.record.lastOutcome = some .failed then
      (manager.transitionLocked .failed .automaticReconnectFailedCooldown drainedSince, none)
    else (manager.transitionLocked .cooldown .automaticReconnectCooldown drainedSince, none)
  else if manager.record.unconfirmed now manager.cfg.doubleZeroRecoveryConfirmation then
    (manager.transitionLocked .observing (.trigger triggerReason) drainedSince, none)
  else if !shouldStartDoubleZeroRecovery manager.record (some triggerReason)
      manager.cfg.doubleZeroRecoveryEnabled manager.running now
      manager.cfg.doubleZeroRecoveryConfirmation then
    (manager.transitionLocked .manualRequired .automaticRecoverySafetyGuard drainedSince, none)
  else
    (persistLocked
      { manager with
        running := true
        record :=
          { manager.record with
            state := .inProgress
            reason := .automaticReconnectRunning
            lastAttemptAt := formatTime now
            lastCompletedAt := none
            lastOutcome := none
            lastStage := some .scheduled
            lastError := ""
            beforeDevice := currentDevice
            afterDevice := ""
            nextEligibleAt := formatTime (now + manager.cfg.doubleZeroRecoveryCooldown) } },
      some ⟨network, currentDevice⟩)

/-- The part of `Observe` under the lock. -/
def observeLocked (manager : DoubleZeroRecoveryManager)
    (currentDevice tunnelStatus network deviceState : String) (routeState : RouteState)
    (now : Int) : DoubleZeroRecoveryManager × Option Recovery :=
  if manager.running then
    (manager.transitionLocked .inProgress .automaticReconnectRunning manager.record.drainedSince,
      none)
  else if tunnelStatus = "BGP Session Up" ∧ routeState = .ready ∧ deviceState ≠ "drained" then
    let healthy :=
      { manager with
        record :=
          { manager.record with
            state := .notRequired
            reason := .doubleZeroReady
            drainedSince := none } }
    if manager.record.state ≠ .notRequired ∨ manager.record.reason ≠ .doubleZeroReady ∨
        manager.record.drainedSince ≠ none then (healthy.persistLocked, none)
    else (healthy, none)
  else
    match doubleZeroAutomaticRecoveryTrigger deviceState tunnelStatus currentDevice with
    | none =>
      let reason :=
        if currentDevice = "" then .doubleZeroCurrentDeviceUnknown
        else if deviceState = "" then .doubleZeroDeviceStatusUnknown
        else .doubleZeroNotReadyDeviceNotDrained
      (manager.transitionLocked .manualRequired reason none, none)
    | some triggerReason =>
      (manager.noteTrigger triggerReason now).startOrWait triggerReason network currentDevice now

def observe (manager : DoubleZeroRecoveryManager) (status : StatusMap) (routeState : RouteState)
    (lookup : Except String String) (now : Int) : Observed :=
  let currentDevice := readMapString status "currentDevice"
  let tunnelStatus := readMapString status "tunnelStatus"
  let network := readMapString status "network"
  let (manager, deviceState, deviceErr) :=
    manager.readCurrentDeviceState currentDevice network tunnelStatus now lookup
  let (manager, started) :=
    manager.observeLocked currentDevice tunnelStatus network deviceState routeState now
  ⟨manager, deviceState, deviceErr, started⟩

end DoubleZeroRecoveryManager

/-! ## A recovery -/

/-- One look at the tunnel after the reconnect: the parsed status or why there is none, the routes,
and what the lookup of its device answers. -/
structure Verification where
  status : Except String StatusMap
  routeState : RouteState
  device : Except String String

/-- What the commands of a recovery answer. -/
structure RecoveryCommands where
  keypairIsRegular : Bool
  disconnect : Except String Unit
  connect : Except String Unit
  /-- The looks before the deadline. -/
  polls : List Verification
  final : Verification

/-- How a recovery ended; `failure` is empty when it restored the tunnel. -/
structure RecoveryEnd where
  stage : RecoveryStage
  failure : String
  afterDevice : String

def Verification.restored (look : Verification) : Bool :=
  match look.status, look.device with
  | .ok observed, .ok deviceState =>
    readMapString observed "tunnelStatus" = "BGP Session Up" && look.routeState = .ready &&
      deviceState ≠ "drained"
  | .ok _, .error _ | .error _, _ => false

/-- The device that the polling loop saw last. -/
def pollAfterDevice : String → List Verification → String
  | afterDevice, [] => afterDevice
  | afterDevice, look :: polls =>
    match look.status with
    | .error _ => pollAfterDevice afterDevice polls
    | .ok observed =>
      if look.restored then readMapString observed "currentDevice"
      else pollAfterDevice (readMapString observed "currentDevice") polls

def verifyRecovery (polls : List Verification) (final : Verification) : RecoveryEnd :=
  match final.status with
  | .error err =>
    ⟨.verificationFailed, "post-reconnect status failed: " ++ err, pollAfterDevice "" polls⟩
  | .ok observed =>
    let afterDevice := readMapString observed "currentDevice"
    if readMapString observed "tunnelStatus" ≠ "BGP Session Up" ∨ final.routeState ≠ .ready then
      ⟨.verificationFailed, "post-reconnect verification did not restore BGP and routes",
        afterDevice⟩
    else
      match final.device with
      | .error deviceErr =>
        ⟨.verificationFailed, "post-reconnect device verification failed: " ++ deviceErr,
          afterDevice⟩
      | .ok deviceState =>
        if deviceState = "drained" then
          ⟨.verificationFailed,
            "post-reconnect verification remained attached to a drained device", afterDevice⟩
        else ⟨.verifying, "", afterDevice⟩

def reconnect (network : String) (commands : RecoveryCommands) : RecoveryEnd :=
  if !validDoubleZeroNetwork network then
    ⟨.preflightFailed, "unsupported DoubleZero network", ""⟩
  else if !commands.keypairIsRegular then
    ⟨.preflightFailed, "DoubleZero keypair is unavailable", ""⟩
  else
    match commands.disconnect, commands.connect with
    | .error err, _ => ⟨.disconnectFailed, "disconnect failed: " ++ err, ""⟩
    | .ok _, .error err => ⟨.connectFailed, "connect failed: " ++ err, ""⟩
    | .ok _, .ok _ => verifyRecovery commands.polls commands.final

namespace DoubleZeroRecoveryManager

/-- The last part of `runRecovery`, under the lock. -/
def completeRecovery (manager : DoubleZeroRecoveryManager) (recovery : RecoveryEnd) (now : Int) :
    DoubleZeroRecoveryManager :=
  let record :=
    { manager.record with
      lastCompletedAt := formatTime now
      afterDevice := recovery.afterDevice }
  persistLocked
    { manager with
      running := false
      record :=
        if recovery.failure = "" then
          { record with
            state := .succeeded
            reason := .automaticReconnectRestoredDoubleZero
            lastOutcome := some .succeeded
            lastStage := some .verified
            lastError := ""
            drainedSince := none }
        else
          { record with
            state := .failed
            reason := .automaticReconnectFailedCooldown
            lastOutcome := some .failed
            lastStage := some recovery.stage
            lastError := recovery.failure } }

def runRecovery (manager : DoubleZeroRecoveryManager) (recovery : Recovery)
    (commands : RecoveryCommands) (now : Int) : DoubleZeroRecoveryManager :=
  manager.completeRecovery (reconnect recovery.network commands) now

end DoubleZeroRecoveryManager

end Hyperspace.Gate
