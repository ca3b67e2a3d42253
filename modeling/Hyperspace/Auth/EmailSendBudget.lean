import Hyperspace.Billing.Schema
import Hyperspace.Foundations.Runs
import Mathlib.Logic.Function.Basic

/-!
# The budget of login mails

`email_auth_send_limits` holds one row for all sends and one for each address. The reservations of
all processes run one after another under an advisory lock, and a pause updates one row. The
clean-up takes no lock: its sub-select chooses the rows, and its `DELETE` may wait for a reservation
and then finds a row by its key, whatever has become of it since. A clock time is in microseconds,
as `now()` reads it; `Date.now()`, and `Date.parse` of a timestamp's text, see its milliseconds.
-/

namespace Hyperspace.Auth

open Hyperspace.Billing (jsDate)
open Hyperspace.Foundations

abbrev EmailHash := String

/-- What `Date.parse` reads of the text of a timestamp, and `Date.now()` of the clock. -/
def dateParseText (t : Int) : Int := jsDate t

/-- The environment's limits on login mails. -/
structure EmailSendBudgetConfig where
  dailyMax : Nat
  intervalMs : Nat
  emailWindowSeconds : Nat
  emailMax : Nat
  cooldownSeconds : Nat
  deriving DecidableEq, Repr

def defaultEmailSendBudgetConfig : EmailSendBudgetConfig where
  dailyMax := 80
  intervalMs := 1000
  emailWindowSeconds := 900
  emailMax := 3
  cooldownSeconds := 60

namespace EmailSendBudgetConfig

variable (config : EmailSendBudgetConfig)

def interval : Int := config.intervalMs * 1000
def emailWindow : Int := config.emailWindowSeconds * 1000000
def cooldown : Int := config.cooldownSeconds * 1000000

end EmailSendBudgetConfig

/-- A row of `email_auth_send_limits`. -/
structure LimitRow where
  windowStart : Int
  sendCount : Nat
  lastAttemptAt : Int
  blockedUntil : Option Int
  deriving DecidableEq, Repr

/-- The rows by their keys. -/
abbrev LimitRows := String → Option LimitRow

/-- The limit that a refusal names. -/
inductive RefusalReason where
  | dailyBudget
  | sendPacing
  | emailCooldown
  | emailLimit
  | providerBackoff
  deriving DecidableEq, Repr

inductive EmailSendReservation where
  | allowed
  /-- `retryAfter` is in seconds. -/
  | refused (reason : RefusalReason) (retryAfter : Int)
  deriving DecidableEq, Repr

def emailKey (emailHash : EmailHash) : String := "email:" ++ emailHash

def day : Int := 86400000000

/-- The start of the UTC day. -/
def dayStart (t : Int) : Int := t / day * day

section

variable (config : EmailSendBudgetConfig) (rows : LimitRows) (emailHash : EmailHash)
  (now : Int)

/-- The window of the recipient is not over. -/
def recipientActive (recipient : LimitRow) : Bool :=
  now < dateParseText recipient.windowStart + config.emailWindow

/-- The check with this reason: until when it refuses, when it does. -/
def RefusalReason.refusesUntil : RefusalReason → Option Int
  | .providerBackoff => do
    let blockedUntil ← (← rows "global").blockedUntil
    if now < dateParseText blockedUntil then some (dateParseText blockedUntil) else none
  | .dailyBudget => do
    let global ← rows "global"
    if dateParseText global.windowStart = dayStart now ∧ config.dailyMax ≤ global.sendCount then
      some (dayStart now + day)
    else none
  | .sendPacing => do
    let global ← rows "global"
    if now < dateParseText global.lastAttemptAt + config.interval then
      some (dateParseText global.lastAttemptAt + config.interval)
    else none
  | .emailCooldown => do
    let recipient ← rows (emailKey emailHash)
    if now < dateParseText recipient.lastAttemptAt + config.cooldown then
      some (dateParseText recipient.lastAttemptAt + config.cooldown)
    else none
  | .emailLimit => do
    let recipient ← rows (emailKey emailHash)
    if recipientActive config now recipient ∧ config.emailMax ≤ recipient.sendCount then
      some (dateParseText recipient.windowStart + config.emailWindow)
    else none

/-- The checks in the order of the source. -/
def refusalReasons : List RefusalReason :=
  [.providerBackoff, .dailyBudget, .sendPacing, .emailCooldown, .emailLimit]

/-- `Math.max(1, Math.ceil((until - now) / 1000))`. -/
def retryAfter (releasedAt : Int) : Int := max 1 ((releasedAt - now + 999999) / 1000000)

def upsertLimit (key : String) (windowStart lastAttemptAt : Int) : LimitRows :=
  Function.update rows key <| some <|
    match rows key with
    | none => ⟨windowStart, 1, lastAttemptAt, none⟩
    | some row =>
      { row with
        windowStart
        lastAttemptAt
        sendCount := if row.windowStart = windowStart then row.sendCount + 1 else 1 }

def recipientWindowStart : Int :=
  match rows (emailKey emailHash) with
  | none => now
  | some recipient =>
    if recipientActive config now recipient then dateParseText recipient.windowStart else now

/-- `reserveEmailSend`, where `now` is what `Date.now()` reads. -/
def reserveEmailSend : EmailSendReservation × LimitRows :=
  match refusalReasons.findSome? fun reason =>
      (reason.refusesUntil config rows emailHash now).map fun releasedAt =>
        (reason, releasedAt) with
  | some (reason, releasedAt) => (.refused reason (retryAfter now releasedAt), rows)
  | none =>
    (.allowed,
      upsertLimit (upsertLimit rows "global" (dayStart now) now) (emailKey emailHash)
        (recipientWindowStart config rows emailHash now) now)

/-- `pauseEmailSending`, for a number of seconds that is given in microseconds. -/
def pauseEmailSending (microseconds : Int) : LimitRows :=
  Function.update rows "global" <| (rows "global").map fun row =>
    { row with
      blockedUntil := some (max (row.blockedUntil.getD now) (now + microseconds)) }

/-- The sub-select of `cleanEmailSendLimits`; `LIMIT` leaves open which of the old rows are taken.
-/
def selectOldLimits (keys : List String) : List String :=
  (keys.filter fun key =>
    key ≠ "global" && (rows key).any fun row => row.lastAttemptAt < now - 2 * day).take 500

/-- The `DELETE` of `cleanEmailSendLimits` gets to a row that was selected. -/
def deleteLimit (key : String) : LimitRows := Function.update rows key none

end

/-! ### The system -/

/-- The statements that write the limits. A clean-up reads the old keys before it deletes them. -/
inductive SendCall where
  | reserve (emailHash : EmailHash)
  | pause (microseconds : Int)
  | selectOld (keys : List String)
  | deleteOld (key : String)
  deriving DecidableEq, Repr

structure SendEvent where
  now : Int
  call : SendCall
  deriving DecidableEq, Repr

/-- The rows, the keys that clean-ups have selected and not yet deleted, and the sends that were
allowed with their `Date.now()`, the newest first. -/
structure SendState where
  rows : LimitRows
  selected : List String
  clock : Int
  allowed : List (EmailHash × Int)

def noSends : SendState where
  rows := fun _ => none
  selected := []
  clock := 0
  allowed := []

namespace SendState

variable (config : EmailSendBudgetConfig)

def perform (s : SendState) (now : Int) : SendCall → SendState
  | .reserve emailHash =>
    let (reservation, rows) := reserveEmailSend config s.rows emailHash (dateParseText now)
    { s with
      rows
      clock := now
      allowed :=
        match reservation with
        | .allowed => (emailHash, dateParseText now) :: s.allowed
        | .refused _ _ => s.allowed }
  | .pause microseconds =>
    { s with
      rows := pauseEmailSending s.rows now microseconds
      clock := now }
  | .selectOld keys =>
    { s with
      selected := selectOldLimits s.rows now keys ++ s.selected
      clock := now }
  | .deleteOld key =>
    { s with
      rows := deleteLimit s.rows key
      selected := s.selected.filter (· ≠ key)
      clock := now }

/-- A row is deleted by a clean-up that has selected it. -/
def Enabled (s : SendState) : SendCall → Prop
  | .deleteOld key => key ∈ s.selected
  | .reserve _ | .pause _ | .selectOld _ => True

instance (s : SendState) : DecidablePred s.Enabled := fun call => by
  cases call <;> simp only [Enabled] <;> infer_instance

def step (s : SendState) (e : SendEvent) : Option SendState :=
  if s.clock ≤ e.now ∧ s.Enabled e.call then some (s.perform config e.now e.call) else none

end SendState

end Hyperspace.Auth
