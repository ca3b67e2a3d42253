import Hyperspace.Billing.Schema
import Hyperspace.Foundations.Queries
import Hyperspace.Foundations.Runs
import Hyperspace.Foundations.Tables
import Hyperspace.Notifications.Messages

/-!
# The outbox of the mails

A worker claims a row, hands the mail to the provider and writes what came of it, in three steps
that know nothing of each other. In between, other workers claim, the clock goes on and workers are
lost.
-/

namespace Hyperspace.Notifications

open Hyperspace.Billing (AccountId Timestamp)
open Hyperspace.Foundations

/-! ### Tables -/

def seconds (n : Nat) : Int := n * 1000000

/-- A row of `users`, as far as mail is concerned. -/
structure NotifiedUser where
  id : Nat
  accountId : AccountId
  email : String
  createdAt : Timestamp
  disabledAt : Option Timestamp

/-- `status` of a notification. -/
inductive NotificationStatus where
  | pending
  | sending
  | sent
  | failed
  | cancelled
  deriving DecidableEq

/-- A row of `billing_notification_outbox`. -/
structure OutboxRow extends BillingNotificationRow where
  dedupeKey : String
  status : NotificationStatus
  nextAttemptAt : Timestamp
  createdAt : Timestamp
  updatedAt : Timestamp

abbrev OutboxTable := SerialTable fun row : OutboxRow => row.id

/-- The argument of `enqueueBillingNotification`. -/
structure NotificationInput where
  accountId : AccountId
  notificationType : String
  dedupeKey : String
  payload : Json

/-! ### Statements -/

/-- The oldest user of the account that is not disabled. -/
def recipient? (users : List NotifiedUser) (accountId : AccountId) : Option NotifiedUser :=
  (selectForUpdate NotifiedUser.id (fun user => user.accountId = accountId ∧ user.disabledAt = none)
    (fun user user' => user.createdAt ≤ user'.createdAt) 1 [] users).head?

namespace OutboxTable

variable (outbox : OutboxTable) (now : Timestamp)

/-- `ON CONFLICT (dedupe_key) DO NOTHING`. -/
def enqueueBillingNotification (users : List NotifiedUser) (input : NotificationInput) :
    OutboxTable :=
  match recipient? users input.accountId with
  | none => outbox
  | some user =>
    if input.dedupeKey ∈ outbox.rows.map (·.dedupeKey) then outbox
    else outbox.insert
      (fun id =>
        { id
          accountId := input.accountId
          notificationType := input.notificationType
          recipientEmail := user.email
          payload := input.payload
          attemptCount := 0
          dedupeKey := input.dedupeKey
          status := .pending
          nextAttemptAt := now
          createdAt := now
          updatedAt := now })
      fun _ => rfl

/-- The predicate of the claim. -/
def Claimable (now : Timestamp) (row : OutboxRow) : Prop :=
  (row.status = .pending ∨ row.status = .failed) ∧ row.nextAttemptAt ≤ now ∨
    row.status = .sending ∧ row.updatedAt < now - seconds 600

instance {now : Timestamp} : DecidablePred (Claimable now) := fun _ =>
  inferInstanceAs (Decidable (_ ∧ _ ∨ _ ∧ _))

/-- The row a claim takes, with the keys that other claims have locked. -/
def candidate? (locked : List Nat) : Option OutboxRow :=
  (selectForUpdate (fun row : OutboxRow => row.id) (Claimable now)
    (fun row row' => row.createdAt ≤ row'.createdAt) 1 locked outbox.rows).head?

def claimRow (row : OutboxRow) : OutboxRow :=
  { row with
    status := .sending
    attemptCount := row.attemptCount + 1
    updatedAt := now }

def claimBillingNotification (locked : List Nat) : OutboxTable × Option BillingNotificationRow :=
  match outbox.candidate? now locked with
  | none => (outbox, none)
  | some row =>
    (outbox.update row.id (claimRow now) fun _ => rfl,
      some (claimRow now row).toBillingNotificationRow)

def markBillingNotificationSent (id : Nat) : OutboxTable :=
  outbox.update id (fun row => { row with status := .sent, updatedAt := now }) fun _ => rfl

def markBillingNotificationFailed (id retrySeconds : Nat) : OutboxTable :=
  outbox.update id
    (fun row =>
      { row with status := .failed, nextAttemptAt := now + seconds retrySeconds, updatedAt := now })
    fun _ => rfl

end OutboxTable

def retrySeconds (attemptCount : Nat) : Nat := min 3600 (15 * 2 ^ min attemptCount 8)

/-! ### Workers -/

/-- A mail the provider has taken. -/
structure Mail where
  notificationId : Nat
  recipient : String
  message : BillingMessage
  deriving DecidableEq

/-- A worker between its claim and its last statement. -/
structure Delivery where
  notification : BillingNotificationRow
  claimedAt : Timestamp
  accepted : Bool

/-- The outbox, the workers that deliver from it and the mails the provider has taken. -/
structure MailSystem where
  now : Timestamp
  users : List NotifiedUser
  outbox : OutboxTable
  deliveries : List Delivery
  mails : List Mail

def MailSystem.empty (now : Timestamp) : MailSystem := ⟨now, [], ∅, [], []⟩

def mailOf (notification : BillingNotificationRow) : Mail where
  notificationId := notification.id
  recipient := notification.recipientEmail
  message := renderBillingNotification notification

/-- How a call of `deliverNextBillingNotification` ends. -/
inductive DeliveryOutcome where
  | empty
  | sent
  | failed
  deriving DecidableEq

inductive MailEvent where
  | tick (microseconds : Nat)
  | setUsers (users : List NotifiedUser)
  | enqueue (input : NotificationInput)
  | claim (locked : List Nat)
  /-- The provider takes the mail of the worker at this place. -/
  | accept (i : Nat)
  | markSent (i : Nat)
  /-- The mail is refused, or its answer or the write of `sent` is lost. -/
  | markFailed (i : Nat)
  /-- The worker dies. -/
  | lose (i : Nat)

namespace MailSystem

variable (s : MailSystem)

/-- `deliverNextBillingNotification` where nothing comes in between; the sender says whether it
takes the mail, and takes its time. -/
def deliverNextBillingNotification (sender : String → BillingMessage → Bool) (took : Nat) :
    MailSystem × DeliveryOutcome :=
  match s.outbox.claimBillingNotification s.now [] with
  | (_, none) => (s, .empty)
  | (outbox, some notification) =>
    let now : Timestamp := s.now + took
    if sender notification.recipientEmail (renderBillingNotification notification) then
      ({ s with
          now
          outbox := outbox.markBillingNotificationSent now notification.id
          mails := mailOf notification :: s.mails }, .sent)
    else
      ({ s with
          now
          outbox := outbox.markBillingNotificationFailed now notification.id
            (retrySeconds notification.attemptCount) }, .failed)

/-- An event with a place is possible where a worker is there, and `markSent` where the provider has
taken its mail. -/
def step : MailEvent → Option MailSystem
  | .tick microseconds => some { s with now := s.now + microseconds }
  | .setUsers users => some { s with users }
  | .enqueue input =>
    some { s with outbox := s.outbox.enqueueBillingNotification s.now s.users input }
  | .claim locked =>
    match s.outbox.claimBillingNotification s.now locked with
    | (_, none) => some s
    | (outbox, some notification) =>
      some { s with outbox, deliveries := s.deliveries ++ [⟨notification, s.now, false⟩] }
  | .accept i => do
    let delivery ← s.deliveries[i]?
    if delivery.accepted then none
    else some { s with
      deliveries := s.deliveries.set i { delivery with accepted := true }
      mails := mailOf delivery.notification :: s.mails }
  | .markSent i => do
    let delivery ← s.deliveries[i]?
    if delivery.accepted then
      some { s with
        outbox := s.outbox.markBillingNotificationSent s.now delivery.notification.id
        deliveries := s.deliveries.eraseIdx i }
    else none
  | .markFailed i => do
    let delivery ← s.deliveries[i]?
    some { s with
      outbox := s.outbox.markBillingNotificationFailed s.now delivery.notification.id
        (retrySeconds delivery.notification.attemptCount)
      deliveries := s.deliveries.eraseIdx i }
  | .lose i => do
    let _ ← s.deliveries[i]?
    some { s with deliveries := s.deliveries.eraseIdx i }

/-- How many mails of a notification the provider has taken. -/
def mailsOf (id : Nat) : Nat := s.mails.countP fun mail => mail.notificationId = id

end MailSystem

end Hyperspace.Notifications
