import Hyperspace.Billing.Schema
import Hyperspace.Foundations.Queries
import Hyperspace.Foundations.Tables

/-!
# Login with a code that is sent by email

A request writes a challenge and then sends its code outside of any transaction; the sending ends at
any later time, or not at all. The transactions of an address take an advisory lock first, so they
run one after another. An address is normalized and valid, and a code is trimmed; what is refused
before the first query changes nothing.
-/

namespace Hyperspace.Auth

open Hyperspace.Billing (Timestamp jsDate dateParse)
open Hyperspace.Foundations

abbrev ChallengeId := Nat

/-- A row of `email_login_challenges`. -/
structure EmailLoginChallenge where
  id : ChallengeId
  email : String
  codeHash : String
  attemptCount : Nat
  createdAt : Timestamp
  expiresAt : Timestamp
  consumedAt : Option Timestamp

/-- The challenges, and those whose code is being sent. -/
structure LoginDb where
  challenges : SerialTable EmailLoginChallenge.id
  sending : List ChallengeId
  now : Timestamp

/-- How a login is set up: `hashEmailOtp` with its secret, and how long a code is good for. -/
structure EmailLoginConfig where
  hashEmailOtp : String → String → String
  codeTtlSeconds : Nat

def EmailLoginConfig.lifetime (config : EmailLoginConfig) : Timestamp :=
  config.codeTtlSeconds * 1000000

/-- Six digits. -/
def isOtp (code : String) : Bool := code.length = 6 && code.toList.all Char.isDigit

/-- The order of `ORDER BY created_at DESC`. -/
def EmailLoginChallenge.CreatedAfter (c c' : EmailLoginChallenge) : Prop :=
  c'.createdAt ≤ c.createdAt

instance : DecidableRel EmailLoginChallenge.CreatedAfter := fun c c' =>
  inferInstanceAs (Decidable (c'.createdAt ≤ c.createdAt))

namespace LoginDb

variable (db : LoginDb)

/-! ### Statements -/

def insertEmailLoginChallenge (email codeHash : String) (attemptCount : Nat)
    (expiresAt : Timestamp) : LoginDb :=
  { db with
    challenges := db.challenges.insert
      (fun id => ⟨id, email, codeHash, attemptCount, db.now, expiresAt, none⟩) fun _ => rfl
    sending := db.challenges.next :: db.sending }

def findLatestEmailLoginChallengeForUpdate (email : String) : Option EmailLoginChallenge :=
  (selectForUpdate EmailLoginChallenge.id (fun c => c.email = email ∧ c.consumedAt = none)
    EmailLoginChallenge.CreatedAfter 1 [] db.challenges.rows).head?

def consumeEmailLoginChallenge (id : ChallengeId) : LoginDb :=
  { db with
    challenges := db.challenges.update id (fun c => { c with consumedAt := some db.now })
      fun _ => rfl }

def incrementEmailLoginChallengeAttempts (id : ChallengeId) : LoginDb :=
  { db with
    challenges := db.challenges.update id (fun c => { c with attemptCount := c.attemptCount + 1 })
      fun _ => rfl }

/-- The attempts of a challenge whose code was not delivered are counted on the one before. -/
def raiseEmailLoginChallengeAttempts (id : ChallengeId) (attempts : Nat) : LoginDb :=
  { db with
    challenges := db.challenges.update id
      (fun c => { c with attemptCount := max c.attemptCount attempts }) fun _ => rfl }

/-- The other codes of the last 30 minutes are consumed with the one that was right. -/
def consumeOpenEmailLoginChallenges (email : String) : LoginDb :=
  { db with
    challenges := db.challenges.modify
      (fun c =>
        if c.email = email ∧ c.consumedAt = none ∧ db.now - 1800 * 1000000 ≤ c.createdAt ∧
            db.now < c.expiresAt then
          { c with consumedAt := some db.now }
        else c)
      fun c => by split <;> rfl }

/-! ### Requests -/

/-- The latest challenge, when the second in which it expires has not begun. -/
def activeChallenge? (email : String) : Option EmailLoginChallenge :=
  (db.findLatestEmailLoginChallengeForUpdate email).filter fun c =>
    jsDate db.now < dateParse c.expiresAt

/-- The attempts and the expiry of the challenge that a request writes; `none` after too many
attempts. -/
def nextChallenge? (config : EmailLoginConfig) (email : String) : Option (Nat × Timestamp) :=
  match db.activeChallenge? email with
  | some active =>
    if 5 ≤ active.attemptCount then none else some (active.attemptCount, active.expiresAt)
  | none => some (0, jsDate db.now + config.lifetime)

/-- `requestEmailLoginCode` up to the sending. -/
def requestEmailLoginCode (config : EmailLoginConfig) (email code : String) : LoginDb :=
  match db.nextChallenge? config email with
  | some (attemptCount, expiresAt) =>
    db.insertEmailLoginChallenge email (config.hashEmailOtp email code) attemptCount expiresAt
  | none => db

/-- The code is sent, and the challenge is marked so. -/
def finishSending (id : ChallengeId) : LoginDb :=
  { db with sending := db.sending.erase id }

/-- The `catch` of `requestEmailLoginCode`: the challenge is consumed, whether its code has arrived
or not, and its attempts are handed back. -/
def failSending (id : ChallengeId) : LoginDb :=
  if id ∈ db.sending then
    let settled := db.finishSending id
    match settled.challenges.find? id with
    | some challenge =>
      let consumed := settled.consumeEmailLoginChallenge id
      match consumed.findLatestEmailLoginChallengeForUpdate challenge.email with
      | some previous =>
        if previous.attemptCount < challenge.attemptCount then
          consumed.raiseEmailLoginChallengeAttempts previous.id challenge.attemptCount
        else consumed
      | none => consumed
    | none => settled
  else db

/-! ### Verifications -/

/-- How a login by code ends. -/
inductive VerifyEmailLoginCodeResult where
  | session
  | invalidCode
  | codeExpired
  | tooManyAttempts
  deriving DecidableEq, Repr

/-- `verifyEmailLoginCode`. After the code has been found right, the user, the identity and the
session are written; where this throws, `signsIn` is false, and everything is rolled back. -/
def verifyEmailLoginCode (config : EmailLoginConfig) (email code : String) (signsIn : Bool) :
    Option (LoginDb × VerifyEmailLoginCodeResult) :=
  if isOtp code then
    match db.findLatestEmailLoginChallengeForUpdate email with
    | none => some (db, .invalidCode)
    | some challenge =>
      if 5 ≤ challenge.attemptCount then some (db, .tooManyAttempts)
      else if dateParse challenge.expiresAt ≤ jsDate db.now then some (db, .codeExpired)
      else if config.hashEmailOtp email code ≠ challenge.codeHash then
        some (db.incrementEmailLoginChallengeAttempts challenge.id, .invalidCode)
      else if signsIn then
        some ((db.consumeEmailLoginChallenge challenge.id).consumeOpenEmailLoginChallenges email,
          .session)
      else none
  else some (db, .invalidCode)

/-- The challenge with whose hash a code is compared. -/
def comparedChallenge? (email code : String) : Option EmailLoginChallenge :=
  if isOtp code then
    (db.findLatestEmailLoginChallengeForUpdate email).filter fun c =>
      c.attemptCount < 5 ∧ jsDate db.now < dateParse c.expiresAt
  else none

end LoginDb

/-! ### Runs -/

/-- What happens to an address. -/
inductive LoginRecord where
  | issued (email : String) (issuedAt expiresAt : Timestamp)
  | rejected (email : String) (rejectedAt expiresAt : Timestamp)
  | succeeded (email : String)
  deriving DecidableEq, Repr

/-- What a caller does; the delivery of a code ends in a transaction of its own. -/
inductive LoginAction where
  | request (email code : String)
  | finishSending (id : ChallengeId)
  | failSending (id : ChallengeId)
  | verify (email code : String) (signsIn : Bool)

structure LoginEvent where
  now : Timestamp
  action : LoginAction

namespace LoginDb

def perform (config : EmailLoginConfig) (db : LoginDb) : LoginAction → LoginDb
  | .request email code => db.requestEmailLoginCode config email code
  | .finishSending id => db.finishSending id
  | .failSending id => db.failSending id
  | .verify email code signsIn =>
    ((db.verifyEmailLoginCode config email code signsIn).map Prod.fst).getD db

/-- What is noted of an action. -/
def record? (config : EmailLoginConfig) (db : LoginDb) : LoginAction → Option LoginRecord
  | .request email _ =>
    (db.nextChallenge? config email).map fun next => .issued email (jsDate db.now) next.2
  | .finishSending _ | .failSending _ => none
  | .verify email code signsIn =>
    match db.comparedChallenge? email code with
    | some challenge =>
      if config.hashEmailOtp email code ≠ challenge.codeHash then
        some (.rejected email (jsDate db.now) challenge.expiresAt)
      else if signsIn then some (.succeeded email)
      else none
    | none => none

end LoginDb

/-- The database, and what has been noted, the latest first. -/
structure LoginSystem where
  db : LoginDb
  log : List LoginRecord

namespace LoginSystem

def empty : LoginSystem := ⟨⟨∅, [], 0⟩, []⟩

/-- Transactions run one after another, each at a later time than the ones before. -/
def step (config : EmailLoginConfig) (s : LoginSystem) (e : LoginEvent) : Option LoginSystem :=
  if s.db.now < e.now then
    let db := { s.db with now := e.now }
    some ⟨db.perform config e.action, (db.record? config e.action).toList ++ s.log⟩
  else none

end LoginSystem

end Hyperspace.Auth
