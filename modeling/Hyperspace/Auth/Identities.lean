import Hyperspace.Auth.EmailLogin
import Hyperspace.Foundations.Json

/-!
# Accounts and the ways to sign in

An account has one user. A password registration creates the user with a password and an identity
whose email is not verified yet; a code that was sent by email, or Google, signs a user in, creates
the user when there is none, and verifies the email. A password signs in once the email is verified.

Who has set a password, who has opened a session, and whether the owner of the email had signed in
by then, is noted in the rows; no statement reads it.
-/

namespace Hyperspace.Auth

open Hyperspace.Billing (Timestamp jsDate)
open Hyperspace.Foundations

/-- A row of `accounts`. -/
structure Account where
  id : Nat
  displayName : String

/-- A row of `users`. -/
structure User where
  id : Nat
  accountId : Nat
  email : String
  displayName : String
  avatarUrl : Option String
  disabledAt : Option Timestamp

/-- The identities that the logins write. -/
inductive Provider where
  | email
  | google
  deriving DecidableEq, Repr

/-- A row of `identities`. -/
structure Identity where
  accountId : Nat
  provider : Provider
  providerSubject : String
  email : Option String
  verifiedAt : Option Timestamp

def Identity.key (identity : Identity) : Provider × String :=
  (identity.provider, identity.providerSubject)

variable {π : Type}

/-- A row of `password_credentials`, with the principal that has set the password. -/
structure PasswordCredential (π : Type) where
  userId : Nat
  passwordHash : String
  setBy : π

/-- A row of `auth_sessions`, with the principal that has opened it. -/
structure AuthSession (π : Type) where
  id : Nat
  userId : Nat
  expiresAt : Timestamp
  revokedAt : Option Timestamp
  openedBy : π
  ownerKnown : Bool

/-- What `findActiveAuthSessionUserByTokenHash` asks of a session. -/
def AuthSession.Valid (session : AuthSession π) (now : Timestamp) : Prop :=
  now < session.expiresAt ∧ session.revokedAt = none

/-- `π` are the principals. -/
structure IdentityDb (π : Type) where
  accounts : SerialTable Account.id
  users : SerialTable User.id
  credentials : Table (PasswordCredential.userId (π := π))
  identities : Table Identity.key
  authSessions : SerialTable (AuthSession.id (π := π))
  /-- The emails whose owner has signed in with a code or with Google. -/
  signedIn : List String
  now : Timestamp

structure AuthConfig where
  toLowerCase : String → String
  scrypt : String → String → String
  emailLogin : EmailLoginConfig
  authSessionTtlSeconds : Nat

/-! ### Texts -/

def AuthConfig.normalizeEmail (config : AuthConfig) (value : String) : String :=
  config.toLowerCase (Json.trim value)

/-- The length of a text in JavaScript: some characters count twice. -/
def utf16Length (s : String) : Nat :=
  (s.toList.map fun c => if c.toNat < 0x10000 then 1 else 2).sum

/-- `/^[^\s@]+@[^\s@]+\.[^\s@]+$/`. -/
def isEmailPattern (value : String) : Bool :=
  value.toList.all (fun c => !Json.isWhiteSpace c) &&
    match value.toList.splitOn '@' with
    | [mailbox, domain] => mailbox ≠ [] && '.' ∈ (domain.drop 1).dropLast
    | _ => false

def isValidEmail (value : String) : Bool := utf16Length value ≤ 254 && isEmailPattern value

def AuthConfig.hashPassword (config : AuthConfig) (salt password : String) : String :=
  "scrypt:" ++ salt ++ ":" ++ config.scrypt password salt

def AuthConfig.verifyPassword (config : AuthConfig) (password encoded : String) : Bool :=
  match (encoded.toList.splitOn ':').map String.ofList with
  | [scheme, salt, stored] =>
    scheme = "scrypt" && salt ≠ "" && stored ≠ "" && config.scrypt password salt = stored
  | _ => false

/-! ### Profiles -/

/-- A profile as Google answers it; its email is trimmed and in lower case. -/
structure GoogleProfile where
  sub : String
  email : String
  emailVerified : Bool
  name : String
  picture : String

/-- The name of the profile takes the place of an email, and its picture that of an older one. -/
def User.syncGoogleProfile (user : User) (profile : GoogleProfile) : User :=
  { user with
    displayName :=
      if user.displayName = user.email ∧ profile.name ≠ "" then profile.name else user.displayName
    avatarUrl := if profile.picture ≠ "" then some profile.picture else user.avatarUrl }

/-! ### Statements -/

namespace IdentityDb

variable (db : IdentityDb π)

def findPublicUserByEmail (email : String) : Option User :=
  db.users.rows.find? fun user => user.email = email ∧ user.disabledAt = none

/-- The rows are in the order they were created in. -/
def findPublicUserByIdentity (provider : Provider) (providerSubject : String) : Option User :=
  match db.identities.find? (provider, providerSubject) with
  | some identity =>
    db.users.rows.find? fun user => user.accountId = identity.accountId ∧ user.disabledAt = none
  | none => none

def isAccountEmailVerified (accountId : Nat) (email : String) : Bool :=
  match db.identities.find? (.email, email) with
  | some identity => identity.accountId = accountId && identity.verifiedAt.isSome
  | none => false

def hasPasswordCredential (userId : Nat) : Bool := db.credentials.HasKey userId

/-- A new account and its user; `none` when the email is taken. -/
def insertUserWithoutPassword (email displayName : String) : Option (IdentityDb π × User) :=
  if ∀ user ∈ db.users.rows, user.email ≠ email then
    let accounts := db.accounts.insert (fun id => ⟨id, displayName⟩) fun _ => rfl
    let make := fun id => User.mk id db.accounts.next email displayName none none
    some ({ db with accounts := accounts, users := db.users.insert make fun _ => rfl },
      make db.users.next)
  else none

/-- `none` when the identity is linked to another account. -/
def upsertIdentity (accountId : Nat) (provider : Provider) (providerSubject email : String)
    (verifiedAt : Option Timestamp) : Option (IdentityDb π) :=
  match db.identities.find? (provider, providerSubject) with
  | some identity =>
    if identity.accountId = accountId then
      some { db with
        identities := db.identities.upsert
          { identity with email := some email, verifiedAt := verifiedAt <|> identity.verifiedAt } }
    else none
  | none =>
    some { db with
      identities := db.identities.upsert
        ⟨accountId, provider, providerSubject, some email, verifiedAt⟩ }

def insertRegisteredUser (principal : π) (email displayName passwordHash : String) :
    Option (IdentityDb π × User) := do
  let (db, user) ← db.insertUserWithoutPassword email displayName
  let credentials ← db.credentials.insert ⟨user.id, passwordHash, principal⟩
  let db ← { db with credentials := credentials }.upsertIdentity user.accountId .email user.email
    user.email none
  return (db, user)

/-- What `findPasswordCredentialByEmail` returns. -/
structure PasswordCredentialRow where
  user : User
  passwordHash : String
  emailVerified : Bool

def findPasswordCredentialByEmail (email : String) : Option PasswordCredentialRow := do
  let user ← db.findPublicUserByEmail email
  let credential ← db.credentials.find? user.id
  return ⟨user, credential.passwordHash, db.isAccountEmailVerified user.accountId user.email⟩

def createAuthSession (config : AuthConfig) (principal : π) (user : User) : IdentityDb π :=
  { db with
    authSessions := db.authSessions.insert
      (fun id => ⟨id, user.id, jsDate db.now + config.authSessionTtlSeconds * 1000000, none,
        principal, user.email ∈ db.signedIn⟩)
      fun _ => rfl }

/-- The password goes, and so do the sessions. -/
def securelyClaimUnverifiedPasswordAccount (user : User) : IdentityDb π :=
  { db with
    credentials := db.credentials.filter fun credential => credential.userId ≠ user.id
    authSessions := db.authSessions.modify
      (fun session =>
        if session.userId = user.id ∧ session.revokedAt = none then
          { session with revokedAt := some db.now }
        else session)
      fun session => by split <;> rfl }

/-! ### Registration and the password -/

/-- What the registration answers. -/
inductive RegisterUserResult where
  | pending (email : String)
  | invalidEmail
  | weakPassword
  | emailAlreadyRegistered
  deriving DecidableEq, Repr

/-- `registerUser`; `none` when it throws. -/
def registerUser (config : AuthConfig) (principal : π) (email password salt : String)
    (displayName : Option String) : Option (IdentityDb π × RegisterUserResult) :=
  let email := config.normalizeEmail email
  if email = "" ∨ '@' ∉ email.toList then some (db, .invalidEmail)
  else if utf16Length password < 12 then some (db, .weakPassword)
  else if (db.findPublicUserByEmail email).isSome then some (db, .emailAlreadyRegistered)
  else
    let displayName := match displayName.map Json.trim with
      | some "" | none => email
      | some name => name
    (db.insertRegisteredUser principal email displayName (config.hashPassword salt password)).map
      fun result => (result.1, .pending result.2.email)

/-- What the login by password answers. -/
inductive LoginUserResult where
  | session (user : Nat)
  | credentialsRequired
  | invalidCredentials
  | emailNotVerified
  deriving DecidableEq, Repr

def loginUser (config : AuthConfig) (principal : π) (email password : String) :
    IdentityDb π × LoginUserResult :=
  let email := config.normalizeEmail email
  if email = "" ∨ password = "" then (db, .credentialsRequired)
  else
    match db.findPasswordCredentialByEmail email with
    | none => (db, .invalidCredentials)
    | some row =>
      if config.verifyPassword password row.passwordHash = false then (db, .invalidCredentials)
      else if row.emailVerified = false then (db, .emailNotVerified)
      else (db.createAuthSession config principal row.user, .session row.user.id)

/-! ### Codes and Google -/

def noteSignedIn (email : String) : IdentityDb π := { db with signedIn := email :: db.signedIn }

def findOrCreateEmailUser (email : String) : Option (IdentityDb π × User) :=
  match db.findPublicUserByEmail email with
  | some user => some (db, user)
  | none => db.insertUserWithoutPassword email email

/-- What `verifyEmailLoginCode` does after the code has been found right. -/
def signInWithEmail (config : AuthConfig) (principal : π) (email : String) :
    Option (IdentityDb π) := do
  let (db, user) ← db.findOrCreateEmailUser email
  let db ← db.upsertIdentity user.accountId .email email email (some (jsDate db.now))
  return (db.noteSignedIn email).createAuthSession config principal user

/-- How a Google profile came to its account. -/
inductive GoogleIdentityLinkMode where
  | existingGoogleIdentity
  | newAccount
  | verifiedEmailAccount
  | unverifiedPasswordlessAccount
  | claimUnverifiedPasswordAccount
  deriving DecidableEq, Repr

def decideGoogleIdentityLink (providerIdentityExists emailAccountExists emailVerified
    passwordConfigured : Bool) : GoogleIdentityLinkMode :=
  if providerIdentityExists then .existingGoogleIdentity
  else if !emailAccountExists then .newAccount
  else if emailVerified then .verifiedEmailAccount
  else if passwordConfigured then .claimUnverifiedPasswordAccount
  else .unverifiedPasswordlessAccount

def resolveGoogleUser (profile : GoogleProfile) : Option (IdentityDb π × User) :=
  match db.findPublicUserByIdentity .google profile.sub with
  | some user => some (db, user)
  | none =>
    match db.findPublicUserByEmail profile.email with
    | none =>
      db.insertUserWithoutPassword profile.email
        (if profile.name = "" then profile.email else profile.name)
    | some user =>
      let mode := decideGoogleIdentityLink false true
        (db.isAccountEmailVerified user.accountId profile.email) (db.hasPasswordCredential user.id)
      if mode = .claimUnverifiedPasswordAccount then
        some (db.securelyClaimUnverifiedPasswordAccount user, user)
      else some (db, user)

def syncGoogleUserProfile (user : User) (profile : GoogleProfile) : IdentityDb π :=
  { db with
    users := db.users.update user.id (fun user => User.syncGoogleProfile user profile)
      fun _ => rfl }

/-- The email of the profile is verified when it is the user's. -/
def upsertProfileEmail (user : User) (profile : GoogleProfile) : Option (IdentityDb π) :=
  if user.email = profile.email then
    db.upsertIdentity user.accountId .email profile.email profile.email (some (jsDate db.now))
  else some db

/-- The second transaction of `completeGoogleOAuth`. -/
def signInWithGoogle (config : AuthConfig) (principal : π) (profile : GoogleProfile) :
    Option (IdentityDb π) := do
  let (db, user) ← db.resolveGoogleUser profile
  let db := db.syncGoogleUserProfile user profile
  let db ← db.upsertIdentity user.accountId .google profile.sub profile.email
    (some (jsDate db.now))
  let db ← db.upsertProfileEmail user profile
  return (db.noteSignedIn profile.email).createAuthSession config principal user

/-- What comes of the state and the code that Google has sent back. -/
inductive GoogleCallback where
  | stateInvalid
  | stateExpired
  | exchangeFailed
  | profile (profile : GoogleProfile)

/-- How the callback of Google ends. -/
inductive GoogleOAuthResult where
  | auth
  | stateInvalid
  | stateExpired
  | exchangeFailed
  | emailNotVerified
  deriving DecidableEq, Repr

/-- `completeGoogleOAuth`; `none` when it throws. -/
def completeGoogleOAuth (config : AuthConfig) (principal : π) :
    GoogleCallback → Option (IdentityDb π × GoogleOAuthResult)
  | .stateInvalid => some (db, .stateInvalid)
  | .stateExpired => some (db, .stateExpired)
  | .exchangeFailed => some (db, .exchangeFailed)
  | .profile profile =>
    if profile.sub = "" ∨ profile.email = "" then some (db, .exchangeFailed)
    else if profile.emailVerified then
      (db.signInWithGoogle config principal profile).map fun db => (db, .auth)
    else some (db, .emailNotVerified)

end IdentityDb

/-! ### Sequences of calls -/

/-- The codes that have been sent, and the accounts. -/
structure AuthSystem (π : Type) where
  logins : LoginDb
  db : IdentityDb π

/-- The calls of the principals. The codes are sent, retried and consumed in between in any way. -/
inductive AuthCall (π : Type) where
  | codes (logins : LoginDb)
  | registerUser (principal : π) (email password salt : String) (displayName : Option String)
  | loginUser (principal : π) (email password : String)
  | verifyEmailLoginCode (principal : π) (email code : String)
  | completeGoogleOAuth (principal : π) (callback : IdentityDb.GoogleCallback)

structure AuthEvent (π : Type) where
  now : Timestamp
  call : AuthCall π

namespace AuthSystem

def empty : AuthSystem π := ⟨⟨∅, [], 0⟩, ⟨∅, ∅, ∅, ∅, ∅, [], 0⟩⟩

variable (config : AuthConfig) (s : AuthSystem π)

/-- `verifyEmailLoginCode`, from the check of its input on; `none` when it throws. -/
def verifyEmailLoginCode (principal : π) (email code : String) :
    Option (AuthSystem π × LoginDb.VerifyEmailLoginCodeResult) :=
  let email := config.normalizeEmail email
  let code := Json.trim code
  if isValidEmail email && isOtp code then
    let signedIn := s.db.signInWithEmail config principal email
    match s.logins.verifyEmailLoginCode config.emailLogin email code signedIn.isSome with
    | none => none
    | some (logins, result) =>
      if result = .session then some (⟨logins, signedIn.getD s.db⟩, .session)
      else some (⟨logins, s.db⟩, result)
  else some (s, .invalidCode)

/-- The code is right, and the principal is signed in. -/
def AcceptsCode (principal : π) (email code : String) : Prop :=
  (s.verifyEmailLoginCode config principal email code).map Prod.snd = some .session

def atTime (now : Timestamp) : AuthSystem π :=
  ⟨{ s.logins with now := now }, { s.db with now := now }⟩

/-- A call that throws leaves everything as it was. -/
def perform : AuthCall π → AuthSystem π
  | .codes logins => ⟨logins, s.db⟩
  | .registerUser principal email password salt displayName =>
    match s.db.registerUser config principal email password salt displayName with
    | some (db, _) => ⟨s.logins, db⟩
    | none => s
  | .loginUser principal email password =>
    ⟨s.logins, (s.db.loginUser config principal email password).1⟩
  | .verifyEmailLoginCode principal email code =>
    match s.verifyEmailLoginCode config principal email code with
    | some (s, _) => s
    | none => s
  | .completeGoogleOAuth principal callback =>
    match s.db.completeGoogleOAuth config principal callback with
    | some (db, _) => ⟨s.logins, db⟩
    | none => s

def step (s : AuthSystem π) (e : AuthEvent π) : Option (AuthSystem π) :=
  some ((s.atTime e.now).perform config e.call)

/-! ### Who owns an email -/

variable (owner : String → π)

/-- Only the owner of an email has its valid code, or a profile of Google with the email. -/
def Owned (s : AuthSystem π) (e : AuthEvent π) : Prop :=
  match e.call with
  | .verifyEmailLoginCode principal email code =>
    (s.atTime e.now).AcceptsCode config principal email code →
      principal = owner (config.normalizeEmail email)
  | .completeGoogleOAuth principal (.profile profile) =>
    profile.emailVerified = true → principal = owner profile.email
  | .completeGoogleOAuth _ _ | .codes _ | .registerUser .. | .loginUser .. => True

/-- A right code does not verify the email of an account whose password another principal has
set. -/
def VerifiesNoForeignPassword (s : AuthSystem π) (e : AuthEvent π) : Prop :=
  match e.call with
  | .verifyEmailLoginCode principal email code =>
    (s.atTime e.now).AcceptsCode config principal email code →
    ∀ user ∈ s.db.findPublicUserByEmail (config.normalizeEmail email),
      s.db.isAccountEmailVerified user.accountId user.email = false →
      ∀ credential ∈ s.db.credentials.rows, credential.userId = user.id →
        credential.setBy = owner user.email
  | .codes _ | .registerUser .. | .loginUser .. | .completeGoogleOAuth .. => True

/-- Once the owner of an email has signed in with a code or with Google, no password that another
principal has set logs in to the account with the email, and no session is valid that another
principal has opened before. -/
def NotPreHijacked : Prop :=
  ∀ user ∈ s.db.users.rows, user.email ∈ s.db.signedIn →
    (∀ principal email password, config.normalizeEmail email = user.email →
      (s.db.loginUser config principal email password).2 = .session user.id →
      ∃ credential ∈ s.db.credentials.rows, credential.userId = user.id ∧
        credential.setBy = owner user.email) ∧
    ∀ session ∈ s.db.authSessions.rows, session.userId = user.id → session.ownerKnown = false →
      session.openedBy ≠ owner user.email → ∀ now, ¬ session.Valid now

end AuthSystem

end Hyperspace.Auth
