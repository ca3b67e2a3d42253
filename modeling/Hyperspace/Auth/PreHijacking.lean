import Hyperspace.Auth.SoundAccounts

/-!
# No account is taken before its owner comes

An account whose email is verified has been signed in to by the owner of the email, and from then on
sessions are the owner's business. What is left is the password: Google removes one whose account is
not verified, a code does not.
-/

namespace Hyperspace.Auth

open Hyperspace.Billing (Timestamp jsDate)
open Hyperspace.Foundations

variable {π : Type} {config : AuthConfig} {owner : String → π} {principal : π}

namespace IdentityDb

variable {db db' : IdentityDb π} {user : User} {accountId : Nat} {email : String}
  {provider : Provider} {subject : String} {verifiedAt : Option Timestamp}

/-! ## The calls -/

/-- What every call keeps. -/
structure Guarded (owner : String → π) (db : IdentityDb π) : Prop where
  sound : Sound owner db
  google : GoogleVerified db

theorem Guarded.createAuthSession (h : Guarded owner db) (hUser : db.HasUser user)
    (hBy : principal = owner user.email ∨ user.email ∈ db.signedIn) :
    Guarded owner (db.createAuthSession config principal user) :=
  ⟨h.sound.createAuthSession hUser hBy, h.google⟩

/-- The owner of the user's email has come, and the password is no other principal's. -/
def Claimed (owner : String → π) (db : IdentityDb π) (user : User) : Prop :=
  user.email ∈ db.signedIn ∧ ∀ credential ∈ db.credentials.rows, credential.userId = user.id →
    credential.setBy = owner user.email

theorem HasUser.eq_of_accountId (hSound : Sound owner db) (hUser : db.HasUser user) {other : User}
    (hOther : other ∈ db.users.rows) (hAccount : other.accountId = user.accountId) :
    other.id = user.id ∧ other.email = user.email := by
  obtain ⟨found, hFound, hId, hFoundAccount, hEmail⟩ := hUser
  rw [hSound.account_unique other hOther found hFound (hAccount.trans hFoundAccount.symm)]
  exact ⟨hId, hEmail⟩

/-- An identity of a user that is claimed, or of another provider, or one that is not verified. -/
theorem Sound.upsertFor (h : Sound owner db) (hLinked : Linked db row verifiedAt)
    (hUser : db.HasUser user) (hAccount : row.accountId = user.accountId)
    (hEmail : row.provider = .email → verifiedAt.isSome → Claimed owner db user) :
    Sound owner { db with identities := db.identities.upsert row } := by
  apply h.upsert hLinked
  · obtain ⟨found, hFound, -, hFoundAccount, -⟩ := hUser
    rw [hAccount, ← hFoundAccount]
    exact h.user_accountId found hFound
  · intro other hOther hKey hOf hSome
    obtain ⟨hId, hSame⟩ := hUser.eq_of_accountId h hOther (hOf.symm.trans hAccount)
    rw [hSame, hId]
    exact hEmail (congrArg Prod.fst hKey) hSome

theorem Guarded.upsert (h : Guarded owner db) (hLinked : Linked db row verifiedAt)
    (hUser : db.HasUser user) (hAccount : row.accountId = user.accountId)
    (hGoogle : row.provider = .google → db.Verified user.accountId user.email)
    (hEmail : row.provider = .email → verifiedAt.isSome → Claimed owner db user) :
    Guarded owner { db with identities := db.identities.upsert row } := by
  refine ⟨h.sound.upsertFor hLinked hUser hAccount hEmail, h.google.upsert hLinked ?_⟩
  intro hProvider other hOther hOf
  obtain ⟨-, hSame⟩ := hUser.eq_of_accountId h.sound hOther (hOf.trans hAccount)
  rw [hSame, hOf, hAccount]
  exact hGoogle hProvider

/-! ### Registration and the password -/

theorem Created.credentials_other {user : User} (h : Created db db' user email)
    (hSound : Sound owner db) :
    ∀ credential ∈ db'.credentials.rows, credential.userId ≠ user.id := by
  intro credential hMem hId
  rw [h.credentials] at hMem
  have := hSound.credential_userId credential hMem
  have := h.id_eq
  omega

theorem Created.hasUser (h : Created db db' user email) : db'.HasUser user :=
  .of_mem ((h.users user).2 (.inr rfl))

/-- The password of a new account is another one's business: the account is not verified. -/
theorem guarded_registerUser {password salt : String} {displayName : Option String}
    {result : RegisterUserResult} (h : Guarded owner db)
    (hCall : db.registerUser config principal email password salt displayName
      = some (db', result)) : Guarded owner db' := by
  unfold registerUser at hCall
  simp only at hCall
  split at hCall
  · cases hCall
    exact h
  split at hCall
  · cases hCall
    exact h
  split at hCall
  · cases hCall
    exact h
  obtain ⟨⟨registered, user⟩, hInsert, hResult⟩ := Option.map_eq_some_iff.1 hCall
  cases hResult
  unfold insertRegisteredUser at hInsert
  obtain ⟨⟨created, user'⟩, hCreated, hInsert⟩ := Option.bind_eq_some_iff.1 hInsert
  obtain ⟨credentials, hCredentials, hInsert⟩ := Option.bind_eq_some_iff.1 hInsert
  obtain ⟨linked, hLinked, hInsert⟩ := Option.bind_eq_some_iff.1 hInsert
  cases hInsert
  have hSpec := insertUserWithoutPassword_spec hCreated
  have hSound := hSpec.sound h.sound
  have hNext : Guarded owner { created with credentials := credentials } := by
    constructor
    · refine ⟨hSound.user_accountId, hSound.account_unique, hSound.email_unique,
        hSound.identity_accountId, ?_, hSound.session_userId, ?_, hSound.signedIn, hSound.session⟩
      · intro credential hMem
        rcases (Table.mem_insert hCredentials).1 hMem with hMem | rfl
        · exact hSound.credential_userId credential hMem
        · obtain ⟨found, hFound, hId, -⟩ := hSpec.hasUser
          have hLess : found.id < created.users.next := created.users.fresh found hFound
          rwa [hId] at hLess
      · intro other hOther hVerified credential hMem hId
        rcases (Table.mem_insert hCredentials).1 hMem with hMem | rfl
        · exact hSound.password other hOther hVerified credential hMem hId
        · have hRow := SerialTable.row_unique hOther ((hSpec.users user).2 (.inr rfl)) hId.symm
          rw [hRow] at hVerified
          exact absurd hVerified (hSpec.not_verified h.sound)
    · exact hSpec.googleVerified h.sound h.google
  obtain ⟨row, rfl, hKey, hAccount, hRow⟩ := upsertIdentity_spec hLinked
  refine hNext.upsert hRow hSpec.hasUser hAccount ?_ ?_
  · intro hProvider
    have := (congrArg Prod.fst hKey).symm.trans hProvider
    cases this
  · intro _ hSome
    cases hSome

theorem guarded_loginUser {password : String} (h : Guarded owner db) :
    Guarded owner (db.loginUser config principal email password).1 := by
  unfold loginUser
  simp only
  split
  · exact h
  split
  · exact h
  rename_i row hRow
  split
  · exact h
  split
  · exact h
  rename_i hVerified
  unfold findPasswordCredentialByEmail at hRow
  obtain ⟨user, hUser, hRow⟩ := Option.bind_eq_some_iff.1 hRow
  obtain ⟨credential, -, hRow⟩ := Option.bind_eq_some_iff.1 hRow
  cases hRow
  have hMem := (mem_of_findPublicUserByEmail hUser).1
  apply h.createAuthSession (.of_mem hMem)
  right
  apply h.sound.signedIn user hMem
  apply isAccountEmailVerified_iff.1
  simpa using hVerified

/-! ### Codes and Google -/

theorem Guarded.noteSignedIn (h : Guarded owner db) (email : String) :
    Guarded owner (db.noteSignedIn email) := ⟨h.sound.noteSignedIn email, h.google⟩

theorem findOrCreateEmailUser_spec (h : Guarded owner db)
    (hPassword : ∀ user ∈ db.findPublicUserByEmail email,
      db.isAccountEmailVerified user.accountId user.email = false →
      ∀ credential ∈ db.credentials.rows, credential.userId = user.id →
        credential.setBy = owner user.email)
    (hFind : db.findOrCreateEmailUser email = some (db', user)) :
    Guarded owner db' ∧ db'.HasUser user ∧ user.email = email ∧
      ∀ credential ∈ db'.credentials.rows, credential.userId = user.id →
        credential.setBy = owner user.email := by
  unfold findOrCreateEmailUser at hFind
  split at hFind
  · rename_i found hFound
    cases hFind
    obtain ⟨hMem, hEmail⟩ := mem_of_findPublicUserByEmail hFound
    refine ⟨h, .of_mem hMem, hEmail, ?_⟩
    cases hVerified : db.isAccountEmailVerified user.accountId user.email with
    | true => exact h.sound.password user hMem (isAccountEmailVerified_iff.1 hVerified)
    | false => exact hPassword user hFound hVerified
  · have hCreated := insertUserWithoutPassword_spec hFind
    refine ⟨⟨hCreated.sound h.sound, hCreated.googleVerified h.sound h.google⟩, hCreated.hasUser,
      hCreated.email_eq, ?_⟩
    intro credential hMem hId
    exact absurd hId (hCreated.credentials_other h.sound credential hMem)

/-- A right code of the owner verifies the email; the password is the owner's by assumption. -/
theorem guarded_signInWithEmail (h : Guarded owner db)
    (hPassword : ∀ user ∈ db.findPublicUserByEmail email,
      db.isAccountEmailVerified user.accountId user.email = false →
      ∀ credential ∈ db.credentials.rows, credential.userId = user.id →
        credential.setBy = owner user.email)
    (hOwner : principal = owner email)
    (hCall : db.signInWithEmail config principal email = some db') : Guarded owner db' := by
  unfold signInWithEmail at hCall
  obtain ⟨⟨found, user⟩, hFind, hCall⟩ := Option.bind_eq_some_iff.1 hCall
  obtain ⟨linked, hUpsert, hCall⟩ := Option.bind_eq_some_iff.1 hCall
  cases hCall
  obtain ⟨hFound, hUser, hEmail, hCredentials⟩ := findOrCreateEmailUser_spec h hPassword hFind
  obtain ⟨row, rfl, hKey, hAccount, hLinked⟩ := upsertIdentity_spec hUpsert
  have hLink : Guarded owner
      { found.noteSignedIn email with identities := found.identities.upsert row } := by
    apply (hFound.noteSignedIn email).upsert (hLinked.noteSignedIn email) hUser hAccount
    · intro hProvider
      have := (congrArg Prod.fst hKey).symm.trans hProvider
      cases this
    · intro _ _
      refine ⟨?_, hCredentials⟩
      rw [hEmail]
      exact List.mem_cons_self
  apply hLink.createAuthSession hUser
  left
  rw [hOwner, hEmail]

/-- The user of a Google profile: its email is the user's or was verified before, and a password
that stays is the owner's. -/
theorem resolveGoogleUser_spec {profile : GoogleProfile} (h : Guarded owner db)
    (hResolve : db.resolveGoogleUser profile = some (db', user)) :
    Guarded owner db' ∧ db'.HasUser user ∧
      (user.email = profile.email ∨ db'.Verified user.accountId user.email) ∧
      ∀ credential ∈ db'.credentials.rows, credential.userId = user.id →
        credential.setBy = owner user.email := by
  unfold resolveGoogleUser at hResolve
  split at hResolve
  · rename_i found hFound
    cases hResolve
    obtain ⟨hMem, identity, hIdentity, hKey, hAccount⟩ :=
      exists_identity_of_findPublicUserByIdentity hFound
    have hVerified := h.google identity hIdentity (congrArg Prod.fst hKey) user hMem hAccount
    exact ⟨h, .of_mem hMem, .inr hVerified, h.sound.password user hMem hVerified⟩
  split at hResolve
  · have hCreated := insertUserWithoutPassword_spec hResolve
    refine ⟨⟨hCreated.sound h.sound, hCreated.googleVerified h.sound h.google⟩, hCreated.hasUser,
      .inl hCreated.email_eq, ?_⟩
    intro credential hMem hId
    exact absurd hId (hCreated.credentials_other h.sound credential hMem)
  rename_i found hFound
  obtain ⟨hMem, hEmail⟩ := mem_of_findPublicUserByEmail hFound
  simp only at hResolve
  split at hResolve
  · cases hResolve
    refine ⟨⟨h.sound.securelyClaim, h.google⟩, .of_mem hMem, .inl hEmail, ?_⟩
    intro credential hCredential hId
    have hKept := (Table.mem_filter.1 hCredential).2
    simp [hId] at hKept
  · rename_i hMode
    cases hResolve
    refine ⟨h, .of_mem hMem, .inl hEmail, ?_⟩
    rw [← hEmail] at hMode
    cases hVerified : db.isAccountEmailVerified user.accountId user.email with
    | true => exact h.sound.password user hMem (isAccountEmailVerified_iff.1 hVerified)
    | false =>
        intro credential hCredential hId
        exfalso
        apply hMode
        have hHas : db.hasPasswordCredential user.id = true := by
          unfold hasPasswordCredential
          rw [decide_eq_true_eq, ← hId]
          exact Table.HasKey.of_mem hCredential
        rw [hVerified, hHas]
        rfl

/-- Google links its identity to an account whose email is verified, or verifies it at once. -/
theorem guarded_signInWithGoogle {profile : GoogleProfile} (h : Guarded owner db)
    (hOwner : principal = owner profile.email)
    (hCall : db.signInWithGoogle config principal profile = some db') : Guarded owner db' := by
  unfold signInWithGoogle at hCall
  obtain ⟨⟨resolved, user⟩, hResolve, hCall⟩ := Option.bind_eq_some_iff.1 hCall
  obtain ⟨googled, hGoogle, hCall⟩ := Option.bind_eq_some_iff.1 hCall
  obtain ⟨mailed, hEmail, hCall⟩ := Option.bind_eq_some_iff.1 hCall
  cases hCall
  obtain ⟨hResolved, hUser, hKnown, hCredentials⟩ := resolveGoogleUser_spec h hResolve
  obtain ⟨row, rfl, hKey, hAccount, hLinked⟩ := upsertIdentity_spec hGoogle
  -- the database with the profile written and the owner noted
  have hNoted : Guarded owner
      ((resolved.syncGoogleUserProfile user profile).noteSignedIn profile.email) :=
    ⟨hResolved.sound.sync.noteSignedIn _, hResolved.google.sync⟩
  have hUser' : ((resolved.syncGoogleUserProfile user profile).noteSignedIn
      profile.email).HasUser user := hUser.sync
  have hLinked' : Linked ((resolved.syncGoogleUserProfile user profile).noteSignedIn profile.email)
      row (some (jsDate (resolved.syncGoogleUserProfile user profile).now)) :=
    hLinked.noteSignedIn profile.email
  have hProvider : row.provider = .google := congrArg Prod.fst hKey
  have hMailed : Guarded owner (mailed.noteSignedIn profile.email) ∧
      (mailed.noteSignedIn profile.email).HasUser user ∧
      (principal = owner user.email ∨
        user.email ∈ (mailed.noteSignedIn profile.email).signedIn) := by
    unfold upsertProfileEmail at hEmail
    split at hEmail
    · rename_i hSame
      obtain ⟨row', rfl, hKey', hAccount', hLinked''⟩ := upsertIdentity_spec hEmail
      refine ⟨?_, hUser', .inl (hOwner.trans (congrArg owner hSame.symm))⟩
      have hGoogled := hNoted.sound.upsertFor hLinked' hUser' hAccount fun hOther =>
        nomatch hProvider.symm.trans hOther
      have hLast := hLinked''.noteSignedIn profile.email
      refine ⟨hGoogled.upsertFor hLast hUser' hAccount' fun _ _ => ⟨?_, hCredentials⟩, ?_⟩
      · rw [hSame]
        exact List.mem_cons_self
      · -- only now is the account of the Google identity verified
        intro identity hMem hOf other hOther hOtherAccount
        apply (verified_upsert hLast).2
        rcases Table.mem_upsert.1 hMem with rfl | ⟨hMem, -⟩
        · exact nomatch (congrArg Prod.fst hKey').symm.trans hOf
        · rcases Table.mem_upsert.1 hMem with rfl | ⟨hMem, -⟩
          · obtain ⟨-, hOtherEmail⟩ := hUser'.eq_of_accountId hNoted.sound hOther
              (hOtherAccount.trans hAccount)
            rw [hOtherAccount, hOtherEmail, hSame, hAccount]
            exact .inr ⟨hKey', hAccount', rfl⟩
          · left
            apply (verified_upsert hLinked').2
            exact .inl (hNoted.google identity hMem hOf other hOther hOtherAccount)
    · rename_i hDifferent
      cases hEmail
      have hVerified : resolved.Verified user.accountId user.email :=
        hKnown.resolve_left hDifferent
      refine ⟨hNoted.upsert hLinked' hUser' hAccount (fun _ => hVerified) fun hOther => ?_, hUser',
        .inr ?_⟩
      · exact nomatch hProvider.symm.trans hOther
      · obtain ⟨found, hFound, -, hFoundAccount, hFoundEmail⟩ := hUser'
        rw [← hFoundAccount, ← hFoundEmail] at hVerified
        rw [← hFoundEmail]
        exact hNoted.sound.signedIn found hFound hVerified
  obtain ⟨hGuarded, hMailedUser, hBy⟩ := hMailed
  exact hGuarded.createAuthSession hMailedUser hBy

theorem guarded_completeGoogleOAuth {callback : GoogleCallback} {result : GoogleOAuthResult}
    (h : Guarded owner db)
    (hOwner : ∀ profile, callback = .profile profile → profile.emailVerified = true →
      principal = owner profile.email)
    (hCall : db.completeGoogleOAuth config principal callback = some (db', result)) :
    Guarded owner db' := by
  cases callback with
  | stateInvalid | stateExpired | exchangeFailed =>
      cases hCall
      exact h
  | profile profile =>
      simp only [completeGoogleOAuth] at hCall
      split at hCall
      · cases hCall
        exact h
      split at hCall
      · rename_i hVerified
        obtain ⟨signed, hSigned, hResult⟩ := Option.map_eq_some_iff.1 hCall
        cases hResult
        exact guarded_signInWithGoogle h (hOwner profile rfl hVerified) hSigned
      · cases hCall
        exact h

/-! ## What the accounts promise -/

theorem loginUser_session {password : String} {id : Nat}
    (h : (db.loginUser config principal email password).2 = .session id) :
    ∃ user ∈ db.users.rows, user.id = id ∧ user.email = config.normalizeEmail email ∧
      db.Verified user.accountId user.email ∧
      ∃ credential ∈ db.credentials.rows, credential.userId = user.id := by
  unfold loginUser at h
  simp only at h
  split at h
  · cases h
  split at h
  · cases h
  rename_i row hRow
  split at h
  · cases h
  split at h
  · cases h
  rename_i hVerified
  unfold findPasswordCredentialByEmail at hRow
  obtain ⟨user, hUser, hRow⟩ := Option.bind_eq_some_iff.1 hRow
  obtain ⟨credential, hCredential, hRow⟩ := Option.bind_eq_some_iff.1 hRow
  cases hRow
  cases h
  obtain ⟨hMem, hEmail⟩ := mem_of_findPublicUserByEmail hUser
  obtain ⟨hCredentialMem, hOf⟩ := Table.find?_eq_some hCredential
  refine ⟨user, hMem, rfl, hEmail, ?_, credential, hCredentialMem, hOf⟩
  apply isAccountEmailVerified_iff.1
  simpa using hVerified

end IdentityDb

namespace AuthSystem

variable {s s' : AuthSystem π} {e : AuthEvent π}

theorem notPreHijacked_of_sound (h : s.db.Sound owner) : s.NotPreHijacked config owner := by
  intro user hUser _
  constructor
  · intro principal email password _ hLogin
    obtain ⟨found, hFound, hId, -, hVerified, credential, hMem, hOf⟩ :=
      IdentityDb.loginUser_session hLogin
    have hSame : found = user := SerialTable.row_unique hFound hUser hId
    subst hSame
    exact ⟨credential, hMem, hOf, h.password found hFound hVerified credential hMem hOf⟩
  · intro session hSession hOf hEarly hOther
    rcases h.session user hUser session hSession hOf with hOwner | hKnown
    · exact absurd hOwner hOther
    · rw [hEarly] at hKnown
      cases hKnown

theorem guarded_verifyEmailLoginCode {email code : String}
    {result : LoginDb.VerifyEmailLoginCodeResult}
    (h : IdentityDb.Guarded owner s.db)
    (hOwner : s.AcceptsCode config principal email code →
      principal = owner (config.normalizeEmail email))
    (hPassword : s.AcceptsCode config principal email code →
      ∀ user ∈ s.db.findPublicUserByEmail (config.normalizeEmail email),
        s.db.isAccountEmailVerified user.accountId user.email = false →
        ∀ credential ∈ s.db.credentials.rows, credential.userId = user.id →
          credential.setBy = owner user.email)
    (hCall : s.verifyEmailLoginCode config principal email code = some (s', result)) :
    IdentityDb.Guarded owner s'.db := by
  have hAccepts : result = .session → s.AcceptsCode config principal email code := by
    rintro rfl
    unfold AcceptsCode
    rw [hCall]
    rfl
  unfold verifyEmailLoginCode at hCall
  simp only at hCall
  split at hCall
  · split at hCall
    · cases hCall
    · split at hCall
      · cases hCall
        cases hSigned : s.db.signInWithEmail config principal (config.normalizeEmail email) with
        | none => exact h
        | some signed =>
            exact IdentityDb.guarded_signInWithEmail h (hPassword (hAccepts rfl))
              (hOwner (hAccepts rfl)) hSigned
      · cases hCall
        exact h
  · cases hCall
    exact h

theorem guarded_step (h : IdentityDb.Guarded owner s.db) (hOwned : Owned config owner s e)
    (hPassword : VerifiesNoForeignPassword config owner s e) (hStep : step config s e = some s') :
    IdentityDb.Guarded owner s'.db := by
  cases hStep
  have hNow : IdentityDb.Guarded owner (s.atTime e.now).db := ⟨h.sound.atTime e.now, h.google⟩
  obtain ⟨now, call⟩ := e
  cases call with
  | codes logins => exact hNow
  | registerUser principal email password salt displayName =>
      simp only [perform]
      split
      · rename_i hCall
        exact IdentityDb.guarded_registerUser hNow hCall
      · exact hNow
  | loginUser principal email password => exact IdentityDb.guarded_loginUser hNow
  | verifyEmailLoginCode principal email code =>
      simp only [perform]
      split
      · rename_i hCall
        exact guarded_verifyEmailLoginCode hNow hOwned hPassword hCall
      · exact hNow
  | completeGoogleOAuth principal callback =>
      simp only [perform]
      split
      · rename_i hCall
        apply IdentityDb.guarded_completeGoogleOAuth hNow _ hCall
        rintro profile rfl hVerified
        exact hOwned hVerified
      · exact hNow

theorem guarded_empty : IdentityDb.Guarded owner (empty : AuthSystem π).db := by
  constructor
  · constructor <;> simp [empty]
  · intro identity hMem
    simp [empty] at hMem

/-- In every sequence of calls where a right code never verifies the email of an account whose
password another principal has set, nobody gets into an account before its owner. -/
theorem no_preHijacking {events : List (AuthEvent π)}
    (hRun : run (step config) empty events = some s)
    (hOwned : StepsMeet (step config) (Owned config owner) empty events)
    (hPassword : StepsMeet (step config) (VerifiesNoForeignPassword config owner) empty events) :
    s.NotPreHijacked config owner := by
  have hGuarded : (fun s : AuthSystem π => IdentityDb.Guarded owner s.db) s :=
    run_invariant_of_stepsMeet
      (fun s e s' h hMeets hStep => guarded_step h hMeets.1 hMeets.2 hStep)
      guarded_empty hRun (stepsMeet_and hOwned hPassword)
  exact notPreHijacked_of_sound hGuarded.sound

/-! ## An account that another principal has registered -/

instance [DecidableEq π] (s : AuthSystem π) (e : AuthEvent π) :
    Decidable (VerifiesNoForeignPassword config owner s e) := by
  unfold VerifiesNoForeignPassword AcceptsCode
  cases e.call
  all_goals infer_instance

def sampleAuthConfig : AuthConfig where
  toLowerCase := String.toLower
  scrypt password salt := password ++ salt
  emailLogin := ⟨fun _ code => code, 600⟩
  authSessionTtlSeconds := 3600

/-- The code `123456` has been sent to the owner. -/
def sampleLogins : LoginDb :=
  (⟨∅, [], 0⟩ : LoginDb).requestEmailLoginCode sampleAuthConfig.emailLogin "owner@example.com"
    "123456"

def sampleProfile : GoogleProfile := ⟨"10769150350", "owner@example.com", true, "", ""⟩

def registration : AuthEvent String :=
  ⟨1000, .registerUser "mallory" "owner@example.com" "not the owner's" "salt" none⟩

def codeLogin : List (AuthEvent String) :=
  [⟨2000, .codes sampleLogins⟩,
    ⟨3000, .verifyEmailLoginCode "owner" "owner@example.com" "123456"⟩]

def googleLogin : AuthEvent String := ⟨1500, .completeGoogleOAuth "owner" (.profile sampleProfile)⟩

theorem owned_sample (events : List (AuthEvent String))
    (h : ∀ e ∈ events, e = registration ∨ e ∈ codeLogin ∨ e = googleLogin) :
    StepsMeet (step sampleAuthConfig) (Owned sampleAuthConfig fun _ => "owner") empty events := by
  apply stepsMeet_of_forall
  intro e hMem s
  rcases h e hMem with rfl | hCode | rfl
  · trivial
  · simp only [codeLogin, List.mem_cons, List.not_mem_nil, or_false] at hCode
    rcases hCode with rfl | rfl
    · trivial
    · exact fun _ => rfl
  · exact fun _ => rfl

/-- Google removes the password, and the codes that follow find the email verified. -/
theorem no_preHijacking_sample : ∃ s,
    run (step sampleAuthConfig) empty (registration :: googleLogin :: codeLogin) = some s ∧
      s.NotPreHijacked sampleAuthConfig fun _ => "owner" := by
  obtain ⟨s, hRun⟩ : ∃ s, run (step sampleAuthConfig) empty
      (registration :: googleLogin :: codeLogin) = some s := ⟨_, rfl⟩
  refine ⟨s, hRun, no_preHijacking hRun (owned_sample _ ?_) (by decide +kernel)⟩
  intro e hMem
  simp only [List.mem_cons] at hMem
  tauto

/-- The password that `mallory` has set logs in to an account whose owner has signed in. -/
def passwordOfAnother (s : AuthSystem String) : Bool :=
  s.db.users.rows.any fun user =>
    user.email = "owner@example.com" && user.email ∈ s.db.signedIn &&
      (s.db.loginUser sampleAuthConfig "mallory" "owner@example.com" "not the owner's").2 =
        .session user.id &&
      s.db.credentials.rows.all fun credential => credential.setBy ≠ "owner"

theorem not_notPreHijacked_of_passwordOfAnother {s : AuthSystem String}
    (h : passwordOfAnother s = true) :
    ¬ s.NotPreHijacked sampleAuthConfig fun _ => "owner" := by
  intro hNot
  simp only [passwordOfAnother, List.any_eq_true, Bool.and_eq_true, decide_eq_true_eq,
    List.all_eq_true] at h
  obtain ⟨user, hMem, ⟨⟨hEmail, hSignedIn⟩, hLogin⟩, hSetBy⟩ := h
  have hNormal : sampleAuthConfig.normalizeEmail "owner@example.com" = user.email := by
    rw [hEmail]
    decide +kernel
  obtain ⟨credential, hCredential, -, hOwner⟩ :=
    (hNot user hMem hSignedIn).1 "mallory" _ _ hNormal hLogin
  exact hSetBy credential hCredential hOwner

/-- With a code alone the password stays, and from then on it logs in. -/
theorem password_survives_code : ∃ s,
    run (step sampleAuthConfig) empty (registration :: codeLogin) = some s ∧
      StepsMeet (step sampleAuthConfig) (Owned sampleAuthConfig fun _ => "owner") empty
        (registration :: codeLogin) ∧
      ¬ s.NotPreHijacked sampleAuthConfig fun _ => "owner" := by
  have hSome : ((run (step sampleAuthConfig) empty (registration :: codeLogin)).any
      passwordOfAnother) = true := by
    decide +kernel
  obtain ⟨s, hRun, hPassword⟩ := (Option.any_eq_true _ _).1 hSome
  refine ⟨s, hRun, owned_sample _ ?_, not_notPreHijacked_of_passwordOfAnother hPassword⟩
  intro e hMem
  simp only [List.mem_cons] at hMem
  tauto

end AuthSystem

end Hyperspace.Auth
