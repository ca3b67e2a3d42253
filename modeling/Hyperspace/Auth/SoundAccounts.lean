import Hyperspace.Auth.Identities
import Hyperspace.Foundations.Runs

/-!
# Accounts and their verified emails

Which accounts have a verified email, what holds of users, identities and sessions in every state,
and what each statement keeps of it.
-/

namespace Hyperspace.Auth

open Hyperspace.Billing (Timestamp jsDate)
open Hyperspace.Foundations

variable {π : Type} {config : AuthConfig} {owner : String → π} {principal : π}

namespace IdentityDb

variable {db db' : IdentityDb π} {user : User} {accountId : Nat} {email : String}
  {provider : Provider} {subject : String} {verifiedAt : Option Timestamp}

/-! ## Verified emails -/

/-- The email identity of the account is verified. -/
def Verified (db : IdentityDb π) (accountId : Nat) (email : String) : Prop :=
  ∃ identity ∈ db.identities.rows, identity.key = (.email, email) ∧
    identity.accountId = accountId ∧ identity.verifiedAt.isSome

theorem isAccountEmailVerified_iff :
    db.isAccountEmailVerified accountId email = true ↔ db.Verified accountId email := by
  unfold isAccountEmailVerified
  constructor
  · intro h
    split at h
    · rename_i identity hFind
      obtain ⟨hMem, hKey⟩ := Table.find?_eq_some hFind
      simp only [Bool.and_eq_true, decide_eq_true_eq] at h
      exact ⟨identity, hMem, hKey, h.1, h.2⟩
    · cases h
  · rintro ⟨identity, hMem, hKey, hAccount, hVerified⟩
    rw [← hKey, Table.find?_of_mem hMem]
    simp [hAccount, hVerified]

/-- What an identity becomes that is written again: it stays with its account, and stays verified.
-/
structure Linked (db : IdentityDb π) (row : Identity) (verifiedAt : Option Timestamp) : Prop where
  accountId : ∀ old ∈ db.identities.rows, old.key = row.key → old.accountId = row.accountId
  isSome_iff : row.verifiedAt.isSome ↔ verifiedAt.isSome ∨
    ∃ old ∈ db.identities.rows, old.key = row.key ∧ old.verifiedAt.isSome

theorem upsertIdentity_spec
    (h : db.upsertIdentity accountId provider subject email verifiedAt = some db') :
    ∃ row : Identity, db' = { db with identities := db.identities.upsert row } ∧
      row.key = (provider, subject) ∧ row.accountId = accountId ∧ Linked db row verifiedAt := by
  unfold upsertIdentity at h
  split at h
  · rename_i old hFind
    obtain ⟨hMem, hKey⟩ := Table.find?_eq_some hFind
    split at h
    · rename_i hAccount
      cases h
      refine ⟨_, rfl, hKey, hAccount, ?_, ?_⟩
      · intro other hOther hSame
        rw [Table.row_unique hOther hMem hSame]
      · constructor
        · intro hSome
          cases verifiedAt with
          | some t => exact .inl rfl
          | none => exact .inr ⟨old, hMem, rfl, hSome⟩
        · rintro (hSome | ⟨other, hOther, hSame, hSome⟩)
          · obtain ⟨t, rfl⟩ := Option.isSome_iff_exists.1 hSome
            rfl
          · rw [Table.row_unique hOther hMem hSame] at hSome
            cases verifiedAt with
            | some t => rfl
            | none => exact hSome
    · cases h
  · rename_i hFind
    cases h
    have hFree : ∀ other ∈ db.identities.rows, other.key ≠ (provider, subject) := by
      intro other hOther hSame
      apply Table.find?_eq_none.1 hFind
      rw [← hSame]
      exact Table.HasKey.of_mem hOther
    refine ⟨_, rfl, rfl, rfl, ?_, ?_⟩
    · intro other hOther hSame
      exact absurd hSame (hFree other hOther)
    · constructor
      · exact .inl
      · rintro (hSome | ⟨other, hOther, hSame, -⟩)
        · exact hSome
        · exact absurd hSame (hFree other hOther)

variable {row : Identity}

theorem verified_upsert (h : Linked db row verifiedAt) :
    ({ db with identities := db.identities.upsert row } : IdentityDb π).Verified accountId email ↔
      db.Verified accountId email ∨
        (row.key = (.email, email) ∧ row.accountId = accountId ∧ verifiedAt.isSome) := by
  unfold Verified
  constructor
  · rintro ⟨identity, hMem, hKey, hAccount, hVerified⟩
    rcases Table.mem_upsert.1 hMem with rfl | ⟨hOld, -⟩
    · rcases h.isSome_iff.1 hVerified with hSome | ⟨old, hOld, hSame, hSome⟩
      · exact .inr ⟨hKey, hAccount, hSome⟩
      · exact .inl ⟨old, hOld, hSame.trans hKey, (h.accountId old hOld hSame).trans hAccount, hSome⟩
    · exact .inl ⟨identity, hOld, hKey, hAccount, hVerified⟩
  · rintro (⟨old, hOld, hKey, hAccount, hVerified⟩ | ⟨hKey, hAccount, hSome⟩)
    · by_cases hSame : old.key = row.key
      · exact ⟨row, Table.mem_upsert.2 (.inl rfl), hSame ▸ hKey,
          (h.accountId old hOld hSame) ▸ hAccount,
            h.isSome_iff.2 (.inr ⟨old, hOld, hSame, hVerified⟩)⟩
      · exact ⟨old, Table.mem_upsert.2 (.inr ⟨hOld, hSame⟩), hKey, hAccount, hVerified⟩
    · exact ⟨row, Table.mem_upsert.2 (.inl rfl), hKey, hAccount, h.isSome_iff.2 (.inl hSome)⟩

/-! ## What holds of the accounts -/

/-- The rows belong together, and a verified email has had its owner signed in and has no password
of another principal. -/
structure Sound (owner : String → π) (db : IdentityDb π) : Prop where
  user_accountId : ∀ user ∈ db.users.rows, user.accountId < db.accounts.next
  account_unique : ∀ user ∈ db.users.rows, ∀ user' ∈ db.users.rows,
    user.accountId = user'.accountId → user = user'
  email_unique : ∀ user ∈ db.users.rows, ∀ user' ∈ db.users.rows,
    user.email = user'.email → user = user'
  identity_accountId : ∀ identity ∈ db.identities.rows, identity.accountId < db.accounts.next
  credential_userId : ∀ credential ∈ db.credentials.rows, credential.userId < db.users.next
  session_userId : ∀ session ∈ db.authSessions.rows, session.userId < db.users.next
  password : ∀ user ∈ db.users.rows, db.Verified user.accountId user.email →
    ∀ credential ∈ db.credentials.rows, credential.userId = user.id →
      credential.setBy = owner user.email
  signedIn : ∀ user ∈ db.users.rows, db.Verified user.accountId user.email →
    user.email ∈ db.signedIn
  session : ∀ user ∈ db.users.rows, ∀ session ∈ db.authSessions.rows, session.userId = user.id →
    session.openedBy = owner user.email ∨ session.ownerKnown = true

/-- An account with a Google identity has a verified email. -/
def GoogleVerified (db : IdentityDb π) : Prop :=
  ∀ identity ∈ db.identities.rows, identity.provider = .google →
    ∀ user ∈ db.users.rows, user.accountId = identity.accountId →
      db.Verified user.accountId user.email

/-- A row of the users stands for the user that a call has read, whatever of its profile has
changed. -/
def HasUser (db : IdentityDb π) (user : User) : Prop :=
  ∃ row ∈ db.users.rows, row.id = user.id ∧ row.accountId = user.accountId ∧ row.email = user.email

theorem HasUser.of_mem (h : user ∈ db.users.rows) : db.HasUser user := ⟨user, h, rfl, rfl, rfl⟩

theorem mem_of_findPublicUserByEmail (h : db.findPublicUserByEmail email = some user) :
    user ∈ db.users.rows ∧ user.email = email := by
  have hUser := List.find?_some h
  simp only [decide_eq_true_eq] at hUser
  exact ⟨List.mem_of_find?_eq_some h, hUser.1⟩

theorem exists_identity_of_findPublicUserByIdentity
    (h : db.findPublicUserByIdentity provider subject = some user) :
    user ∈ db.users.rows ∧ ∃ identity ∈ db.identities.rows,
      identity.key = (provider, subject) ∧ user.accountId = identity.accountId := by
  unfold findPublicUserByIdentity at h
  split at h
  · rename_i identity hFind
    obtain ⟨hMem, hKey⟩ := Table.find?_eq_some hFind
    have hUser := List.find?_some h
    simp only [decide_eq_true_eq] at hUser
    exact ⟨List.mem_of_find?_eq_some h, identity, hMem, hKey, hUser.1⟩
  · cases h

/-! ### What the statements keep -/

/-- A new user has an account of its own, without any other row. -/
structure Created (db db' : IdentityDb π) (user : User) (email : String) : Prop where
  users : ∀ row, row ∈ db'.users.rows ↔ row ∈ db.users.rows ∨ row = user
  users_next : db'.users.next = db.users.next + 1
  id_eq : user.id = db.users.next
  accounts_next : db'.accounts.next = db.accounts.next + 1
  accountId_eq : user.accountId = db.accounts.next
  email_eq : user.email = email
  email_free : ∀ row ∈ db.users.rows, row.email ≠ email
  credentials : db'.credentials = db.credentials
  identities : db'.identities = db.identities
  authSessions : db'.authSessions = db.authSessions
  signedIn : db'.signedIn = db.signedIn

theorem insertUserWithoutPassword_spec {displayName : String}
    (h : db.insertUserWithoutPassword email displayName = some (db', user)) :
    Created db db' user email := by
  unfold insertUserWithoutPassword at h
  split at h
  · rename_i hFree
    cases h
    exact ⟨fun row => SerialTable.mem_insert, rfl, rfl, rfl, rfl, rfl, hFree, rfl, rfl, rfl, rfl⟩
  · cases h

namespace Created

theorem verified_iff (h : Created db db' user email) {a : Nat} {e : String} :
    db'.Verified a e ↔ db.Verified a e := by
  unfold Verified
  rw [h.identities]

theorem not_verified (h : Created db db' user email) (hSound : Sound owner db) {e : String} :
    ¬ db'.Verified user.accountId e := by
  rw [h.verified_iff]
  rintro ⟨identity, hMem, -, hAccount, -⟩
  have := hSound.identity_accountId identity hMem
  have := h.accountId_eq
  omega

theorem sound (h : Created db db' user email) (hSound : Sound owner db) : Sound owner db' where
  user_accountId row hMem := by
    have hNext := h.accounts_next
    rcases (h.users row).1 hMem with hMem | rfl
    · have := hSound.user_accountId row hMem
      omega
    · have := h.accountId_eq
      omega
  account_unique row hMem row' hMem' hSame := by
    have hNew := h.accountId_eq
    rcases (h.users row).1 hMem with hMem | rfl
    · rcases (h.users row').1 hMem' with hMem' | rfl
      · exact hSound.account_unique row hMem row' hMem' hSame
      · have := hSound.user_accountId row hMem
        omega
    · rcases (h.users row').1 hMem' with hMem' | rfl
      · have := hSound.user_accountId row' hMem'
        omega
      · rfl
  email_unique row hMem row' hMem' hSame := by
    rcases (h.users row).1 hMem with hMem | rfl
    · rcases (h.users row').1 hMem' with hMem' | rfl
      · exact hSound.email_unique row hMem row' hMem' hSame
      · exact absurd (hSame.trans h.email_eq) (h.email_free row hMem)
    · rcases (h.users row').1 hMem' with hMem' | rfl
      · exact absurd (hSame.symm.trans h.email_eq) (h.email_free row' hMem')
      · rfl
  identity_accountId identity hMem := by
    rw [h.identities] at hMem
    have := hSound.identity_accountId identity hMem
    have := h.accounts_next
    omega
  credential_userId credential hMem := by
    rw [h.credentials] at hMem
    have := hSound.credential_userId credential hMem
    have := h.users_next
    omega
  session_userId session hMem := by
    rw [h.authSessions] at hMem
    have := hSound.session_userId session hMem
    have := h.users_next
    omega
  password row hMem hVerified := by
    rcases (h.users row).1 hMem with hMem | rfl
    · rw [h.credentials]
      exact hSound.password row hMem (h.verified_iff.1 hVerified)
    · exact absurd hVerified (h.not_verified hSound)
  signedIn row hMem hVerified := by
    rcases (h.users row).1 hMem with hMem | rfl
    · rw [h.signedIn]
      exact hSound.signedIn row hMem (h.verified_iff.1 hVerified)
    · exact absurd hVerified (h.not_verified hSound)
  session row hMem session hSession hUser := by
    rw [h.authSessions] at hSession
    rcases (h.users row).1 hMem with hMem | rfl
    · exact hSound.session row hMem session hSession hUser
    · have := hSound.session_userId session hSession
      have := h.id_eq
      omega

theorem googleVerified (h : Created db db' user email) (hSound : Sound owner db)
    (hGoogle : GoogleVerified db) : GoogleVerified db' := by
  intro identity hMem hProvider row hRow hAccount
  rw [h.identities] at hMem
  rcases (h.users row).1 hRow with hRow | rfl
  · exact h.verified_iff.2 (hGoogle identity hMem hProvider row hRow hAccount)
  · have := hSound.identity_accountId identity hMem
    have := h.accountId_eq
    omega

end Created

theorem Linked.noteSignedIn (h : Linked db row verifiedAt) (email : String) :
    Linked (db.noteSignedIn email) row verifiedAt := ⟨h.accountId, h.isSome_iff⟩

namespace Sound

/-- An identity is written for an account; one that verifies the email of a user is written when
the owner has signed in, and no other principal has set the password. -/
theorem upsert (h : Sound owner db) (hLinked : Linked db row verifiedAt)
    (hAccount : row.accountId < db.accounts.next)
    (hVerifies : ∀ user ∈ db.users.rows, row.key = (.email, user.email) →
      row.accountId = user.accountId → verifiedAt.isSome →
      user.email ∈ db.signedIn ∧ ∀ credential ∈ db.credentials.rows, credential.userId = user.id →
        credential.setBy = owner user.email) :
    Sound owner { db with identities := db.identities.upsert row } where
  user_accountId := h.user_accountId
  account_unique := h.account_unique
  email_unique := h.email_unique
  identity_accountId identity hMem := by
    rcases Table.mem_upsert.1 hMem with rfl | ⟨hMem, -⟩
    · exact hAccount
    · exact h.identity_accountId identity hMem
  credential_userId := h.credential_userId
  session_userId := h.session_userId
  password user hUser hVerified := by
    rcases (verified_upsert hLinked).1 hVerified with hOld | ⟨hKey, hRow, hSome⟩
    · exact h.password user hUser hOld
    · exact (hVerifies user hUser hKey hRow hSome).2
  signedIn user hUser hVerified := by
    rcases (verified_upsert hLinked).1 hVerified with hOld | ⟨hKey, hRow, hSome⟩
    · exact h.signedIn user hUser hOld
    · exact (hVerifies user hUser hKey hRow hSome).1
  session := h.session

theorem noteSignedIn (h : Sound owner db) (email : String) :
    Sound owner (db.noteSignedIn email) where
  user_accountId := h.user_accountId
  account_unique := h.account_unique
  email_unique := h.email_unique
  identity_accountId := h.identity_accountId
  credential_userId := h.credential_userId
  session_userId := h.session_userId
  password := h.password
  signedIn user hUser hVerified := List.mem_cons_of_mem _ (h.signedIn user hUser hVerified)
  session := h.session

theorem atTime (h : Sound owner db) (now : Timestamp) : Sound owner { db with now := now } :=
  ⟨h.user_accountId, h.account_unique, h.email_unique, h.identity_accountId, h.credential_userId,
    h.session_userId, h.password, h.signedIn, h.session⟩

theorem createAuthSession (h : Sound owner db) (hUser : db.HasUser user)
    (hBy : principal = owner user.email ∨ user.email ∈ db.signedIn) :
    Sound owner (db.createAuthSession config principal user) where
  user_accountId := h.user_accountId
  account_unique := h.account_unique
  email_unique := h.email_unique
  identity_accountId := h.identity_accountId
  credential_userId := h.credential_userId
  session_userId session hMem := by
    rcases SerialTable.mem_insert.1 hMem with hMem | rfl
    · exact h.session_userId session hMem
    · obtain ⟨found, hFound, hId, -⟩ := hUser
      have hLess : found.id < db.users.next := db.users.fresh found hFound
      rwa [hId] at hLess
  password := h.password
  signedIn := h.signedIn
  session other hOther session hMem hId := by
    rcases SerialTable.mem_insert.1 hMem with hMem | rfl
    · exact h.session other hOther session hMem hId
    · obtain ⟨found, hFound, hSame, -, hEmail⟩ := hUser
      have hRow : found = other := SerialTable.row_unique hFound hOther (hSame.trans hId)
      rw [← hRow, hEmail]
      simpa using hBy

theorem securelyClaim (h : Sound owner db) :
    Sound owner (db.securelyClaimUnverifiedPasswordAccount user) where
  user_accountId := h.user_accountId
  account_unique := h.account_unique
  email_unique := h.email_unique
  identity_accountId := h.identity_accountId
  credential_userId credential hMem :=
    h.credential_userId credential (Table.mem_filter.1 hMem).1
  session_userId session hMem := by
    obtain ⟨old, hOld, rfl⟩ := SerialTable.mem_modify.1 hMem
    have := h.session_userId old hOld
    split
    · exact this
    · exact this
  password other hOther hVerified credential hMem :=
    h.password other hOther hVerified credential (Table.mem_filter.1 hMem).1
  signedIn := h.signedIn
  session other hOther session hMem := by
    obtain ⟨old, hOld, rfl⟩ := SerialTable.mem_modify.1 hMem
    have := h.session other hOther old hOld
    split
    · exact this
    · exact this

end Sound

theorem mem_sync {profile : GoogleProfile} {row : User} :
    row ∈ (db.syncGoogleUserProfile user profile).users.rows ↔ ∃ old ∈ db.users.rows,
      (if old.id = user.id then old.syncGoogleProfile profile else old) = row := by
  unfold syncGoogleUserProfile
  exact @SerialTable.mem_update _ _ db.users row user.id
    (fun user => user.syncGoogleProfile profile) fun _ => rfl

theorem mem_users_syncGoogleUserProfile {profile : GoogleProfile} {row : User}
    (h : row ∈ (db.syncGoogleUserProfile user profile).users.rows) :
    ∃ old ∈ db.users.rows, row.id = old.id ∧ row.accountId = old.accountId ∧
      row.email = old.email := by
  obtain ⟨old, hOld, rfl⟩ := mem_sync.1 h
  refine ⟨old, hOld, ?_⟩
  split
  · exact ⟨rfl, rfl, rfl⟩
  · exact ⟨rfl, rfl, rfl⟩

theorem HasUser.sync {profile : GoogleProfile} {other : User} (h : db.HasUser other) :
    (db.syncGoogleUserProfile user profile).HasUser other := by
  obtain ⟨row, hRow, hId, hAccount, hEmail⟩ := h
  refine ⟨_, mem_sync.2 ⟨row, hRow, rfl⟩, ?_⟩
  split
  · exact ⟨hId, hAccount, hEmail⟩
  · exact ⟨hId, hAccount, hEmail⟩

theorem Sound.sync {profile : GoogleProfile} (h : Sound owner db) :
    Sound owner (db.syncGoogleUserProfile user profile) where
  user_accountId row hRow := by
    obtain ⟨old, hOld, -, hAccount, -⟩ := mem_users_syncGoogleUserProfile hRow
    rw [hAccount]
    exact h.user_accountId old hOld
  account_unique row hRow row' hRow' hSame := by
    obtain ⟨old, hOld, hId, hAccount, -⟩ := mem_users_syncGoogleUserProfile hRow
    obtain ⟨old', hOld', hId', hAccount', -⟩ := mem_users_syncGoogleUserProfile hRow'
    rw [hAccount, hAccount'] at hSame
    have hUsers := h.account_unique old hOld old' hOld' hSame
    exact SerialTable.row_unique hRow hRow' (by rw [hId, hId', hUsers])
  email_unique row hRow row' hRow' hSame := by
    obtain ⟨old, hOld, hId, -, hEmail⟩ := mem_users_syncGoogleUserProfile hRow
    obtain ⟨old', hOld', hId', -, hEmail'⟩ := mem_users_syncGoogleUserProfile hRow'
    rw [hEmail, hEmail'] at hSame
    have hUsers := h.email_unique old hOld old' hOld' hSame
    exact SerialTable.row_unique hRow hRow' (by rw [hId, hId', hUsers])
  identity_accountId := h.identity_accountId
  credential_userId := h.credential_userId
  session_userId := h.session_userId
  password row hRow hVerified := by
    obtain ⟨old, hOld, hId, hAccount, hEmail⟩ := mem_users_syncGoogleUserProfile hRow
    rw [hAccount, hEmail] at hVerified
    rw [hId, hEmail]
    exact h.password old hOld hVerified
  signedIn row hRow hVerified := by
    obtain ⟨old, hOld, -, hAccount, hEmail⟩ := mem_users_syncGoogleUserProfile hRow
    rw [hAccount, hEmail] at hVerified
    rw [hEmail]
    exact h.signedIn old hOld hVerified
  session row hRow := by
    obtain ⟨old, hOld, hId, -, hEmail⟩ := mem_users_syncGoogleUserProfile hRow
    rw [hId, hEmail]
    exact h.session old hOld

theorem GoogleVerified.sync {profile : GoogleProfile} (h : GoogleVerified db) :
    GoogleVerified (db.syncGoogleUserProfile user profile) := by
  intro identity hMem hProvider row hRow hSame
  obtain ⟨old, hOld, -, hAccount, hEmail⟩ := mem_users_syncGoogleUserProfile hRow
  rw [hAccount] at hSame
  rw [hAccount, hEmail]
  exact h identity hMem hProvider old hOld hSame

/-- Writing an identity keeps the Google accounts verified, one of Google itself when the email of
its account is verified. -/
theorem GoogleVerified.upsert (h : GoogleVerified db) (hLinked : Linked db row verifiedAt)
    (hRow : row.provider = .google → ∀ user ∈ db.users.rows, user.accountId = row.accountId →
      db.Verified user.accountId user.email) :
    GoogleVerified { db with identities := db.identities.upsert row } := by
  intro identity hMem hProvider user hUser hAccount
  apply (verified_upsert hLinked).2
  rcases Table.mem_upsert.1 hMem with rfl | ⟨hMem, -⟩
  · exact .inl (hRow hProvider user hUser hAccount)
  · exact .inl (h identity hMem hProvider user hUser hAccount)

end IdentityDb

end Hyperspace.Auth
