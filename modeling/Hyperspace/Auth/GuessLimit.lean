import Hyperspace.Auth.GuessCounts

/-!
# The limit on guesses of a code

When the delivery of the only open challenge fails, there is none to hand its attempts back to; and
in the second in which a challenge expires, a request takes it for expired already, because the
expiry it reads has lost its fraction. Either way the next challenge starts to count anew before the
old codes have expired.
-/

namespace Hyperspace.Auth

open Hyperspace.Billing (Timestamp jsDate dateParse dateParse_le)
open Hyperspace.Foundations

/--
A delivery that fails leaves another open challenge to hand the attempts back to, unless its own
challenge is no longer open. No code is asked for in the second in which an open challenge expires.
-/
def LoginDb.KeepsWindow (db : LoginDb) : LoginAction → Prop
  | .failSending id => id ∈ db.sending → ∀ c ∈ db.challenges.rows, c.id = id → c.consumedAt = none →
      jsDate db.now < c.expiresAt → ∃ c' ∈ db.challenges.rows, c'.email = c.email ∧ c'.id ≠ id ∧
        c'.consumedAt = none ∧ jsDate db.now < c'.expiresAt
  | .request email _ => ∀ c ∈ db.challenges.rows, c.email = email → c.consumedAt = none →
      jsDate db.now < c.expiresAt → jsDate db.now < dateParse c.expiresAt
  | .finishSending _ | .verify _ _ _ => True

instance (db : LoginDb) : DecidablePred db.KeepsWindow := fun action => by
  cases action <;> simp only [LoginDb.KeepsWindow] <;> infer_instance

/-! ### The transactions -/

variable {lifetime now : Timestamp} {log : List LoginRecord} {c c' : EmailLoginChallenge}
variable {db : LoginDb} {address email code : String} {config : EmailLoginConfig}
  {id : ChallengeId}

/-- The challenges of an address. -/
def rowsOf (address : String) (db : LoginDb) (c : EmailLoginChallenge) : Prop :=
  c ∈ db.challenges.rows ∧ c.email = address

instance : Std.Total EmailLoginChallenge.CreatedAfter :=
  ⟨fun c c' => le_total c'.createdAt c.createdAt⟩

instance : IsTrans EmailLoginChallenge EmailLoginChallenge.CreatedAfter :=
  ⟨fun _ _ _ h h' => le_trans h' h⟩

theorem isLatest_of_find (h : db.findLatestEmailLoginChallengeForUpdate address = some c) :
    IsLatest (rowsOf address db) c := by
  have hListed := List.mem_of_head? h
  obtain ⟨hEmail, hUnconsumed⟩ := wanted_of_mem_selectForUpdate hListed
  refine ⟨⟨mem_of_mem_selectForUpdate hListed, hEmail⟩, hUnconsumed, fun c' hc' hUnconsumed' => ?_⟩
  exact before_of_head?_selectForUpdate h hc'.1 ⟨hc'.2, hUnconsumed'⟩ List.not_mem_nil

theorem consumed_of_find_none (h : db.findLatestEmailLoginChallengeForUpdate address = none)
    (hc : rowsOf address db c) : c.consumedAt ≠ none := by
  intro hUnconsumed
  have hLocked := locked_of_head?_selectForUpdate_eq_none h hc.1 ⟨hc.2, hUnconsumed⟩
  cases hLocked

/-- Without an active challenge there is no open one, unless it is in its last second. -/
theorem none_open_of_activeChallenge? (hWindows : Windows lifetime db.now (rowsOf address db))
    (hKeeps : db.KeepsWindow (.request address code)) (h : db.activeChallenge? address = none)
    (hc : rowsOf address db c) : ¬ c.IsOpen db.now := by
  rw [LoginDb.activeChallenge?, Option.filter_eq_none_iff] at h
  cases hFind : db.findLatestEmailLoginChallengeForUpdate address with
  | none => exact fun hOpen => consumed_of_find_none hFind hc hOpen.1
  | some latest =>
      have hExpired := h latest hFind
      rw [decide_eq_true_iff] at hExpired
      have hLatest := isLatest_of_find hFind
      refine hWindows.none_open hLatest (fun hLive => hExpired ?_) hc
      exact hKeeps latest hLatest.mem.1 hLatest.mem.2 hLatest.unconsumed hLive

theorem rowsOf_update {f : EmailLoginChallenge → EmailLoginChallenge} {db' : LoginDb}
    (hRows : ∀ c', c' ∈ db'.challenges.rows ↔
      ∃ c ∈ db.challenges.rows, (if c.id = id then f c else c) = c')
    (hEmail : ∀ c, (f c).email = c.email) :
    rowsOf address db' c' ↔
      ∃ c, rowsOf address db c ∧ (if c.id = id then f c else c) = c' := by
  rw [rowsOf, hRows]
  constructor
  · rintro ⟨⟨c, hc, rfl⟩, hAddress⟩
    refine ⟨c, ⟨hc, ?_⟩, rfl⟩
    rw [← hAddress]
    split <;> simp [hEmail]
  · rintro ⟨c, ⟨hc, rfl⟩, rfl⟩
    refine ⟨⟨c, hc, rfl⟩, ?_⟩
    split <;> simp [hEmail]

theorem rowsOf_update_other {f : EmailLoginChallenge → EmailLoginChallenge} {db' : LoginDb}
    (hRows : ∀ c', c' ∈ db'.challenges.rows ↔
      ∃ c ∈ db.challenges.rows, (if c.id = id then f c else c) = c')
    (hEmail : ∀ c, (f c).email = c.email)
    (hc : rowsOf email db c) (hId : c.id = id) (hOther : email ≠ address) :
    rowsOf address db' = rowsOf address db := by
  have hKept : ∀ d, rowsOf address db d → (if d.id = id then f d else d) = d := by
    intro d hd
    refine if_neg fun hSame => hOther ?_
    rw [← hc.2, ← hd.2, SerialTable.row_unique hc.1 hd.1 (hId.trans hSame.symm)]
  funext c'
  rw [rowsOf_update hRows hEmail, eq_iff_iff]
  constructor
  · rintro ⟨d, hd, rfl⟩
    rwa [hKept d hd]
  · exact fun hc' => ⟨c', hc', hKept c' hc'⟩

theorem sinceLogin_other {r : LoginRecord} (h : r.email ≠ address) :
    sinceLogin address (r :: log) = sinceLogin address log := by
  rw [sinceLogin, List.filter_cons_of_neg (by simpa using h)]
  rfl

theorem sinceLogin_cons {r : LoginRecord} (h : r.email = address) (hNext : ¬ r.IsSuccess) :
    sinceLogin address (r :: log) = r :: sinceLogin address log := by
  rw [sinceLogin, List.filter_cons_of_pos (by simpa using h),
    List.takeWhile_cons_of_pos (by simpa using hNext)]
  rfl

theorem sinceLogin_success : sinceLogin address (.succeeded address :: log) = [] := by
  rw [sinceLogin, List.filter_cons_of_pos (by simp [LoginRecord.email]),
    List.takeWhile_cons_of_neg (by simp [LoginRecord.IsSuccess])]

/-- The guard of an address in the state of the database. -/
def GuardedFor (config : EmailLoginConfig) (address : String) (db : LoginDb)
    (log : List LoginRecord) : Prop :=
  Guarded config.lifetime db.now (rowsOf address db) (sinceLogin address log)

theorem lifetime_nonneg : 0 ≤ config.lifetime :=
  mul_nonneg (Int.natCast_nonneg _) (by decide)

theorem GuardedFor.congr {db' : LoginDb} {log' : List LoginRecord}
    (h : GuardedFor config address db log) (hNow : db'.now = db.now)
    (hRows : rowsOf address db' = rowsOf address db)
    (hLog : sinceLogin address log' = sinceLogin address log) :
    GuardedFor config address db' log' := by
  rw [GuardedFor, hNow, hRows, hLog]
  exact h

theorem rowsOf_insert {codeHash : String} {attemptCount : Nat} {expiresAt : Timestamp} :
    rowsOf address (db.insertEmailLoginChallenge email codeHash attemptCount expiresAt) c ↔
      rowsOf address db c ∨ (c = ⟨db.challenges.next, email, codeHash, attemptCount, db.now,
        expiresAt, none⟩ ∧ email = address) := by
  rw [rowsOf, LoginDb.insertEmailLoginChallenge, SerialTable.mem_insert, or_and_right]
  refine or_congr_right ⟨?_, ?_⟩
  · rintro ⟨rfl, hAddress⟩
    exact ⟨rfl, hAddress⟩
  · rintro ⟨rfl, rfl⟩
    exact ⟨rfl, rfl⟩

theorem GuardedFor.request (h : GuardedFor config address db log)
    (hKeeps : db.KeepsWindow (.request email code))
    (hBefore : ∀ c, rowsOf address db c → c.createdAt < db.now) :
    GuardedFor config address (db.requestEmailLoginCode config email code)
      ((db.record? config (.request email code)).toList ++ log) := by
  rw [LoginDb.requestEmailLoginCode, LoginDb.record?]
  cases hNext : db.nextChallenge? config email with
  | none => exact h
  | some next =>
      obtain ⟨attemptCount, expiresAt⟩ := next
      dsimp only
      rw [Option.map_some, Option.toList_some, List.singleton_append]
      by_cases hEmail : email = address
      · subst hEmail
        have hLog : sinceLogin email (.issued email (jsDate db.now) expiresAt :: log) =
            .issued email (jsDate db.now) expiresAt :: sinceLogin email log :=
          sinceLogin_cons rfl nofun
        rw [GuardedFor, hLog]
        have hRows : ∀ c, rowsOf email (db.insertEmailLoginChallenge email
            (config.hashEmailOtp email code) attemptCount expiresAt) c ↔
            rowsOf email db c ∨ c = ⟨db.challenges.next, email, config.hashEmailOtp email code,
              attemptCount, db.now, expiresAt, none⟩ := fun c => by
          rw [rowsOf_insert, and_iff_left rfl]
        rw [LoginDb.nextChallenge?] at hNext
        cases hActive : db.activeChallenge? email with
        | none =>
            rw [hActive] at hNext
            cases hNext
            have hNone : ∀ c, rowsOf email db c → ¬ c.IsOpen db.now :=
              fun c hc => none_open_of_activeChallenge? h.windows hKeeps hActive hc
            exact Guarded.fresh h lifetime_nonneg hNone hRows hBefore rfl rfl rfl
        | some active =>
            rw [hActive] at hNext
            dsimp only at hNext
            split at hNext
            · cases hNext
            · cases hNext
              rw [LoginDb.activeChallenge?, Option.filter_eq_some_iff] at hActive
              exact Guarded.resend h lifetime_nonneg (isLatest_of_find hActive.1)
                (lt_of_lt_of_le (of_decide_eq_true hActive.2) dateParse_le) hRows hBefore rfl rfl
                rfl rfl
      · refine h.congr rfl ?_ (sinceLogin_other hEmail)
        funext c
        rw [rowsOf_insert, eq_iff_iff]
        exact ⟨fun hRow => hRow.resolve_right fun hNew => hEmail hNew.2, .inl⟩

/-- A verification does nothing, or compares the code with the hash of the latest challenge: this
counts the rejection, or the address logs in. -/
theorem verify_cases {signsIn : Bool} :
    (db.perform config (.verify email code signsIn) = db ∧
      db.record? config (.verify email code signsIn) = none) ∨
    ∃ c, IsLatest (rowsOf email db) c ∧ c.attemptCount < 5 ∧ jsDate db.now < c.expiresAt ∧
      ((db.perform config (.verify email code signsIn) =
          db.incrementEmailLoginChallengeAttempts c.id ∧
        db.record? config (.verify email code signsIn) =
          some (.rejected email (jsDate db.now) c.expiresAt)) ∨
      (db.perform config (.verify email code signsIn) =
          (db.consumeEmailLoginChallenge c.id).consumeOpenEmailLoginChallenges email ∧
        db.record? config (.verify email code signsIn) = some (.succeeded email))) := by
  rw [LoginDb.perform, LoginDb.verifyEmailLoginCode, LoginDb.record?, LoginDb.comparedChallenge?]
  by_cases hOtp : isOtp code = true
  · rw [if_pos hOtp, if_pos hOtp]
    cases hFind : db.findLatestEmailLoginChallengeForUpdate email with
    | none => exact .inl ⟨rfl, rfl⟩
    | some c =>
        by_cases hMany : 5 ≤ c.attemptCount
        · refine .inl ⟨by simp [hMany], ?_⟩
          simp [Option.filter, Nat.not_lt.2 hMany]
        · have hFew : c.attemptCount < 5 := Nat.lt_of_not_le hMany
          by_cases hExpired : dateParse c.expiresAt ≤ jsDate db.now
          · refine .inl ⟨by simp [hMany, hExpired], ?_⟩
            simp [Option.filter, hFew, not_lt_of_ge hExpired]
          · have hBefore : jsDate db.now < dateParse c.expiresAt := lt_of_not_ge hExpired
            have hLive : jsDate db.now < c.expiresAt := lt_of_lt_of_le hBefore dateParse_le
            have hCompared : (some c).filter (fun c => c.attemptCount < 5 ∧
                jsDate db.now < dateParse c.expiresAt) = some c := by
              simp [Option.filter, hFew, hBefore]
            rw [hCompared]
            dsimp only
            rw [if_neg hMany, if_neg hExpired]
            split
            · exact .inr ⟨c, isLatest_of_find hFind, hFew, hLive, .inl ⟨rfl, rfl⟩⟩
            · split
              · exact .inr ⟨c, isLatest_of_find hFind, hFew, hLive, .inr ⟨rfl, rfl⟩⟩
              · exact .inl ⟨rfl, rfl⟩
  · rw [if_neg hOtp, if_neg hOtp]
    exact .inl ⟨rfl, rfl⟩

theorem mem_incrementAttempts :
    c' ∈ (db.incrementEmailLoginChallengeAttempts id).challenges.rows ↔ ∃ c ∈ db.challenges.rows,
      (if c.id = id then { c with attemptCount := c.attemptCount + 1 } else c) = c' := by
  rw [LoginDb.incrementEmailLoginChallengeAttempts, SerialTable.mem_update]

theorem mem_consume :
    c' ∈ (db.consumeEmailLoginChallenge id).challenges.rows ↔ ∃ c ∈ db.challenges.rows,
      (if c.id = id then { c with consumedAt := some db.now } else c) = c' := by
  rw [LoginDb.consumeEmailLoginChallenge, SerialTable.mem_update]

/-- What a login does to a challenge. -/
def EmailLoginChallenge.afterLogin (c : EmailLoginChallenge) (db : LoginDb) (id : ChallengeId)
    (email : String) : EmailLoginChallenge :=
  { c with
    consumedAt :=
      if c.id = id ∨ c.email = email ∧ c.consumedAt = none ∧
          db.now - 1800 * 1000000 ≤ c.createdAt ∧ db.now < c.expiresAt then some db.now
      else c.consumedAt }

theorem mem_login :
    c' ∈ ((db.consumeEmailLoginChallenge id).consumeOpenEmailLoginChallenges
        email).challenges.rows ↔
      ∃ c ∈ db.challenges.rows, c.afterLogin db id email = c' := by
  have hBoth : ∀ c : EmailLoginChallenge,
      (let d := if c.id = id then { c with consumedAt := some db.now } else c
      if d.email = email ∧ d.consumedAt = none ∧ db.now - 1800 * 1000000 ≤ d.createdAt ∧
          db.now < d.expiresAt then { d with consumedAt := some db.now } else d) =
        c.afterLogin db id email := by
    intro c
    by_cases hId : c.id = id
    · simp [EmailLoginChallenge.afterLogin, hId]
    · simp only [EmailLoginChallenge.afterLogin, hId, if_false, false_or]
      split <;> rfl
  rw [LoginDb.consumeOpenEmailLoginChallenges, SerialTable.mem_modify]
  constructor
  · rintro ⟨d, hd, rfl⟩
    obtain ⟨c, hc, rfl⟩ := mem_consume.1 hd
    exact ⟨c, hc, (hBoth c).symm⟩
  · rintro ⟨c, hc, rfl⟩
    exact ⟨_, mem_consume.2 ⟨c, hc, rfl⟩, hBoth c⟩

theorem rowsOf_login :
    rowsOf address ((db.consumeEmailLoginChallenge id).consumeOpenEmailLoginChallenges email) c' ↔
      ∃ c, rowsOf address db c ∧ c.afterLogin db id email = c' := by
  rw [rowsOf, mem_login]
  constructor
  · rintro ⟨⟨c, hc, rfl⟩, hAddress⟩
    exact ⟨c, ⟨hc, hAddress⟩, rfl⟩
  · rintro ⟨c, ⟨hc, hAddress⟩, rfl⟩
    exact ⟨⟨c, hc, rfl⟩, hAddress⟩

theorem rewrites_afterLogin : EmailLoginChallenge.Rewrites (·.afterLogin db id email) := by
  refine fun c => ⟨rfl, rfl, fun hNone => ?_⟩
  simp only [EmailLoginChallenge.afterLogin] at hNone
  split at hNone
  · cases hNone
  · exact hNone

theorem rowsOf_login_other (hc : rowsOf email db c) (hOther : email ≠ address) :
    rowsOf address ((db.consumeEmailLoginChallenge c.id).consumeOpenEmailLoginChallenges email) =
      rowsOf address db := by
  have hKept : ∀ d, rowsOf address db d → d.afterLogin db c.id email = d := by
    intro d hd
    have hId : d.id ≠ c.id := by
      intro hSame
      have hRow : d = c := SerialTable.row_unique hd.1 hc.1 hSame
      exact hOther (by rw [← hc.2, ← hd.2, hRow])
    have hAddress : d.email ≠ email := fun hSame => hOther (hSame.symm.trans hd.2)
    simp [EmailLoginChallenge.afterLogin, hId, hAddress]
  funext d
  rw [rowsOf_login, eq_iff_iff]
  constructor
  · rintro ⟨d, hd, rfl⟩
    rwa [hKept d hd]
  · exact fun hd => ⟨d, hd, hKept d hd⟩

theorem GuardedFor.verify {signsIn : Bool} (h : GuardedFor config address db log) :
    GuardedFor config address (db.perform config (.verify email code signsIn))
      ((db.record? config (.verify email code signsIn)).toList ++ log) := by
  rcases @verify_cases db email code config signsIn with ⟨hDb, hRecord⟩ | ⟨c, hLatest, hFew, hLive,
    ⟨hDb, hRecord⟩ | ⟨hDb, hRecord⟩⟩
  · rw [hDb, hRecord]
    exact h
  · rw [hDb, hRecord, Option.toList_some, List.singleton_append]
    by_cases hEmail : email = address
    · subst hEmail
      have hLog : sinceLogin email (.rejected email (jsDate db.now) c.expiresAt :: log) =
          .rejected email (jsDate db.now) c.expiresAt :: sinceLogin email log :=
        sinceLogin_cons rfl nofun
      rw [GuardedFor, hLog]
      refine Guarded.reject h lifetime_nonneg hLatest hLive hFew (fun d => ?_) ?_
        fun c' => rowsOf_update (fun _ => mem_incrementAttempts) fun _ => rfl
      · split <;> exact ⟨rfl, rfl, rfl⟩
      · rw [if_pos rfl]
    · refine h.congr rfl ?_ (sinceLogin_other hEmail)
      exact rowsOf_update_other (fun _ => mem_incrementAttempts) (fun _ => rfl) hLatest.mem rfl
        hEmail
  · rw [hDb, hRecord, Option.toList_some, List.singleton_append]
    by_cases hEmail : email = address
    · subst hEmail
      rw [GuardedFor, sinceLogin_success]
      exact Guarded.login h rewrites_afterLogin fun c' => rowsOf_login
    · exact h.congr rfl (rowsOf_login_other hLatest.mem hEmail) (sinceLogin_other hEmail)

/-! ### Deliveries that fail -/

/-- What a failed delivery does to a challenge, where `previous?` is the latest after that. -/
def EmailLoginChallenge.afterFailure (c : EmailLoginChallenge) (now : Timestamp)
    (failed : EmailLoginChallenge) (previous? : Option EmailLoginChallenge) :
    EmailLoginChallenge :=
  { c with
    consumedAt := if c.id = failed.id then some now else c.consumedAt
    attemptCount :=
      if ∃ previous ∈ previous?, c.id = previous.id ∧
          previous.attemptCount < failed.attemptCount then
        max c.attemptCount failed.attemptCount
      else c.attemptCount }

section

variable {failed : EmailLoginChallenge} {previous? : Option EmailLoginChallenge}

theorem consumedAt_afterFailure :
    (c.afterFailure now failed previous?).consumedAt = none ↔
      c.consumedAt = none ∧ c.id ≠ failed.id := by
  simp only [EmailLoginChallenge.afterFailure]
  split
  · rename_i hSame
    simp [hSame]
  · rename_i hOther
    simp [hOther]

theorem rewrites_afterFailure :
    EmailLoginChallenge.Rewrites (·.afterFailure now failed previous?) :=
  fun _ => ⟨rfl, rfl, fun hNone => (consumedAt_afterFailure.1 hNone).1⟩

theorem attemptCount_le_afterFailure :
    c.attemptCount ≤ (c.afterFailure now failed previous?).attemptCount := by
  simp only [EmailLoginChallenge.afterFailure]
  split
  · exact le_max_left _ _
  · exact le_rfl

theorem afterFailure_of_enough
    (h : ∀ previous ∈ previous?, ¬ previous.attemptCount < failed.attemptCount) :
    (if c.id = failed.id then { c with consumedAt := some now } else c) =
      c.afterFailure now failed previous? := by
  have hNone : ¬ ∃ previous ∈ previous?, c.id = previous.id ∧
      previous.attemptCount < failed.attemptCount :=
    fun ⟨previous, hPrevious, _, hFewer⟩ => h previous hPrevious hFewer
  simp only [EmailLoginChallenge.afterFailure, if_neg hNone]
  split <;> rfl

theorem afterFailure_of_fewer {previous : EmailLoginChallenge}
    (h : previous.attemptCount < failed.attemptCount) :
    (let d := if c.id = failed.id then { c with consumedAt := some now } else c
    if d.id = previous.id then { d with attemptCount := max d.attemptCount failed.attemptCount }
    else d) = c.afterFailure now failed (some previous) := by
  simp only [EmailLoginChallenge.afterFailure, Option.mem_some_iff, exists_eq_left', h, and_true]
  split <;> split <;> rfl

theorem mem_failSending (hSending : id ∈ db.sending) (hFind : db.challenges.find? id = some failed)
    (hPrevious : ((db.finishSending id).consumeEmailLoginChallenge
      id).findLatestEmailLoginChallengeForUpdate failed.email = previous?) :
    c' ∈ (db.failSending id).challenges.rows ↔
      ∃ c ∈ db.challenges.rows, c.afterFailure db.now failed previous? = c' := by
  obtain rfl : failed.id = id := (SerialTable.find?_eq_some hFind).2
  have hFind' : (db.finishSending failed.id).challenges.find? failed.id = some failed := hFind
  have hConsume : ∀ {c'}, c' ∈ ((db.finishSending failed.id).consumeEmailLoginChallenge
      failed.id).challenges.rows ↔ ∃ c ∈ db.challenges.rows,
        (if c.id = failed.id then { c with consumedAt := some db.now } else c) = c' := mem_consume
  rw [LoginDb.failSending, if_pos hSending]
  dsimp only
  rw [hFind']
  dsimp only
  rw [hPrevious]
  cases previous? with
  | none =>
      have hEnough : ∀ p : EmailLoginChallenge, p ∈ (none : Option EmailLoginChallenge) →
          ¬ p.attemptCount < failed.attemptCount := nofun
      rw [hConsume]
      refine exists_congr fun c => and_congr_right fun _ => ?_
      rw [afterFailure_of_enough hEnough]
  | some previous =>
      dsimp only
      split
      · rename_i hFewer
        rw [LoginDb.raiseEmailLoginChallengeAttempts, SerialTable.mem_update]
        constructor
        · rintro ⟨d, hd, rfl⟩
          obtain ⟨c, hc, rfl⟩ := hConsume.1 hd
          exact ⟨c, hc, (afterFailure_of_fewer hFewer).symm⟩
        · rintro ⟨c, hc, rfl⟩
          exact ⟨_, hConsume.2 ⟨c, hc, rfl⟩, afterFailure_of_fewer hFewer⟩
      · rename_i hEnough
        have hEnough' : ∀ p ∈ some previous, ¬ p.attemptCount < failed.attemptCount := by
          rintro _ ⟨⟩
          exact hEnough
        rw [hConsume]
        refine exists_congr fun c => and_congr_right fun _ => ?_
        rw [afterFailure_of_enough hEnough']

theorem rowsOf_failSending (hSending : id ∈ db.sending)
    (hFind : db.challenges.find? id = some failed)
    (hPrevious : ((db.finishSending id).consumeEmailLoginChallenge
      id).findLatestEmailLoginChallengeForUpdate failed.email = previous?) :
    rowsOf address (db.failSending id) c' ↔
      ∃ c, rowsOf address db c ∧ c.afterFailure db.now failed previous? = c' := by
  rw [rowsOf, mem_failSending hSending hFind hPrevious]
  constructor
  · rintro ⟨⟨c, hc, rfl⟩, hAddress⟩
    exact ⟨c, ⟨hc, hAddress⟩, rfl⟩
  · rintro ⟨c, ⟨hc, hAddress⟩, rfl⟩
    exact ⟨⟨c, hc, rfl⟩, hAddress⟩

theorem now_failSending (hSending : id ∈ db.sending) : (db.failSending id).now = db.now := by
  rw [LoginDb.failSending, if_pos hSending]
  dsimp only
  split
  · split
    · split <;> rfl
    · rfl
  · rfl

theorem rowsOf_failSending_other (hSending : id ∈ db.sending)
    (hFind : db.challenges.find? id = some failed)
    (hPrevious : ((db.finishSending id).consumeEmailLoginChallenge
      id).findLatestEmailLoginChallengeForUpdate failed.email = previous?)
    (hEmail : failed.email ≠ address) :
    rowsOf address (db.failSending id) = rowsOf address db := by
  obtain ⟨hMem, -⟩ := SerialTable.find?_eq_some hFind
  have hKept : ∀ d, rowsOf address db d → d.afterFailure db.now failed previous? = d := by
    intro d hd
    have hOther : d.id ≠ failed.id := by
      intro hSame
      exact hEmail (by rw [← hd.2, SerialTable.row_unique hd.1 hMem hSame])
    cases previous? with
    | none => simp [EmailLoginChallenge.afterFailure, hOther]
    | some previous =>
        have hPreviousEmail := (isLatest_of_find hPrevious).mem.2
        obtain ⟨p, hp, hEq⟩ := mem_consume.1 (isLatest_of_find hPrevious).mem.1
        have hOther' : d.id ≠ previous.id := by
          intro hSame
          have hpId : p.id = previous.id := by
            rw [← hEq]
            split <;> rfl
          have hpEmail : p.email = failed.email := by
            rw [← hPreviousEmail, ← hEq]
            split <;> rfl
          have hRow : d = p := SerialTable.row_unique hd.1 hp (hSame.trans hpId.symm)
          exact hEmail (by rw [← hpEmail, ← hd.2, hRow])
        simp [EmailLoginChallenge.afterFailure, hOther, hOther']
  funext d
  rw [rowsOf_failSending hSending hFind hPrevious, eq_iff_iff]
  constructor
  · rintro ⟨d, hd, rfl⟩
    rwa [hKept d hd]
  · exact fun hd => ⟨d, hd, hKept d hd⟩

theorem handed_afterFailure (hWindows : Windows lifetime db.now (rowsOf failed.email db))
    (hSending : id ∈ db.sending) (hFind : db.challenges.find? id = some failed)
    (hPrevious : ((db.finishSending id).consumeEmailLoginChallenge
      id).findLatestEmailLoginChallengeForUpdate failed.email = previous?)
    (hc : rowsOf failed.email db c)
    (hLatest : IsLatest (rowsOf failed.email (db.failSending id))
      (c.afterFailure db.now failed previous?)) :
    failed.attemptCount ≤ (c.afterFailure db.now failed previous?).attemptCount := by
  have hId : failed.id = id := (SerialTable.find?_eq_some hFind).2
  obtain ⟨hUnconsumed, hOther⟩ := consumedAt_afterFailure.1 hLatest.unconsumed
  have hRow : rowsOf failed.email ((db.finishSending id).consumeEmailLoginChallenge id) c := by
    refine ⟨mem_consume.2 ⟨c, hc.1, if_neg ?_⟩, hc.2⟩
    rwa [← hId]
  cases previous? with
  | none => exact absurd hUnconsumed (consumed_of_find_none hPrevious hRow)
  | some previous =>
      have hIsLatest := isLatest_of_find hPrevious
      obtain ⟨⟨hMem, hEmail⟩, hNone, hLater⟩ := hIsLatest
      obtain ⟨p, hp, hEq⟩ := mem_consume.1 hMem
      have hpId : p.id ≠ failed.id := by
        intro hSame
        rw [if_pos (hSame.trans hId)] at hEq
        rw [← hEq] at hNone
        cases hNone
      rw [if_neg fun hSame => hpId (hSame.trans hId.symm)] at hEq
      subst hEq
      have hpRow : rowsOf failed.email db p := ⟨hp, hEmail⟩
      have hBefore := hLatest.latest (p.afterFailure db.now failed (some p))
        ((rowsOf_failSending hSending hFind hPrevious).2 ⟨p, hpRow, rfl⟩)
        (consumedAt_afterFailure.2 ⟨hNone, hpId⟩)
      rw [(rewrites_afterFailure p).1, (rewrites_afterFailure c).1] at hBefore
      have hSame : c = p :=
        hWindows.distinct c p hc hpRow (le_antisymm (hLater c hRow hUnconsumed) hBefore)
      subst hSame
      simp only [EmailLoginChallenge.afterFailure]
      split
      · exact le_max_right _ _
      · rename_i hEnough
        exact Nat.le_of_not_lt fun hFewer => hEnough ⟨c, rfl, rfl, hFewer⟩

end

theorem GuardedFor.failSending (h : GuardedFor config address db log)
    (hKeeps : db.KeepsWindow (.failSending id)) :
    GuardedFor config address (db.failSending id) log := by
  by_cases hSending : id ∈ db.sending
  · cases hFind : db.challenges.find? id with
    | none =>
        have hSame : db.failSending id = db.finishSending id := by
          have hFind' : (db.finishSending id).challenges.find? id = none := hFind
          rw [LoginDb.failSending, if_pos hSending]
          dsimp only
          rw [hFind']
        rw [hSame]
        exact h.congr rfl rfl rfl
    | some failed =>
        obtain ⟨hMem, hId⟩ := SerialTable.find?_eq_some hFind
        have hNow : (db.failSending id).now = db.now := now_failSending hSending
        obtain ⟨previous?, hPrevious⟩ : ∃ previous?, ((db.finishSending
          id).consumeEmailLoginChallenge id).findLatestEmailLoginChallengeForUpdate failed.email =
            previous? := ⟨_, rfl⟩
        by_cases hEmail : failed.email = address
        · subst hEmail
          rw [GuardedFor, hNow]
          refine Guarded.fail (F := (·.afterFailure db.now failed previous?)) h
            rewrites_afterFailure (fun d => consumedAt_afterFailure)
            (fun d => attemptCount_le_afterFailure) ⟨hMem, rfl⟩
            (fun d hd hSame => SerialTable.row_unique hd.1 hMem hSame)
            (fun d' => rowsOf_failSending hSending hFind hPrevious)
            (fun d hd hLatest => handed_afterFailure h.windows hSending hFind hPrevious hd hLatest)
            fun hOpen => ?_
          obtain ⟨d, hd, hSame, hOther, hOpen'⟩ :=
            hKeeps hSending failed hMem hId hOpen.1 hOpen.2
          exact ⟨d, ⟨hd, hSame⟩, hId ▸ hOther, hOpen'⟩
        · exact h.congr hNow (rowsOf_failSending_other hSending hFind hPrevious hEmail) rfl
  · rw [LoginDb.failSending, if_neg hSending]
    exact h

/-! ### Runs -/

variable {s s' : LoginSystem} {e : LoginEvent} {es : List LoginEvent}

theorem GuardedFor.empty : GuardedFor config address LoginSystem.empty.db [] where
  windows :=
    { distinct := fun _ _ hc => by cases hc.1
      created := fun _ hc => by cases hc.1
      expiry := fun _ hc => by cases hc.1
      ordered := fun _ _ hc => by cases hc.1
      openMost := fun _ _ hc => by cases hc.1 }
  noted := .nil
  attempts _ _ _ := Nat.zero_le _
  stillOpen _ ht := by cases ht
  openApart _ hc := by cases hc.1

/-- Each transaction keeps the count, if a delivery that fails hands it back. -/
theorem GuardedFor.step (h : GuardedFor config address s.db s.log)
    (hKeeps : { s.db with now := e.now }.KeepsWindow e.action)
    (hStep : LoginSystem.step config s e = some s') :
    GuardedFor config address s'.db s'.log := by
  rw [LoginSystem.step] at hStep
  split at hStep
  · rename_i hNow
    cases hStep
    have hTimed : GuardedFor config address { s.db with now := e.now } s.log :=
      Guarded.tick h hNow.le
    have hBefore : ∀ c, rowsOf address { s.db with now := e.now } c → c.createdAt < e.now :=
      fun c hc => lt_of_le_of_lt (h.windows.created c hc) hNow
    cases hAction : e.action with
    | request email code =>
        rw [hAction] at hKeeps
        exact hTimed.request hKeeps hBefore
    | finishSending id => exact hTimed.congr rfl rfl rfl
    | failSending id =>
        rw [hAction] at hKeeps
        exact hTimed.failSending hKeeps
    | verify email code signsIn => exact hTimed.verify
  · cases hStep

/-- A code is good for ten minutes, and its hash is the code itself. -/
def sampleConfig : EmailLoginConfig := ⟨fun _ code => code, 600⟩

/-- A request at the given millisecond, and five wrong guesses in the next ones. -/
def guessRound (start : Int) : List LoginEvent :=
  ⟨start * 1000, .request "a@b.c" "123456"⟩ ::
    [1, 2, 3, 4, 5].map fun i => ⟨(start + i) * 1000, .verify "a@b.c" "000000" true⟩

/-- The second code is issued 300 ms before the first one expires. -/
example : ∃ s ∈ run (LoginSystem.step sampleConfig) LoginSystem.empty
    [⟨500000, .request "a@b.c" "123456"⟩, ⟨600200000, .request "a@b.c" "654321"⟩],
    sinceLogin "a@b.c" s.log =
      [.issued "a@b.c" 600200000 1200200000, .issued "a@b.c" 500000 600500000] := by
  decide +kernel

end Hyperspace.Auth
