import Hyperspace.Provisioning.Configs

/-!
# Downloads of configs

A user asks for a download token for the config of a session. The call first looks for the
artifact and then inserts the token, in two statements without a transaction, and whoever has the
token can download the config until the token expires.
-/

namespace Hyperspace.Provisioning

open Hyperspace.Billing (AccountId Identifier SessionId Timestamp jsDate)
open Hyperspace.ControlPlane Hyperspace.Foundations

abbrev TokenHash := String

/-- The place of the row of an artifact. No transaction deletes a row that there can be. -/
abbrev ArtifactId := Nat

/-- Who asks for an artifact. -/
structure PublicArtifactActor where
  id : Identifier
  accountId : AccountId
  deriving DecidableEq, Repr

/-- A row of `artifact_download_tokens`. -/
structure ArtifactDownloadToken where
  tokenHash : TokenHash
  artifactId : ArtifactId
  subjectUserId : Identifier
  expiresAt : Timestamp
  usedAt : Option Timestamp
  revokedAt : Option Timestamp
  deriving DecidableEq, Repr

/-- What a call of `issueClientConfigDownloadToken` has found when it makes a token. -/
structure TokenRequest where
  artifactId : ArtifactId
  subjectUserId : Identifier
  deriving DecidableEq, Repr

/-- The database with the tokens, and the calls that have not yet inserted theirs. -/
structure DownloadDb where
  control : ProvisioningDb
  tokens : Table ArtifactDownloadToken.tokenHash
  requests : List TokenRequest

def emptyDownloadDb : DownloadDb := ⟨emptyDb, ∅, []⟩

/-- An artifact that is not invalidated is in one of the phases that the query asks for. -/
def ProvisioningDb.selectLatestClientConfigArtifactForSession (db : ProvisioningDb)
    (accountId : AccountId) (sessionId : SessionId) : Option ArtifactId :=
  match db.session? sessionId with
  | some s =>
    if s.accountId = some accountId ∧ s.hiddenAt = none then
      (db.artifacts.zipIdx.reverse.find? fun row =>
        row.1.sessionId = sessionId && row.1.invalidatedAt.isNone).map (·.2)
    else none
  | none => none

/-- What redeeming a token answers. -/
inductive RedeemResult where
  | notFound
  | encryptionNotConfigured
  | payload (artifact : ClientConfigArtifact)

def RedeemResult.artifact? : RedeemResult → Option ClientConfigArtifact
  | .payload artifact => some artifact
  | .notFound | .encryptionNotConfigured => none

namespace DownloadDb

variable (s : DownloadDb)

def atTime (now : Timestamp) : DownloadDb := { s with control := s.control.atTime now }

/-- `none` where the hash of the token is taken: the insert throws. -/
def insertArtifactDownloadToken (request : TokenRequest) (tokenHash : TokenHash)
    (ttlSeconds : Nat) : Option DownloadDb :=
  (s.tokens.insert
    { tokenHash
      artifactId := request.artifactId
      subjectUserId := request.subjectUserId
      expiresAt := jsDate (s.control.now + ttlSeconds * second)
      usedAt := none
      revokedAt := none }).map fun tokens => { s with tokens }

def findLatestClientConfigArtifactForSession (actor : PublicArtifactActor)
    (sessionId : SessionId) : DownloadDb :=
  match s.control.selectLatestClientConfigArtifactForSession actor.accountId sessionId with
  | some artifactId => { s with requests := ⟨artifactId, actor.id⟩ :: s.requests }
  | none => s

def createArtifactDownloadToken (request : TokenRequest) (tokenHash : TokenHash)
    (ttlSeconds : Nat) : DownloadDb :=
  if request ∈ s.requests then
    { (s.insertArtifactDownloadToken request tokenHash ttlSeconds).getD s with
      requests := s.requests.erase request }
  else s

def revokeExpiredArtifactDownloadTokens : DownloadDb :=
  { s with
    tokens := s.tokens.modify
      (fun token =>
        if token.revokedAt = none ∧ token.expiresAt ≤ s.control.now then
          { token with revokedAt := some s.control.now }
        else token)
      fun token => by split <;> rfl }

def redeemArtifactDownloadTokenRow (tokenHash : TokenHash) :
    Option (ClientConfigArtifact × DownloadDb) := do
  let token ← s.tokens.find? tokenHash
  let artifact ← s.control.artifacts[token.artifactId]?
  if s.control.now < token.expiresAt ∧ token.revokedAt = none ∧ artifact.invalidatedAt = none then
    some (artifact, { s with
      tokens := s.tokens.update tokenHash
        (fun token => { token with usedAt := token.usedAt.or (some s.control.now) }) fun _ => rfl })
  else none

/-- `keyConfigured` says whether the API has the key of the payloads. -/
def redeemArtifactDownloadToken (keyConfigured : Bool) (tokenHash : TokenHash) :
    RedeemResult × DownloadDb :=
  match s.redeemArtifactDownloadTokenRow tokenHash with
  | none => (.notFound, s)
  | some (artifact, s') =>
    (if keyConfigured then .payload artifact else .encryptionNotConfigured, s')

end DownloadDb

/-- What can happen next: a transaction of the control plane, the two statements of a call for a
token, a download and the clean-up. -/
inductive DownloadAction where
  | control (action : Action)
  | request (actor : PublicArtifactActor) (sessionId : SessionId)
  | issue (request : TokenRequest) (tokenHash : TokenHash)
  | redeem (tokenHash : TokenHash)
  | revokeExpired

structure DownloadEvent where
  now : Timestamp
  action : DownloadAction

/-- The environment's settings of downloads. -/
structure DownloadConfig where
  reconcile : SessionReconcileConfig
  downloadTokenTtlSeconds : Nat
  keyConfigured : Bool

namespace DownloadDb

def perform (config : DownloadConfig) (s : DownloadDb) : DownloadAction → DownloadDb
  | .control action => { s with control := s.control.perform config.reconcile action }
  | .request actor sessionId => s.findLatestClientConfigArtifactForSession actor sessionId
  | .issue request tokenHash =>
    s.createArtifactDownloadToken request tokenHash config.downloadTokenTtlSeconds
  | .redeem tokenHash => (s.redeemArtifactDownloadToken config.keyConfigured tokenHash).2
  | .revokeExpired => s.revokeExpiredArtifactDownloadTokens

def step (config : DownloadConfig) (s : DownloadDb) (e : DownloadEvent) : Option DownloadDb :=
  if s.control.now < e.now then some ((s.atTime e.now).perform config e.action) else none

end DownloadDb

/-! ### What a download shows -/

namespace ProvisioningDb

variable {db : ProvisioningDb} {a : ClientConfigArtifact} {n : ArtifactId}

/-- The session belongs to the account of the actor, who sees it. -/
def OwnedBy (db : ProvisioningDb) (actor : PublicArtifactActor) (sessionId : SessionId) : Prop :=
  ∃ s ∈ db.session? sessionId, s.accountId = some actor.accountId ∧ s.hiddenAt = none

/-- The session has not been revoked yet, it holds the address of the config, which is that of the
plan that the config was made from, and no other config that can be downloaded is of this session
or has this address. -/
structure Delivers (db : ProvisioningDb) (a : ClientConfigArtifact) : Prop where
  session : ∃ s ∈ db.session? a.sessionId, s.IsConfigured
  address : db.activeAddress? a.sessionId = some a.clientAddress
  plan : ∃ p ∈ db.plan? (a.sessionId, a.generation),
    p.clientAddress = a.clientAddress ∧ p.clientTunnel = a.clientTunnel
  only : ∀ b ∈ db.artifacts, b.invalidatedAt = none →
    b.sessionId = a.sessionId ∨ b.clientAddress = a.clientAddress → b = a

theorem selectLatest_eq_some {accountId : AccountId} {sessionId : SessionId}
    (h : db.selectLatestClientConfigArtifactForSession accountId sessionId = some n) :
    (∃ s ∈ db.session? sessionId, s.accountId = some accountId ∧ s.hiddenAt = none) ∧
      ∃ a, db.artifacts[n]? = some a ∧ a.sessionId = sessionId ∧ a.invalidatedAt = none := by
  rw [selectLatestClientConfigArtifactForSession] at h
  cases hSession : db.session? sessionId with
  | none =>
      rw [hSession] at h
      cases h
  | some s =>
      rw [hSession] at h
      dsimp only at h
      split at h
      · rename_i hOwned
        obtain ⟨⟨a, m⟩, hFound, rfl⟩ := Option.map_eq_some_iff.1 h
        have hRow := List.mem_reverse.1 (List.mem_of_find?_eq_some hFound)
        have hWanted := List.find?_some hFound
        simp only [Bool.and_eq_true, decide_eq_true_eq, Option.isNone_iff_eq_none] at hWanted
        exact ⟨⟨s, rfl, hOwned⟩, a, List.mk_mem_zipIdx_iff_getElem?.1 hRow, hWanted⟩
      · cases h

theorem lease_of_activeAddress {sid : SessionId} {address : ClientAddress}
    (h : db.activeAddress? sid = some address) :
    ∃ l ∈ db.leases, l.releasedAt = none ∧ l.sessionId = sid ∧ l.clientAddress = address := by
  obtain ⟨l, hl, rfl⟩ := Option.map_eq_some_iff.1 h
  have hFound := List.find?_some hl
  simp only [Bool.and_eq_true, decide_eq_true_eq, Option.isNone_iff_eq_none] at hFound
  exact ⟨l, List.mem_of_find?_eq_some hl, hFound.2, hFound.1, rfl⟩

theorem ConfigsSound.delivers (h : db.ConfigsSound) (ha : db.artifacts[n]? = some a)
    (hValid : a.invalidatedAt = none) : db.Delivers a := by
  have hRow : a ∈ db.artifacts := List.mem_of_getElem? ha
  have hHeld := h.held a hRow hValid
  refine ⟨hHeld.session, hHeld.address, hHeld.plan, fun b hb hNone hShared => ?_⟩
  refine h.one.eq_of_sessionId b hb a hRow hNone hValid ?_
  rcases hShared with hMine | hSame
  · exact hMine
  · obtain ⟨l, hl, hActive, hOurs, hAddress⟩ := lease_of_activeAddress hHeld.address
    obtain ⟨l', hl', hActive', hTheirs, hAddress'⟩ :=
      lease_of_activeAddress (h.held b hb hNone).address
    have hLease := h.leases l' hl' l hl hActive' hActive (by rw [hAddress, hAddress', hSame])
    exact hTheirs.symm.trans (hLease.trans hOurs)

end ProvisioningDb

namespace DownloadDb

variable {config : DownloadConfig} {s s' : DownloadDb} {e : DownloadEvent}
  {es es' : List DownloadEvent} {a : ClientConfigArtifact} {tokenHash : TokenHash}

/-! ### Steps -/

theorem step_eq_some (h : s.step config e = some s') :
    s.control.now < e.now ∧ s' = (s.atTime e.now).perform config e.action := by
  rw [step] at h
  split at h
  · rename_i hNow
    cases h
    exact ⟨hNow, rfl⟩
  · cases h

@[simp] theorem control_findLatest {actor : PublicArtifactActor} {sessionId : SessionId} :
    (s.findLatestClientConfigArtifactForSession actor sessionId).control = s.control := by
  rw [findLatestClientConfigArtifactForSession]
  split <;> rfl

theorem insertArtifactDownloadToken_eq_some {request : TokenRequest} {ttlSeconds : Nat}
    (h : s.insertArtifactDownloadToken request tokenHash ttlSeconds = some s') :
    s'.control = s.control ∧ s'.requests = s.requests ∧
      ∀ token ∈ s'.tokens.rows, token ∈ s.tokens.rows ∨ token.tokenHash = tokenHash ∧
        token.artifactId = request.artifactId ∧
        token.expiresAt = jsDate (s.control.now + ttlSeconds * second) := by
  obtain ⟨tokens, hTokens, rfl⟩ := Option.map_eq_some_iff.1 h
  refine ⟨rfl, rfl, fun token hToken => ?_⟩
  rcases (Table.mem_insert hTokens).1 hToken with hOld | rfl
  · exact .inl hOld
  · exact .inr ⟨rfl, rfl, rfl⟩

@[simp] theorem control_create {request : TokenRequest} {ttlSeconds : Nat} :
    (s.createArtifactDownloadToken request tokenHash ttlSeconds).control = s.control := by
  rw [createArtifactDownloadToken]
  split
  · cases hInserted : s.insertArtifactDownloadToken request tokenHash ttlSeconds with
    | none => rfl
    | some s' => exact (insertArtifactDownloadToken_eq_some hInserted).1
  · rfl

/-- A download of a valid config with a fresh token marks at most that the token is used. -/
theorem redeemArtifactDownloadTokenRow_eq_some
    (h : s.redeemArtifactDownloadTokenRow tokenHash = some (a, s')) :
    (∃ token ∈ s.tokens.rows, token.tokenHash = tokenHash ∧ s.control.now < token.expiresAt ∧
        s.control.artifacts[token.artifactId]? = some a ∧ a.invalidatedAt = none) ∧
      s'.control = s.control ∧ s'.requests = s.requests ∧
      ∀ token' ∈ s'.tokens.rows, ∃ token ∈ s.tokens.rows, token'.tokenHash = token.tokenHash ∧
        token'.artifactId = token.artifactId ∧ token'.expiresAt = token.expiresAt := by
  simp only [redeemArtifactDownloadTokenRow, bind, Option.bind_eq_some_iff] at h
  obtain ⟨token, hToken, artifact, hArtifact, h⟩ := h
  split at h
  · rename_i hUsable
    cases h
    obtain ⟨hRow, hHash⟩ := Table.find?_eq_some_iff.1 hToken
    refine ⟨⟨token, hRow, hHash, hUsable.1, hArtifact, hUsable.2.2⟩, rfl, rfl, fun t' ht' => ?_⟩
    obtain ⟨t, ht, rfl⟩ := List.mem_map.1 ht'
    refine ⟨t, ht, ?_⟩
    split <;> exact ⟨rfl, rfl, rfl⟩
  · cases h

@[simp] theorem control_redeem {keyConfigured : Bool} :
    (s.redeemArtifactDownloadToken keyConfigured tokenHash).2.control = s.control := by
  rw [redeemArtifactDownloadToken]
  split
  · rfl
  · rename_i hRedeemed
    exact (redeemArtifactDownloadTokenRow_eq_some hRedeemed).2.1

/-- A step is a transaction of the control plane or leaves its tables alone. -/
theorem control_step (h : s.step config e = some s') :
    (∃ action, ProvisioningDb.step config.reconcile s.control ⟨e.now, action⟩ =
      some s'.control) ∨ s.control.now < e.now ∧ s'.control = s.control.atTime e.now := by
  obtain ⟨hNow, rfl⟩ := step_eq_some h
  cases hAction : e.action with
  | control action => exact .inl ⟨action, if_pos hNow⟩
  | request => exact .inr ⟨hNow, control_findLatest⟩
  | issue => exact .inr ⟨hNow, control_create⟩
  | redeem => exact .inr ⟨hNow, control_redeem⟩
  | revokeExpired => exact .inr ⟨hNow, rfl⟩

theorem configsSound_step (h : s.control.ConfigsSound) (hStep : s.step config e = some s') :
    s'.control.ConfigsSound ∧ ArtifactsGrow s.control.artifacts s'.control.artifacts := by
  rcases control_step hStep with ⟨action, hControl⟩ | ⟨hNow, hSame⟩
  · exact ⟨h.step hControl, ProvisioningDb.artifactsGrow_step h hControl⟩
  · rw [hSame]
    exact ⟨h.atTime hNow, .refl⟩

theorem configsSound_run (h : s.control.ConfigsSound) (hRun : run (step config) s es = some s') :
    s'.control.ConfigsSound ∧ ArtifactsGrow s.control.artifacts s'.control.artifacts := by
  refine @run_invariant _ _ _ (fun s' : DownloadDb => s'.control.ConfigsSound ∧
    ArtifactsGrow s.control.artifacts s'.control.artifacts) ?_ _ _ _ ⟨h, .refl⟩ hRun
  rintro s₁ e s₂ ⟨hSound, hGrow⟩ hStep
  obtain ⟨hSound', hGrow'⟩ := configsSound_step hSound hStep
  exact ⟨hSound', hGrow.trans hGrow'⟩

theorem configsSound_of_prefix (hPrefix : es' <+: es)
    (hEarlier : run (step config) emptyDownloadDb es' = some s')
    (hRun : run (step config) emptyDownloadDb es = some s) :
    s'.control.ConfigsSound ∧ ArtifactsGrow s'.control.artifacts s.control.artifacts := by
  obtain ⟨fs, rfl⟩ := hPrefix
  obtain ⟨s'', hFirst, hRest⟩ := run_append.1 hRun
  obtain rfl := Option.some.inj (hFirst.symm.trans hEarlier)
  have hSound := (configsSound_run ProvisioningDb.configsSound_emptyDb hEarlier).1
  exact ⟨hSound, (configsSound_run hSound hRest).2⟩

/-! ### Runs -/

/-- The run has an event in which a call finds the artifact of the request. -/
def Requested (config : DownloadConfig) (es : List DownloadEvent) (request : TokenRequest) : Prop :=
  ∃ before asked actor sessionId after s₀,
    es = before ++ ⟨asked, .request actor sessionId⟩ :: after ∧
    request.subjectUserId = actor.id ∧ run (step config) emptyDownloadDb before = some s₀ ∧
    s₀.control.selectLatestClientConfigArtifactForSession actor.accountId sessionId =
      some request.artifactId

theorem Requested.append {request : TokenRequest} {fs : List DownloadEvent}
    (h : Requested config es request) : Requested config (es ++ fs) request := by
  obtain ⟨before, asked, actor, sessionId, after, s₀, rfl, hFound⟩ := h
  exact ⟨before, asked, actor, sessionId, after ++ fs, s₀, by simp, hFound⟩

/-- The run has an event in which a call that found the artifact inserts the token. -/
def Issued (config : DownloadConfig) (es : List DownloadEvent) (token : ArtifactDownloadToken) :
    Prop :=
  ∃ before issued request after,
    es = before ++ ⟨issued, .issue request token.tokenHash⟩ :: after ∧
    Requested config before request ∧ token.artifactId = request.artifactId ∧
    token.expiresAt = jsDate (issued + config.downloadTokenTtlSeconds * second)

theorem Issued.append {token : ArtifactDownloadToken} {fs : List DownloadEvent}
    (h : Issued config es token) : Issued config (es ++ fs) token := by
  obtain ⟨before, issued, request, after, rfl, hRequested⟩ := h
  exact ⟨before, issued, request, after ++ fs, by simp, hRequested⟩

theorem Issued.of_eq {token token' : ArtifactDownloadToken} (h : Issued config es token)
    (hHash : token'.tokenHash = token.tokenHash) (hArtifact : token'.artifactId = token.artifactId)
    (hExpires : token'.expiresAt = token.expiresAt) : Issued config es token' := by
  rw [Issued, hHash, hArtifact, hExpires]
  exact h

/-- Where the calls and the tokens of a state come from. -/
structure Accounted (config : DownloadConfig) (es : List DownloadEvent) (s : DownloadDb) :
    Prop where
  requests : ∀ request ∈ s.requests, Requested config es request
  tokens : ∀ token ∈ s.tokens.rows, Issued config es token

theorem Accounted.append (h : Accounted config es s) {fs : List DownloadEvent} :
    Accounted config (es ++ fs) s :=
  ⟨fun request hRequest => (h.requests request hRequest).append,
    fun token hToken => (h.tokens token hToken).append⟩

theorem Accounted.step (h : Accounted config es s)
    (hRun : run (step config) emptyDownloadDb es = some s) (hStep : s.step config e = some s') :
    Accounted config (es ++ [e]) s' := by
  obtain ⟨hNow, rfl⟩ := step_eq_some hStep
  have hKept : Accounted config (es ++ [e]) (s.atTime e.now) :=
    ⟨h.append.requests, h.append.tokens⟩
  obtain ⟨now, action⟩ := e
  cases action with
  | control => exact ⟨hKept.requests, hKept.tokens⟩
  | request actor sessionId =>
      dsimp only [perform]
      rw [findLatestClientConfigArtifactForSession]
      split
      · rename_i artifactId hFound
        refine ⟨List.forall_mem_cons.2 ⟨?_, hKept.requests⟩, hKept.tokens⟩
        exact ⟨es, now, actor, sessionId, [], s, rfl, rfl, hRun, hFound⟩
      · exact hKept
  | issue request tokenHash =>
      dsimp only [perform]
      rw [createArtifactDownloadToken]
      split
      · rename_i hPending
        have hRequests : ∀ r ∈ s.requests.erase request, Requested config
            (es ++ [⟨now, .issue request tokenHash⟩]) r :=
          fun r hr => hKept.requests r (List.mem_of_mem_erase hr)
        cases hInserted : (s.atTime now).insertArtifactDownloadToken request tokenHash
            config.downloadTokenTtlSeconds with
        | none => exact ⟨hRequests, hKept.tokens⟩
        | some s' =>
            refine ⟨hRequests, fun token hToken => ?_⟩
            rcases (insertArtifactDownloadToken_eq_some hInserted).2.2 token hToken with
              hOld | ⟨hHash, hArtifact, hExpires⟩
            · exact hKept.tokens token hOld
            · exact ⟨es, now, request, [], by rw [hHash], h.requests request hPending, hArtifact,
                hExpires⟩
      · exact hKept
  | redeem tokenHash =>
      dsimp only [perform]
      rw [redeemArtifactDownloadToken]
      cases hRedeemed : (s.atTime now).redeemArtifactDownloadTokenRow tokenHash with
      | none => exact hKept
      | some redeemed =>
          obtain ⟨-, -, hRequests, hTokens⟩ := redeemArtifactDownloadTokenRow_eq_some hRedeemed
          refine ⟨fun r hr => hKept.requests r (hRequests ▸ hr), fun token' hToken' => ?_⟩
          obtain ⟨token, hToken, hHash, hArtifact, hExpires⟩ := hTokens token' hToken'
          exact (hKept.tokens token hToken).of_eq hHash hArtifact hExpires
  | revokeExpired =>
      refine ⟨hKept.requests, fun token' hToken' => ?_⟩
      obtain ⟨token, hToken, rfl⟩ := List.mem_map.1 hToken'
      split
      · exact (hKept.tokens token hToken).of_eq rfl rfl rfl
      · exact hKept.tokens token hToken

theorem accounted_run (hRun : run (step config) emptyDownloadDb es = some s) :
    Accounted config es s := by
  induction es using List.reverseRecOn generalizing s with
  | nil =>
      cases hRun
      exact ⟨by simp [emptyDownloadDb], by simp [emptyDownloadDb]⟩
  | append_singleton es e ih =>
      obtain ⟨s₁, hEarlier, hLast⟩ := run_append.1 hRun
      obtain ⟨s₂, hStep, hEnd⟩ := run_cons.1 hLast
      cases hEnd
      exact (ih hEarlier).step hEarlier hStep

/-- The user 3 of the account asks for a token of the active session. -/
def downloadRun : List DownloadEvent :=
  activeRun.map (fun e => ⟨e.now, .control e.action⟩) ++
    [⟨15, .request ⟨3, 7⟩ 1⟩, ⟨16, .issue ⟨0, 3⟩ "hash"⟩, ⟨17, .redeem "hash"⟩]

end DownloadDb

end Hyperspace.Provisioning
