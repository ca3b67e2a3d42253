import Hyperspace.Probes.CatalogSync

/-!
# Revoked tokens

A stored catalog that shows the core at one version is replaced by one that shows it at a later
version, as long as the syncs that reach the store last have not read the core first. Then a token
that the core has revoked is not accepted again until the core issues it again.
-/

namespace Hyperspace.Probes

open Hyperspace.Foundations

/-- What a node presents: its id and the digest of its token. -/
structure Credential where
  nodeId : Uuid
  tokenHash : String
  deriving DecidableEq, Repr

/-- A row of the catalog has the credential and is not revoked. -/
def ProbeCatalog.Holds (catalog : ProbeCatalog) (credential : Credential) : Prop :=
  ∃ row ∈ catalog.tokens.rows, row.probeNodeId = credential.nodeId ∧
    row.tokenHash = credential.tokenHash ∧ row.revokedAt = none

instance (catalog : ProbeCatalog) (credential : Credential) :
    Decidable (catalog.Holds credential) :=
  inferInstanceAs (Decidable (∃ row ∈ catalog.tokens.rows, _))

def ProbesStore.Holds (store : ProbesStore) (credential : Credential) : Prop :=
  match store with
  | .mongo stored => ∃ value ∈ stored, value.rows.Holds credential
  | .postgres probes => probes.Holds credential

section

variable {catalog probes snapshot : ProbeCatalog} {credential : Credential} {now : Milliseconds}
variable {functions : CatalogFunctions}

@[simp] theorem not_holds_empty : ¬ (∅ : ProbeCatalog).Holds credential := by
  rintro ⟨row, hRow, -⟩
  cases hRow

theorem ProbeCatalog.holds_of_admits {nodeId : Uuid} {tokenHash : String}
    (h : catalog.tokens.rows.any (·.admits now nodeId tokenHash)) :
    catalog.Holds ⟨nodeId, tokenHash⟩ := by
  obtain ⟨row, hRow, hAdmits⟩ := List.any_eq_true.1 h
  simp only [TradingProbeAuthToken.admits, Bool.and_eq_true, decide_eq_true_eq,
    Option.isNone_iff_eq_none] at hAdmits
  exact ⟨row, hRow, hAdmits.1.1.1, hAdmits.1.1.2, hAdmits.1.2⟩

/-! ### The mirrored tokens -/

theorem mem_upsertAll {ρ : Type} {key : ρ → Uuid} {conflict : ρ → ρ → Bool} {rows : List ρ}
    {table table' : Table key} (h : upsertAll conflict table rows = some table')
    (hKeys : (rows.map key).Nodup) {row : ρ} :
    row ∈ table'.rows ↔ row ∈ rows ∨ row ∈ table.rows ∧ key row ∉ rows.map key := by
  induction rows generalizing table with
  | nil =>
      cases h
      simp
  | cons first rest ih =>
      rw [upsertAll, List.foldlM_cons] at h
      obtain ⟨next, hNext, hRest⟩ := Option.bind_eq_some_iff.1 h
      rw [List.map_cons, List.nodup_cons] at hKeys
      split at hNext
      · cases hNext
      · cases hNext
        rw [ih hRest hKeys.2, Table.mem_upsert]
        simp only [List.map_cons, List.mem_cons, not_or]
        constructor
        · rintro (hRow | ⟨rfl | ⟨hRow, hFirst⟩, hFree⟩)
          · exact Or.inl (Or.inr hRow)
          · exact Or.inl (Or.inl rfl)
          · exact Or.inr ⟨hRow, hFirst, hFree⟩
        · rintro ((rfl | hRow) | ⟨hRow, hFirst, hFree⟩)
          · exact Or.inr ⟨Or.inl rfl, hKeys.1⟩
          · exact Or.inl hRow
          · exact Or.inr ⟨Or.inr ⟨hRow, hFirst⟩, hFree⟩

theorem ProbeCatalog.mem_tokens_mirror {probes' : ProbeCatalog}
    (h : probes.mirror snapshot = some probes') {row : TradingProbeAuthToken} :
    row ∈ probes'.tokens.rows ↔ row ∈ snapshot.tokens.rows := by
  simp only [mirror, Option.bind_eq_bind, Option.bind_eq_some_iff, Option.pure_def,
    Option.some.injEq] at h
  obtain ⟨gates, -, nodes, -, tokens, hTokens, rfl⟩ := h
  rw [Table.mem_filter, mem_upsertAll hTokens snapshot.tokens.keysNodup, decide_eq_true_eq]
  constructor
  · rintro ⟨hRow | ⟨-, hFree⟩, hKept⟩
    · exact hRow
    · exact absurd hKept hFree
  · intro hRow
    exact ⟨Or.inl hRow, .of_mem hRow⟩

/-! ### Writing and authenticating -/

namespace ProbesStore

variable {store store' : ProbesStore} {capturedAt : Milliseconds} {nodeName nodeToken : String}
variable {node : AuthenticatedTradingProbeNode}

theorem holds_write (h : store.write functions snapshot capturedAt = .ok store') :
    store'.Holds credential ↔
      if store.takesWrite capturedAt then snapshot.Holds credential
        else store.Holds credential := by
  cases store with
  | mongo stored =>
      rw [write, MongoProbeStore.replaceCatalog, takesWrite] at *
      split at h
      · cases h
      · split at h
        · rename_i hOlder
          cases h
          simp [hOlder, ProbesStore.Holds]
        · rename_i hOlder
          cases h
          simp [hOlder, ProbesStore.Holds]
  | postgres probes =>
      rw [write] at h
      split at h
      · cases h
      · rename_i probes' hMirror
        cases h
        simp only [ProbesStore.Holds, takesWrite, if_true, ProbeCatalog.Holds,
          ProbeCatalog.mem_tokens_mirror hMirror]

theorem holds_of_authenticate
    (h : store.authenticate functions now nodeName nodeToken = .ok (some node)) :
    store.Holds ⟨node.id, functions.sha256Hex nodeToken⟩ := by
  cases store with
  | mongo stored =>
      cases stored with
      | none => cases h
      | some value =>
          simp only [authenticate, MongoProbeStore.authenticate, MongoProbeStore.catalog] at h
          split at h
          · cases h
          · simp only [bind, Except.bind, pure, Except.pure] at h
            split at h
            · cases h
            · split at h
              · rename_i found _ hAny
                cases h
                exact ⟨value, rfl, ProbeCatalog.holds_of_admits hAny⟩
              · cases h
  | postgres probes =>
      simp only [authenticate, Except.ok.injEq, ProbeCatalog.authenticateTradingProbeToken,
        Option.map_eq_some_iff] at h
      obtain ⟨found, hFind, rfl⟩ := h
      have hFound := List.find?_some hFind
      rw [Bool.and_eq_true] at hFound
      exact ProbeCatalog.holds_of_admits hFound.2

end ProbesStore

end

/-! ### The versions of the core -/

namespace CoreDatabase

variable {core : CoreDatabase} {rows snapshot : ProbeCatalog} {version : Nat}

@[simp] theorem atVersion_version : core.atVersion core.version = some core.current := by
  simp [atVersion, version]

theorem atVersion_edit (h : core.atVersion version = some snapshot) :
    (core.edit rows).atVersion version = some snapshot := by
  obtain ⟨hLess, -⟩ := List.getElem?_eq_some_iff.1 h
  rw [atVersion, edit, List.getElem?_append_left hLess]
  exact h

theorem mem_after {later : Nat} (hLater : version < later)
    (h : core.atVersion later = some snapshot) : snapshot ∈ core.after version := by
  apply List.mem_of_getElem? (i := later - (version + 1))
  rw [after, List.getElem?_drop, Nat.add_sub_cancel' hLater]
  exact h

end CoreDatabase

namespace SyncSystem

variable {functions : CatalogFunctions} {s s' t : SyncSystem} {e : SyncEvent}
variable {es fs : List SyncEvent} {rows : ProbeCatalog} {isMongo : Bool}

/-- What the snapshots and the stored catalog say about the core. -/
structure Sound (s : SyncSystem) : Prop where
  captured : ∀ capturedAt version snapshot,
    CatalogSync.captured capturedAt version snapshot ∈ s.syncs →
      s.core.atVersion version = some snapshot
  shows : ∀ version ∈ s.stored, ∃ snapshot ∈ s.core.atVersion version,
    ∀ credential, s.store.Holds credential ↔ snapshot.Holds credential

theorem Sound.start : (startSync rows isMongo).Sound where
  captured := by rintro _ _ _ ⟨⟩
  shows := by rintro _ ⟨⟩

theorem Sound.edit (h : s.Sound) : Sound { s with core := s.core.edit rows } where
  captured := fun capturedAt version snapshot hMem =>
    CoreDatabase.atVersion_edit (h.captured capturedAt version snapshot hMem)
  shows := fun version hStored => by
    obtain ⟨snapshot, hSnapshot, hHolds⟩ := h.shows version hStored
    exact ⟨snapshot, CoreDatabase.atVersion_edit hSnapshot, hHolds⟩

theorem Sound.withSyncs (h : s.Sound) {syncs : List CatalogSync}
    (hSyncs : ∀ capturedAt version snapshot,
      CatalogSync.captured capturedAt version snapshot ∈ syncs →
        CatalogSync.captured capturedAt version snapshot ∈ s.syncs ∨
          s.core.atVersion version = some snapshot) :
    Sound { s with syncs := syncs } where
  captured := fun capturedAt version snapshot hMem =>
    (hSyncs capturedAt version snapshot hMem).elim (h.captured capturedAt version snapshot) id
  shows := h.shows

theorem Sound.writeSnapshot (h : s.Sound) {capturedAt : Milliseconds} {version : Nat}
    {snapshot : ProbeCatalog} (hSnapshot : s.core.atVersion version = some snapshot) :
    (s.writeSnapshot functions capturedAt version snapshot).Sound := by
  rw [SyncSystem.writeSnapshot]
  split
  · exact h
  · rename_i store' hWrite
    refine ⟨h.captured, fun shown hStored => ?_⟩
    simp only [ProbesStore.holds_write hWrite]
    split at hStored
    · rename_i hTakes
      cases hStored
      exact ⟨snapshot, hSnapshot, fun credential => by rw [if_pos hTakes]⟩
    · rename_i hKeeps
      obtain ⟨old, hOld, hHolds⟩ := h.shows shown hStored
      exact ⟨old, hOld, fun credential => by rw [if_neg hKeeps, hHolds credential]⟩

theorem Sound.step (h : s.Sound) (hStep : s.step functions e = some s') : s'.Sound := by
  cases e with
  | tick elapsed =>
      cases hStep
      exact ⟨h.captured, h.shows⟩
  | edit rows =>
      cases hStep
      exact h.edit
  | readClock =>
      cases hStep
      refine h.withSyncs fun capturedAt version snapshot hMem => ?_
      exact Or.inl (by simpa using hMem)
  | takeSnapshot sync =>
      simp only [SyncSystem.step] at hStep
      split at hStep
      · cases hStep
        refine h.withSyncs fun capturedAt version snapshot hMem => ?_
        rcases List.mem_or_eq_of_mem_set hMem with hOld | hNew
        · exact Or.inl hOld
        · cases hNew
          exact Or.inr CoreDatabase.atVersion_version
      · cases hStep
  | write sync =>
      simp only [SyncSystem.step] at hStep
      split at hStep
      · rename_i capturedAt version snapshot hSync
        cases hStep
        have hSnapshot := h.captured capturedAt version snapshot (List.mem_of_getElem? hSync)
        refine Sound.writeSnapshot (h.withSyncs fun capturedAt version snapshot hMem => ?_)
          hSnapshot
        rcases List.mem_or_eq_of_mem_set hMem with hOld | hNew
        · exact Or.inl hOld
        · cases hNew
      · cases hStep

/-! ### Writes in order -/

/-- A sync whose write is taken has seen every edit that the stored catalog shows. -/
def inOrder (s : SyncSystem) : SyncEvent → Bool
  | .write sync =>
    match s.syncs[sync]? with
    | some (.captured capturedAt version _) =>
      !s.store.takesWrite capturedAt || s.stored.all (· ≤ version)
    | _ => true
  | _ => true

/-- The core and the stored catalog are at the given version or a later one. -/
def StoredSince (version : Nat) (s : SyncSystem) : Prop := ∃ stored ∈ s.stored, version ≤ stored

theorem storedSince_step {version : Nat} (h : s.StoredSince version) (hOrder : s.inOrder e)
    (hStep : s.step functions e = some s') : s'.StoredSince version := by
  cases e with
  | tick _ | edit _ | readClock =>
      cases hStep
      exact h
  | takeSnapshot sync =>
      simp only [SyncSystem.step] at hStep
      split at hStep
      · cases hStep
        exact h
      · cases hStep
  | write sync =>
      simp only [SyncSystem.step] at hStep
      split at hStep
      · rename_i capturedAt written snapshot hSync
        cases hStep
        rw [writeSnapshot]
        split
        · exact h
        · obtain ⟨stored, hStored, hSince⟩ := h
          simp only [inOrder, hSync, Bool.or_eq_true, Bool.not_eq_true'] at hOrder
          dsimp only [StoredSince]
          split
          · rename_i hTakes
            have hLater : stored ≤ written := by
              rw [hTakes, hStored] at hOrder
              simpa using hOrder
            exact ⟨written, rfl, hSince.trans hLater⟩
          · exact ⟨stored, hStored, hSince⟩
      · cases hStep

theorem atVersion_step {version : Nat} {snapshot : ProbeCatalog}
    (h : s.core.atVersion version = some snapshot) (hStep : s.step functions e = some s') :
    s'.core.atVersion version = some snapshot := by
  cases e with
  | tick _ | readClock =>
      cases hStep
      exact h
  | edit rows =>
      cases hStep
      exact CoreDatabase.atVersion_edit h
  | takeSnapshot sync =>
      simp only [SyncSystem.step] at hStep
      split at hStep
      · cases hStep
        exact h
      · cases hStep
  | write sync =>
      simp only [SyncSystem.step] at hStep
      split at hStep
      · cases hStep
        rw [writeSnapshot]
        split <;> exact h
      · cases hStep

/-- The stored catalog shows a version in which the credential is revoked or missing. From then on
no stored catalog has it, and it is not accepted, unless a later version of the core has it
again. -/
theorem revoked_stays_rejected {version : Nat} {credential : Credential}
    (hBefore : run (SyncSystem.step functions) (startSync rows isMongo) es = some s)
    (hAfter : run (SyncSystem.step functions) s fs = some t)
    (hOrder : StepsMeet (SyncSystem.step functions) (fun s e => s.inOrder e) s fs)
    (hStored : s.stored = some version)
    (hRevoked : ∀ snapshot ∈ s.core.atVersion version, ¬ snapshot.Holds credential)
    (hNotReissued : ∀ snapshot ∈ t.core.after version, ¬ snapshot.Holds credential) :
    ¬ t.store.Holds credential ∧
      ∀ now nodeName nodeToken node,
        t.store.authenticate functions now nodeName nodeToken = .ok (some node) →
          credential ≠ ⟨node.id, functions.sha256Hex nodeToken⟩ := by
  have hSound : s.Sound := run_invariant (fun _ _ _ h hStep => h.step hStep) .start hBefore
  have hSound' : t.Sound := run_invariant (fun _ _ _ h hStep => h.step hStep) hSound hAfter
  have hSince : t.StoredSince version :=
    run_invariant_of_stepsMeet (fun _ _ _ h hOrder hStep => storedSince_step h hOrder hStep)
      ⟨version, hStored, le_rfl⟩ hAfter hOrder
  obtain ⟨snapshot, hSnapshot, -⟩ := hSound.shows version hStored
  have hSnapshot' : t.core.atVersion version = some snapshot :=
    run_invariant (fun _ _ _ h hStep => atVersion_step h hStep) hSnapshot hAfter
  obtain ⟨stored, hStored', hLater⟩ := hSince
  obtain ⟨shown, hShown, hHolds⟩ := hSound'.shows stored hStored'
  have hLacks : ¬ t.store.Holds credential := by
    rw [hHolds]
    rcases hLater.eq_or_lt with rfl | hLater
    · rw [Option.mem_def, hSnapshot'] at hShown
      cases hShown
      exact hRevoked snapshot hSnapshot
    · exact hNotReissued shown (CoreDatabase.mem_after hLater hShown)
  refine ⟨hLacks, fun now nodeName nodeToken node hAccepted hSame => hLacks ?_⟩
  rw [hSame]
  exact ProbesStore.holds_of_authenticate hAccepted

/-! ### A sync that is overtaken -/

/-- Every snapshot is small enough, and a token is its own digest. -/
def sampleFunctions : CatalogFunctions := ⟨fun _ => 0, fun token => token⟩

/-- A catalog with one node and the given tokens. -/
def sampleCatalog (tokens : Table TradingProbeAuthToken.id) : ProbeCatalog :=
  ⟨∅, ⟨[⟨1, "probe", 1, .enabled, .dedicated, none⟩], by decide⟩, tokens⟩

def sampleCore : ProbeCatalog := sampleCatalog ⟨[⟨1, 1, "old", none, none⟩], by decide⟩

/-- The node was registered again. -/
def rotatedCore : ProbeCatalog :=
  sampleCatalog ⟨[⟨1, 1, "old", none, some 5⟩, ⟨2, 1, "new", none, none⟩], by decide⟩

/-- The node gets another token while a sync is between its clock reading and its snapshot. -/
def rotation : List SyncEvent :=
  [.tick 3, .readClock, .edit rotatedCore, .takeSnapshot 0, .write 0]

def laterSync : List SyncEvent :=
  [.tick 4, .readClock, .takeSnapshot 1, .edit rotatedCore, .write 1]

theorem revoked_stays_rejected_sample : ∃ s t,
    run (step sampleFunctions) (startSync sampleCore true) rotation = some s ∧
    run (step sampleFunctions) s laterSync = some t ∧
    ¬ t.store.Holds ⟨1, "old"⟩ ∧
      ∀ now nodeName nodeToken node,
        t.store.authenticate sampleFunctions now nodeName nodeToken = .ok (some node) →
          (⟨1, "old"⟩ : Credential) ≠ ⟨node.id, sampleFunctions.sha256Hex nodeToken⟩ := by
  refine ⟨_, _, rfl, rfl, @revoked_stays_rejected _ _ _ rotation laterSync sampleCore true 1 _
    rfl rfl ?_ rfl ?_ ?_⟩
  all_goals decide +kernel

/-- The stored catalog shows the core after the token was revoked, the core never issues it again,
and it is accepted all the same. -/
def Resurrected (isMongo : Bool) : Prop :=
  ∃ es fs s t, run (step sampleFunctions) (startSync sampleCore isMongo) es = some s ∧
    run (step sampleFunctions) s fs = some t ∧
    s.stored = some 1 ∧
    (∀ snapshot ∈ s.core.atVersion 1, ¬ snapshot.Holds ⟨1, "old"⟩) ∧
    (∀ snapshot ∈ t.core.after 1, ¬ snapshot.Holds ⟨1, "old"⟩) ∧
    t.store.authenticate sampleFunctions t.clock "probe" "old" =
      .ok (some ⟨1, "probe", 1, .enabled⟩)

/-- The first sync to read the clock takes its snapshot after the token is revoked and writes it.
The other sync took its snapshot before and writes it then, in either store. -/
theorem not_revoked_stays_rejected : Resurrected true ∧ Resurrected false := by
  constructor
  all_goals
    refine ⟨[.tick 3, .readClock, .tick 1, .readClock, .takeSnapshot 1, .edit rotatedCore,
      .takeSnapshot 0, .write 0], [.write 1], _, _, rfl, rfl, rfl, ?_, ?_, ?_⟩
    all_goals decide +kernel

end SyncSystem

end Hyperspace.Probes
