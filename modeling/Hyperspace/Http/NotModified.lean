import Hyperspace.Http.SnapshotReads
import Mathlib.Data.List.Nodup

/-!
# Not modified

The tag of an answer names the loaded value and the filters that were applied to it, so a 304 is
sent only for what the client holds.
-/

namespace Hyperspace.Http

open Hyperspace.Foundations

variable {α : Type} {options : SnapshotOptions} {stringify : α → String}

/-- An id as the database makes it. -/
def PlainId (id : String) : Prop :=
  id ≠ "" ∧ id ≠ "none" ∧ ',' ∉ id.toList ∧ ':' ∉ id.toList

structure TradingLatency.WellFormed (data : TradingLatency) : Prop where
  idsNodup : (data.targets.map (·.id)).Nodup
  plain : ∀ target ∈ data.targets, PlainId target.id

theorem filter_eq_of_map_eq {β κ : Type} {l : List β} {f : β → κ} {p p' : β → Bool}
    (hNodup : (l.map f).Nodup) (h : (l.filter p).map f = (l.filter p').map f) :
    l.filter p = l.filter p' := by
  have hMem : ∀ {q : β → Bool} {a : β}, a ∈ l → (q a = true ↔ f a ∈ (l.filter q).map f) := by
    intro q a ha
    constructor
    · intro hq
      exact List.mem_map_of_mem (List.mem_filter.2 ⟨ha, hq⟩)
    · intro hf
      obtain ⟨b, hb, hEq⟩ := List.mem_map.1 hf
      obtain ⟨hb, hq⟩ := List.mem_filter.1 hb
      rw [← List.inj_on_of_nodup_map hNodup hb ha hEq]
      exact hq
  refine List.filter_congr fun a ha => ?_
  rw [Bool.eq_iff_iff, hMem ha, h, ← hMem ha]

theorem mem_intercalate {d : Char} {parts : List (List Char)}
    (h : d ∈ List.intercalate [','] parts) :
    d = ',' ∨ ∃ part ∈ parts, d ∈ part := by
  induction parts with
  | nil => cases h
  | cons part parts ih =>
      cases parts with
      | nil => exact .inr ⟨part, List.mem_cons_self, by simpa [List.intercalate_singleton] using h⟩
      | cons next rest =>
          rw [List.intercalate_cons_cons, List.mem_append, List.mem_append, List.mem_singleton] at h
          rcases h with (hPart | hComma) | hRest
          · exact .inr ⟨part, List.mem_cons_self, hPart⟩
          · exact .inl hComma
          · rcases ih hRest with hComma | ⟨other, hMem, hd⟩
            · exact .inl hComma
            · exact .inr ⟨other, List.mem_cons_of_mem _ hMem, hd⟩

/-- The part of a variant between its colons. -/
def firstMeasured (measured : List LatencyMeasurement) : String :=
  ((measured.head?).map (·.targetId)).getD "none"

theorem mem_firstMeasured {measured : List LatencyMeasurement} {c : Char}
    (hNone : c ∉ "none".toList)
    (h : ∀ value ∈ measured, c ∉ value.targetId.toList) : c ∉ (firstMeasured measured).toList := by
  unfold firstMeasured
  cases hHead : measured.head? with
  | none => exact hNone
  | some value => exact h value (List.mem_of_head? hHead)

section selection

variable {localeCompare : String → String → Ordering} {data : TradingLatency}
  {query query' : LatencyQuery}

/-- What a query takes of the data. -/
structure Selects (data : TradingLatency) (query : LatencyQuery) (selected : TradingLatency) :
    Prop where
  targets : ∃ p, selected.targets = data.targets.filter p
  all : truthy query.target = none → selected.measurements =
    data.measurements.filter fun value => value.targetId ∈ selected.targets.map (·.id)
  one : (truthy query.target).isSome → ∃ id : Option String, selected.measurements =
    data.measurements.filter fun value =>
      value.targetId ∈ selected.targets.map (·.id) && some value.targetId = id
  fields : selected.fields = data.fields

theorem selects_select :
    Selects data query (selectPublicTradingLatency localeCompare data query) := by
  refine ⟨⟨_, rfl⟩, fun hNone => ?_, fun hSome => ⟨selectedTarget? localeCompare data query, ?_⟩,
    rfl⟩
  · refine List.filter_congr fun value _ => ?_
    simp only [hNone, selectPublicTradingLatency, Option.isNone_none, Bool.true_or, Bool.and_true]
  · refine List.filter_congr fun value _ => ?_
    rw [Option.isNone_eq_false_iff.2 hSome, Bool.false_or]
    rfl

theorem Selects.plain {selected : TradingLatency} (h : Selects data query selected)
    (hWell : data.WellFormed) : ∀ target ∈ selected.targets, PlainId target.id := by
  obtain ⟨p, hTargets⟩ := h.targets
  intro target hMem
  rw [hTargets] at hMem
  exact hWell.plain target (List.mem_of_mem_filter hMem)

theorem Selects.measured {selected : TradingLatency} (h : Selects data query selected)
    (hWell : data.WellFormed) : ∀ value ∈ selected.measurements, PlainId value.targetId := by
  intro value hMem
  have hTarget : value.targetId ∈ selected.targets.map (·.id) := by
    cases hQuery : truthy query.target with
    | none =>
        rw [h.all hQuery, List.mem_filter, decide_eq_true_eq] at hMem
        exact hMem.2
    | some key =>
        obtain ⟨id, hMeasurements⟩ := h.one (by rw [hQuery]; rfl)
        rw [hMeasurements, List.mem_filter, Bool.and_eq_true, decide_eq_true_eq] at hMem
        exact hMem.2.1
  obtain ⟨target, hMemTarget, hId⟩ := List.mem_map.1 hTarget
  rw [← hId]
  exact h.plain hWell target hMemTarget

theorem variant_parts {selected selected' : TradingLatency} (h : Selects data query selected)
    (h' : Selects data query' selected') (hWell : data.WellFormed)
    (hSame : latencyVariant selected query = latencyVariant selected' query') :
    selected.targets.map (·.id) = selected'.targets.map (·.id) ∧
      firstMeasured selected.measurements = firstMeasured selected'.measurements ∧
      (truthy query.target).isSome = (truthy query'.target).isSome := by
  have hIds : ∀ {query : LatencyQuery} {selected : TradingLatency}, Selects data query selected →
      ':' ∉ List.intercalate [','] (selected.targets.map (·.id.toList)) := by
    intro query selected h hMem
    rcases mem_intercalate hMem with hComma | ⟨part, hPart, hColon⟩
    · cases hComma
    · obtain ⟨target, hTarget, rfl⟩ := List.mem_map.1 hPart
      exact (h.plain hWell target hTarget).2.2.2 hColon
  have hFirst : ∀ {query : LatencyQuery} {selected : TradingLatency}, Selects data query selected →
      ':' ∉ (firstMeasured selected.measurements).toList := fun h =>
    mem_firstMeasured (by decide) fun value hMem => (h.measured hWell value hMem).2.2.2
  have hParts : ∀ {query : LatencyQuery} {selected : TradingLatency}, Selects data query selected →
      ∀ part ∈ selected.targets.map (·.id.toList), part ≠ [] ∧ ',' ∉ part := by
    intro query selected h part hPart
    obtain ⟨target, hTarget, rfl⟩ := List.mem_map.1 hPart
    obtain ⟨hNonempty, -, hComma, -⟩ := h.plain hWell target hTarget
    exact ⟨fun hNil => hNonempty (String.toList_inj.1 hNil), hComma⟩
  have hChars := String.ofList_injective hSame
  rw [List.append_assoc, List.append_assoc] at hChars
  obtain ⟨hJoined, hRest⟩ := append_cons_inj (hIds h) (hIds h') hChars
  obtain ⟨hMeasured, hFlag⟩ := append_cons_inj (hFirst h) (hFirst h') hRest
  have hLists := intercalate_inj (hParts h) (hParts h') hJoined
  refine ⟨?_, String.toList_inj.1 hMeasured, ?_⟩
  · have hStrings := congrArg (List.map String.ofList) hLists
    rw [List.map_map, List.map_map] at hStrings
    simpa [Function.comp_def] using hStrings
  · cases hLeft : (truthy query.target).isSome <;> cases hRight : (truthy query'.target).isSome <;>
      rw [hLeft, hRight] at hFlag <;> first | rfl | exact absurd hFlag (by decide)

theorem select_eq_of_variant (hWell : data.WellFormed)
    (hSame : latencyVariant (selectPublicTradingLatency localeCompare data query) query =
      latencyVariant (selectPublicTradingLatency localeCompare data query') query') :
    selectPublicTradingLatency localeCompare data query =
      selectPublicTradingLatency localeCompare data query' := by
  have h : Selects data query (selectPublicTradingLatency localeCompare data query) :=
    selects_select
  have h' : Selects data query' (selectPublicTradingLatency localeCompare data query') :=
    selects_select
  obtain ⟨hIds, hFirst, hFlag⟩ := variant_parts h h' hWell hSame
  have hMeasured := h.measured hWell
  have hMeasured' := h'.measured hWell
  generalize selectPublicTradingLatency localeCompare data query = selected at *
  generalize selectPublicTradingLatency localeCompare data query' = selected' at *
  have hTargets : selected.targets = selected'.targets := by
    obtain ⟨p, hp⟩ := h.targets
    obtain ⟨p', hp'⟩ := h'.targets
    rw [hp, hp'] at hIds ⊢
    exact filter_eq_of_map_eq hWell.idsNodup hIds
  have hMeasurements : selected.measurements = selected'.measurements := by
    cases hQuery : truthy query.target with
    | none =>
        rw [hQuery] at hFlag
        have hQuery' : truthy query'.target = none :=
          Option.isNone_iff_eq_none.1 (Option.isSome_eq_false_iff.1 hFlag.symm)
        rw [h.all hQuery, h'.all hQuery', hTargets]
    | some key =>
        rw [hQuery] at hFlag
        obtain ⟨id, hOne⟩ := h.one (by rw [hQuery]; rfl)
        obtain ⟨id', hOne'⟩ := h'.one hFlag.symm
        have hSelected : ∀ value ∈ selected.measurements, some value.targetId = id := by
          intro value hMem
          rw [hOne, List.mem_filter, Bool.and_eq_true, decide_eq_true_eq, decide_eq_true_eq] at hMem
          exact hMem.2.2
        have hSelected' : ∀ value ∈ selected'.measurements, some value.targetId = id' := by
          intro value hMem
          rw [hOne', List.mem_filter, Bool.and_eq_true, decide_eq_true_eq,
            decide_eq_true_eq] at hMem
          exact hMem.2.2
        unfold firstMeasured at hFirst
        cases hHead : selected.measurements.head? with
        | none =>
            cases hHead' : selected'.measurements.head? with
            | none => rw [List.head?_eq_none_iff.1 hHead, List.head?_eq_none_iff.1 hHead']
            | some value' =>
                rw [hHead, hHead'] at hFirst
                exact absurd hFirst.symm (hMeasured' value' (List.mem_of_head? hHead')).2.1
        | some value =>
            cases hHead' : selected'.measurements.head? with
            | none =>
                rw [hHead, hHead'] at hFirst
                exact absurd hFirst (hMeasured value (List.mem_of_head? hHead)).2.1
            | some value' =>
                rw [hHead, hHead'] at hFirst
                have hId : id = id' := by
                  rw [← hSelected value (List.mem_of_head? hHead),
                    ← hSelected' value' (List.mem_of_head? hHead')]
                  exact congrArg some hFirst
                rw [hOne, hOne', hTargets, hId]
  cases selected
  cases selected'
  cases hTargets
  cases hMeasurements
  cases h.fields.trans h'.fields.symm
  rfl

end selection

/-- Two texts that SHA-256 tells apart. -/
def NoCollision (a b : String) : Prop := sha256Hex a = sha256Hex b → a = b

theorem weakEtag_inj {a b : String} (hDigest : NoCollision a b) (h : weakEtag a = weakEtag b) :
    a = b := by
  have hChars := congrArg String.toList h
  simp only [weakEtag, String.toList_append, List.append_assoc, List.append_cancel_left_eq,
    List.append_cancel_right_eq] at hChars
  exact hDigest (String.toList_inj.1 hChars)

theorem colon_ne_digitChar {n : Nat} (h : n < 16) : Nat.digitChar n ≠ ':' := by
  have hAll : ∀ d : Fin 16, Nat.digitChar d ≠ ':' := by decide
  exact hAll ⟨n, h⟩

theorem colon_notMem_weakEtag (text : String) : ':' ∉ (weakEtag text).toList := by
  unfold weakEtag sha256Hex
  rw [String.toList_append, String.toList_append, List.mem_append, List.mem_append]
  rintro ((hQuote | hDigit) | hQuote)
  · exact absurd hQuote (by decide)
  · rw [String.toList_ofList] at hDigit
    obtain ⟨byte, -, hChar⟩ := List.mem_flatMap.1 hDigit
    have hByte : byte.toNat < 256 := byte.toNat_lt
    rcases List.mem_cons.1 hChar with hHigh | hLow
    · exact colon_ne_digitChar (by omega) hHigh.symm
    · exact colon_ne_digitChar (by omega) (List.mem_singleton.1 hLow).symm
  · exact absurd hQuote (by decide)

/-- The text whose digest is the tag of an answer. -/
def variantText (snapshot : SnapshotRead α) (variant : String) : String :=
  snapshot.etag ++ ":" ++ variant

theorem latencyVariant_ne_empty {selected : TradingLatency} {query : LatencyQuery} :
    latencyVariant selected query ≠ "" := by
  intro hEmpty
  have hChars := congrArg String.toList hEmpty
  rw [latencyVariant, String.toList_ofList] at hChars
  simp at hChars

theorem etag_publicSnapshotHeaders {request : SnapshotRequest} {snapshot : SnapshotRead α}
    {selected : TradingLatency} {query : LatencyQuery} :
    (publicSnapshotHeaders request snapshot (latencyVariant selected query)).etag =
      weakEtag (variantText snapshot (latencyVariant selected query)) := by
  rw [publicSnapshotHeaders]
  exact if_neg latencyVariant_ne_empty

/-- A 304 is sent only where the body would be the one that was sent with the tag of the client, as
long as texts of different data differ and SHA-256 tells the texts apart. -/
theorem not_modified_confirms {stringify : TradingLatency → String} {now : Int}
    {es : List (SnapshotEvent TradingLatency)} {s : PublicReadSnapshot TradingLatency}
    {localeCompare : String → String → Ordering} {reader reader' : ReaderId}
    {sent current : SnapshotRead TradingLatency} {request request' : SnapshotRequest}
    {query query' : LatencyQuery}
    (hRun : run (PublicReadSnapshot.step options stringify) (.new TradingLatency now) es = some s)
    (hSent : (reader, some sent) ∈ s.answers) (hCurrent : (reader', some current) ∈ s.answers)
    (hWell : sent.data.WellFormed)
    (hText : stringify sent.data = stringify current.data → sent.data = current.data)
    (hData : NoCollision (stringify sent.data) (stringify current.data))
    (hVariant : NoCollision
      (variantText sent
        (latencyVariant (selectPublicTradingLatency localeCompare sent.data query) query))
      (variantText current
        (latencyVariant (selectPublicTradingLatency localeCompare current.data query') query')))
    (hHolds : request'.ifNoneMatch = some (publicSnapshotHeaders request sent
      (latencyVariant (selectPublicTradingLatency localeCompare sent.data query) query)).etag)
    (hNotModified : (publicSnapshotHeaders request' current (latencyVariant
      (selectPublicTradingLatency localeCompare current.data query') query')).notModified = true) :
    selectPublicTradingLatency localeCompare current.data query' =
      selectPublicTradingLatency localeCompare sent.data query := by
  have hSound := PublicReadSnapshot.sound_of_run hRun
  have hEtag : sent.etag = weakEtag (stringify sent.data) := hSound.answers _ hSent sent rfl
  have hEtag' : current.etag = weakEtag (stringify current.data) :=
    hSound.answers _ hCurrent current rfl
  have hSame : request'.ifNoneMatch = some (publicSnapshotHeaders request' current (latencyVariant
      (selectPublicTradingLatency localeCompare current.data query') query')).etag := by
    have hBoth := hNotModified
    rw [publicSnapshotHeaders, Bool.and_eq_true, decide_eq_true_eq, decide_eq_true_eq] at hBoth
    exact hBoth.2
  rw [hHolds, Option.some_inj, etag_publicSnapshotHeaders, etag_publicSnapshotHeaders] at hSame
  have hTexts := congrArg String.toList (weakEtag_inj hVariant hSame)
  simp only [variantText, String.toList_append, List.append_assoc] at hTexts
  obtain ⟨hTags, hVariants⟩ := append_cons_inj
    (hEtag ▸ colon_notMem_weakEtag _) (hEtag' ▸ colon_notMem_weakEtag _) hTexts
  have hDigests : weakEtag (stringify sent.data) = weakEtag (stringify current.data) := by
    rw [← hEtag, ← hEtag']
    exact String.toList_inj.1 hTags
  have hDataEq : sent.data = current.data := hText (weakEtag_inj hData hDigests)
  have hVariantEq := String.toList_inj.1 hVariants
  rw [← hDataEq] at hVariantEq ⊢
  exact (select_eq_of_variant hWell hVariantEq).symm

def sampleLatency : TradingLatency :=
  ⟨[⟨"a1", "dex", "spot", 0, .obj []⟩], [⟨"a1", .obj []⟩], .obj []⟩

def sampleText : String :=
  "\x7b\"targets\":[\x7b\"id\":\"a1\",\"key\":\"dex\",\"category\":\"spot\"," ++
    "\"sortOrder\":0\x7d]," ++
    "\"measurements\":[\x7b\"targetId\":\"a1\"\x7d]\x7d"

/-- All targets. -/
def everything : LatencyQuery := ⟨none, none⟩

/-- The only category there is. -/
def spotTargets : LatencyQuery := ⟨some "spot", none⟩

def sampleTag (r : SnapshotRead TradingLatency) : String :=
  (publicSnapshotHeaders ⟨none, none, none⟩ r
    (latencyVariant (selectPublicTradingLatency compare r.data everything) everything)).etag

theorem other_query_not_modified :
    ∃ s ∈ run (PublicReadSnapshot.step defaultOptions fun _ => sampleText)
    (.new TradingLatency 0) [.read 0, .settle 0 (some sampleLatency), .finish 0, .resume 0],
    ∃ r, (0, some r) ∈ s.answers ∧
      (publicSnapshotHeaders ⟨none, none, some (sampleTag r)⟩ r (latencyVariant
        (selectPublicTradingLatency compare r.data spotTargets) spotTargets)).notModified = true ∧
      selectPublicTradingLatency compare r.data spotTargets =
        selectPublicTradingLatency compare r.data everything := by
  let served : SnapshotRead TradingLatency := ⟨sampleLatency, .live, 0, weakEtag sampleText⟩
  have hVariants :
      latencyVariant (selectPublicTradingLatency compare served.data everything) everything =
      latencyVariant (selectPublicTradingLatency compare served.data spotTargets) spotTargets := by
    decide +kernel
  obtain ⟨s, hRun, hAnswers⟩ : ∃ s,
      run (PublicReadSnapshot.step defaultOptions fun _ => sampleText) (.new TradingLatency 0)
        [.read 0, .settle 0 (some sampleLatency), .finish 0, .resume 0] = some s ∧
      s.answers = [(0, some served)] := ⟨_, rfl, rfl⟩
  have hServed : (0, some served) ∈ s.answers := by
    rw [hAnswers]
    exact List.mem_singleton_self _
  have hNotModified : (publicSnapshotHeaders ⟨none, none, some (sampleTag served)⟩ served
      (latencyVariant (selectPublicTradingLatency compare served.data spotTargets)
        spotTargets)).notModified = true := by
    rw [sampleTag, hVariants]
    simp [publicSnapshotHeaders, served]
  have hWell : served.data.WellFormed := by
    constructor
    · decide
    · simp [served, sampleLatency, PlainId]
  refine ⟨s, hRun, served, hServed, hNotModified, ?_⟩
  exact not_modified_confirms hRun hServed hServed hWell (fun _ => rfl) (fun _ => rfl)
    (fun _ => congrArg (variantText served) hVariants) rfl hNotModified

end Hyperspace.Http
