import Hyperspace.Gate.ClientTunnel
import Hyperspace.Provisioning.ClientTunnel

/-!
# Both sides accept the same client tunnels

The control plane's `readClientTunnel` and `validateHeaderProtectionKey` against the gate agent's
`validate` and `validateSecret`: the texts that each field may hold are described once, and each
side's technique is shown to accept just those.
-/

namespace Hyperspace.GateAgent

open Hyperspace.Foundations
open Hyperspace.Provisioning (canonicalNat? readInteger readConstant readRange readParameters
  readClientTunnel isKeyFingerprint isHeaderProtectionKey validateHeaderProtectionKey)

/-! ### Numbers -/

theorem canonicalNat?_eq_some_iff {s : List Char} {n : Nat} :
    canonicalNat? s = some n ↔ s = Decimals.write n := by
  have hRead : s.foldl (fun n c => 10 * n + (c.toNat - 48)) 0 = Decimals.read s := rfl
  unfold canonicalNat?
  rw [hRead]
  constructor
  · intro h
    split at h
    · rename_i hCanonical
      obtain ⟨hSome, hDigits, hLead⟩ := hCanonical
      cases h
      exact (Decimals.write_read (List.all_eq_true.1 hDigits) hSome hLead).symm
    · cases h
  · rintro rfl
    have hDigits : (Decimals.write n).all Char.isDigit = true :=
      List.all_eq_true.2 fun c hc => Decimals.isDigit_of_mem_write hc
    rw [if_pos ⟨Decimals.write_ne_nil n, hDigits, Decimals.head?_write⟩, Decimals.read_write]

theorem digitsValue?_write (n : Nat) : digitsValue? (Decimals.write n) = some n := by
  have hDigits : (Decimals.write n).all Char.isDigit = true :=
    List.all_eq_true.2 fun c hc => Decimals.isDigit_of_mem_write hc
  unfold digitsValue?
  rw [if_pos ⟨Decimals.write_ne_nil n, hDigits⟩, Decimals.read_write]

theorem atoi_write (n : Nat) :
    atoi (Decimals.write n) = if n < 2 ^ 63 then some (n : Int) else none := by
  have hMinus := Decimals.not_mem_write (show ('-').isDigit = false by decide) n
  have hPlus := Decimals.not_mem_write (show ('+').isDigit = false by decide) n
  unfold atoi
  split
  · rename_i hText
    simp [hText] at hMinus
  · rename_i hText
    simp [hText] at hPlus
  · rw [digitsValue?_write, Option.bind_some]

theorem itoa_of_nonneg {n : Int} (h : 0 ≤ n) : itoa n = Decimals.write n.natAbs := by
  unfold itoa
  rw [if_neg (by omega)]

/-! ### Ranges -/

/-- A text `low-high` in canonical digits within its bounds. -/
def IsRange (min max : Nat) (value : String) : Prop :=
  ∃ low high, value.toList = Decimals.write low ++ '-' :: Decimals.write high ∧
    min ≤ low ∧ low ≤ high ∧ high ≤ max

theorem minus_not_mem_write (n : Nat) : '-' ∉ Decimals.write n :=
  Decimals.not_mem_write (by decide) n

theorem isRange_iff {min max : Nat} {value : String} (hMax : max < 2 ^ 63) :
    AmneziaWGParameters.isRange value min max = true ↔ IsRange min max value := by
  unfold AmneziaWGParameters.isRange IsRange
  constructor
  · intro h
    split at h
    · rename_i lowPart highPart hSplit
      have hText : value.toList = lowPart ++ '-' :: highPart := by
        rw [← @List.intercalate_splitOn _ value.toList _ _ '-', hSplit]
        simp [List.intercalate]
      split at h
      · rename_i low high hLow hHigh
        simp only [ne_eq, gt_iff_lt, Bool.not_eq_eq_eq_not, Bool.not_true, Bool.or_eq_false_iff,
          decide_eq_false_iff_not, not_lt, not_not] at h
        obtain ⟨⟨⟨⟨hMin, hLe⟩, hOrder⟩, hLowText⟩, hHighText⟩ := h
        rw [itoa_of_nonneg (by omega)] at hLowText hHighText
        refine ⟨low.natAbs, high.natAbs, ?_, by omega, by omega, by omega⟩
        rw [hText, hLowText, hHighText]
      · cases h
      · cases h
    · cases h
  · rintro ⟨low, high, hText, hMin, hLe, hMax'⟩
    rw [hText, List.splitOn_append_cons_self_of_not_mem (minus_not_mem_write low),
      List.splitOn_eq_singleton (minus_not_mem_write high)]
    have hFits : low < 2 ^ 63 ∧ high < 2 ^ 63 := by omega
    have hLow : itoa low = Decimals.write low := itoa_of_nonneg (by omega)
    have hHigh : itoa high = Decimals.write high := itoa_of_nonneg (by omega)
    simp only [atoi_write, hFits, if_true, hLow, hHigh]
    simp
    omega

theorem not_isRange_empty (min max : Nat) : ¬ IsRange min max "" := by
  rintro ⟨low, high, hText, -⟩
  have hLength := congrArg List.length hText
  simp at hLength

/-- A text is what stands before its first dash, the dash, and what stands behind it. -/
theorem split_at_dash {s high : List Char} (h : (s.dropWhile (· ≠ '-')).drop 1 = high)
    (hSome : high ≠ []) : s = s.takeWhile (· ≠ '-') ++ '-' :: high := by
  cases hRest : s.dropWhile (· ≠ '-') with
  | nil =>
    rw [hRest] at h
    exact absurd h.symm hSome
  | cons c rest =>
    have hDash : c = '-' := by
      have hHead := List.head?_dropWhile_not (fun c : Char => decide (c ≠ '-')) s
      rw [hRest] at hHead
      simpa using hHead
    rw [hRest] at h
    calc s = s.takeWhile (· ≠ '-') ++ s.dropWhile (· ≠ '-') := List.takeWhile_append_dropWhile.symm
      _ = s.takeWhile (· ≠ '-') ++ '-' :: high := by rw [hRest, hDash, ← h]; rfl

/-- The parts before and behind the dash are canonical just when the text is a range. -/
theorem canonical_parts_iff {v : String} {low high : Nat} :
    (canonicalNat? (v.toList.takeWhile (· ≠ '-')) = some low ∧
      canonicalNat? ((v.toList.dropWhile (· ≠ '-')).drop 1) = some high) ↔
      v.toList = Decimals.write low ++ '-' :: Decimals.write high := by
  rw [canonicalNat?_eq_some_iff, canonicalNat?_eq_some_iff]
  constructor
  · rintro ⟨hLow, hHigh⟩
    have hText := split_at_dash hHigh (Decimals.write_ne_nil high)
    rwa [hLow] at hText
  · intro hText
    have hBefore : ∀ c ∈ Decimals.write low, decide (c ≠ '-') = true := by
      intro c hc
      simp only [decide_eq_true_eq]
      rintro rfl
      exact minus_not_mem_write low hc
    rw [hText, List.takeWhile_append_of_pos hBefore, List.dropWhile_append_of_pos hBefore]
    simp

theorem readRange_ok_iff {p : Json} {key value : String} {min max : Nat} :
    readRange p key min max = .ok value ↔ decodeText p key = value ∧ IsRange min max value := by
  unfold readRange decodeText
  cases p.field? key with
  | none =>
    simp only [reduceCtorEq, false_iff, not_and]
    rintro rfl
    exact not_isRange_empty _ _
  | some json =>
    cases json with
    | str v =>
      dsimp only
      constructor
      · intro h
        split at h
        · rename_i low high hLow hHigh
          split at h
          · rename_i hBounds
            cases h
            exact ⟨rfl, low, high, canonical_parts_iff.1 ⟨hLow, hHigh⟩, hBounds.1, hBounds.2.2,
              hBounds.2.1⟩
          · cases h
        all_goals cases h
      · rintro ⟨rfl, low, high, hText, hMin, hLe, hMax⟩
        obtain ⟨hLow, hHigh⟩ := canonical_parts_iff.2 hText
        rw [hLow, hHigh]
        dsimp only
        rw [if_pos ⟨hMin, hMax, hLe⟩]
    | null | bool b | num n | arr items | obj fields =>
      simp only [reduceCtorEq, false_iff, not_and]
      rintro rfl
      exact not_isRange_empty _ _

/-! ### Integers and constants -/

theorem readInteger_ok_iff {p : Json} {key : String} {min max n : Int} (hMin : 1 ≤ min)
    (hMax : max < 2 ^ 63) :
    readInteger p key min max = .ok n ↔ decodeInt p key = n ∧ min ≤ n ∧ n ≤ max := by
  unfold readInteger decodeInt
  cases p.field? key with
  | none =>
    simp only [reduceCtorEq, false_iff, not_and]
    omega
  | some json =>
    cases json with
    | num x =>
      dsimp only
      by_cases hBounds : x.den = 1 ∧ min ≤ x.num ∧ x.num ≤ max
      · rw [if_pos hBounds, if_pos ⟨hBounds.1, by omega, by omega⟩, Except.ok.injEq]
        constructor
        · rintro rfl
          exact ⟨rfl, hBounds.2⟩
        · exact fun h => h.1
      · rw [if_neg hBounds]
        simp only [reduceCtorEq, false_iff, not_and]
        split
        · rename_i hFits
          rintro rfl hLow hHigh
          exact hBounds ⟨hFits.1, hLow, hHigh⟩
        · omega
    | null | bool b | str s | arr items | obj fields =>
      simp only [reduceCtorEq, false_iff, not_and]
      omega

theorem readConstant_ok_iff {p : Json} {key expected value : String} (hSome : expected ≠ "") :
    readConstant p key expected = .ok value ↔
      decodeText p key = value ∧ decodeText p key = expected := by
  unfold readConstant decodeText
  cases p.field? key with
  | none =>
    simp only [reduceCtorEq, false_iff, not_and]
    exact fun _ hEmpty => hSome hEmpty.symm
  | some json =>
    cases json with
    | str s =>
      dsimp only
      split
      · simp [*]
      · simp [*]
    | null | bool b | num n | arr items | obj fields =>
      simp only [reduceCtorEq, false_iff, not_and]
      exact fun _ hEmpty => hSome hEmpty.symm

/-! ### Parameters -/

/-- The parameters as the control plane carries them. -/
def AmneziaWGParameters.accepted (q : AmneziaWGParameters) : Provisioning.AmneziaWGParameters :=
  ⟨q.jc, q.jmin, q.jmax, q.s1, q.s2, q.s3, q.s4, q.h1, q.h2, q.h3, q.h4,
    q.contentPaddingAddition, q.rekeyAfterTime, q.rekeyTimeout, q.keepaliveTimeout,
    q.randomTrailers⟩

theorem AmneziaWGParameters.validate_eq_none_iff (q : AmneziaWGParameters) :
    q.validate = none ↔
      (1 ≤ q.jc ∧ q.jc ≤ 128 ∧ 1 ≤ q.jmin ∧ q.jmax ≤ 1280 ∧ q.jmin < q.jmax) ∧
      (12 ≤ q.s1 ∧ q.s1 ≤ 64 ∧ q.s1 = q.s2 ∧ q.s1 = q.s3 ∧ q.s1 = q.s4) ∧
      (q.h1 = "1" ∧ q.h2 = "2" ∧ q.h3 = "3" ∧ q.h4 = "4" ∧ q.randomTrailers = "on") ∧
      IsRange 0 64 q.contentPaddingAddition ∧ IsRange 60 150 q.rekeyAfterTime ∧
      IsRange 1 15 q.rekeyTimeout ∧ IsRange 1 30 q.keepaliveTimeout := by
  have hPadding := @isRange_iff 0 64 q.contentPaddingAddition (by decide)
  have hRekey := @isRange_iff 60 150 q.rekeyAfterTime (by decide)
  have hTimeout := @isRange_iff 1 15 q.rekeyTimeout (by decide)
  have hKeepalive := @isRange_iff 1 30 q.keepaliveTimeout (by decide)
  unfold validate
  rw [← hPadding, ← hRekey, ← hTimeout, ← hKeepalive]
  split
  · rename_i hJunk
    simp only [reduceCtorEq, false_iff]
    omega
  split
  · rename_i hPrefix
    simp only [reduceCtorEq, false_iff]
    omega
  split
  · rename_i hHeader
    simp only [reduceCtorEq, false_iff]
    grind
  have hNumbers : (1 ≤ q.jc ∧ q.jc ≤ 128 ∧ 1 ≤ q.jmin ∧ q.jmax ≤ 1280 ∧ q.jmin < q.jmax) ∧
      (12 ≤ q.s1 ∧ q.s1 ≤ 64 ∧ q.s1 = q.s2 ∧ q.s1 = q.s3 ∧ q.s1 = q.s4) := by omega
  have hTexts : q.h1 = "1" ∧ q.h2 = "2" ∧ q.h3 = "3" ∧ q.h4 = "4" ∧ q.randomTrailers = "on" := by
    grind
  split
  · rename_i hRanges
    simp only [Bool.and_eq_true] at hRanges
    exact ⟨fun _ => ⟨hNumbers.1, hNumbers.2, hTexts, hRanges.1.1.1, hRanges.1.1.2, hRanges.1.2,
      hRanges.2⟩, fun _ => rfl⟩
  · rename_i hRanges
    simp only [Bool.and_eq_true] at hRanges
    simp only [reduceCtorEq, false_iff]
    rintro ⟨-, -, -, hFirst, hSecond, hThird, hFourth⟩
    exact hRanges ⟨⟨⟨hFirst, hSecond⟩, hThird⟩, hFourth⟩

theorem except_bind_eq_ok {ε α β : Type} {x : Except ε α} {f : α → Except ε β} {b : β} :
    (x >>= f) = .ok b ↔ ∃ a, x = .ok a ∧ f a = .ok b := by
  cases x with
  | error e => simp [bind, Except.bind]
  | ok a => simp [bind, Except.bind]

theorem throw_if_eq_ok {ε β : Type} {c : Prop} [Decidable c] {e : ε} {x : Except ε β} {b : β} :
    (if c then (throw e : Except ε PUnit) >>= fun _ => x else x) = .ok b ↔ ¬ c ∧ x = .ok b := by
  split
  · simp_all [throw, throwThe, MonadExceptOf.throw, bind, Except.bind]
  · simp_all

theorem readParameters_ok_iff {p : Json} {r : Provisioning.AmneziaWGParameters} :
    readParameters p = .ok r ↔
      (decodeParameters p).validate = none ∧ (decodeParameters p).accepted = r := by
  unfold readParameters
  simp (disch := decide) only [except_bind_eq_ok, throw_if_eq_ok, readInteger_ok_iff,
    readConstant_ok_iff, readRange_ok_iff, and_assoc, exists_eq_left']
  rw [AmneziaWGParameters.validate_eq_none_iff]
  simp only [decodeParameters, AmneziaWGParameters.accepted, pure, Except.pure, Except.ok.injEq]
  grind

/-! ### Fingerprints and keys -/

theorem isKeyFingerprint_iff (text : String) :
    isKeyFingerprint text = true ↔ ClientTunnel.isFingerprint text.toList = true := by
  have hShape : isKeyFingerprint text = true ↔
      text.toList.length = 64 ∧ ∀ c ∈ text.toList, Hex.isLowerDigit c = true := by
    simp [isKeyFingerprint, Hex.isLowerDigit]
  rw [hShape]
  unfold ClientTunnel.isFingerprint
  constructor
  · rintro ⟨hLength, hLower⟩
    have hDigits : ∀ c ∈ text.toList, (Hex.digit? c).isSome :=
      fun c hc => ((Hex.isLowerDigit_iff c).1 (hLower c hc)).1
    have hKept : text.toList.map Char.toLower = text.toList :=
      (List.map_congr_left fun c hc => ((Hex.isLowerDigit_iff c).1 (hLower c hc)).2).trans
        (List.map_id _)
    obtain ⟨bytes, hBytes⟩ := Option.isSome_iff_exists.1
      (Hex.isSome_decode (by omega) hDigits)
    have hTwice := (Hex.decode_eq_some hBytes).1
    have hSize : bytes.length = 32 := by omega
    simp [hBytes, hSize, hKept]
  · intro h
    cases hBytes : Hex.decode text.toList with
    | none => simp [hBytes] at h
    | some bytes =>
      obtain ⟨hTwice, hDigits⟩ := Hex.decode_eq_some hBytes
      simp only [hBytes, Bool.and_eq_true, decide_eq_true_eq] at h
      obtain ⟨hSize, hKept⟩ := h
      refine ⟨by omega, ?_⟩
      intro c hc
      refine (Hex.isLowerDigit_iff c).2 ⟨hDigits c hc, ?_⟩
      have hEach : text.toList.map Char.toLower = text.toList.map id := by
        rw [hKept, List.map_id]
      exact List.map_inj_left.1 hEach c hc

/-- The keys of the control plane's pattern are the canonical texts of 32 bytes. -/
theorem isHeaderProtectionKey_iff (key : String) :
    isHeaderProtectionKey key = true ↔
      ∃ bytes, bytes.length = 32 ∧ key.toList = Base64.encode bytes := by
  rw [show (32 : Nat) = 3 * 10 + 2 from rfl, Base64.exists_encode_iff]
  unfold isHeaderProtectionKey
  dsimp only
  rw [show "ABCDEFGHIJKLMNOPQRSTUVWXYZabcdefghijklmnopqrstuvwxyz0123456789+/".toList =
    Base64.alphabet from rfl]
  simp only [Bool.and_eq_true, decide_eq_true_eq, List.all_eq_true]
  constructor
  · rintro ⟨⟨⟨hLength, hLast⟩, hChars⟩, hSpare⟩
    refine ⟨key.toList.take 43, ?_, ?_, hChars, ?_⟩
    · have hInit : key.toList.dropLast = key.toList.take 43 := by
        rw [List.dropLast_eq_take, hLength]
      rw [← hInit]
      exact (List.dropLast_append_getLast? _ hLast).symm
    · rw [List.length_take]
      omega
    · intro c hc
      rw [List.getLast?_eq_getElem?, List.length_take, hLength] at hc
      have hAt : key.toList[42]? = some c := by simpa using hc
      simpa [hAt] using hSpare
  · rintro ⟨t, hText, hLength, hChars, hSpare⟩
    have hLast : t.getLast? = t[42]? := by rw [List.getLast?_eq_getElem?, hLength]
    have hAt : key.toList[42]? = t[42]? := by
      rw [hText, List.getElem?_append_left (by omega)]
    have hTake : key.toList.take 43 = t := by
      rw [hText, List.take_left' (by omega)]
    refine ⟨⟨⟨?_, ?_⟩, ?_⟩, ?_⟩
    · rw [hText, List.length_append, hLength]
      rfl
    · rw [hText, List.getLast?_concat]
    · rw [hTake]
      exact hChars
    · rw [hAt, ← hLast]
      cases hc : t.getLast? with
      | none =>
        rw [List.getLast?_eq_none_iff] at hc
        simp [hc] at hLength
      | some c => simpa using hSpare c hc

/-- The fingerprint that the control plane computes. -/
def keyFingerprint (sha256 : List UInt8 → List UInt8) (key : String) : String :=
  String.ofList (Hex.encode (sha256 (Base64.decode key.toList)))

theorem key_accepted_iff (sha256 : List UInt8 → List UInt8) (fingerprint key : String)
    (parameters : Provisioning.AmneziaWGParameters) :
    (validateHeaderProtectionKey (keyFingerprint sha256) (.amneziawg fingerprint parameters)
      (some key)).isOk = true ↔
      ∃ bytes, bytes.length = 32 ∧ key.toList = Base64.encode bytes ∧
        Hex.encode (sha256 bytes) = fingerprint.toList := by
  have hPrint : ∀ bytes, key.toList = Base64.encode bytes →
      (keyFingerprint sha256 key = fingerprint ↔
        Hex.encode (sha256 bytes) = fingerprint.toList) := by
    intro bytes hText
    rw [keyFingerprint, hText, Base64.decode_encode, ← String.toList_inj, String.toList_ofList]
  unfold validateHeaderProtectionKey
  dsimp only
  constructor
  · intro h
    split at h
    · rename_i hKey
      obtain ⟨bytes, hLength, hText⟩ := (isHeaderProtectionKey_iff key).1 hKey.1
      exact ⟨bytes, hLength, hText, (hPrint bytes hText).1 hKey.2⟩
    · cases h
  · rintro ⟨bytes, hLength, hText, hHash⟩
    rw [if_pos ⟨(isHeaderProtectionKey_iff key).2 ⟨bytes, hLength, hText⟩,
      (hPrint bytes hText).2 hHash⟩]
    rfl

theorem isAmneziaWG_of_valid {t : ClientTunnel} (hValid : ClientTunnel.validate (some t) = none)
    (hOther : t.protocol ≠ "wireguard") : ClientTunnel.isAmneziaWG (some t) = true := by
  by_contra hNot
  rw [Bool.not_eq_true] at hNot
  simp [ClientTunnel.validate, hOther, hNot] at hValid

theorem validateSecret_eq_none_iff (sha256 : List UInt8 → List UInt8) {t : ClientTunnel}
    (hValid : ClientTunnel.validate (some t) = none)
    (hAmnezia : ClientTunnel.isAmneziaWG (some t) = true) (key : String) :
    ClientTunnel.validateSecret sha256 (some t) key = none ↔
      ∃ bytes, bytes.length = 32 ∧ key.toList = Base64.encode bytes ∧
        Hex.encode (sha256 bytes) = t.headerProtectionKeySHA256.toList := by
  unfold ClientTunnel.validateSecret
  simp only [hValid, hAmnezia, Bool.not_true, Bool.false_eq_true, if_false]
  constructor
  · intro h
    cases hDecoded : Base64.decodeStrict key.toList with
    | none => simp [hDecoded] at h
    | some decoded =>
      simp only [hDecoded] at h
      split at h
      · cases h
      · rename_i hShape
        split at h
        · cases h
        · rename_i hHash
          simp only [not_or, not_not] at hShape hHash
          exact ⟨decoded, hShape.1, hShape.2.symm, hHash⟩
  · rintro ⟨bytes, hLength, hText, hHash⟩
    simp [hText, Base64.decodeStrict_encode, hLength, hHash]

/-! ### Tunnels -/

theorem validate_decodeParameters_empty : (decodeParameters (.obj [])).validate ≠ none := by
  decide

/-- The text of a field, if it has one. -/
def textField? (object : Json) (name : String) : Option String :=
  match object.field? name with
  | some (.str s) => some s
  | some .null | some (.bool _) | some (.num _) | some (.arr _) | some (.obj _) | none => none

theorem decodeText_eq (object : Json) (name : String) :
    decodeText object name = (textField? object name).getD "" := by
  unfold decodeText textField?
  cases object.field? name with
  | none => rfl
  | some json => cases json <;> rfl

theorem getD_eq_iff {text? : Option String} {text : String} (hSome : text ≠ "") :
    text?.getD "" = text ↔ text? = some text := by
  cases text? with
  | none => simp [hSome.symm]
  | some s => simp

theorem readClientTunnel_fields (fields : List (String × Json)) :
    readClientTunnel (some (.obj fields)) =
      if textField? (.obj fields) "protocol" = some "wireguard" then .ok .wireguard
      else if textField? (.obj fields) "protocol" ≠ some "amneziawg" ∨
          textField? (.obj fields) "version" ≠ some "3.1" then
        .error "unsupported client tunnel protocol/version"
      else
        match textField? (.obj fields) "headerProtectionKeySha256" with
        | none => .error "invalid AmneziaWG key fingerprint"
        | some sha256 =>
          if !isKeyFingerprint sha256 then .error "invalid AmneziaWG key fingerprint"
          else
            match (Json.obj fields).field? "parameters" with
            | some (.obj p) => (readParameters (.obj p)).map (.amneziawg sha256)
            | some .null | some (.bool _) | some (.num _) | some (.str _) | some (.arr _) | none =>
              .error "missing AmneziaWG parameters" := rfl

theorem readClientTunnel_obj (fields : List (String × Json)) :
    readClientTunnel (some (.obj fields)) =
      let t := decodeTunnel (.obj fields)
      if t.protocol = "wireguard" then .ok .wireguard
      else if t.protocol ≠ "amneziawg" ∨ t.version ≠ "3.1" then
        .error "unsupported client tunnel protocol/version"
      else if !ClientTunnel.isFingerprint t.headerProtectionKeySHA256.toList then
        .error "invalid AmneziaWG key fingerprint"
      else
        match (Json.obj fields).field? "parameters" with
        | some (.obj p) =>
          (readParameters (.obj p)).map (.amneziawg t.headerProtectionKeySHA256)
        | some .null | some (.bool _) | some (.num _) | some (.str _) | some (.arr _) | none =>
          .error "missing AmneziaWG parameters" := by
  simp only [readClientTunnel_fields, decodeTunnel, decodeText_eq, ne_eq,
    getD_eq_iff (show "wireguard" ≠ "" by decide), getD_eq_iff (show "amneziawg" ≠ "" by decide),
    getD_eq_iff (show "3.1" ≠ "" by decide)]
  split
  · rfl
  split
  · rfl
  cases textField? (.obj fields) "headerProtectionKeySha256" with
  | none => rfl
  | some sha256 =>
    have hSame : ClientTunnel.isFingerprint sha256.toList = isKeyFingerprint sha256 := by
      rw [Bool.eq_iff_iff, isKeyFingerprint_iff]
    simp only [Option.getD_some, hSame]

theorem parameters_ok_iff (field : Option Json)
    (f : Provisioning.AmneziaWGParameters → Provisioning.ClientTunnel)
    (tunnel : Provisioning.ClientTunnel) :
    (match field with
      | some (.obj p) => (readParameters (.obj p)).map f
      | some .null | some (.bool _) | some (.num _) | some (.str _) | some (.arr _) | none =>
        .error "missing AmneziaWG parameters") = .ok tunnel ↔
      (decodeParameters (Json.asRecord field)).validate = none ∧
        f (decodeParameters (Json.asRecord field)).accepted = tunnel := by
  have hEmpty := validate_decodeParameters_empty
  cases field with
  | none => simp [Json.asRecord, hEmpty]
  | some json =>
    cases json with
    | obj p =>
      simp only [Json.asRecord]
      constructor
      · intro h
        cases hRead : readParameters (.obj p) with
        | error e =>
          rw [hRead] at h
          cases h
        | ok parameters =>
          rw [hRead] at h
          cases h
          obtain ⟨hValid, hSame⟩ := readParameters_ok_iff.1 hRead
          exact ⟨hValid, congrArg f hSame⟩
      · rintro ⟨hValid, rfl⟩
        rw [readParameters_ok_iff.2 ⟨hValid, rfl⟩]
        rfl
    | null | bool b | num n | str s | arr items => simp [Json.asRecord, hEmpty]

section

variable (fields : List (String × Json))

/-- The tunnel that is read is the decoded one, and it is read when the decoded one is valid. -/
theorem readClientTunnel_ok_iff (tunnel : Provisioning.ClientTunnel) :
    readClientTunnel (some (.obj fields)) = .ok tunnel ↔
      ClientTunnel.validate (some (decodeTunnel (.obj fields))) = none ∧
      tunnel =
        if (decodeTunnel (.obj fields)).protocol = "wireguard" then .wireguard
        else .amneziawg (decodeTunnel (.obj fields)).headerProtectionKeySHA256
          (decodeTunnel (.obj fields)).parameters.accepted := by
  rw [readClientTunnel_obj]
  unfold ClientTunnel.validate
  dsimp only
  by_cases hWireguard : (decodeTunnel (.obj fields)).protocol = "wireguard"
  · simp [hWireguard, eq_comm]
  · simp only [hWireguard, if_false]
    by_cases hKind : (decodeTunnel (.obj fields)).protocol = "amneziawg" ∧
        (decodeTunnel (.obj fields)).version = "3.1"
    · by_cases hPrint : ClientTunnel.isFingerprint
          (decodeTunnel (.obj fields)).headerProtectionKeySHA256.toList = true
      · have hParameters := parameters_ok_iff ((Json.obj fields).field? "parameters")
          (.amneziawg (decodeTunnel (.obj fields)).headerProtectionKeySHA256) tunnel
        simp [hKind, hPrint, ClientTunnel.isAmneziaWG]
        exact hParameters.trans (and_congr Iff.rfl eq_comm)
      · simp [hKind, hPrint, ClientTunnel.isAmneziaWG]
    · have hOther : (decodeTunnel (.obj fields)).protocol ≠ "amneziawg" ∨
          (decodeTunnel (.obj fields)).version ≠ "3.1" := by
        by_contra hBoth
        simp only [not_or, ne_eq, not_not] at hBoth
        exact hKind hBoth
      simp [hOther, ClientTunnel.isAmneziaWG]

end

/-- The arguments that the parameters of an accepted tunnel stand for. -/
def kernelArgs (p : Provisioning.AmneziaWGParameters) : List String :=
  AmneziaWGParameters.args
    ⟨p.jc, p.jmin, p.jmax, p.s1, p.s2, p.s3, p.s4, p.h1, p.h2, p.h3, p.h4,
      p.contentPaddingAddition, p.rekeyAfterTime, p.rekeyTimeout, p.keepaliveTimeout,
      p.randomTrailers⟩

/-- The SHA-256 of the key of 32 zero bytes. -/
def zeroFingerprint : String := "66687aadf862bd776c8fc18b8e9f8e20089714856ee233b3902a591d0d5f2925"

/-- SHA-256 as far as the key of 32 zero bytes asks for it. -/
def zeroKeyHash (_ : List UInt8) : List UInt8 := (Hex.decode zeroFingerprint.toList).getD []

def zeroKey : String := "AAAAAAAAAAAAAAAAAAAAAAAAAAAAAAAAAAAAAAAAAAA="

def sampleTunnel : List (String × Json) :=
  [("protocol", .str "amneziawg"), ("version", .str "3.1"),
    ("headerProtectionKeySha256", .str zeroFingerprint),
    ("parameters", .obj [
      ("Jc", .num 4), ("Jmin", .num 40), ("Jmax", .num 1000),
      ("S1", .num 16), ("S2", .num 16), ("S3", .num 16), ("S4", .num 16),
      ("H1", .str "1"), ("H2", .str "2"), ("H3", .str "3"), ("H4", .str "4"),
      ("ContentPaddingAddition", .str "0-64"), ("RekeyAfterTime", .str "100-140"),
      ("RekeyTimeout", .str "4-7"), ("KeepaliveTimeout", .str "8-15"),
      ("RandomTrailers", .str "on")])]

def sampleParameters : Provisioning.AmneziaWGParameters :=
  ⟨4, 40, 1000, 16, 16, 16, 16, "1", "2", "3", "4", "0-64", "100-140", "4-7", "8-15", "on"⟩

end Hyperspace.GateAgent
