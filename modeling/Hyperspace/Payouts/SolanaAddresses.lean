import Hyperspace.Foundations.Json
import Hyperspace.Foundations.Radix
import Mathlib.Data.FinEnum

/-!
# Solana addresses

Public keys and signatures are written in base 58. The custodial wallets, the withdrawal loop and
the payments of session configs each have an encoder of their own; the destination of a withdrawal
is decoded before it is used.
-/

namespace Hyperspace.Payouts

open Hyperspace.Foundations Hyperspace.Foundations.Radix

def alphabet : List Char := "123456789ABCDEFGHJKLMNPQRSTUVWXYZabcdefghijkmnopqrstuvwxyz".toList

/-! ## The encoders -/

/-- What the encoders do with the bytes; `alphabet[digit]` is the empty text when there is none. -/
def toBase58 (value : List UInt8) : String :=
  let digits := (value.map UInt8.toNat).foldl (shiftIn 58 256) [0]
  let ones := (value.takeWhile (· = 0)).map fun _ => '1'
  String.ofList (ones ++ digits.reverse.filterMap fun digit => alphabet[digit]?)

namespace CustodialWallet

def encodeBase58 (value : List UInt8) : String :=
  if value.length = 0 then "" else toBase58 value

end CustodialWallet

namespace WithdrawalLoop

def encodeBase58 (value : List UInt8) : String := toBase58 value

end WithdrawalLoop

namespace ConfigPayment

def encodeBase58 (value : List UInt8) : String := toBase58 value

end ConfigPayment

/-! ## The decoder -/

/-- The loop of the decoder. -/
def readDigits (text : List Char) (kept : List ℕ) : Option (List ℕ) :=
  text.foldlM (fun bytes char => do
    let valueIndex ← alphabet.idxOf? char
    return shiftIn 256 58 bytes valueIndex) kept

def decodeBase58 (value : String) : Option (List UInt8) := do
  let bytes ← readDigits value.toList [0]
  -- the last character gives a byte of its own also when it is a '1'
  let ones := (value.toList.dropLast.takeWhile (· = '1')).length
  return (bytes ++ List.replicate ones 0).reverse.map UInt8.ofNat

def normalizeSolanaPublicKey (value : String) : String :=
  let publicKey := Json.trim value
  match decodeBase58 publicKey with
  | none => ""
  | some bytes => if bytes.length ≠ 32 ∨ ∀ byte ∈ bytes, byte = 0 then "" else publicKey

/-- A `1` for each zero byte in front, and the number of the bytes in base 58. -/
def base58Text (value : List UInt8) : String :=
  String.ofList (List.replicate (value.takeWhile (· = 0)).length '1' ++
    (Nat.digits 58 (Nat.ofDigits 256 (value.map UInt8.toNat).reverse)).reverse.map
      fun digit => alphabet.getD digit ' ')

/-! ## Characters and digits -/

/-- The characters are those of the digits. -/
def Spells (text : List Char) (digits : List ℕ) : Prop :=
  List.Forall₂ (fun char digit => alphabet[digit]? = some char) text digits

theorem alphabet_nodup : alphabet.Nodup := by decide

theorem idxOf?_alphabet {char : Char} {digit : ℕ} :
    alphabet.idxOf? char = some digit ↔ alphabet[digit]? = some char := by
  constructor
  · intro h
    obtain ⟨hLt, hChar, -⟩ := List.idxOf?_eq_some_iff.1 h
    rw [List.getElem?_eq_getElem hLt, hChar]
  · intro h
    have hMem : char ∈ alphabet := List.mem_of_getElem? h
    obtain ⟨index, hIndex⟩ := Option.isSome_iff_exists.1 (List.isSome_idxOf?.2 hMem)
    obtain ⟨hLt, hChar, -⟩ := List.idxOf?_eq_some_iff.1 hIndex
    have hSame : alphabet[index]? = alphabet[digit]? := by
      rw [h, List.getElem?_eq_getElem hLt, hChar]
    rw [hIndex, (List.getElem?_inj hLt alphabet_nodup).1 hSame]

theorem lt_of_getElem?_alphabet {char : Char} {digit : ℕ} (h : alphabet[digit]? = some char) :
    digit < 58 :=
  (List.getElem?_eq_some_iff.1 h).1

theorem eq_one_iff {char : Char} {digit : ℕ} (h : alphabet[digit]? = some char) :
    char = '1' ↔ digit = 0 := by
  constructor
  · rintro rfl
    have hZero : alphabet[digit]? = alphabet[0]? := h
    exact (List.getElem?_inj (lt_of_getElem?_alphabet h) alphabet_nodup).1 hZero
  · rintro rfl
    exact (Option.some.inj h).symm

namespace Spells

variable {text : List Char} {digits : List ℕ}

theorem lt (h : Spells text digits) : ∀ digit ∈ digits, digit < 58 := by
  induction h with
  | nil => simp
  | cons hChar _ ih =>
      intro digit hMem
      cases hMem with
      | head => exact lt_of_getElem?_alphabet hChar
      | tail _ hMem => exact ih digit hMem

theorem filterMap (h : Spells text digits) :
    (digits.filterMap fun digit => alphabet[digit]?) = text := by
  induction h with
  | nil => rfl
  | cons hChar _ ih => rw [List.filterMap_cons, hChar, ih]

theorem map_getD (h : Spells text digits) :
    (digits.map fun digit => alphabet.getD digit ' ') = text := by
  induction h with
  | nil => rfl
  | cons hChar _ ih => rw [List.map_cons, List.getD_eq_getElem?_getD, hChar, ih, Option.getD_some]

theorem of_lt (hLt : ∀ digit ∈ digits, digit < 58) :
    Spells (digits.filterMap fun digit => alphabet[digit]?) digits := by
  induction digits with
  | nil => exact .nil
  | cons digit digits ih =>
      have hLength : digit < alphabet.length := hLt digit List.mem_cons_self
      have hChar : alphabet[digit]? = some alphabet[digit] := List.getElem?_eq_getElem hLength
      rw [List.filterMap_cons, hChar]
      exact .cons hChar (ih fun d hd => hLt d (List.mem_cons_of_mem _ hd))

theorem takeWhile (h : Spells text digits) :
    (text.takeWhile (· = '1')).length = leadingZeros digits := by
  unfold leadingZeros
  induction h with
  | nil => rfl
  | cons hChar _ ih => simp [List.takeWhile_cons, eq_one_iff hChar, apply_ite List.length, ih]

theorem exists_ne_one (h : Spells text digits) (hSome : ∃ digit ∈ digits, digit ≠ 0) :
    ∃ char ∈ text, decide (char = '1') = false := by
  induction h with
  | nil => simp at hSome
  | cons hChar _ ih =>
      obtain ⟨digit, hMem, hDigit⟩ := hSome
      cases hMem with
      | head => exact ⟨_, List.mem_cons_self, by simp [eq_one_iff hChar, hDigit]⟩
      | tail _ hMem =>
          obtain ⟨char, hLater, hOther⟩ := ih ⟨digit, hMem, hDigit⟩
          exact ⟨char, List.mem_cons_of_mem _ hLater, hOther⟩

end Spells

/-! ## Both as a change of the base -/

theorem value_bytes_ne_zero {value : List UInt8} (h : ∃ byte ∈ value, byte ≠ 0) :
    Radix.value 256 (value.map UInt8.toNat) ≠ 0 := by
  obtain ⟨byte, hMem, hByte⟩ := h
  apply value_ne_zero (by omega)
  · exact ⟨byte.toNat, List.mem_map_of_mem hMem, fun hZero => hByte (UInt8.toNat_inj.1 hZero)⟩
  · intro d hd
    obtain ⟨byte, -, rfl⟩ := List.mem_map.1 hd
    exact byte.toNat_lt

theorem leadingZeros_bytes (value : List UInt8) :
    leadingZeros (value.map UInt8.toNat) = (value.takeWhile (· = 0)).length := by
  unfold leadingZeros
  rw [List.takeWhile_map, List.length_map]
  congr 2
  funext byte
  simp [← UInt8.toNat_inj]

/-- The encoders write the number of the bytes in base 58, with as many zeros in front. -/
theorem toBase58_eq {value : List UInt8} (h : ∃ byte ∈ value, byte ≠ 0) :
    toBase58 value = String.ofList
      ((reencode 256 58 (value.map UInt8.toNat)).filterMap fun digit => alphabet[digit]?) := by
  have hOnes : (value.takeWhile (· = 0)).map (fun _ => '1')
      = (List.replicate (leadingZeros (value.map UInt8.toNat)) 0).filterMap
          fun digit => alphabet[digit]? := by
    have hOne : (fun digit : ℕ => alphabet[digit]?) 0 = some '1' := rfl
    rw [leadingZeros_bytes, List.map_const', List.filterMap_replicate_of_some hOne]
  unfold toBase58 reencode
  rw [foldl_shiftIn (by omega) (by omega), normal, if_neg (value_bytes_ne_zero h),
    List.filterMap_append, hOnes]

theorem toBase58_eq_base58Text {value : List UInt8} (h : ∃ byte ∈ value, byte ≠ 0) :
    toBase58 value = base58Text value := by
  have hOne : (fun digit : ℕ => alphabet[digit]?) 0 = some '1' := rfl
  have hDigits : Spells _ (Nat.digits 58 (Radix.value 256 (value.map UInt8.toNat))).reverse :=
    Spells.of_lt fun digit hd => Nat.digits_lt_base (by omega) (List.mem_reverse.1 hd)
  rw [toBase58_eq h, reencode, List.filterMap_append, List.filterMap_replicate_of_some hOne,
    leadingZeros_bytes, ← hDigits.map_getD]
  rfl

theorem spells_toBase58 {value : List UInt8} (h : ∃ byte ∈ value, byte ≠ 0) :
    Spells (toBase58 value).toList (reencode 256 58 (value.map UInt8.toNat)) := by
  rw [toBase58_eq h, String.toList_ofList]
  apply Spells.of_lt
  intro digit hd
  exact lt_of_mem_reencode (by omega) hd

theorem readDigits_eq_some {text : List Char} {kept bytes : List ℕ} :
    readDigits text kept = some bytes ↔
      ∃ digits, Spells text digits ∧ bytes = digits.foldl (shiftIn 256 58) kept := by
  unfold readDigits
  induction text generalizing kept with
  | nil =>
      constructor
      · rintro ⟨⟩
        exact ⟨[], .nil, rfl⟩
      · rintro ⟨digits, hSpells, rfl⟩
        cases hSpells
        rfl
  | cons char text ih =>
      rw [List.foldlM_cons]
      constructor
      · intro h
        obtain ⟨next, hNext, hRest⟩ := Option.bind_eq_some_iff.1 h
        obtain ⟨digit, hDigit, hShift⟩ := Option.bind_eq_some_iff.1 hNext
        cases hShift
        obtain ⟨digits, hSpells, rfl⟩ := ih.1 hRest
        exact ⟨digit :: digits, .cons (idxOf?_alphabet.1 hDigit) hSpells, rfl⟩
      · rintro ⟨digits, hSpells, rfl⟩
        cases hSpells with
        | cons hChar hSpells =>
            rw [idxOf?_alphabet.2 hChar]
            exact ih.2 ⟨_, hSpells, rfl⟩

theorem takeWhile_dropLast {α : Type*} {p : α → Bool} {l : List α} (h : ∃ a ∈ l, p a = false) :
    l.dropLast.takeWhile p = l.takeWhile p := by
  induction l with
  | nil => rfl
  | cons a l ih =>
      obtain ⟨b, hMem, hb⟩ := h
      cases l with
      | nil =>
          obtain rfl : b = a := List.mem_singleton.1 hMem
          simp [hb]
      | cons c l =>
          rw [List.dropLast_cons_cons, List.takeWhile_cons, List.takeWhile_cons]
          cases ha : p a with
          | false => rfl
          | true =>
              have hLater : b ∈ c :: l := by
                cases hMem with
                | head => rw [hb] at ha; cases ha
                | tail _ hLater => exact hLater
              simp [ih ⟨b, hLater, hb⟩]

theorem decodeBase58_eq_some {value : String} {bytes : List UInt8} :
    decodeBase58 value = some bytes ↔ ∃ digits, Spells value.toList digits ∧
      bytes = (normal 256 (Radix.value 58 digits) ++ List.replicate
        (value.toList.dropLast.takeWhile (· = '1')).length 0).reverse.map UInt8.ofNat := by
  unfold decodeBase58
  rw [Option.bind_eq_bind, Option.bind_eq_some_iff]
  constructor
  · rintro ⟨kept, hRead, hBytes⟩
    cases hBytes
    obtain ⟨digits, hSpells, rfl⟩ := readDigits_eq_some.1 hRead
    exact ⟨digits, hSpells, by rw [foldl_shiftIn (by omega) (by omega)]⟩
  · rintro ⟨digits, hSpells, rfl⟩
    refine ⟨_, readDigits_eq_some.2 ⟨digits, hSpells, rfl⟩, ?_⟩
    rw [foldl_shiftIn (by omega) (by omega)]
    rfl

theorem decoded_eq {text : List Char} {digits : List ℕ} (hSpells : Spells text digits)
    (hNumber : Radix.value 58 digits ≠ 0) :
    (normal 256 (Radix.value 58 digits) ++ List.replicate
      (text.dropLast.takeWhile (· = '1')).length 0).reverse = reencode 58 256 digits := by
  have hOther := hSpells.exists_ne_one (exists_ne_zero hNumber)
  rw [takeWhile_dropLast hOther, hSpells.takeWhile, normal, if_neg hNumber, List.reverse_append,
    List.reverse_replicate, reencode]

theorem eq_zero_of_mem_decoded {k : ℕ} {byte : UInt8}
    (h : byte ∈ (normal 256 0 ++ List.replicate k 0).reverse.map UInt8.ofNat) : byte = 0 := by
  obtain ⟨d, hd, rfl⟩ := List.mem_map.1 h
  have hZero : d = 0 := by
    rcases List.mem_append.1 (List.mem_reverse.1 hd) with hd | hd
    · simpa [normal] using hd
    · exact List.eq_of_mem_replicate hd
  rw [hZero]
  rfl

theorem map_ofNat_toNat (value : List UInt8) :
    (value.map UInt8.toNat).map UInt8.ofNat = value := by
  rw [List.map_map]
  simp [Function.comp_def]

theorem map_toNat_ofNat {digits : List ℕ} (h : ∀ d ∈ digits, d < 256) :
    (digits.map UInt8.ofNat).map UInt8.toNat = digits := by
  rw [List.map_map]
  apply (List.map_congr_left _).trans (List.map_id digits)
  intro d hd
  exact UInt8.toNat_ofNat_of_lt (h d hd)

/-! ## The round trip -/

theorem decodeBase58_toBase58 {value : List UInt8} (h : ∃ byte ∈ value, byte ≠ 0) :
    decodeBase58 (toBase58 value) = some value := by
  have hSpells := spells_toBase58 h
  have hBytes : ∀ d ∈ value.map UInt8.toNat, d < 256 := by
    intro d hd
    obtain ⟨byte, -, rfl⟩ := List.mem_map.1 hd
    exact byte.toNat_lt
  apply decodeBase58_eq_some.2
  refine ⟨_, hSpells, ?_⟩
  rw [decoded_eq hSpells, reencode_reencode (by omega) 58 hBytes, map_ofNat_toNat]
  rw [value_reencode]
  exact value_bytes_ne_zero h

theorem toBase58_of_decodeBase58 {text : String} {bytes : List UInt8}
    (hDecode : decodeBase58 text = some bytes) (h : ∃ byte ∈ bytes, byte ≠ 0) :
    toBase58 bytes = text := by
  obtain ⟨digits, hSpells, rfl⟩ := decodeBase58_eq_some.1 hDecode
  have hNumber : Radix.value 58 digits ≠ 0 := by
    intro hZero
    obtain ⟨byte, hMem, hByte⟩ := h
    rw [hZero] at hMem
    exact hByte (eq_zero_of_mem_decoded hMem)
  rw [decoded_eq hSpells hNumber] at h ⊢
  rw [toBase58_eq h, map_toNat_ofNat, reencode_reencode (by omega) 256 hSpells.lt,
    hSpells.filterMap, String.ofList_toList]
  intro d hd
  exact lt_of_mem_reencode (by omega) hd

theorem custodialWallet_encodeBase58 {value : List UInt8} (h : ∃ byte ∈ value, byte ≠ 0) :
    CustodialWallet.encodeBase58 value = toBase58 value := by
  obtain ⟨byte, hMem, -⟩ := h
  exact if_neg (List.length_pos_of_mem hMem).ne'

theorem normalizeSolanaPublicKey_of_decode {value : String} {bytes : List UInt8}
    (hDecode : decodeBase58 (Json.trim value) = some bytes) (hLength : bytes.length = 32)
    (h : ∃ byte ∈ bytes, byte ≠ 0) : normalizeSolanaPublicKey value = Json.trim value := by
  obtain ⟨byte, hMem, hByte⟩ := h
  unfold normalizeSolanaPublicKey
  simp only [hDecode]
  apply if_neg
  rintro (hOther | hZeros)
  · exact hOther hLength
  · exact hByte (hZeros byte hMem)

theorem decode_of_normalizeSolanaPublicKey {value : String}
    (h : normalizeSolanaPublicKey value ≠ "") :
    ∃ bytes, decodeBase58 (Json.trim value) = some bytes ∧ bytes.length = 32 ∧
      ∃ byte ∈ bytes, byte ≠ 0 := by
  unfold normalizeSolanaPublicKey at h
  cases hDecode : decodeBase58 (Json.trim value) with
  | none => simp [hDecode] at h
  | some bytes =>
      simp only [hDecode] at h
      split at h
      · exact absurd rfl h
      · rename_i hKept
        push Not at hKept
        exact ⟨bytes, rfl, hKept.1, hKept.2⟩

theorem toBase58_ne_empty {value : List UInt8} (h : ∃ byte ∈ value, byte ≠ 0) :
    toBase58 value ≠ "" := by
  intro hEmpty
  have hLength := (spells_toBase58 h).length_eq
  rw [hEmpty] at hLength
  apply value_bytes_ne_zero h
  rw [← value_reencode 256 58, List.eq_nil_of_length_eq_zero hLength.symm]
  rfl

/-- The encoders agree, and an address is taken exactly when it is the text of a public key. -/
theorem base58_roundTrip :
    (∀ value : List UInt8, (∃ byte ∈ value, byte ≠ 0) →
      CustodialWallet.encodeBase58 value = base58Text value ∧
      WithdrawalLoop.encodeBase58 value = base58Text value ∧
      ConfigPayment.encodeBase58 value = base58Text value) ∧
    ∀ address : String,
      (normalizeSolanaPublicKey address ≠ "" ↔
        ∃ key : List UInt8, key.length = 32 ∧ (∃ byte ∈ key, byte ≠ 0) ∧
          Json.trim address = CustodialWallet.encodeBase58 key) ∧
      ∀ key : List UInt8, key.length = 32 → (∃ byte ∈ key, byte ≠ 0) →
        Json.trim address = CustodialWallet.encodeBase58 key →
        normalizeSolanaPublicKey address = Json.trim address ∧
          decodeBase58 (Json.trim address) = some key := by
  constructor
  · intro value h
    rw [custodialWallet_encodeBase58 h]
    exact ⟨toBase58_eq_base58Text h, toBase58_eq_base58Text h, toBase58_eq_base58Text h⟩
  intro address
  have hTaken : ∀ key : List UInt8, key.length = 32 → (∃ byte ∈ key, byte ≠ 0) →
      Json.trim address = CustodialWallet.encodeBase58 key →
      normalizeSolanaPublicKey address = Json.trim address ∧
        decodeBase58 (Json.trim address) = some key := by
    intro key hLength h hAddress
    have hDecode : decodeBase58 (Json.trim address) = some key := by
      rw [hAddress, custodialWallet_encodeBase58 h]
      exact decodeBase58_toBase58 h
    exact ⟨normalizeSolanaPublicKey_of_decode hDecode hLength h, hDecode⟩
  refine ⟨⟨?_, ?_⟩, hTaken⟩
  · intro hNonempty
    obtain ⟨key, hDecode, hLength, h⟩ := decode_of_normalizeSolanaPublicKey hNonempty
    refine ⟨key, hLength, h, ?_⟩
    rw [custodialWallet_encodeBase58 h]
    exact (toBase58_of_decodeBase58 hDecode h).symm
  · rintro ⟨key, hLength, h, hAddress⟩
    rw [(hTaken key hLength h hAddress).1, hAddress, custodialWallet_encodeBase58 h]
    exact toBase58_ne_empty h

def sampleKey : List UInt8 := List.replicate 30 0 ++ [1, 0]

theorem sampleKey_roundTrip :
    WithdrawalLoop.encodeBase58 sampleKey = base58Text sampleKey ∧
    normalizeSolanaPublicKey " 1111111111111111111111111111115R " ≠ "" ∧
    decodeBase58 (Json.trim " 1111111111111111111111111111115R ") = some sampleKey := by
  have hKey : ∃ byte ∈ sampleKey, byte ≠ 0 := by decide
  have hAddress : Json.trim " 1111111111111111111111111111115R "
      = CustodialWallet.encodeBase58 sampleKey := by decide +kernel
  exact ⟨(base58_roundTrip.1 sampleKey hKey).2.1,
    (base58_roundTrip.2 _).1.2 ⟨sampleKey, rfl, hKey, hAddress⟩,
    ((base58_roundTrip.2 _).2 sampleKey rfl hKey hAddress).2⟩

end Hyperspace.Payouts
