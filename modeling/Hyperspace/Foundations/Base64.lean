import Mathlib.Data.List.Basic

/-!
# Base64

The standard alphabet with padding, on lists of characters. `encode` is the canonical text of some
bytes; `decode` is lenient, `decodeStrict` refuses whatever is not padded as it should be.
-/

namespace Hyperspace.Foundations.Base64

def alphabet : List Char :=
  "ABCDEFGHIJKLMNOPQRSTUVWXYZabcdefghijklmnopqrstuvwxyz0123456789+/".toList

def char (n : Nat) : Char := alphabet[n]?.getD 'A'

def sextet? (c : Char) : Option Nat :=
  if c ∈ alphabet then some (alphabet.idxOf c) else none

/-- The bits of some bytes six at a time; the last sextet is filled up with zeros. -/
def sextets : List UInt8 → List Nat
  | [] => []
  | [x] => [x.toNat / 4, x.toNat % 4 * 16]
  | [x, y] => [x.toNat / 4, x.toNat % 4 * 16 + y.toNat / 16, y.toNat % 16 * 4]
  | x :: y :: z :: rest =>
    x.toNat / 4 :: (x.toNat % 4 * 16 + y.toNat / 16) :: (y.toNat % 16 * 4 + z.toNat / 64) ::
      z.toNat % 64 :: sextets rest

/-- The bytes of some sextets; bits that do not fill a byte are dropped. -/
def pack : List Nat → List UInt8
  | p :: q :: r :: s :: rest =>
    UInt8.ofNat (p * 4 + q / 16) :: UInt8.ofNat (q % 16 * 16 + r / 4) ::
      UInt8.ofNat (r % 4 * 64 + s) :: pack rest
  | [p, q, r] => [UInt8.ofNat (p * 4 + q / 16), UInt8.ofNat (q % 16 * 16 + r / 4)]
  | [p, q] => [UInt8.ofNat (p * 4 + q / 16)]
  | [_] | [] => []

def padding (length : Nat) : List Char := List.replicate ((3 - length % 3) % 3) '='

def encode (bytes : List UInt8) : List Char :=
  (sextets bytes).map char ++ padding bytes.length

/-- Reads up to the padding and skips what is not in the alphabet. -/
def decode (s : List Char) : List UInt8 := pack ((s.takeWhile (· ≠ '=')).filterMap sextet?)

/-- The sextets of a text whose last quantum is padded exactly as it has to be. -/
def quanta : List Char → Option (List Nat)
  | [] => some []
  | [p, q, '=', '='] => do return [← sextet? p, ← sextet? q]
  | [p, q, r, '='] => do return [← sextet? p, ← sextet? q, ← sextet? r]
  | p :: q :: r :: s :: rest => do
    return (← sextet? p) :: (← sextet? q) :: (← sextet? r) :: (← sextet? s) :: (← quanta rest)
  | [_, _, _] | [_, _] | [_] => none

/-- Line breaks count for nothing; anything else outside the alphabet is refused. -/
def decodeStrict (s : List Char) : Option (List UInt8) :=
  (quanta (s.filter fun c => c ≠ '\r' ∧ c ≠ '\n')).map pack

/-! ### The alphabet -/

theorem sextet?_char {n : Nat} (h : n < 64) : sextet? (char n) = some n := by
  have hAll : ∀ n : Fin 64, sextet? (char n) = some n.val := by decide +kernel
  exact hAll ⟨n, h⟩

theorem char_of_sextet? {c : Char} {n : Nat} (h : sextet? c = some n) : char n = c := by
  unfold sextet? at h
  split at h
  · rename_i hMem
    cases h
    have hLt := List.idxOf_lt_length_of_mem hMem
    simp [char, List.getElem?_eq_getElem hLt]
  · cases h

theorem char_ne {n : Nat} (h : n < 64) {c : Char} (hc : c ∉ alphabet) : char n ≠ c := by
  intro hEq
  have hSextet := sextet?_char h
  simp [sextet?, hEq, hc] at hSextet

/-! ### Sextets and bytes -/

theorem sextets_lt (bytes : List UInt8) : ∀ n ∈ sextets bytes, n < 64 := by
  have hByte (x : UInt8) := x.toNat_lt
  fun_induction sextets bytes with
  | case1 => simp
  | case2 x => grind
  | case3 x y => grind
  | case4 x y z rest ih => grind

theorem length_sextets (bytes : List UInt8) :
    (sextets bytes).length = (bytes.length * 8 + 5) / 6 := by
  fun_induction sextets bytes with
  | case1 => rfl
  | case2 x => simp
  | case3 x y => simp
  | case4 x y z rest ih =>
    simp only [List.length_cons, ih]
    omega

theorem pack_sextets (bytes : List UInt8) : pack (sextets bytes) = bytes := by
  have hByte (x : UInt8) := x.toNat_lt
  fun_induction sextets bytes with
  | case1 => rfl
  | case2 x =>
    have := hByte x
    simp only [pack, List.cons.injEq, ← UInt8.toNat_inj, UInt8.toNat_ofNat', and_true]
    omega
  | case3 x y =>
    have := hByte x
    have := hByte y
    simp only [pack, List.cons.injEq, ← UInt8.toNat_inj, UInt8.toNat_ofNat', and_true]
    omega
  | case4 x y z rest ih =>
    have := hByte x
    have := hByte y
    have := hByte z
    simp only [pack, List.cons.injEq, ← UInt8.toNat_inj, UInt8.toNat_ofNat', ih, and_true]
    omega

theorem length_pack (s : List Nat) : (pack s).length = s.length * 6 / 8 := by
  fun_induction pack s with
  | case1 p q r s rest ih =>
    simp only [List.length_cons, ih]
    omega
  | case2 p q r => simp
  | case3 p q => simp
  | case4 p => simp
  | case5 => rfl

/-- Two bytes beyond the last full quantum leave two bits to spare, which have to be zero. -/
theorem sextets_pack {s : List Nat} (hLt : ∀ n ∈ s, n < 64) (hLength : s.length % 4 = 3)
    (hSpare : ∀ n, s.getLast? = some n → n % 4 = 0) : sextets (pack s) = s := by
  fun_induction pack s with
  | case1 p q r s rest ih =>
    have hRest : rest ≠ [] := by
      intro hNil
      simp [hNil] at hLength
    have hTail : sextets (pack rest) = rest := by
      apply ih
      · intro n hn
        exact hLt n (by simp [hn])
      · simp only [List.length_cons] at hLength
        omega
      · intro n hn
        apply hSpare
        simp [List.getLast?_cons, hn]
    have hp := hLt p (by simp)
    have hq := hLt q (by simp)
    have hr := hLt r (by simp)
    have hs := hLt s (by simp)
    simp only [sextets, hTail, UInt8.toNat_ofNat', List.cons.injEq, and_true]
    omega
  | case2 p q r =>
    have hp := hLt p (by simp)
    have hq := hLt q (by simp)
    have hr := hLt r (by simp)
    have hSpare := hSpare r rfl
    simp only [sextets, UInt8.toNat_ofNat', List.cons.injEq, and_true]
    omega
  | case3 p q => simp at hLength
  | case4 p => simp at hLength
  | case5 => simp at hLength

theorem spare_sextets {bytes : List UInt8} (h : bytes.length % 3 = 2) :
    ∀ n, (sextets bytes).getLast? = some n → n % 4 = 0 := by
  fun_induction sextets bytes with
  | case1 => simp at h
  | case2 x => simp at h
  | case3 x y =>
    intro n hn
    simp only [List.getLast?_cons_cons, List.getLast?_singleton, Option.some.injEq] at hn
    omega
  | case4 x y z rest ih =>
    intro n hn
    simp only [List.length_cons] at h
    have hSome : sextets rest ≠ [] := by
      intro hNil
      have hLength := length_sextets rest
      rw [hNil, List.length_nil] at hLength
      omega
    obtain ⟨m, tail, hTail⟩ := List.exists_cons_of_ne_nil hSome
    apply ih (by omega)
    rw [hTail] at hn ⊢
    simpa using hn

/-! ### Texts -/

theorem char_mem {n : Nat} (h : n < 64) : char n ∈ alphabet := by
  by_contra hNot
  exact char_ne h hNot rfl

theorem char_idxOf {c : Char} (h : c ∈ alphabet) : char (alphabet.idxOf c) = c :=
  char_of_sextet? (if_pos h)

theorem idxOf_char {n : Nat} (h : n < 64) : alphabet.idxOf (char n) = n := by
  have hSextet := sextet?_char h
  unfold sextet? at hSextet
  rw [if_pos (char_mem h)] at hSextet
  exact Option.some.inj hSextet

/-- The canonical texts of two bytes beyond a multiple of three: one sign of padding, and a last
    sextet without spare bits. -/
theorem exists_encode_iff {s : List Char} {k : Nat} :
    (∃ bytes, bytes.length = 3 * k + 2 ∧ s = encode bytes) ↔
      ∃ t, s = t ++ ['='] ∧ t.length = 4 * k + 3 ∧ (∀ c ∈ t, c ∈ alphabet) ∧
        ∀ c, t.getLast? = some c → alphabet.idxOf c % 4 = 0 := by
  constructor
  · rintro ⟨bytes, hLength, rfl⟩
    have hPadding : padding bytes.length = ['='] := by
      have hMod : bytes.length % 3 = 2 := by omega
      simp [padding, hMod]
    refine ⟨(sextets bytes).map char, ?_, ?_, ?_, ?_⟩
    · rw [encode, hPadding]
    · rw [List.length_map, length_sextets]
      omega
    · intro c hc
      obtain ⟨n, hn, rfl⟩ := List.mem_map.1 hc
      exact char_mem (sextets_lt bytes n hn)
    · intro c hc
      rw [List.getLast?_map] at hc
      obtain ⟨n, hn, rfl⟩ := Option.map_eq_some_iff.1 hc
      rw [idxOf_char (sextets_lt bytes n (List.mem_of_getLast? hn))]
      exact spare_sextets (by omega) n hn
  · rintro ⟨t, rfl, hLength, hChars, hSpare⟩
    have hLt : ∀ n ∈ t.map alphabet.idxOf, n < 64 := by
      intro n hn
      obtain ⟨c, hc, rfl⟩ := List.mem_map.1 hn
      exact List.idxOf_lt_length_of_mem (hChars c hc)
    have hSextets : sextets (pack (t.map alphabet.idxOf)) = t.map alphabet.idxOf := by
      apply sextets_pack hLt
      · rw [List.length_map]
        omega
      · intro n hn
        rw [List.getLast?_map] at hn
        obtain ⟨c, hc, rfl⟩ := Option.map_eq_some_iff.1 hn
        exact hSpare c hc
    have hBytes : (pack (t.map alphabet.idxOf)).length = 3 * k + 2 := by
      rw [length_pack, List.length_map]
      omega
    refine ⟨pack (t.map alphabet.idxOf), hBytes, ?_⟩
    have hPadding : padding (3 * k + 2) = ['='] := by simp [padding]
    have hText : (t.map alphabet.idxOf).map char = t := by
      rw [List.map_map]
      exact (List.map_congr_left fun c hc => char_idxOf (hChars c hc)).trans (List.map_id t)
    rw [encode, hSextets, hBytes, hPadding, hText]

theorem encode_quantum (x y z : UInt8) (rest : List UInt8) :
    encode (x :: y :: z :: rest) =
      char (x.toNat / 4) :: char (x.toNat % 4 * 16 + y.toNat / 16) ::
        char (y.toNat % 16 * 4 + z.toNat / 64) :: char (z.toNat % 64) :: encode rest := by
  have hPadding : padding (rest.length + 3) = padding rest.length := by
    simp [padding]
  simp [encode, sextets, hPadding]

theorem decode_encode (bytes : List UInt8) : decode (encode bytes) = bytes := by
  have hKept : (encode bytes).takeWhile (· ≠ '=') = (sextets bytes).map char := by
    have hChars : ∀ c ∈ (sextets bytes).map char, decide (c ≠ '=') = true := by
      intro c hc
      obtain ⟨n, hn, rfl⟩ := List.mem_map.1 hc
      simpa using char_ne (sextets_lt bytes n hn) (by decide)
    unfold encode
    rw [List.takeWhile_append_of_pos hChars]
    simp [padding]
  have hRead : ((sextets bytes).map char).filterMap sextet? = sextets bytes := by
    have hSome : ∀ n ∈ sextets bytes, (sextet? ∘ char) n = some n := by
      intro n hn
      exact sextet?_char (sextets_lt bytes n hn)
    rw [List.filterMap_map, List.filterMap_congr hSome, List.filterMap_some]
  unfold decode
  rw [hKept, hRead, pack_sextets]

theorem quanta_encode (bytes : List UInt8) : quanta (encode bytes) = some (sextets bytes) := by
  have hByte (x : UInt8) := x.toNat_lt
  fun_induction sextets bytes with
  | case1 => rfl
  | case2 x =>
    have := hByte x
    have hFirst := sextet?_char (n := x.toNat / 4) (by omega)
    have hLast := sextet?_char (n := x.toNat % 4 * 16) (by omega)
    simp [encode, sextets, padding, quanta, hFirst, hLast]
  | case3 x y =>
    have := hByte x
    have := hByte y
    have hFirst := sextet?_char (n := x.toNat / 4) (by omega)
    have hSecond := sextet?_char (n := x.toNat % 4 * 16 + y.toNat / 16) (by omega)
    have hLast := sextet?_char (n := y.toNat % 16 * 4) (by omega)
    -- the last sextet is not taken for padding
    have hNe := char_ne (n := y.toNat % 16 * 4) (by omega) (c := '=') (by decide)
    simp [encode, sextets, padding, quanta, hFirst, hSecond, hLast]
  | case4 x y z rest ih =>
    have := hByte x
    have := hByte y
    have := hByte z
    have hFirst := sextet?_char (n := x.toNat / 4) (by omega)
    have hSecond := sextet?_char (n := x.toNat % 4 * 16 + y.toNat / 16) (by omega)
    have hThird := sextet?_char (n := y.toNat % 16 * 4 + z.toNat / 64) (by omega)
    have hLast := sextet?_char (n := z.toNat % 64) (by omega)
    have hNe := char_ne (n := z.toNat % 64) (by omega) (c := '=') (by decide)
    rw [encode_quantum, quanta]
    · simp [hFirst, hSecond, hThird, hLast, ih]
    · simp [hNe]
    · simp [hNe]

theorem decodeStrict_encode (bytes : List UInt8) : decodeStrict (encode bytes) = some bytes := by
  have hKept : (encode bytes).filter (fun c => c ≠ '\r' ∧ c ≠ '\n') = encode bytes := by
    apply List.filter_eq_self.2
    intro c hc
    unfold encode at hc
    cases List.mem_append.1 hc with
    | inl hc =>
      obtain ⟨n, hn, rfl⟩ := List.mem_map.1 hc
      have hLt := sextets_lt bytes n hn
      simpa using ⟨char_ne hLt (by decide), char_ne hLt (by decide)⟩
    | inr hc =>
      rw [List.eq_of_mem_replicate hc]
      decide
  unfold decodeStrict
  rw [hKept, quanta_encode]
  exact congrArg some (pack_sextets bytes)

end Hyperspace.Foundations.Base64
