import Hyperspace.Foundations.Decimals
import Hyperspace.Foundations.Json

/-!
# IPv4 addresses

An address is four bytes. Its text is a dotted quad of decimals, its value a number below `2 ^ 32`.
-/

namespace Hyperspace.Foundations

instance Ipv4.neZero_octets : NeZero 256 := ⟨by decide⟩

/-- For the lengths of a prefix. -/
instance Ipv4.neZero_prefixLengths : NeZero 33 := ⟨by decide⟩

/-- The four numbers of an address. -/
structure Ipv4 where
  a : Fin 256
  b : Fin 256
  c : Fin 256
  d : Fin 256
  deriving DecidableEq

namespace Ipv4

def value (q : Ipv4) : Nat := ((q.a * 256 + q.b) * 256 + q.c) * 256 + q.d

def ofValue (n : Nat) : Ipv4 :=
  ⟨Fin.ofNat 256 (n / 16777216), Fin.ofNat 256 (n / 65536), Fin.ofNat 256 (n / 256),
    Fin.ofNat 256 n⟩

theorem value_lt (q : Ipv4) : q.value < 2 ^ 32 := by
  unfold value
  omega

theorem value_ofValue {n : Nat} (h : n < 2 ^ 32) : (ofValue n).value = n := by
  simp only [value, ofValue, Fin.val_ofNat]
  omega

@[simp]
theorem ofValue_value (q : Ipv4) : ofValue q.value = q := by
  obtain ⟨a, b, c, d⟩ := q
  simp only [value, ofValue, mk.injEq, Fin.ext_iff, Fin.val_ofNat]
  omega

/-! ### Texts -/

def parseOctet (part : List Char) : Option (Fin 256) :=
  if h : Decimals.isDigits 1 3 part ∧ Decimals.read part < 256 then
    some ⟨Decimals.read part, h.2⟩
  else none

/-- The address of a text of exactly four decimals of one to three digits. -/
def parse (s : List Char) : Option Ipv4 :=
  match s.splitOn '.' with
  | [a, b, c, d] => do
    return ⟨← parseOctet a, ← parseOctet b, ← parseOctet c, ← parseOctet d⟩
  | _ => none

def text (q : Ipv4) : List Char :=
  Decimals.write q.a ++ '.' :: (Decimals.write q.b ++
    '.' :: (Decimals.write q.c ++ '.' :: Decimals.write q.d))

@[simp]
theorem parseOctet_write (n : Fin 256) : parseOctet (Decimals.write n) = some n := by
  have hDigits : Decimals.isDigits 1 3 (Decimals.write n) = true :=
    Decimals.isDigits_write (by omega) (by omega)
  simp [parseOctet, hDigits]

theorem splitOn_text (q : Ipv4) :
    q.text.splitOn '.' = [Decimals.write q.a, Decimals.write q.b, Decimals.write q.c,
      Decimals.write q.d] := by
  have hDot (n : Nat) : '.' ∉ Decimals.write n := Decimals.not_mem_write (by decide) n
  unfold text
  rw [List.splitOn_append_cons_self_of_not_mem (hDot _),
    List.splitOn_append_cons_self_of_not_mem (hDot _),
    List.splitOn_append_cons_self_of_not_mem (hDot _), List.splitOn_eq_singleton (hDot _)]

@[simp]
theorem parse_text (q : Ipv4) : parse q.text = some q := by
  simp [parse, splitOn_text]

theorem isDigit_or_dot {q : Ipv4} {c : Char} (h : c ∈ q.text) : c.isDigit = true ∨ c = '.' := by
  simp only [text, List.mem_append, List.mem_cons] at h
  rcases h with h | h | h | h | h | h | h
  all_goals first
    | exact .inr h
    | exact .inl (Decimals.isDigit_of_mem_write h)

theorem not_mem_text {c : Char} (hDigit : c.isDigit = false) (hDot : c ≠ '.') (q : Ipv4) :
    c ∉ q.text := by
  intro h
  cases isDigit_or_dot h with
  | inl hc => simp [hDigit] at hc
  | inr hc => exact hDot hc

theorem isWhiteSpace_of_mem_text {q : Ipv4} {c : Char} (h : c ∈ q.text) :
    Json.isWhiteSpace c = false := by
  cases isDigit_or_dot h with
  | inl hDigit => exact Json.isWhiteSpace_of_isDigit hDigit
  | inr hDot =>
    subst hDot
    decide

theorem isDigit_of_parseOctet {part : List Char} {n : Fin 256} (h : parseOctet part = some n) :
    ∀ c ∈ part, c.isDigit = true := by
  unfold parseOctet at h
  split at h
  · rename_i hPart
    have hDigits := hPart.1
    unfold Decimals.isDigits at hDigits
    simp only [Bool.and_eq_true] at hDigits
    exact List.all_eq_true.1 hDigits.2
  · cases h

theorem isDigit_or_dot_of_parse {s : List Char} {q : Ipv4} (h : parse s = some q) :
    ∀ c ∈ s, c.isDigit = true ∨ c = '.' := by
  unfold parse at h
  split at h
  · rename_i a b c d hSplit
    have hText : s = ['.'].intercalate [a, b, c, d] := by
      rw [← hSplit, List.intercalate_splitOn]
    obtain ⟨a', ha, h⟩ := Option.bind_eq_some_iff.1 h
    obtain ⟨b', hb, h⟩ := Option.bind_eq_some_iff.1 h
    obtain ⟨c', hc, h⟩ := Option.bind_eq_some_iff.1 h
    obtain ⟨d', hd, h⟩ := Option.bind_eq_some_iff.1 h
    intro x hx
    rw [hText] at hx
    simp only [List.intercalate, List.intersperse, List.flatten_cons, List.flatten_nil,
      List.append_nil, List.mem_append, List.mem_singleton] at hx
    have ha := isDigit_of_parseOctet ha x
    have hb := isDigit_of_parseOctet hb x
    have hc := isDigit_of_parseOctet hc x
    have hd := isDigit_of_parseOctet hd x
    grind
  · cases h

end Ipv4

end Hyperspace.Foundations
