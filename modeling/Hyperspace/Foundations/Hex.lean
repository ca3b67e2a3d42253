import Hyperspace.Foundations.Decimals

/-!
# Hexadecimal texts

Two digits a byte. Digits of either case are read, and lower-case ones are written.
-/

namespace Hyperspace.Foundations.Hex

def digit? (c : Char) : Option Nat :=
  if c.isDigit then some (c.toNat - 48)
  else if 97 ≤ c.toNat ∧ c.toNat ≤ 102 then some (c.toNat - 87)
  else if 65 ≤ c.toNat ∧ c.toNat ≤ 70 then some (c.toNat - 55)
  else none

def decode : List Char → Option (List UInt8)
  | [] => some []
  | [_] => none
  | high :: low :: rest => do
    return UInt8.ofNat ((← digit? high) * 16 + (← digit? low)) :: (← decode rest)

def encode (bytes : List UInt8) : List Char :=
  bytes.flatMap fun x => [Nat.digitChar (x.toNat / 16), Nat.digitChar (x.toNat % 16)]

def isLowerDigit (c : Char) : Bool := c.isDigit || (97 ≤ c.toNat && c.toNat ≤ 102)

theorem decode_eq_some {s : List Char} {bytes : List UInt8} (h : decode s = some bytes) :
    s.length = 2 * bytes.length ∧ ∀ c ∈ s, (digit? c).isSome := by
  fun_induction decode s generalizing bytes with
  | case1 =>
    cases h
    simp
  | case2 c => cases h
  | case3 high low rest ih =>
    obtain ⟨x, hHigh, h⟩ := Option.bind_eq_some_iff.1 h
    obtain ⟨y, hLow, h⟩ := Option.bind_eq_some_iff.1 h
    obtain ⟨tail, hRest, h⟩ := Option.bind_eq_some_iff.1 h
    cases h
    obtain ⟨hLength, hDigits⟩ := ih hRest
    constructor
    · simp only [List.length_cons]
      omega
    · intro c hc
      simp only [List.mem_cons] at hc
      grind

theorem isSome_decode {s : List Char} (hEven : s.length % 2 = 0)
    (hDigits : ∀ c ∈ s, (digit? c).isSome) : (decode s).isSome := by
  fun_induction decode s with
  | case1 => rfl
  | case2 c => simp at hEven
  | case3 high low rest ih =>
    obtain ⟨x, hHigh⟩ := Option.isSome_iff_exists.1 (hDigits high (by simp))
    obtain ⟨y, hLow⟩ := Option.isSome_iff_exists.1 (hDigits low (by simp))
    have hRest : (decode rest).isSome := by
      apply ih
      · simp only [List.length_cons] at hEven
        omega
      · intro c hc
        exact hDigits c (by simp [hc])
    obtain ⟨tail, hTail⟩ := Option.isSome_iff_exists.1 hRest
    simp [hHigh, hLow, hTail]

/-- Of the digits that are read, the lower-case ones are those that `toLower` keeps. -/
theorem isLowerDigit_iff (c : Char) :
    isLowerDigit c = true ↔ (digit? c).isSome ∧ c.toLower = c := by
  have hKept : c.toLower = c ↔ ¬ (65 ≤ c.toNat ∧ c.toNat ≤ 90) := by
    unfold Char.toLower
    split
    · rename_i h
      constructor
      · intro hEq
        have hVal : c.val + ('a'.val - 'A'.val) = c.val := congrArg Char.val hEq
        simp at hVal
      · intro hNot
        exact absurd h hNot
    · rename_i h
      simp only [true_iff]
      exact h
  have hDigit : c.isDigit = true → 48 ≤ c.toNat ∧ c.toNat ≤ 57 := Decimals.toNat_of_isDigit
  unfold isLowerDigit digit?
  rw [hKept]
  grind

end Hyperspace.Foundations.Hex
