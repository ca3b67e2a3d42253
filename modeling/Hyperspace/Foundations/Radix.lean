import Mathlib.Data.List.Induction
import Mathlib.Data.List.TakeWhile
import Mathlib.Data.Nat.Digits.Lemmas
import Mathlib.Tactic.Ring

/-!
# Changing the base of a number

A number is read digit by digit, the most significant one first, and kept as its digits in another
base, the least significant one first. Reading a digit multiplies what is kept by the base that is
read and adds the digit: a carry goes through the kept digits, and what is left of it becomes new
ones.

Zeros in front do not change a number. A digit string with a digit other than zero is its number of
zeros in front together with its number, so that it can be got back from both.
-/

namespace Hyperspace.Foundations.Radix

open Nat (digits ofDigits)

variable {base factor : ℕ}

/-! ## Carrying -/

/-- The digits after the carry has gone through them, and what is left of it. -/
def carryThrough (base factor : ℕ) : List ℕ → ℕ → List ℕ × ℕ
  | [], carry => ([], carry)
  | digit :: rest, carry =>
    let next := digit * factor + carry
    let (changed, left) := carryThrough base factor rest (next / base)
    (next % base :: changed, left)

/-- The digits a carry is written as, at most as many as the first argument. -/
def carryDigits (base : ℕ) : ℕ → ℕ → List ℕ
  | 0, _ => []
  | fuel + 1, carry =>
    if 0 < carry then carry % base :: carryDigits base fuel (carry / base) else []

/-- A carry never has more digits than its value. -/
def pushCarry (base carry : ℕ) : List ℕ := carryDigits base carry carry

def shiftIn (base factor : ℕ) (kept : List ℕ) (digit : ℕ) : List ℕ :=
  let (changed, left) := carryThrough base factor kept digit
  changed ++ pushCarry base left

/-- The digits of a number, where zero has one digit. -/
def normal (base n : ℕ) : List ℕ := if n = 0 then [0] else digits base n

theorem carryDigits_eq (hBase : 1 < base) {fuel carry : ℕ} (h : carry ≤ fuel) :
    carryDigits base fuel carry = digits base carry := by
  induction fuel generalizing carry with
  | zero =>
      obtain rfl : carry = 0 := by omega
      simp [carryDigits]
  | succ fuel ih =>
      unfold carryDigits
      split
      · rename_i hCarry
        have hLess : carry / base < carry := Nat.div_lt_self hCarry hBase
        rw [ih (by omega), Nat.digits_def' hBase hCarry]
      · obtain rfl : carry = 0 := by omega
        simp

theorem pushCarry_eq (hBase : 1 < base) (carry : ℕ) : pushCarry base carry = digits base carry :=
  carryDigits_eq hBase le_rfl

/-- The quotient of the sum a carry goes through: it goes on to the digits behind. -/
theorem mul_add_div (n factor carry : ℕ) (hBase : 1 < base) :
    (n * factor + carry) / base = n / base * factor + (n % base * factor + carry) / base := by
  have hSplit : n * factor + carry
      = n % base * factor + carry + base * (n / base * factor) := by
    calc n * factor + carry = (n % base + base * (n / base)) * factor + carry := by
          rw [Nat.mod_add_div]
      _ = n % base * factor + carry + base * (n / base * factor) := by ring
  rw [hSplit, Nat.add_mul_div_left _ _ (by omega), Nat.add_comm]

theorem mul_add_mod (n factor carry : ℕ) :
    (n * factor + carry) % base = (n % base * factor + carry) % base :=
  ((Nat.mod_modEq n base).symm.mul_right factor).add_right carry

/-- Digits shifted by a carry are those of the number times the factor plus the carry. The carry is
added to the lowest digit, and by induction its quotient to the number that the other digits are. -/
theorem shiftIn_digits (hBase : 1 < base) (hFactor : 0 < factor) (n carry : ℕ) :
    shiftIn base factor (digits base n) carry = digits base (n * factor + carry) := by
  induction n using Nat.strong_induction_on generalizing carry with
  | _ n ih =>
    rcases Nat.eq_zero_or_pos n with rfl | hPos
    · simp [shiftIn, carryThrough, pushCarry_eq hBase]
    · have hLess : n / base < n := Nat.div_lt_self hPos hBase
      have hSum : 0 < n * factor + carry := Nat.add_pos_left (Nat.mul_pos hPos hFactor) _
      have hRest := ih (n / base) hLess ((n % base * factor + carry) / base)
      rw [Nat.digits_def' hBase hSum, mul_add_mod, mul_add_div _ _ _ hBase, ← hRest,
        Nat.digits_def' hBase hPos]
      simp [shiftIn, carryThrough]

theorem shiftIn_zero (hBase : 1 < base) (digit : ℕ) :
    shiftIn base factor [0] digit = normal base digit := by
  unfold shiftIn carryThrough carryThrough normal
  simp only [Nat.zero_mul, Nat.zero_add, pushCarry_eq hBase]
  split
  · rename_i h
    simp [h]
  · rename_i h
    rw [Nat.digits_def' hBase (Nat.pos_of_ne_zero h)]
    rfl

theorem shiftIn_normal (hBase : 1 < base) (hFactor : 0 < factor) (n digit : ℕ) :
    shiftIn base factor (normal base n) digit = normal base (n * factor + digit) := by
  by_cases hZero : n = 0
  · subst hZero
    rw [Nat.zero_mul, Nat.zero_add]
    exact shiftIn_zero hBase digit
  · have hSum : n * factor + digit ≠ 0 := by
      have := Nat.mul_pos (Nat.pos_of_ne_zero hZero) hFactor
      omega
    rw [normal, if_neg hZero, normal, if_neg hSum]
    exact shiftIn_digits hBase hFactor n digit

/-- The number a digit string is, its most significant digit first. -/
def value (base : ℕ) (string : List ℕ) : ℕ := ofDigits base string.reverse

theorem foldl_shiftIn (hBase : 1 < base) (hFactor : 0 < factor) (string : List ℕ) :
    string.foldl (shiftIn base factor) [0] = normal base (value factor string) := by
  induction string using List.reverseRecOn with
  | nil => simp [value, normal]
  | append_singleton string digit ih =>
      rw [List.foldl_append, ih, List.foldl_cons, List.foldl_nil, shiftIn_normal hBase hFactor]
      congr 1
      simp only [value, List.reverse_append, List.reverse_singleton, List.singleton_append,
        Nat.ofDigits_cons]
      ring

/-! ## Zeros in front -/

def leadingZeros (string : List ℕ) : ℕ := (string.takeWhile (· = 0)).length

theorem value_append_replicate (k : ℕ) (string : List ℕ) :
    value base (List.replicate k 0 ++ string) = value base string := by
  rw [value, List.reverse_append, List.reverse_replicate, Nat.ofDigits_append_replicate_zero, value]

theorem reverse_digits_value (hBase : 1 < base) {string : List ℕ} (hDigits : ∀ d ∈ string, d < base)
    (hFront : ∀ d ∈ string.head?, d ≠ 0) : (digits base (value base string)).reverse = string := by
  rw [value, Nat.digits_ofDigits base hBase, List.reverse_reverse]
  · intro d hd
    exact hDigits d (List.mem_reverse.1 hd)
  · intro hNonempty
    apply hFront
    rw [List.getLast_reverse]
    exact List.head?_eq_some_head _

theorem head?_dropWhile_ne (string : List ℕ) : ∀ d ∈ (string.dropWhile (· = 0)).head?, d ≠ 0 := by
  intro d hd hZero
  have := List.head?_dropWhile_not (· = 0) string
  rw [Option.mem_def.1 hd] at this
  simp [hZero] at this

theorem takeWhile_zero (string : List ℕ) :
    string.takeWhile (· = 0) = List.replicate (leadingZeros string) 0 := by
  apply List.eq_replicate_iff.2
  exact ⟨rfl, fun d hd => by simpa using List.mem_takeWhile_imp hd⟩

theorem eq_replicate_append_digits (hBase : 1 < base) {string : List ℕ}
    (hDigits : ∀ d ∈ string, d < base) :
    string = List.replicate (leadingZeros string) 0 ++
      (digits base (value base string)).reverse := by
  have hSplit : string
      = List.replicate (leadingZeros string) 0 ++ string.dropWhile (· = 0) := by
    rw [← takeWhile_zero, List.takeWhile_append_dropWhile]
  have hValue : value base string = value base (string.dropWhile (· = 0)) := by
    conv_lhs => rw [hSplit]
    exact value_append_replicate _ _
  rw [hValue, reverse_digits_value hBase _ (head?_dropWhile_ne string)]
  · exact hSplit
  · intro d hd
    exact hDigits d (List.dropWhile_sublist _ |>.mem hd)

theorem head?_reverse_digits_ne (base n : ℕ) :
    ∀ d ∈ (digits base n).reverse.head?, d ≠ 0 := by
  intro d hd
  rw [List.head?_reverse] at hd
  have hNonempty : digits base n ≠ [] := by
    intro hNil
    simp [hNil] at hd
  rw [List.getLast?_eq_some_getLast hNonempty] at hd
  cases hd
  exact Nat.getLast_digit_ne_zero base (Nat.digits_ne_nil_iff_ne_zero.1 hNonempty)

theorem leadingZeros_replicate_append {k : ℕ} {string : List ℕ}
    (hFront : ∀ d ∈ string.head?, d ≠ 0) :
    leadingZeros (List.replicate k 0 ++ string) = k := by
  have hNone : string.takeWhile (· = 0) = [] := by
    cases string with
    | nil => rfl
    | cons d string =>
        have : d ≠ 0 := hFront d rfl
        simp [this]
  unfold leadingZeros
  rw [List.takeWhile_append_of_pos (by simp), hNone]
  simp

/-! ## Writing a digit string in another base -/

/-- The same zeros in front, and the same number. -/
def reencode (fromBase toBase : ℕ) (string : List ℕ) : List ℕ :=
  List.replicate (leadingZeros string) 0 ++ (digits toBase (value fromBase string)).reverse

variable {p q : ℕ} {string : List ℕ}

theorem value_reencode (p q : ℕ) (string : List ℕ) :
    value q (reencode p q string) = value p string := by
  rw [reencode, value_append_replicate, value, List.reverse_reverse, Nat.ofDigits_digits]

theorem leadingZeros_reencode (p q : ℕ) (string : List ℕ) :
    leadingZeros (reencode p q string) = leadingZeros string :=
  leadingZeros_replicate_append (head?_reverse_digits_ne q _)

theorem lt_of_mem_reencode (hq : 1 < q) {d : ℕ} (hd : d ∈ reencode p q string) : d < q := by
  rcases List.mem_append.1 hd with hd | hd
  · rw [List.eq_of_mem_replicate hd]
    omega
  · exact Nat.digits_lt_base hq (List.mem_reverse.1 hd)

theorem reencode_reencode (hp : 1 < p) (q : ℕ) (hDigits : ∀ d ∈ string, d < p) :
    reencode q p (reencode p q string) = string := by
  rw [reencode, value_reencode, leadingZeros_reencode]
  exact (eq_replicate_append_digits hp hDigits).symm

theorem value_ne_zero (hp : 1 < p) (hSome : ∃ d ∈ string, d ≠ 0) (hDigits : ∀ d ∈ string, d < p) :
    value p string ≠ 0 := by
  intro hZero
  obtain ⟨d, hMem, hd⟩ := hSome
  rw [eq_replicate_append_digits hp hDigits, hZero] at hMem
  simp at hMem
  exact hd hMem.2

theorem exists_ne_zero (h : value p string ≠ 0) : ∃ d ∈ string, d ≠ 0 := by
  by_contra hNone
  have hZeros : string.reverse = List.replicate string.length 0 := by
    rw [List.eq_replicate_iff]
    constructor
    · exact List.length_reverse
    · intro d hd
      by_contra hOther
      exact hNone ⟨d, List.mem_reverse.1 hd, hOther⟩
  apply h
  rw [value, hZeros, Nat.ofDigits_replicate_zero]

end Hyperspace.Foundations.Radix
