import Mathlib.Data.List.Induction
import Mathlib.Data.Nat.Digits.Defs

/-!
# Decimal texts

Natural numbers as lists of digits: `write` is the usual text, and `read` is the number of any
text of digits, leading zeros or not.
-/

namespace Hyperspace.Foundations.Decimals

/-- `/^\d{atLeast,atMost}$/`. -/
def isDigits (atLeast atMost : Nat) (s : List Char) : Bool :=
  atLeast ≤ s.length && s.length ≤ atMost && s.all Char.isDigit

def read (s : List Char) : Nat := Nat.ofDigitChars 10 s 0

def write (n : Nat) : List Char := Nat.toDigits 10 n

@[simp]
theorem read_write (n : Nat) : read (write n) = n := by
  unfold read write
  exact Nat.ofDigitChars_ten_toDigits

theorem write_ne_nil (n : Nat) : write n ≠ [] := Nat.toDigits_ne_nil

theorem isDigit_of_mem_write {n : Nat} {c : Char} (h : c ∈ write n) : c.isDigit = true :=
  Nat.isDigit_of_mem_toDigits (by omega) (by omega) h

theorem not_mem_write {c : Char} (h : c.isDigit = false) (n : Nat) : c ∉ write n := by
  intro hMem
  have hDigit := isDigit_of_mem_write hMem
  simp [h] at hDigit

theorem isDigits_write {n k : Nat} (hk : 0 < k) (h : n < 10 ^ k) :
    isDigits 1 k (write n) = true := by
  have hShort : (write n).length ≤ k := (Nat.length_toDigits_le_iff (by omega) hk).2 h
  have hSome : 1 ≤ (write n).length := List.length_pos_iff.2 (write_ne_nil n)
  have hAll : (write n).all Char.isDigit = true :=
    List.all_eq_true.2 fun c hc => isDigit_of_mem_write hc
  simp [isDigits, hShort, hSome, hAll]

theorem toNat_of_isDigit {c : Char} (h : c.isDigit = true) : 48 ≤ c.toNat ∧ c.toNat ≤ 57 := by
  simp only [Char.isDigit, Bool.and_eq_true, decide_eq_true_eq, ge_iff_le,
    UInt32.le_iff_toNat_le] at h
  exact h

theorem digitChar_toNat_sub {c : Char} (h : c.isDigit = true) :
    Nat.digitChar (c.toNat - 48) = c := by
  have hAll : ∀ d : Fin 10, Nat.digitChar d = Char.ofNat (d + 48) := by decide
  obtain ⟨hLow, hHigh⟩ := toNat_of_isDigit h
  have hChar := hAll ⟨c.toNat - 48, by omega⟩
  rw [Nat.sub_add_cancel hLow, Char.ofNat_toNat] at hChar
  exact hChar

theorem write_of_lt_ten {n : Nat} (h : n < 10) : write n = [Nat.digitChar n] :=
  Nat.toDigits_of_lt_base h

theorem read_concat (s : List Char) (c : Char) :
    read (s ++ [c]) = 10 * read s + (c.toNat - 48) := by
  simp [read, Nat.ofDigitChars_append, Nat.ofDigitChars_cons]

/-- A text of digits is how its number is written, unless it begins with a superfluous zero. -/
theorem write_read {s : List Char} (hDigits : ∀ c ∈ s, c.isDigit = true) (hSome : s ≠ [])
    (hLead : s.head? = some '0' → s = ['0']) : write (read s) = s := by
  induction s using List.reverseRecOn with
  | nil => exact absurd rfl hSome
  | append_singleton t c ih =>
    have hc : c.isDigit = true := hDigits c (by simp)
    have hBounds := toNat_of_isDigit hc
    have hLast : write (c.toNat - 48) = [c] := by
      rw [write_of_lt_ten (by omega), digitChar_toNat_sub hc]
    rw [read_concat]
    by_cases hNil : t = []
    · subst hNil
      simpa [read] using hLast
    · have hHead : t.head? ≠ some '0' := by
        intro hZero
        have hShort := hLead (by simp [List.head?_append, hZero])
        cases t with
        | nil => exact hNil rfl
        | cons d rest => simp at hShort
      have hTail : write (read t) = t := by
        apply ih (fun d hd => hDigits d (by simp [hd])) hNil
        intro hZero
        exact absurd hZero hHead
      have hPos : 0 < read t := by
        apply Nat.pos_of_ne_zero
        intro hZero
        rw [hZero] at hTail
        exact hHead (by rw [← hTail]; rfl)
      rw [write, ← Nat.toDigits_append_toDigits (by omega) hPos (by omega)]
      exact congrArg₂ (· ++ ·) hTail hLast

theorem head?_write {n : Nat} (h : (write n).head? = some '0') : write n = ['0'] := by
  induction n using Nat.strongRecOn with
  | ind n ih =>
    by_cases hSmall : n < 10
    · rw [write_of_lt_ten hSmall] at h ⊢
      simpa using h
    · have hSplit : write n = write (n / 10) ++ [Nat.digitChar (n % 10)] :=
        Nat.toDigits_of_base_le (by omega) (by omega)
      have hHead : (write (n / 10)).head? = some '0' := by
        rw [hSplit] at h
        cases hFront : write (n / 10) with
        | nil => exact absurd hFront (write_ne_nil _)
        | cons d rest => simpa [hFront] using h
      have hZero := congrArg read (ih (n / 10) (by omega) hHead)
      rw [read_write] at hZero
      have hNone : n / 10 = 0 := hZero
      omega

end Hyperspace.Foundations.Decimals
