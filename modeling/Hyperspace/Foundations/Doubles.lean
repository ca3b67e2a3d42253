import Mathlib.Data.Int.Log
import Mathlib.Data.Rat.Floor
import Mathlib.Tactic.Linarith
import Mathlib.Tactic.NormNum

/-!
# Numbers with a 53-bit significand

A double is a rational number here, and an arithmetic operation is the exact operation followed
by `toDouble`. The exponent is unbounded: nothing in this development depends on overflow to
infinity or on subnormal numbers.
-/

namespace Hyperspace.Foundations

/-- The nearest integer, a half going to the even neighbour. -/
def nearestInt (q : ℚ) : ℤ :=
  let below := ⌊q⌋
  if 2 * (q - below) < 1 then below
  else if 1 < 2 * (q - below) then below + 1
  else if below % 2 = 0 then below
  else below + 1

/-- The weight of the last significand bit of a double in the binade of `q`. -/
def lastPlace (q : ℚ) : ℚ := 2 ^ (Int.log 2 |q| - 52)

/-- The double nearest to `q`, ties to the even significand. -/
def toDouble (q : ℚ) : ℚ :=
  if q = 0 then 0 else nearestInt (q / lastPlace q) * lastPlace q

/-- The largest `n` for which every integer of `0..n` is a double and `n` is below it too. -/
def maxSafeInteger : ℤ := 2 ^ 53 - 1

/-- Addition of two integer-valued doubles. -/
def addDouble (a b : ℤ) : ℤ := ⌊toDouble (a + b)⌋

theorem nearestInt_intCast (n : ℤ) : nearestInt n = n := by
  simp [nearestInt]

private theorem lastPlace_pos {q : ℚ} : 0 < lastPlace q :=
  zpow_pos (by norm_num) _

private theorem exists_significand {n : ℤ} (hne : n ≠ 0) (h : |n| ≤ 2 ^ 53) :
    ∃ m : ℤ, (n : ℚ) / lastPlace n = m := by
  have hpos : (0 : ℚ) < |(n : ℚ)| := abs_pos.2 (Int.cast_ne_zero.2 hne)
  have hle : |(n : ℚ)| ≤ 2 ^ 53 := by exact_mod_cast h
  rcases hle.lt_or_eq with hlt | heq
  · have hLog : Int.log 2 |(n : ℚ)| < 53 := by
      rw [← Int.lt_zpow_iff_log_lt (by norm_num) hpos]
      exact_mod_cast hlt
    refine ⟨n * 2 ^ (52 - Int.log 2 |(n : ℚ)|).toNat, ?_⟩
    have hExp : ((52 - Int.log 2 |(n : ℚ)|).toNat : ℤ) = -(Int.log 2 |(n : ℚ)| - 52) := by
      omega
    rw [lastPlace, div_eq_mul_inv, ← zpow_neg, ← hExp, zpow_natCast]
    push_cast
    rfl
  · -- only the power itself has a last place of two
    have hLog : Int.log 2 |(n : ℚ)| = 53 := by
      rw [heq]
      exact_mod_cast @Int.log_zpow ℚ _ _ _ _ 2 (by norm_num) 53
    have hLast : lastPlace (n : ℚ) = 2 := by
      rw [lastPlace, hLog]
      norm_num
    have hAbs : |n| = 2 ^ 53 := by exact_mod_cast heq
    rw [hLast]
    rcases abs_choice n with hn | hn
    · exact ⟨2 ^ 52, by rw [← hn, hAbs]; norm_num⟩
    · refine ⟨-2 ^ 52, ?_⟩
      have : n = -2 ^ 53 := by omega
      rw [this]
      norm_num

theorem toDouble_intCast {n : ℤ} (h : |n| ≤ 2 ^ 53) : toDouble n = n := by
  rcases eq_or_ne n 0 with rfl | hne
  · simp [toDouble]
  · obtain ⟨m, hm⟩ := exists_significand hne h
    rw [toDouble, if_neg (Int.cast_ne_zero.2 hne), hm, nearestInt_intCast, ← hm]
    exact div_mul_cancel₀ _ lastPlace_pos.ne'

theorem addDouble_of_le {a b : ℤ} (h : |a + b| ≤ 2 ^ 53) : addDouble a b = a + b := by
  rw [addDouble, ← Int.cast_add, toDouble_intCast h, Int.floor_intCast]

end Hyperspace.Foundations
