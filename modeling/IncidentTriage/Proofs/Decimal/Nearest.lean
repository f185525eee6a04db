import IncidentTriage.Decimal.Rounding
import Mathlib.Algebra.Order.Field.Power
import Mathlib.Data.Rat.Cast.Order
import Mathlib.Tactic.Linarith

/-!
# How far rounding goes

A quotient that is rounded to a whole number moves by at most a half, so one that is closer than that
to a whole number is rounded to it. A quotient that is rounded to a binary mantissa of 53 digits moves
by at most half a unit of the last of them, which is the smaller the smaller the quotient is.
-/

namespace IncidentTriage.Decimal

section Whole

variable {den : ℕ}

lemma roundHalfEven_bounds (num : ℕ) (hden : 0 < den) :
    2 * (den * roundHalfEven num den) ≤ 2 * num + den ∧
      2 * num ≤ 2 * (den * roundHalfEven num den) + den := by
  have hdiv := Nat.div_add_mod num den
  have hmod := Nat.mod_lt num hden
  rw [roundHalfEven]
  split_ifs
  · omega
  · rw [Nat.mul_add]
    omega
  · rcases Nat.mod_two_eq_zero_or_one (num / den) with heven | hodd
    · rw [heven, Nat.add_zero]
      omega
    · rw [hodd, Nat.mul_add]
      omega

lemma abs_roundHalfEven_sub_le (num : ℕ) (hden : 0 < den) :
    |(roundHalfEven num den : ℚ) - num / den| ≤ 1 / 2 := by
  obtain ⟨hupper, hlower⟩ := roundHalfEven_bounds num hden
  have hpos : (0 : ℚ) < den := by exact_mod_cast hden
  have hupper' : 2 * (den * (roundHalfEven num den : ℚ)) ≤ 2 * num + den := by exact_mod_cast hupper
  have hlower' : 2 * (num : ℚ) ≤ 2 * (den * roundHalfEven num den) + den := by exact_mod_cast hlower
  rw [abs_le]
  constructor
  · rw [le_sub_iff_add_le, ← sub_eq_neg_add, sub_le_iff_le_add, div_le_iff₀ hpos]
    linarith
  · rw [sub_le_iff_le_add, ← sub_le_iff_le_add', le_div_iff₀ hpos]
    linarith

/-- A whole number that is less than a half away is the one rounded to, since no other is so near. -/
lemma roundHalfEven_eq {num n : ℕ} (hden : 0 < den) (h : |(num : ℚ) / den - n| < 1 / 2) :
    roundHalfEven num den = n := by
  have hround := abs_roundHalfEven_sub_le num hden
  have hclose : |((roundHalfEven num den : ℤ) : ℚ) - (n : ℤ)| < (1 : ℤ) := by
    push_cast
    calc |(roundHalfEven num den : ℚ) - n|
        ≤ |(roundHalfEven num den : ℚ) - num / den| + |(num : ℚ) / den - n| := abs_sub_le ..
      _ < 1 := by linarith
  rw [← Int.cast_sub, ← Int.cast_abs, Int.cast_lt, Int.abs_lt_one_iff] at hclose
  omega

end Whole

section Binary

def Scaled.value (x : Scaled) : ℚ :=
  x.mantissa * 2 ^ x.exponent

lemma two_zpow_toNat {e : ℤ} (he : 0 ≤ e) : (2 : ℚ) ^ e.toNat = 2 ^ e := by
  rw [← zpow_natCast, Int.toNat_of_nonneg he]

lemma Scaled.quotient_den_pos (x : Scaled) : 0 < x.quotient.2 := by
  rw [quotient]
  split_ifs
  · exact Nat.one_pos
  · exact Nat.two_pow_pos _

lemma Scaled.quotient_div (x : Scaled) : (x.quotient.1 : ℚ) / x.quotient.2 = x.value := by
  rw [quotient, value]
  split_ifs with hexponent
  · simp [two_zpow_toNat hexponent]
  · have hneg : 0 ≤ -x.exponent := by omega
    simp [two_zpow_toNat hneg]

lemma inUnits_den_pos (num : ℕ) {den : ℕ} (hden : 0 < den) (e : ℤ) : 0 < (inUnits num den e).2 := by
  rw [inUnits]
  split_ifs
  · exact Nat.mul_pos hden (Nat.two_pow_pos _)
  · exact hden

lemma inUnits_div (num den : ℕ) (e : ℤ) :
    ((inUnits num den e).1 : ℚ) / (inUnits num den e).2 = num / den / 2 ^ e := by
  rw [inUnits]
  split_ifs with he
  · simp [two_zpow_toNat he, div_div]
  · have hneg : 0 ≤ -e := by omega
    simp [two_zpow_toNat hneg, div_eq_mul_inv, mul_right_comm]

variable {num den : ℕ}

/-- The binary digits of the two numbers tell their quotient up to a factor of two. -/
lemma two_zpow_log2_sub_le (hnum : 0 < num) (hden : 0 < den) :
    (2 : ℚ) ^ ((num.log2 : ℤ) - den.log2 - 1) ≤ num / den := by
  have hpos : (0 : ℚ) < den := by exact_mod_cast hden
  have hlow : (2 : ℚ) ^ num.log2 ≤ num := by exact_mod_cast Nat.log2_self_le hnum.ne'
  have hhigh : (den : ℚ) ≤ 2 ^ (den.log2 + 1) := by exact_mod_cast Nat.lt_log2_self.le
  rw [le_div_iff₀ hpos]
  calc (2 : ℚ) ^ ((num.log2 : ℤ) - den.log2 - 1) * den
      ≤ 2 ^ ((num.log2 : ℤ) - den.log2 - 1) * 2 ^ (den.log2 + 1) := by gcongr
    _ = 2 ^ num.log2 := by
        rw [← zpow_natCast, ← zpow_natCast, ← zpow_add₀ two_ne_zero]
        congr 1
        omega
    _ ≤ num := hlow

/-- In units of the chosen exponent the quotient has at least 53 binary digits. -/
lemma two_zpow_binaryExponent_le (hnum : 0 < num) (hden : 0 < den) :
    (2 : ℚ) ^ (binaryExponent num den + 52) ≤ num / den := by
  have hlog := two_zpow_log2_sub_le hnum hden
  set guess : ℤ := (num.log2 : ℤ) - den.log2 - 53 with hguess
  have hunits := inUnits_div num den guess
  have hpos : (0 : ℚ) < (inUnits num den guess).2 := by exact_mod_cast inUnits_den_pos num hden guess
  rw [binaryExponent, ← hguess]
  dsimp only
  split_ifs with hsmall
  · rwa [show guess + 52 = (num.log2 : ℤ) - den.log2 - 1 by omega]
  · have hlarge : Nat.pow 2 53 * (inUnits num den guess).2 ≤ (inUnits num den guess).1 :=
      (Nat.le_div_iff_mul_le (inUnits_den_pos num hden guess)).1 (not_lt.1 hsmall)
    have hlarge' : (2 : ℚ) ^ (53 : ℤ) * (inUnits num den guess).2 ≤ (inUnits num den guess).1 := by
      exact_mod_cast hlarge
    rw [← le_div_iff₀ hpos, hunits, le_div_iff₀ (by positivity), ← zpow_add₀ two_ne_zero] at hlarge'
    rwa [show guess + 1 + 52 = 53 + guess by omega]

/-- Below the power `2 ^ j` a number with a mantissa of 53 digits is never further from the next than
`2 ^ (j - 53)`. -/
lemma abs_nearestBinary_sub_le (hden : 0 < den) {j : ℤ} (h : (num : ℚ) / den < 2 ^ j) :
    |(nearestBinary num den).value - num / den| ≤ 2 ^ (j - 54) := by
  rcases Nat.eq_zero_or_pos num with rfl | hnum
  · have hzero : (nearestBinary 0 den).value = 0 := by simp [nearestBinary, Scaled.value]
    rw [hzero, Nat.cast_zero, zero_div, sub_zero, abs_zero]
    positivity
  · set e := binaryExponent num den with he
    have hexponent : e + 52 < j :=
      (zpow_lt_zpow_iff_right₀ one_lt_two).1 ((two_zpow_binaryExponent_le hnum hden).trans_lt h)
    have hround := abs_roundHalfEven_sub_le (inUnits num den e).1 (inUnits_den_pos num hden e)
    rw [inUnits_div] at hround
    have hunit : (0 : ℚ) < 2 ^ e := by positivity
    have hvalue : (nearestBinary num den).value =
        roundHalfEven (inUnits num den e).1 (inUnits num den e).2 * 2 ^ e := by
      rw [nearestBinary, if_neg hnum.ne', Scaled.value]
    calc |(nearestBinary num den).value - num / den|
        = |(roundHalfEven (inUnits num den e).1 (inUnits num den e).2 : ℚ) - num / den / 2 ^ e| *
            2 ^ e := by
          rw [hvalue, ← abs_of_pos hunit, ← abs_mul, abs_of_pos hunit, sub_mul,
            div_mul_cancel₀ _ hunit.ne']
      _ ≤ 1 / 2 * 2 ^ e := by gcongr
      _ = 2 ^ (e - 1) := by rw [zpow_sub_one₀ two_ne_zero, mul_comm, one_div]
      _ ≤ 2 ^ (j - 54) := zpow_le_zpow_right₀ one_le_two (by omega)

end Binary

end IncidentTriage.Decimal
