import DebugIndex.Number.Shortest
import Mathlib.Algebra.Order.Field.Power
import Mathlib.Data.Int.Log
import Mathlib.Data.Rat.Floor
import Mathlib.Tactic.FieldSimp
import Mathlib.Tactic.NormNum
import Mathlib.Tactic.Positivity
import Mathlib.Tactic.GCongr
import Mathlib.Tactic.Linarith

/-!
# Fractions that double precision holds

A fraction that is a significand times a power of two in the form of double precision is its own
nearest number: the binary magnitude is the exponent of the leading bit, the scaled fraction is
the significand, and nothing is left to be rounded.  So the exact decimal value of a number is read
as the number.
-/

namespace DebugIndex
namespace Binary64

variable {numerator denominator significand digits : Nat} {exponent tens : Int}

/-- A fraction that is multiplied by a power of a base is worth as much as the two are. -/
theorem scale_worth {base : Nat} (positive : 0 < base) (numerator denominator : Nat)
    (exponent : Int) :
    ((scale base numerator denominator exponent).1 : ℚ) /
        (scale base numerator denominator exponent).2 =
      numerator / denominator * (base : ℚ) ^ exponent := by
  have nonzero : (base : ℚ) ≠ 0 := by positivity
  rw [scale]
  split
  case isTrue negative =>
    obtain ⟨power, rfl⟩ : ∃ power : Nat, exponent = -power := ⟨exponent.natAbs, by omega⟩
    simp only [Int.natAbs_neg, Int.natAbs_natCast, Nat.pow_eq, Nat.cast_mul, Nat.cast_pow,
      zpow_neg, zpow_natCast]
    rw [div_mul_eq_div_div, div_eq_mul_inv (_ / _)]
  case isFalse nonnegative =>
    obtain ⟨power, rfl⟩ := Int.eq_ofNat_of_zero_le (not_lt.mp nonnegative)
    simp only [Int.natAbs_natCast, Nat.pow_eq, Nat.cast_mul, Nat.cast_pow, zpow_natCast]
    rw [mul_div_right_comm]

theorem scale_pos {base : Nat} (positive : 0 < base) (above : 0 < numerator)
    (below : 0 < denominator) (exponent : Int) :
    0 < (scale base numerator denominator exponent).1 ∧
      0 < (scale base numerator denominator exponent).2 := by
  have power : 0 < Nat.pow base exponent.natAbs := Nat.pow_pos positive
  rw [scale]
  split
  · exact ⟨above, Nat.mul_pos below power⟩
  · exact ⟨Nat.mul_pos above power, below⟩

/-! ## Magnitudes -/

/-- The logarithm of a fraction is the difference of the logarithms of its parts, or one less. -/
theorem log_bounds (above : 0 < numerator) (below : 0 < denominator) :
    (2 : ℚ) ^ ((numerator.log2 : Int) - denominator.log2 - 1) ≤ numerator / denominator ∧
      (numerator : ℚ) / denominator < 2 ^ ((numerator.log2 : Int) - denominator.log2 + 1) := by
  have positive : (0 : ℚ) < denominator := by exact_mod_cast below
  have leastAbove : (2 : ℚ) ^ numerator.log2 ≤ numerator := by
    exact_mod_cast Nat.log2_self_le above.ne'
  have mostAbove : (numerator : ℚ) < 2 ^ (numerator.log2 + 1) := by
    exact_mod_cast Nat.lt_log2_self
  have leastBelow : (2 : ℚ) ^ denominator.log2 ≤ denominator := by
    exact_mod_cast Nat.log2_self_le below.ne'
  have mostBelow : (denominator : ℚ) < 2 ^ (denominator.log2 + 1) := by
    exact_mod_cast Nat.lt_log2_self
  constructor
  · rw [sub_sub, zpow_sub₀ two_ne_zero, le_div_iff₀ positive, zpow_natCast]
    have power : (2 : ℚ) ^ ((denominator.log2 : Int) + 1) = 2 ^ (denominator.log2 + 1) := by
      exact_mod_cast rfl
    rw [power, div_mul_eq_mul_div, div_le_iff₀ (by positivity)]
    exact mul_le_mul leastAbove mostBelow.le positive.le (by positivity)
  · rw [sub_add_eq_add_sub, zpow_sub₀ two_ne_zero, div_lt_iff₀ positive, zpow_natCast]
    have power : (2 : ℚ) ^ ((numerator.log2 : Int) + 1) = 2 ^ (numerator.log2 + 1) := by
      exact_mod_cast rfl
    rw [power, div_mul_eq_mul_div, lt_div_iff₀ (by positivity)]
    exact mul_lt_mul mostAbove leastBelow (by positivity) (by positivity)

theorem binaryMagnitude_eq_log (above : 0 < numerator) (below : 0 < denominator) :
    binaryMagnitude numerator denominator = Int.log 2 ((numerator : ℚ) / denominator) := by
  have positive : (0 : ℚ) < denominator := by exact_mod_cast below
  have fraction : (0 : ℚ) < numerator / denominator := by positivity
  obtain ⟨least, most⟩ := log_bounds above below
  have atLeast := (Int.zpow_le_iff_le_log one_lt_two fraction).mp least
  have atMost := (Int.lt_zpow_iff_log_lt one_lt_two fraction).mp most
  rw [binaryMagnitude]
  generalize (numerator.log2 : Int) - denominator.log2 = guess at atLeast atMost ⊢
  have worth := scale_worth two_pos 1 1 guess
  obtain ⟨-, scaled⟩ := scale_pos two_pos one_pos one_pos guess
  generalize scale 2 1 1 guess = power at worth scaled ⊢
  have compares : numerator * power.2 < denominator * power.1 ↔
      Int.log 2 ((numerator : ℚ) / denominator) < guess := by
    have positivePower : (0 : ℚ) < power.2 := by exact_mod_cast scaled
    rw [← Int.lt_zpow_iff_log_lt one_lt_two fraction]
    simp only [Nat.cast_one, div_one, one_mul, Nat.cast_ofNat] at worth ⊢
    rw [← worth, div_lt_div_iff₀ positive positivePower, mul_comm (power.1 : ℚ)]
    exact_mod_cast Iff.rfl
  simp only [compares]
  split <;> omega

/-- The exponent of a number in double precision is that of its leading bit, less the bits that
follow, but never below the least one. -/
theorem exponent_of_canonical (canonical : CanonicalSignificand significand exponent)
    (positive : 0 < significand) :
    max (Int.log 2 ((significand : ℚ) * 2 ^ exponent) - 52) (-1074) = exponent := by
  obtain ⟨most, least, -, normal⟩ := canonical
  have worth : (0 : ℚ) < significand * 2 ^ exponent := by positivity
  have below : (significand : ℚ) * 2 ^ exponent < 2 ^ (53 + exponent) := by
    rw [zpow_add₀ two_ne_zero]
    gcongr
    exact_mod_cast most
  have atMost := (Int.lt_zpow_iff_log_lt one_lt_two worth).mp below
  rcases normal with normal | rfl
  · have above : (2 : ℚ) ^ (52 + exponent) ≤ significand * 2 ^ exponent := by
      rw [zpow_add₀ two_ne_zero]
      gcongr
      exact_mod_cast normal
    have atLeast := (Int.zpow_le_iff_le_log one_lt_two worth).mp above
    omega
  · omega

/-! ## Rounding -/

theorem roundQuotient_mul (quotient : Nat) (below : 0 < denominator) :
    roundQuotient (quotient * denominator) denominator = quotient := by
  simp [roundQuotient, Nat.mul_div_cancel _ below, below]

/-- A fraction that is a number in double precision is rounded to that number. -/
theorem ofRatio_of_exact (negative : Bool) (canonical : CanonicalSignificand significand exponent)
    (positive : 0 < significand) (above : 0 < numerator) (below : 0 < denominator)
    (exact : (numerator : ℚ) / denominator = significand * 2 ^ exponent) :
    ofRatio negative numerator denominator = .finite negative significand exponent canonical := by
  have magnitude : max (binaryMagnitude numerator denominator - 52) (-1074) = exponent := by
    rw [binaryMagnitude_eq_log above below, exact, exponent_of_canonical canonical positive]
  have worth := scale_worth two_pos numerator denominator (-exponent)
  obtain ⟨-, scaled⟩ := scale_pos two_pos above below (-exponent)
  rw [exact, Nat.cast_ofNat, mul_assoc, ← zpow_add₀ two_ne_zero, add_neg_cancel, zpow_zero,
    mul_one, div_eq_iff (by exact_mod_cast scaled.ne')] at worth
  have whole : (scale 2 numerator denominator (-exponent)).1 =
      significand * (scale 2 numerator denominator (-exponent)).2 := by exact_mod_cast worth
  simp only [ofRatio, if_neg above.ne', magnitude, whole, roundQuotient_mul _ scaled]
  rw [if_neg canonical.1.ne, ofParts, dif_pos canonical]

/-! ## Decimals -/

theorem length_toDigits_bounds (positive : 0 < digits) :
    (10 : ℚ) ^ ((Nat.toDigits 10 digits).length - 1 : Int) ≤ digits ∧
      (digits : ℚ) < 10 ^ ((Nat.toDigits 10 digits).length : Int) := by
  obtain ⟨count, length⟩ : ∃ count, (Nat.toDigits 10 digits).length = count + 1 :=
    Nat.exists_eq_add_one.mpr (List.length_pos_iff.mpr Nat.toDigits_ne_nil)
  have most := (Nat.length_toDigits_le_iff (by decide) (Nat.succ_pos count)).mp length.le
  have least : 10 ^ count ≤ digits := by
    rcases Nat.eq_zero_or_pos count with rfl | some
    · exact positive
    · by_contra fewer
      have shorter := (Nat.length_toDigits_le_iff (by decide) some).mpr (not_le.mp fewer)
      omega
  rw [length]
  constructor
  · rw [Nat.cast_succ, add_sub_cancel_right, zpow_natCast]
    exact_mod_cast least
  · rw [zpow_natCast]
    exact_mod_cast most

/-- A decimal that is a number in double precision is not so far outside that its digits alone
would settle it. -/
theorem magnitude_bounds (canonical : CanonicalSignificand significand exponent)
    (positive : 0 < significand) (some : 0 < digits)
    (exact : (digits : ℚ) * 10 ^ tens = significand * 2 ^ exponent) :
    -330 ≤ (Nat.toDigits 10 digits).length + tens ∧
      (Nat.toDigits 10 digits).length + tens ≤ 310 := by
  obtain ⟨most, leastExponent, mostExponent, -⟩ := canonical
  obtain ⟨least, below⟩ := length_toDigits_bounds some
  generalize ((Nat.toDigits 10 digits).length : Int) = count at least below ⊢
  have ten : (1 : ℚ) < 10 := by norm_num
  -- The least and the greatest number in double precision, between powers of ten.
  have leastPower : (10 : ℚ) ^ (-331 : Int) ≤ 2 ^ (-1074 : Int) := by
    have powers : 2 ^ 1074 ≤ 10 ^ 331 := by decide +kernel
    rw [zpow_neg, zpow_neg, inv_le_inv₀ (by positivity) (by positivity)]
    exact_mod_cast powers
  have mostPower : (2 : ℚ) ^ (1024 : Int) ≤ 10 ^ (310 : Int) := by
    have powers : 2 ^ 1024 ≤ 10 ^ 310 := by decide +kernel
    exact_mod_cast powers
  constructor
  · have smallest : (10 : ℚ) ^ (-331 : Int) < 10 ^ (count + tens) := by
      calc (10 : ℚ) ^ (-331 : Int) ≤ 2 ^ (-1074 : Int) := leastPower
        _ ≤ 2 ^ exponent := zpow_le_zpow_right₀ one_le_two leastExponent
        _ ≤ significand * 2 ^ exponent :=
          le_mul_of_one_le_left (by positivity) (by exact_mod_cast positive)
        _ = digits * 10 ^ tens := exact.symm
        _ < 10 ^ count * 10 ^ tens := by gcongr
        _ = 10 ^ (count + tens) := (zpow_add₀ (by norm_num) _ _).symm
    have := (zpow_lt_zpow_iff_right₀ ten).mp smallest
    omega
  · have largest : (10 : ℚ) ^ (count - 1 + tens) < 10 ^ (310 : Int) := by
      calc (10 : ℚ) ^ (count - 1 + tens) = 10 ^ (count - 1) * 10 ^ tens :=
          zpow_add₀ (by norm_num) _ _
        _ ≤ digits * 10 ^ tens := by gcongr
        _ = significand * 2 ^ exponent := exact
        _ < 2 ^ (53 : Int) * 2 ^ exponent := by
          gcongr
          exact_mod_cast most
        _ = 2 ^ (53 + exponent) := (zpow_add₀ two_ne_zero _ _).symm
        _ ≤ 2 ^ (1024 : Int) := zpow_le_zpow_right₀ one_le_two (by omega)
        _ ≤ 10 ^ (310 : Int) := mostPower
    have := (zpow_lt_zpow_iff_right₀ ten).mp largest
    omega

theorem ofDecimal_of_exact (negative : Bool) (canonical : CanonicalSignificand significand exponent)
    (positive : 0 < significand)
    (exact : (digits : ℚ) * 10 ^ tens = significand * 2 ^ exponent) :
    ofDecimal negative digits tens = .finite negative significand exponent canonical := by
  have some : 0 < digits := by
    by_contra none
    obtain rfl : digits = 0 := by omega
    have worth : (0 : ℚ) < significand * 2 ^ exponent := by positivity
    simp [← exact] at worth
  obtain ⟨small, large⟩ := magnitude_bounds canonical positive some exact
  obtain ⟨above, below⟩ := scale_pos (by decide : 0 < 10) some one_pos tens
  have worth := scale_worth (by decide : 0 < 10) digits 1 tens
  rw [Nat.cast_one, div_one, Nat.cast_ofNat, exact] at worth
  have inside : (digits = 0 || decide ((Nat.toDigits 10 digits).length + tens < -330)) = false := by
    simp only [Bool.or_eq_false_iff, decide_eq_false_iff_not]
    omega
  rw [ofDecimal, inside, if_neg Bool.false_ne_true, if_neg (by omega)]
  exact ofRatio_of_exact negative canonical positive above below worth

theorem exactDecimal_worth (significand : Nat) (exponent : Int) :
    ((exactDecimal significand exponent).1 : ℚ) * 10 ^ (exactDecimal significand exponent).2 =
      significand * 2 ^ exponent := by
  rw [exactDecimal]
  split
  case isTrue negative =>
    obtain ⟨power, rfl⟩ : ∃ power : Nat, exponent = -power := ⟨exponent.natAbs, by omega⟩
    have ten : (10 : ℚ) ^ power = 5 ^ power * 2 ^ power := by rw [← mul_pow]; norm_num
    simp only [Int.natAbs_neg, Int.natAbs_natCast, Nat.pow_eq, Nat.cast_mul, Nat.cast_pow,
      Nat.cast_ofNat, zpow_neg, zpow_natCast, ten]
    field_simp
  case isFalse nonnegative =>
    obtain ⟨power, rfl⟩ := Int.eq_ofNat_of_zero_le (not_lt.mp nonnegative)
    simp only [Int.natAbs_natCast, Nat.pow_eq, Nat.cast_mul, Nat.cast_pow, Nat.cast_ofNat,
      zpow_zero, mul_one, zpow_natCast]

end Binary64
end DebugIndex
