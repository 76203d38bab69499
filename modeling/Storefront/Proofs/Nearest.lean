import Mathlib.Algebra.Order.Field.Power
import Mathlib.Algebra.Order.Field.Rat
import Mathlib.Tactic.FieldSimp
import Mathlib.Tactic.GCongr
import Mathlib.Tactic.Linarith
import Mathlib.Tactic.NormNum
import Mathlib.Tactic.Positivity
import Mathlib.Tactic.Ring
import Storefront.Number.Binary64
/-!
How near a floating-point number is to the exact one. Where numbers are neither very small nor very
large, each is rounded to the grid of 53 binary digits at its own size, so the error is at most
half a step of the grid, and a number on the grid is not changed.
-/

namespace Storefront.Number

theorem eq_of_near {left right : Nat} (near : |(left : ℚ) - right| < 1) : left = right := by
  have whole : |(left : Int) - right| < 1 := by exact_mod_cast near
  have same := Int.abs_lt_one_iff.mp whole
  omega

theorem quotientHalfEven_near (numerator : Nat) {divisor : Nat} (positive : 0 < divisor) :
    |(quotientHalfEven numerator divisor : ℚ) - numerator / divisor| ≤ 1 / 2 := by
  obtain ⟨above, below⟩ := quotientHalfEven_within numerator divisor positive
  have whole : (0 : ℚ) < divisor := by exact_mod_cast positive
  have above' : 2 * (numerator : ℚ) ≤
      2 * (quotientHalfEven numerator divisor * divisor) + divisor := by exact_mod_cast above
  have below' : 2 * ((quotientHalfEven numerator divisor : ℚ) * divisor) ≤
      2 * numerator + divisor := by exact_mod_cast below
  rw [abs_le]
  constructor
  · rw [neg_le_sub_iff_le_add, div_le_iff₀ whole]
    linarith
  · rw [sub_le_iff_le_add, ← sub_le_iff_le_add', le_div_iff₀ whole]
    linarith

namespace Binary64

theorem powerTop_pos (exponent : Int) : 0 < powerTop exponent := Nat.pow_pos (by decide)

theorem powerBottom_pos (exponent : Int) : 0 < powerBottom exponent := Nat.pow_pos (by decide)

theorem powerTop_div_powerBottom (exponent : Int) :
    (powerTop exponent : ℚ) / powerBottom exponent = 2 ^ exponent := by
  cases exponent with
  | ofNat places =>
    simp [powerTop, powerBottom]
  | negSucc places => simp [powerTop, powerBottom]

section Ratio

variable {numerator divisor : Nat}

theorem zpow_le_ratio_iff (positive : 0 < divisor) (exponent : Int) :
    (2 : ℚ) ^ exponent ≤ numerator / divisor ↔
      divisor * powerTop exponent ≤ numerator * powerBottom exponent := by
  have below : (0 : ℚ) < divisor := by exact_mod_cast positive
  have bottom : (0 : ℚ) < powerBottom exponent := by exact_mod_cast powerBottom_pos exponent
  rw [← powerTop_div_powerBottom, div_le_div_iff₀ bottom below, Nat.mul_comm divisor]
  norm_cast

/-- The lengths of both numbers in binary digits tell the ratio within a factor of two. -/
theorem log_bounds (some : 0 < numerator) (positive : 0 < divisor) :
    (2 : ℚ) ^ ((Nat.log2 numerator : Int) - Nat.log2 divisor - 1) < numerator / divisor ∧
      (numerator / divisor : ℚ) < 2 ^ ((Nat.log2 numerator : Int) - Nat.log2 divisor + 1) := by
  have below : (0 : ℚ) < divisor := by exact_mod_cast positive
  have numeratorLeast : (2 : ℚ) ^ (Nat.log2 numerator : Int) ≤ numerator := by
    exact_mod_cast Nat.log2_self_le (Nat.pos_iff_ne_zero.mp some)
  have numeratorMost : (numerator : ℚ) < 2 ^ ((Nat.log2 numerator : Int) + 1) := by
    exact_mod_cast Nat.lt_log2_self
  have divisorLeast : (2 : ℚ) ^ (Nat.log2 divisor : Int) ≤ divisor := by
    exact_mod_cast Nat.log2_self_le (Nat.pos_iff_ne_zero.mp positive)
  have divisorMost : (divisor : ℚ) < 2 ^ ((Nat.log2 divisor : Int) + 1) := by
    exact_mod_cast Nat.lt_log2_self
  constructor
  · rw [lt_div_iff₀ below]
    calc (2 : ℚ) ^ ((Nat.log2 numerator : Int) - Nat.log2 divisor - 1) * divisor
        < 2 ^ ((Nat.log2 numerator : Int) - Nat.log2 divisor - 1) *
            2 ^ ((Nat.log2 divisor : Int) + 1) := by gcongr
      _ = 2 ^ (Nat.log2 numerator : Int) := by
          rw [← zpow_add₀ two_ne_zero]
          ring_nf
      _ ≤ numerator := numeratorLeast
  · rw [div_lt_iff₀ below]
    calc (numerator : ℚ) < 2 ^ ((Nat.log2 numerator : Int) + 1) := numeratorMost
      _ = 2 ^ ((Nat.log2 numerator : Int) - Nat.log2 divisor + 1) *
            2 ^ (Nat.log2 divisor : Int) := by
          rw [← zpow_add₀ two_ne_zero]
          ring_nf
      _ ≤ 2 ^ ((Nat.log2 numerator : Int) - Nat.log2 divisor + 1) * divisor := by gcongr

theorem magnitude_bounds (some : 0 < numerator) (positive : 0 < divisor) :
    (2 : ℚ) ^ magnitude numerator divisor ≤ numerator / divisor ∧
      (numerator / divisor : ℚ) < 2 ^ (magnitude numerator divisor + 1) := by
  obtain ⟨above, below⟩ := log_bounds some positive
  simp only [magnitude]
  split
  case isTrue reached => exact ⟨(zpow_le_ratio_iff positive _).mpr reached, below⟩
  case isFalse missed =>
    refine ⟨le_of_lt above, ?_⟩
    rw [Int.sub_add_cancel]
    exact lt_of_not_ge fun reached => missed ((zpow_le_ratio_iff positive _).mp reached)

theorem grid_near (positive : 0 < divisor) (exponent : Int) :
    |(quotientHalfEven (numerator * powerBottom exponent) (divisor * powerTop exponent) : ℚ) *
      2 ^ exponent - numerator / divisor| ≤ 2 ^ exponent / 2 := by
  have near := quotientHalfEven_near (numerator * powerBottom exponent)
    (Nat.mul_pos positive (powerTop_pos exponent))
  have below : (divisor : ℚ) ≠ 0 := by exact_mod_cast positive.ne'
  have top : (powerTop exponent : ℚ) ≠ 0 := by exact_mod_cast (powerTop_pos exponent).ne'
  have bottom : (powerBottom exponent : ℚ) ≠ 0 := by exact_mod_cast (powerBottom_pos exponent).ne'
  have step : (0 : ℚ) < 2 ^ exponent := by positivity
  have scaled : ((numerator * powerBottom exponent : Nat) : ℚ) / (divisor * powerTop exponent : Nat) *
      2 ^ exponent = numerator / divisor := by
    rw [← powerTop_div_powerBottom]
    push_cast
    field_simp
  rw [← scaled, ← sub_mul, abs_mul, abs_of_pos step]
  calc _ ≤ 1 / 2 * (2 : ℚ) ^ exponent := by gcongr
    _ = 2 ^ exponent / 2 := by ring

end Ratio

/-- The number is the exact one rounded to a grid on which that has 53 digits or more. -/
structure Rounds (exact : ℚ) (significand : Nat) (exponent : Int) : Prop where
  near : |significand * 2 ^ exponent - exact| ≤ 2 ^ exponent / 2
  fine : 2 ^ (exponent + 52) ≤ exact

theorem powerTop_le {exponent : Int} {bound : Nat} (small : exponent ≤ bound) :
    powerTop exponent ≤ 2 ^ bound :=
  Nat.pow_le_pow_right (by decide) (by omega)

/-- A number of 53 digits is rounded to a significand of 53 digits, or to the next power of two. -/
theorem significand_le {exact : ℚ} {significand : Nat} {exponent : Int}
    (near : |significand * 2 ^ exponent - exact| ≤ 2 ^ exponent / 2)
    (below : exact < 2 ^ (exponent + 53)) : significand ≤ 2 ^ 53 := by
  have step : (0 : ℚ) < 2 ^ exponent := by positivity
  have scaled : (2 : ℚ) ^ (exponent + 53) = 2 ^ 53 * 2 ^ exponent := by
    rw [zpow_add₀ two_ne_zero, mul_comm]
    norm_cast
  have small : (significand : ℚ) * 2 ^ exponent < (2 ^ 53 + 1) * 2 ^ exponent := by
    have := (abs_le.mp near).2
    rw [scaled] at below
    linarith
  exact Nat.lt_succ_iff.mp (by exact_mod_cast lt_of_mul_lt_mul_right small step.le)

theorem ofRatio_rounds (negative : Bool) {numerator divisor : Nat} (positive : 0 < divisor)
    (least : 1 / 128 ≤ (numerator / divisor : ℚ)) (most : (numerator / divisor : ℚ) < 2 ^ 64) :
    ∃ significand exponent, ofRatio negative numerator divisor =
        finite negative significand exponent ∧
      Rounds (numerator / divisor) significand exponent := by
  have some : 0 < numerator := by
    rcases Nat.eq_zero_or_pos numerator with rfl | some
    · norm_num at least
    · exact some
  obtain ⟨above, below⟩ := magnitude_bounds some positive
  have low : -8 < magnitude numerator divisor := by
    have reached : (2 : ℚ) ^ (-7 : Int) < 2 ^ (magnitude numerator divisor + 1) :=
      lt_of_le_of_lt (by norm_num at least ⊢; exact least) below
    rw [zpow_lt_zpow_iff_right₀ one_lt_two] at reached
    omega
  have high : magnitude numerator divisor < 64 := by
    have reached : (2 : ℚ) ^ magnitude numerator divisor < 2 ^ (64 : Int) :=
      lt_of_le_of_lt above (by exact_mod_cast most)
    rwa [zpow_lt_zpow_iff_right₀ one_lt_two] at reached
  have grid : gridExponent numerator divisor = magnitude numerator divisor - 52 :=
    max_eq_left (by omega)
  have near : |_ - (numerator / divisor : ℚ)| ≤ _ :=
    grid_near positive (gridExponent numerator divisor)
  have digits := significand_le near (by rw [grid]; convert below using 2; ring)
  refine ⟨_, _, ?_, near, ?_⟩
  · have top : powerTop (gridExponent numerator divisor) ≤ 2 ^ 12 := powerTop_le (by omega)
    have whole := Nat.mul_le_mul digits top
    have finite : ¬ Nat.pow 2 1024 ≤ quotientHalfEven
        (numerator * powerBottom (gridExponent numerator divisor))
        (divisor * powerTop (gridExponent numerator divisor)) *
          powerTop (gridExponent numerator divisor) := by
      have far : 2 ^ 53 * 2 ^ 12 < Nat.pow 2 1024 := by decide +kernel
      exact not_le.mpr (lt_of_le_of_lt whole far)
    simp only [ofRatio]
    rw [if_neg some.ne', if_neg finite]
  · rw [grid, Int.sub_add_cancel]
    exact above

theorem ofInt_rounds {number : Int} (apart : number ≠ 0) (small : number.natAbs ≤ 2 ^ 63) :
    ∃ significand exponent, ofInt number = finite (decide (number < 0)) significand exponent ∧
      Rounds number.natAbs significand exponent := by
  have one : (1 : ℚ) ≤ number.natAbs := by exact_mod_cast Int.natAbs_pos.mpr apart
  have all : (number.natAbs : ℚ) ≤ 2 ^ 63 := by exact_mod_cast small
  have least : 1 / 128 ≤ (number.natAbs / (1 : Nat) : ℚ) := by
    rw [Nat.cast_one, div_one]
    linarith
  have most : (number.natAbs / (1 : Nat) : ℚ) < 2 ^ 64 := by
    rw [Nat.cast_one, div_one]
    linarith
  obtain ⟨significand, exponent, made, rounds⟩ :=
    ofRatio_rounds (decide (number < 0)) Nat.one_pos least most
  rw [Nat.cast_one, div_one] at rounds
  exact ⟨significand, exponent, made, rounds⟩

theorem divNat_rounds (negative : Bool) {significand divisor : Nat} {exponent : Int}
    (positive : 0 < divisor) (least : 1 / 128 ≤ (significand * 2 ^ exponent / divisor : ℚ))
    (most : (significand * 2 ^ exponent / divisor : ℚ) < 2 ^ 64) :
    ∃ part place, (finite negative significand exponent).divNat divisor =
        finite negative part place ∧
      Rounds (significand * 2 ^ exponent / divisor) part place := by
  have ratio : ((significand * powerTop exponent : Nat) : ℚ) /
      (divisor * powerBottom exponent : Nat) = significand * 2 ^ exponent / divisor := by
    rw [← powerTop_div_powerBottom]
    push_cast
    rw [mul_comm (divisor : ℚ), ← div_div, mul_div_assoc]
  rw [← ratio] at least most ⊢
  exact ofRatio_rounds negative (Nat.mul_pos positive (powerBottom_pos exponent)) least most

namespace Rounds

variable {exact : ℚ} {significand : Nat} {exponent : Int} (rounds : Rounds exact significand exponent)

include rounds

theorem within : |significand * 2 ^ exponent - exact| ≤ exact / 2 ^ 53 := by
  have fine := rounds.fine
  rw [zpow_add₀ two_ne_zero] at fine
  have near := rounds.near
  norm_num at fine ⊢
  linarith

theorem exponent_lt {power : Int} (small : exact < 2 ^ power) : exponent + 52 < power :=
  (zpow_lt_zpow_iff_right₀ one_lt_two).mp (lt_of_le_of_lt rounds.fine small)

theorem significand_eq {multiple : Nat} (onGrid : exact = multiple * 2 ^ exponent) :
    significand = multiple := by
  have step : (0 : ℚ) < 2 ^ exponent := by positivity
  have near := rounds.near
  rw [onGrid, ← sub_mul, abs_mul, abs_of_pos step] at near
  have half : |(significand : ℚ) - multiple| ≤ 1 / 2 := by
    rw [← mul_le_mul_iff_left₀ step]
    linarith
  exact eq_of_near (by linarith)

theorem value_eq {multiple : Nat} {power : Int} (coarser : exponent ≤ power)
    (onGrid : exact = multiple * 2 ^ power) : significand * 2 ^ exponent = exact := by
  obtain ⟨places, rfl⟩ := Int.le.dest coarser
  have finer : exact = (multiple * 2 ^ places : Nat) * 2 ^ exponent := by
    rw [onGrid, zpow_add₀ two_ne_zero]
    push_cast
    rw [zpow_natCast]
    ring
  rw [rounds.significand_eq finer, finer]

end Rounds

end Binary64

end Storefront.Number
