import Mathlib.Data.Rat.Floor
import Storefront.Proofs.Sales
/-!
What a sale leaves of a price, compared with the same worked out in numbers without ends. The share
that a percentage takes off lies between zero and the amount, and so does what is left, below zero
as well as above; no step of that ends at an end of the range. A fixed sale reaches the upper end
where it adds to the amount.
-/

namespace Storefront

namespace Number

def truncate (value : ℚ) : Int := if 0 ≤ value then ⌊value⌋ else ⌈value⌉

theorem truncate_div (numerator : Int) {divisor : Nat} (positive : 0 < divisor) :
    truncate (numerator / divisor) = numerator.tdiv divisor := by
  have scale : (0 : ℚ) < divisor := Nat.cast_pos.mpr positive
  unfold truncate
  rcases Int.lt_or_le numerator 0 with below | nonneg
  · have negative : (numerator : ℚ) / divisor < 0 :=
      div_neg_of_neg_of_pos (Int.cast_lt_zero.mpr below) scale
    -- The library knows the quotient of a numerator that is not negative.
    have mirrored : 0 ≤ -numerator := by omega
    rw [if_neg (not_le.mpr negative), Rat.ceil_intCast_div_natCast,
      ← Int.tdiv_eq_ediv_of_nonneg mirrored, Int.neg_tdiv, Int.neg_neg]
  · have value : (0 : ℚ) ≤ numerator / divisor := div_nonneg (Int.cast_nonneg nonneg) scale.le
    rw [if_pos value, Rat.floor_intCast_div_natCast, Int.tdiv_eq_ediv_of_nonneg nonneg]

end Number

open Number

namespace Discount

/-- So many hundredths of an amount, but no more than all of it, and only whole units. -/
def share (percent : UInt8) (amount : Int) : Int :=
  truncate (amount * min (percent.toNat : ℚ) 100 / 100)

def remainder (discount : Discount) (amount : Int) : Int :=
  match discount with
  | percentage percent => max 0 (amount - share percent amount)
  | fixed taken => max 0 (min (amount - taken.toInt) (2 ^ 63 - 1))

theorem share_eq_tdiv (percent : UInt8) (amount : Int) :
    share percent amount = (amount * (min percent.toNat 100 : Nat)).tdiv 100 := by
  have quotient := truncate_div (amount * (min percent.toNat 100 : Nat)) (show 0 < 100 by decide)
  push_cast at quotient
  rw [share, quotient]
  push_cast
  rfl

/-- No step on the way from an amount to what a percentage leaves of it meets an end of its range:
128 bits hold the product, and 64 bits hold the share and the difference. -/
structure InRange (percent : UInt8) (amount : Int64) : Prop where
  product : |amount.toInt * min (percent.toNat : Int) 100| < 2 ^ 127
  reduction : ((percentage percent).reduction amount).toInt = share percent amount.toInt
  difference : (clampInt64 (amount.toInt - ((percentage percent).reduction amount).toInt)).toInt =
    amount.toInt - share percent amount.toInt

theorem product_lt (percent : UInt8) (amount : Int64) :
    |amount.toInt * min (percent.toNat : Int) 100| < 2 ^ 127 := by
  have size : |amount.toInt| ≤ 2 ^ 63 := by
    have least := amount.le_toInt
    have most := amount.toInt_lt
    exact abs_le.mpr ⟨by omega, by omega⟩
  have factor : |min (percent.toNat : Int) 100| ≤ 100 := abs_le.mpr ⟨by omega, by omega⟩
  calc |amount.toInt * min (percent.toNat : Int) 100|
      = |amount.toInt| * |min (percent.toNat : Int) 100| := abs_mul _ _
    _ ≤ 2 ^ 63 * 100 := mul_le_mul size factor (abs_nonneg _) (by norm_num)
    _ < 2 ^ 127 := by norm_num

theorem inRange (percent : UInt8) (amount : Int64) : InRange percent amount where
  product := product_lt percent amount
  reduction := by rw [toInt_reduction_percentage, share_eq_tdiv]
  difference := by
    obtain ⟨above, below⟩ := percent_between percent amount.toInt
    have least := amount.le_toInt
    have most := amount.toInt_lt
    have low : Int64.minValue.toInt = -2 ^ 63 := by decide
    have high : Int64.maxValue.toInt = 2 ^ 63 - 1 := by decide
    rw [toInt_clampInt64, toInt_reduction_percentage, share_eq_tdiv]
    omega

end Discount

namespace Sale

theorem toInt_leaves_eq_remainder (sale : Sale) (amount : Int64) :
    (sale.leaves amount).toInt = sale.discount.remainder amount.toInt := by
  have high : Int64.maxValue.toInt = 2 ^ 63 - 1 := by decide
  rw [toInt_leaves]
  cases sale.discount with
  | percentage percent =>
      obtain ⟨above, below⟩ := Discount.percent_between percent amount.toInt
      have most := amount.toInt_lt
      simp only [Discount.remainder]
      rw [Discount.toInt_reduction_percentage, Discount.share_eq_tdiv]
      omega
  | fixed taken =>
      simp only [Discount.remainder, Discount.reduction]
      omega

/-- What a sale leaves of a price is never negative, and it is exactly what is left in numbers
without ends; only a fixed sale is held back at the upper end. -/
theorem apply_exact (sale : Sale) (price : Price) :
    (sale.apply price).amount.toInt = sale.discount.remainder price.amount.toInt ∧
      (sale.apply price).currency = price.currency ∧ 0 ≤ (sale.apply price).amount ∧
      ∀ percent : UInt8, Discount.InRange percent price.amount := by
  rw [amount_apply]
  exact ⟨sale.toInt_leaves_eq_remainder price.amount, rfl,
    Int64.le_iff_toInt_le.mpr (sale.leaves_nonneg price.amount),
    fun percent => Discount.inRange percent price.amount⟩

-- Half of five is two, and three are left.
example : (Sale.mk 1 "Half" (.percentage 50) [] []).leaves 5 = 3 := by decide

end Sale

end Storefront
