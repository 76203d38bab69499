/-!
Quotients of natural numbers rounded to the nearest whole number. The two functions differ in
what they do with a half: one goes to the even neighbour, the other up.
-/

namespace Storefront.Number

def quotientHalfEven (numerator divisor : Nat) : Nat :=
  let quotient := numerator / divisor
  let rest := numerator % divisor
  if 2 * rest < divisor then quotient
  else if divisor < 2 * rest then quotient + 1
  else if quotient % 2 = 0 then quotient
  else quotient + 1

def quotientHalfUp (numerator divisor : Nat) : Nat :=
  (2 * numerator + divisor) / (2 * divisor)

theorem quotientHalfEven_within (numerator divisor : Nat) (positive : 0 < divisor) :
    2 * numerator ≤ 2 * (quotientHalfEven numerator divisor * divisor) + divisor ∧
      2 * (quotientHalfEven numerator divisor * divisor) ≤ 2 * numerator + divisor := by
  have parts := Nat.div_add_mod numerator divisor
  have below := Nat.mod_lt numerator positive
  have cross : divisor * (numerator / divisor) = numerator / divisor * divisor := Nat.mul_comm _ _
  simp only [quotientHalfEven]
  split
  · omega
  · split
    · rw [Nat.add_mul]; omega
    · split
      · omega
      · rw [Nat.add_mul]; omega

end Storefront.Number
