/-!
Integers brought into the range of 64 bits: one beyond an end becomes that end.
-/

namespace Storefront.Number

def clampInt64 (value : Int) : Int64 :=
  if value < Int64.minValue.toInt then Int64.minValue
  else if Int64.maxValue.toInt < value then Int64.maxValue
  else Int64.ofInt value

theorem toInt_clampInt64 (value : Int) :
    (clampInt64 value).toInt = max Int64.minValue.toInt (min value Int64.maxValue.toInt) := by
  have low : Int64.minValue.toInt = -9223372036854775808 := by decide
  have high : Int64.maxValue.toInt = 9223372036854775807 := by decide
  simp only [clampInt64]
  split
  · omega
  · split
    · omega
    · rw [Int64.toInt_ofInt_of_le] <;> omega

end Storefront.Number
