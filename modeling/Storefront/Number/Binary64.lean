import Storefront.Number.Range
import Storefront.Number.Rounding
/-!
Numbers of the 64-bit binary floating-point format, worked out exactly. A finite one is a sign, a
whole number and a power of two; every operation takes the exact result and rounds it once, to the
nearest number of the format, a tie going to the even one. Nothing here depends on the machine's
own arithmetic.
-/

namespace Storefront.Number

inductive Binary64 where
  | notANumber
  | infinite (negative : Bool)
  | finite (negative : Bool) (significand : Nat) (exponent : Int)
  deriving DecidableEq, Repr

namespace Binary64

def powerTop (exponent : Int) : Nat := Nat.pow 2 exponent.toNat

def powerBottom (exponent : Int) : Nat := Nat.pow 2 (-exponent).toNat

/-- The power of two just below `numerator / divisor`, both positive. -/
def magnitude (numerator divisor : Nat) : Int :=
  let guess : Int := (Nat.log2 numerator : Int) - Nat.log2 divisor
  if divisor * powerTop guess ≤ numerator * powerBottom guess then guess else guess - 1

/-- The exponent whose grid has 53 digits at this magnitude, or the finest grid there is. -/
def gridExponent (numerator divisor : Nat) : Int :=
  max (magnitude numerator divisor - 52) (-1074)

def ofRatio (negative : Bool) (numerator divisor : Nat) : Binary64 :=
  if numerator = 0 then finite negative 0 0
  else
    let exponent := gridExponent numerator divisor
    let significand :=
      quotientHalfEven (numerator * powerBottom exponent) (divisor * powerTop exponent)
    if Nat.pow 2 1024 ≤ significand * powerTop exponent then infinite negative
    else finite negative significand exponent

def ofInt (number : Int) : Binary64 := ofRatio (decide (number < 0)) number.natAbs 1

def mul : Binary64 → Binary64 → Binary64
  | notANumber, _ => notANumber
  | _, notANumber => notANumber
  | infinite left, infinite right => infinite (left != right)
  | infinite left, finite right significand _ =>
      if significand = 0 then notANumber else infinite (left != right)
  | finite left significand _, infinite right =>
      if significand = 0 then notANumber else infinite (left != right)
  | finite left m e, finite right n f =>
      ofRatio (left != right) (m * n * powerTop (e + f)) (powerBottom (e + f))

/-- Division by a positive whole number, which has to be a number of the format itself. -/
def divNat : Binary64 → Nat → Binary64
  | finite negative significand exponent, divisor =>
      ofRatio negative (significand * powerTop exponent) (divisor * powerBottom exponent)
  | other, _ => other

/-- The nearest integer, a half going away from zero. Numbers beyond the range end at its ends
and what is not a number becomes zero. -/
def roundToInt64 : Binary64 → Int64
  | notANumber => 0
  | infinite true => Int64.minValue
  | infinite false => Int64.maxValue
  | finite negative significand exponent =>
      let size := quotientHalfUp (significand * powerTop exponent) (powerBottom exponent)
      clampInt64 (if negative then -size else size)

/-- The exact value to two decimal places, a tie going to the even last digit. -/
def twoPlaces : Binary64 → String
  | notANumber => "NaN"
  | infinite negative => if negative then "-inf" else "inf"
  | finite negative significand exponent =>
      let hundredths :=
        quotientHalfEven (100 * (significand * powerTop exponent)) (powerBottom exponent)
      let rest := hundredths % 100
      let digits := Nat.repr (hundredths / 100) ++ "." ++ Nat.repr (rest / 10) ++ Nat.repr (rest % 10)
      if negative then "-" ++ digits else digits

/-! The format's words: one bit of sign, eleven of exponent, fifty-two of fraction. -/
section Words

def unit : Nat := Nat.pow 2 52

def signBit : Nat := Nat.pow 2 63

def ofBits (word : UInt64) : Binary64 :=
  let bits := word.toNat
  let negative := decide (signBit ≤ bits)
  let exponent : Nat := bits / unit % 2048
  let fraction := bits % unit
  if exponent = 2047 then
    if fraction = 0 then infinite negative else notANumber
  else if exponent = 0 then finite negative fraction (-1074)
  else finite negative (unit + fraction) ((exponent : Int) - 1075)

def fields (significand : Nat) (exponent : Int) : Nat :=
  let top := significand * powerTop exponent
  let bottom := powerBottom exponent
  let grid := gridExponent top bottom
  let whole := top * powerBottom grid / (bottom * powerTop grid)
  if whole < unit then whole else (grid + 1075).toNat * unit + (whole - unit)

def toBits : Binary64 → UInt64
  | notANumber => UInt64.ofNat (2047 * unit + unit / 2)
  | infinite negative => UInt64.ofNat ((if negative then signBit else 0) + 2047 * unit)
  | finite negative significand exponent =>
      UInt64.ofNat ((if negative then signBit else 0) +
        (if significand = 0 then 0 else fields significand exponent))

end Words

end Binary64

end Storefront.Number
