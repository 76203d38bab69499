/-!
Integers written in decimal digits. A numeral is one optional sign and at least one ASCII digit;
leading zeros are allowed and nothing else is. The digits are read from the left, so the first
digit that leaves the range decides before a later character that is no digit.
-/

namespace Storefront.Text.Numeral

inductive Fault where
  | empty
  | invalidDigit
  | tooLarge
  | tooSmall
  deriving DecidableEq, Repr

def Fault.message : Fault → String
  | .empty => "cannot parse integer from empty string"
  | .invalidDigit => "invalid digit found in string"
  | .tooLarge => "number too large to fit in target type"
  | .tooSmall => "number too small to fit in target type"

def digit? (char : Char) : Option Nat :=
  if char.isDigit then some (char.toNat - '0'.toNat) else none

def hexDigit? (char : Char) : Option Nat :=
  if char.isDigit then some (char.toNat - '0'.toNat)
  else if 'a' ≤ char ∧ char ≤ 'f' then some (char.toNat - 'a'.toNat + 10)
  else if 'A' ≤ char ∧ char ≤ 'F' then some (char.toNat - 'A'.toNat + 10)
  else none

def accumulate (low high : Int) (negative : Bool) : Int → List Char → Except Fault Int
  | total, [] => .ok total
  | total, char :: rest =>
      match digit? char with
      | none => .error .invalidDigit
      | some digit =>
          let next := if negative then total * 10 - digit else total * 10 + digit
          if high < next then .error .tooLarge
          else if next < low then .error .tooSmall
          else accumulate low high negative next rest

/-- A minus sign is a sign only where the range has negative numbers; elsewhere it is a
character that is no digit. -/
def readWithin (low high : Int) : List Char → Except Fault Int
  | [] => .error .empty
  | ['+'] => .error .invalidDigit
  | ['-'] => .error .invalidDigit
  | '+' :: digits => accumulate low high false 0 digits
  | '-' :: digits => if low < 0 then accumulate low high true 0 digits else .error .invalidDigit
  | digits => accumulate low high false 0 digits

def readInt64 (text : String) : Except Fault Int64 :=
  (readWithin Int64.minValue.toInt Int64.maxValue.toInt text.toList).map Int64.ofInt

def readNatBelow (size : Nat) (text : String) : Except Fault Nat :=
  (readWithin 0 (size - 1) text.toList).map Int.toNat

def readUInt64 (text : String) : Except Fault UInt64 :=
  (readNatBelow UInt64.size text).map UInt64.ofNat

def readUInt32 (text : String) : Except Fault UInt32 :=
  (readNatBelow UInt32.size text).map UInt32.ofNat

def readUInt8 (text : String) : Except Fault UInt8 :=
  (readNatBelow UInt8.size text).map UInt8.ofNat

def padded (width number : Nat) : String :=
  let digits := Nat.toDigits 10 number
  String.ofList (List.replicate (width - digits.length) '0' ++ digits)

end Storefront.Text.Numeral
