import Storefront.Text.Blank
import Storefront.Text.Numeral
/-!
Dates of the Gregorian calendar, carried back and forward over the years the catalog supports.
A date is written year, month, day with hyphens between; reading also admits white space before
each number, before each hyphen and at the end, and numbers with fewer digits.
-/

namespace Storefront

def isLeapYear (year : Int) : Bool :=
  year % 4 == 0 && (year % 100 != 0 || year % 400 == 0)

def daysInMonth (year : Int) (month : Nat) : Nat :=
  if month = 2 then if isLeapYear year then 29 else 28
  else if month = 4 ∨ month = 6 ∨ month = 9 ∨ month = 11 then 30
  else 31

def InCalendar (year : Int) (month day : Nat) : Prop :=
  -262143 ≤ year ∧ year ≤ 262142 ∧ 1 ≤ month ∧ month ≤ 12 ∧ 1 ≤ day ∧ day ≤ daysInMonth year month

instance (year : Int) (month day : Nat) : Decidable (InCalendar year month day) := by
  unfold InCalendar
  infer_instance

structure Date where
  year : Int
  month : Nat
  day : Nat
  inCalendar : InCalendar year month day
  deriving DecidableEq

namespace Date

def ofParts? (year : Int) (month day : Nat) : Option Date :=
  if valid : InCalendar year month day then some ⟨year, month, day, valid⟩ else none

def rank (date : Date) : Int := date.year * 512 + date.month * 32 + date.day

instance : LE Date := ⟨fun left right => left.rank ≤ right.rank⟩

instance (left right : Date) : Decidable (left ≤ right) :=
  inferInstanceAs (Decidable (left.rank ≤ right.rank))

theorem daysInMonth_le (year : Int) (month : Nat) : daysInMonth year month ≤ 31 := by
  unfold daysInMonth
  repeat' split
  all_goals omega

/-! Reading. The parts are taken from the left and each is checked as soon as it was read, so
the first thing that is wrong is the one reported. -/
section Reading

inductive Fault where
  | tooShort
  | invalid
  | tooLong
  | outOfRange
  deriving DecidableEq, Repr

def Fault.message : Fault → String
  | .tooShort => "premature end of input"
  | .invalid => "input contains invalid characters"
  | .tooLong => "trailing input"
  | .outOfRange => "input is out of range"

def takeNumber (width : Nat) (text : List Char) : Except Fault (Nat × List Char) :=
  match text with
  | [] => .error .tooShort
  | _ :: _ =>
      let digits := (text.take width).takeWhile Char.isDigit
      if digits.isEmpty then .error .invalid
      else
        let number := Nat.ofDigitChars 10 digits 0
        if Int64.maxValue.toInt < number then .error .outOfRange
        else .ok (number, text.drop digits.length)

/-- A year without a sign has four digits at most, one with a sign any number of them. -/
def takeYear (text : List Char) : Except Fault (Int × List Char) := do
  let (year, rest) ← match text with
    | '-' :: digits => (takeNumber digits.length digits).map fun (number, rest) => (-(number : Int), rest)
    | '+' :: digits => (takeNumber digits.length digits).map fun (number, rest) => ((number : Int), rest)
    | digits => (takeNumber 4 digits).map fun (number, rest) => ((number : Int), rest)
  if year < Int32.minValue.toInt ∨ Int32.maxValue.toInt < year then .error .outOfRange else .ok (year, rest)

def takeHyphen (text : List Char) : Except Fault (List Char) :=
  match text with
  | [] => .error .tooShort
  | '-' :: rest => .ok rest
  | _ => .error .invalid

def takePart (high : Nat) (text : List Char) : Except Fault (Nat × List Char) := do
  let (number, rest) ← takeNumber 2 text
  if number < 1 ∨ high < number then .error .outOfRange else .ok (number, rest)

def read (text : String) : Except Fault Date := do
  let (year, rest) ← takeYear (Text.dropBlanks text.toList)
  let rest ← takeHyphen (Text.dropBlanks rest)
  let (month, rest) ← takePart 12 (Text.dropBlanks rest)
  let rest ← takeHyphen (Text.dropBlanks rest)
  let (day, rest) ← takePart 31 (Text.dropBlanks rest)
  if Text.dropBlanks rest ≠ [] then .error .tooLong
  else match ofParts? year month day with
    | some date => .ok date
    | none => .error .outOfRange

end Reading

def write (date : Date) : String :=
  let year := Text.Numeral.padded 4 date.year.natAbs
  let signed :=
    if date.year < 0 then "-" ++ year else if 9999 < date.year then "+" ++ year else year
  signed ++ "-" ++ Text.Numeral.padded 2 date.month ++ "-" ++ Text.Numeral.padded 2 date.day

/-- The date that lies `days` days after the first of January 1970. Years are counted from the
first of March, so that the day added in a leap year is a year's last. -/
def ofDayNumber? (days : Int) : Option Date :=
  let shifted := days + 719468
  let era := shifted / 146097
  let dayOfEra := (shifted % 146097).toNat
  let yearOfEra := (dayOfEra - dayOfEra / 1460 + dayOfEra / 36524 - dayOfEra / 146096) / 365
  let dayOfYear := dayOfEra - (365 * yearOfEra + yearOfEra / 4 - yearOfEra / 100)
  let monthFromMarch := (5 * dayOfYear + 2) / 153
  let day := dayOfYear - (153 * monthFromMarch + 2) / 5 + 1
  let month := if monthFromMarch < 10 then monthFromMarch + 3 else monthFromMarch - 9
  let year := era * 400 + yearOfEra
  ofParts? (if month ≤ 2 then year + 1 else year) month day

end Date

end Storefront
