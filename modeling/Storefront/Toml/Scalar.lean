import Storefront.Calendar
import Storefront.Datum.Basic
import Storefront.Text.Numeral
import Storefront.Text.Reader
/-!
Numbers, truth values and points in time of a TOML document. Fractions and points in time are
checked but not worked out, since the catalog has no use for them.
-/

namespace Storefront.Toml

open Text (Reader)

section Digits

def moreDigits (isDigit : Char → Bool) : List Char → Option (List Char × List Char)
  | [] => some ([], [])
  | '_' :: rest =>
      match rest with
      | [] => none
      | char :: rest =>
          if isDigit char then
            (moreDigits isDigit rest).map fun (digits, rest) => (char :: digits, rest)
          else none
  | char :: rest =>
      if isDigit char then
        (moreDigits isDigit rest).map fun (digits, rest) => (char :: digits, rest)
      else some ([], char :: rest)

def digits (isDigit : Char → Bool) : Reader (List Char) := do
  let first ← Reader.oneOf isDigit
  let more ← moreDigits isDigit
  pure (first :: more)

def wholeDigits : Reader (List Char) := do
  let first ← Reader.oneOf Char.isDigit
  if first = '0' then pure ['0'] else (first :: ·) <$> moreDigits Char.isDigit

def isHexDigit (char : Char) : Bool := (Text.Numeral.hexDigit? char).isSome

def valueIn (base : Nat) (digits : List Char) : Nat :=
  digits.foldl (fun value char => value * base + (Text.Numeral.hexDigit? char).getD 0) 0

end Digits

section Numbers

def integer? (value : Int) : Option Datum :=
  if Int64.minValue.toInt ≤ value ∧ value ≤ Int64.maxValue.toInt then some (.int value) else none

def basedInteger (base : Nat) (isDigit : Char → Bool) : Reader Datum := do
  let digits ← digits isDigit
  StateT.lift (integer? (valueIn base digits))

/-- Whether the decimal, taken to the nearest binary number of 64 bits, is out of their range.
There are no more digits after the point than `shift` says. -/
def overflows (digits : Nat) (shift : Int) : Bool :=
  let places := (Nat.toDigits 10 digits).length + shift
  let bound := Nat.pow 2 1024 - Nat.pow 2 970
  if digits = 0 ∨ places < 309 then false
  else if 309 < places then true
  else bound * Nat.pow 10 (-shift).toNat ≤ digits * Nat.pow 10 shift.toNat

def exponent : Reader Int := do
  let negative ← Reader.accept '-'
  if !negative then discard (Reader.accept '+')
  let digits ← digits Char.isDigit
  let size : Int := valueIn 10 digits
  pure (if negative then -size else size)

def acceptExponent : Reader Bool := do
  if ← Reader.accept 'e' then pure true else Reader.accept 'E'

/-- A number after its sign: an integer, or a fraction if a point or an exponent follows. A
positive fraction must not be out of range. -/
def unsignedNumber (negative : Bool) : Reader (Option Datum) := do
  let whole ← wholeDigits
  let pointed ← Reader.accept '.'
  let places ← if pointed then digits Char.isDigit else pure []
  let raised ← acceptExponent
  let power ← if raised then exponent else pure 0
  let value := valueIn 10 (whole ++ places)
  if pointed || raised then
    guard (negative || !overflows value (power - places.length))
    pure none
  else some <$> StateT.lift (integer? (if negative then -value else value))

def number : Reader Datum := fun text => do
  let signed : Reader (Option Datum) := do
    let negative ← Reader.accept '-'
    if !negative then discard (Reader.accept '+')
    match ← Reader.peek with
    | some 'i' => Reader.exact "inf" *> pure none
    | some 'n' => Reader.exact "nan" *> pure none
    | _ => unsignedNumber negative
  let (value, rest) ← signed text
  pure (value.getD (.foreign (String.ofList (text.take (text.length - rest.length)))), rest)

end Numbers

section Moments

def numberOf (count : Nat) : Reader Nat := do
  pure (valueIn 10 (← Reader.exactly Char.isDigit count))

def date : Reader Unit := do
  let year ← numberOf 4
  Reader.expect '-'
  let month ← numberOf 2
  Reader.expect '-'
  let day ← numberOf 2
  guard (Date.ofParts? year month day).isSome

/-- A minute may have a sixtieth second. -/
def time : Reader Unit := do
  let hour ← numberOf 2
  Reader.expect ':'
  let minute ← numberOf 2
  Reader.expect ':'
  let second ← numberOf 2
  guard (hour < 24 ∧ minute < 60 ∧ second ≤ 60)
  if ← Reader.accept '.' then
    discard (Reader.oneOf Char.isDigit)
    discard (Reader.run Char.isDigit)

def offset : Reader Unit := do
  match ← Reader.peek with
  | some 'Z' | some 'z' => discard (Reader.oneOf fun _ => true)
  | some '+' | some '-' =>
      discard (Reader.oneOf fun _ => true)
      let hour ← numberOf 2
      Reader.expect ':'
      let minute ← numberOf 2
      guard (hour < 24 ∧ minute < 60)
  | _ => pure ()

/-- Whether a time follows a date: a `T` announces one, and so does a space with a digit. -/
def timeFollows : List Char → Bool
  | 'T' :: _ | 't' :: _ => true
  | ' ' :: char :: _ => char.isDigit
  | _ => false

def dateAndTime : Reader Unit := do
  date
  if timeFollows (← get) then
    discard (Reader.oneOf fun _ => true)
    time
    offset

def startsDate : List Char → Bool
  | a :: b :: c :: d :: '-' :: _ => [a, b, c, d].all Char.isDigit
  | _ => false

def startsTime : List Char → Bool
  | a :: b :: ':' :: _ => a.isDigit && b.isDigit
  | _ => false

end Moments

def numeric : Reader Datum := do
  let text ← get
  if startsDate text then .foreign <$> Reader.taken dateAndTime
  else if startsTime text then .foreign <$> Reader.taken time
  else
    match text with
    | '0' :: 'x' :: rest => set rest *> basedInteger 16 isHexDigit
    | '0' :: 'o' :: rest => set rest *> basedInteger 8 fun char => '0' ≤ char && char ≤ '7'
    | '0' :: 'b' :: rest => set rest *> basedInteger 2 fun char => char = '0' || char = '1'
    | _ => number

def word : Reader Datum := do
  match ← Reader.peek with
  | some 't' => Reader.exact "true" *> pure (.bool true)
  | some 'f' => Reader.exact "false" *> pure (.bool false)
  | some 'i' => Reader.exact "inf" *> pure (.foreign "inf")
  | some 'n' => Reader.exact "nan" *> pure (.foreign "nan")
  | _ => failure

end Storefront.Toml
