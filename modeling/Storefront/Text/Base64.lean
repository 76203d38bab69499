import Storefront.Text.Bytes
/-!
Base64 with the standard alphabet and required padding. Written form and reading are both on
bytes, three of them for every four symbols. Reading accepts the written form alone: the padding
has to be there, and the bits that the last symbol does not need have to be zero.
-/

namespace Storefront.Text.Base64

inductive Fault where
  | invalidSymbol (byte : UInt8) (offset : Nat)
  | invalidLength (length : Nat)
  | invalidPadding
  | invalidLastSymbol (byte : UInt8) (offset : Nat)
  deriving DecidableEq, Repr

def Fault.message : Fault → String
  | .invalidSymbol byte offset => s!"Invalid symbol {byte.toNat}, offset {offset}."
  | .invalidLength length => s!"Invalid input length: {length}"
  | .invalidPadding => "Invalid padding"
  | .invalidLastSymbol byte offset => s!"Invalid last symbol {byte.toNat}, offset {offset}."

def pad : UInt8 := 61

/-- The symbol of a value below 64: capitals, small letters, digits, plus and slash. -/
def symbol (value : Nat) : UInt8 :=
  if value < 26 then UInt8.ofNat (value + 65)
  else if value < 52 then UInt8.ofNat (value + 71)
  else if value < 62 then UInt8.ofNat (value - 4)
  else if value = 62 then 43
  else 47

def value? (byte : UInt8) : Option Nat :=
  let code := byte.toNat
  if 65 ≤ code ∧ code ≤ 90 then some (code - 65)
  else if 97 ≤ code ∧ code ≤ 122 then some (code - 71)
  else if 48 ≤ code ∧ code ≤ 57 then some (code + 4)
  else if code = 43 then some 62
  else if code = 47 then some 63
  else none

def encode : List UInt8 → List UInt8
  | [] => []
  | [a] => [symbol (a.toNat / 4), symbol (a.toNat % 4 * 16), pad, pad]
  | [a, b] =>
      [symbol (a.toNat / 4), symbol (a.toNat % 4 * 16 + b.toNat / 16),
        symbol (b.toNat % 16 * 4), pad]
  | a :: b :: c :: rest =>
      symbol (a.toNat / 4) :: symbol (a.toNat % 4 * 16 + b.toNat / 16) ::
        symbol (b.toNat % 16 * 4 + c.toNat / 64) :: symbol (c.toNat % 64) :: encode rest

def valueAt (offset : Nat) (byte : UInt8) : Except Fault Nat :=
  match value? byte with
  | some value => .ok value
  | none => .error (.invalidSymbol byte offset)

/-- The values of the last group. Padding may stand at its third and fourth place only, and
nothing but padding may follow it. -/
def tailValues (start : Nat) : Nat → Option Nat → List UInt8 → Except Fault (List Nat)
  | _, _, [] => .ok []
  | place, padded, byte :: rest =>
      if byte = pad then
        if place < 2 then .error (.invalidSymbol pad (start + place))
        else tailValues start (place + 1) (padded <|> some place) rest
      else
        match padded with
        | some first => .error (.invalidSymbol pad (start + first))
        | none => do
            let value ← valueAt (start + place) byte
            let values ← tailValues start (place + 1) none rest
            pure (value :: values)

def decodeTail (start : Nat) (group : List UInt8) : Except Fault (List UInt8) := do
  let values ← tailValues start 0 none group
  let last := group.getD (values.length - 1) pad
  match values with
  | [a, b] =>
      if group.length ≠ 4 then .error .invalidPadding
      else if b % 16 ≠ 0 then .error (.invalidLastSymbol last (start + 1))
      else pure [UInt8.ofNat (a * 4 + b / 16)]
  | [a, b, c] =>
      if group.length ≠ 4 then .error .invalidPadding
      else if c % 4 ≠ 0 then .error (.invalidLastSymbol last (start + 2))
      else pure [UInt8.ofNat (a * 4 + b / 16), UInt8.ofNat (b % 16 * 16 + c / 4)]
  | [a, b, c, d] =>
      pure [UInt8.ofNat (a * 4 + b / 16), UInt8.ofNat (b % 16 * 16 + c / 4),
        UInt8.ofNat (c % 4 * 64 + d)]
  | _ => .error (.invalidLength (start + values.length))

def decodeGroups (start : Nat) : List UInt8 → Except Fault (List UInt8)
  | [] => .ok []
  | a :: b :: c :: d :: e :: rest => do
      let a ← valueAt start a
      let b ← valueAt (start + 1) b
      let c ← valueAt (start + 2) c
      let d ← valueAt (start + 3) d
      let bytes ← decodeGroups (start + 4) (e :: rest)
      pure (UInt8.ofNat (a * 4 + b / 16) :: UInt8.ofNat (b % 16 * 16 + c / 4) ::
        UInt8.ofNat (c % 4 * 64 + d) :: bytes)
  | group => decodeTail start group

/-- A lone byte after the last full group is looked at first if it could belong to no group. -/
def strayByte? (text : List UInt8) : Option Fault :=
  match text.getLast? with
  | some byte =>
      if text.length % 4 = 1 ∧ byte ≠ pad ∧ value? byte = none then
        some (.invalidSymbol byte (text.length - 1))
      else none
  | none => none

def decode (text : List UInt8) : Except Fault (List UInt8) :=
  match strayByte? text with
  | some fault => .error fault
  | none => decodeGroups 0 text

def ofText (text : String) : String :=
  String.ofList ((encode (utf8 text)).map fun byte => Char.ofNat byte.toNat)

def bytes (text : String) : Except Fault (List UInt8) := decode (utf8 text)

end Storefront.Text.Base64
