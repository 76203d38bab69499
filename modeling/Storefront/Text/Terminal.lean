import Storefront.Text.Bytes
/-!
Text for a terminal. It may hold control sequences, which a terminal acts upon instead of showing
them: most start with an escape character and a bracket and end with a letter. Where there is no
terminal they are left out, and so are all other controls but white space.
-/

namespace Storefront.Text.Terminal

def styled (codes text : String) : String := "\x1b[" ++ codes ++ "m" ++ text ++ "\x1b[0m"

/-- Where in a control sequence the text stands. -/
inductive Place where
  | outside
  | escape
  | escapeMarks
  | parameters
  /-- What is meant for a device, before the letter that says for which. -/
  | deviceStart
  /-- Behind a parameter; marks may follow. -/
  | deviceParameters
  /-- Behind a mark; no parameter may follow. -/
  | deviceMarks
  /-- The text for the device, or what is left of a sequence that went wrong. -/
  | device
  | aside
  | system
  deriving DecidableEq, Repr

namespace Place

/-- The byte that ends a long sequence; it counts even inside a character. -/
def closes (char : Char) : Bool := (utf8 (String.singleton char)).contains 0x9C

def opened (char : Char) : Place :=
  if char = '[' then parameters
  else if char = ']' then system
  else if char = 'P' then deviceStart
  else if char = 'X' || char = '^' || char = '_' then aside
  else if ' ' ≤ char && char ≤ '/' then escapeMarks
  else if '0' ≤ char && char ≤ '~' then outside
  else escape

/-- Behind one more character of what is meant for a device. `last` is the last character that may
stand where a parameter does. -/
def ofDevice (place : Place) (last char : Char) : Place :=
  if ' ' ≤ char && char ≤ '/' then deviceMarks
  else if '0' ≤ char && char ≤ last then deviceParameters
  else if '0' ≤ char && char ≤ '~' then device
  else place

/-- Behind one more character. A new escape starts a sequence anew, wherever it comes. -/
def next (place : Place) (char : Char) : Place :=
  if char = '\x1b' then escape
  else if char = '\x18' || char = '\x1a' then outside
  else
    match place with
    | outside => outside
    | escape => opened char
    | escapeMarks => if '0' ≤ char && char ≤ '~' then outside else escapeMarks
    | parameters => if '@' ≤ char && char ≤ '~' then outside else parameters
    | deviceStart => ofDevice deviceStart '?' char
    | deviceParameters => ofDevice deviceParameters ';' char
    | deviceMarks => ofDevice deviceMarks '/' char
    | device => if closes char then outside else device
    | aside => if closes char then outside else aside
    | system => if char = '\x07' then outside else system

def isSpacing (char : Char) : Bool :=
  char = '\t' || char = '\n' || char = '\x0c' || char = '\r'

/-- White space is shown even in a short sequence. -/
def shows (place : Place) (char : Char) : Bool :=
  match place with
  | outside => isSpacing char || (' ' ≤ char && char ≠ '\x7f')
  | escape | escapeMarks | parameters => isSpacing char
  | deviceStart | deviceParameters | deviceMarks | device | aside | system => false

end Place

/-- What is shown of the text. Once something is shown, so is all that follows up to the next
control; a sequence that was left open goes on from there. -/
def plainFrom (shown : Bool) (place : Place) : List Char → List Char
  | [] => []
  | char :: rest =>
      if (if shown then Place.outside else place).shows char then
        char :: plainFrom true (if char.toNat < 128 then place else .outside) rest
      else plainFrom false (place.next char) rest

def plain (text : String) : String := String.ofList (plainFrom false .outside text.toList)

end Storefront.Text.Terminal
