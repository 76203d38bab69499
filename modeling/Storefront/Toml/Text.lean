import Storefront.Text.Numeral
import Storefront.Text.Reader
/-!
Quoted text of a TOML document. Between apostrophes every character stands for itself; between
quotation marks a backslash starts an escape. Three marks instead of one open a text over several
lines: a line end that follows them at once is not part of it, and at the close up to two marks
more are. A line end counts as one line feed, however it is written.
-/

namespace Storefront.Toml

open Text (Reader)

/-- Everything but the controls, of which only the tabulator may stand in a document. -/
def isPlain (char : Char) : Bool :=
  char = '\t' || (32 ≤ char.toNat && char.toNat ≠ 127)

def isSpace (char : Char) : Bool := char = ' ' || char = '\t'

section Body

/-- What comes before the closing mark of a text on one line. A backslash keeps its companion from
closing it. -/
def shortBody (mark : Char) : List Char → Option (List Char × List Char)
  | [] => none
  | char :: rest =>
      if char = mark then some ([], rest)
      else if !isPlain char then none
      else if char = '\\' ∧ mark = '"' then
        match rest with
        | [] => none
        | next :: rest =>
            if isPlain next then
              (shortBody mark rest).map fun (body, rest) => ('\\' :: next :: body, rest)
            else none
      else (shortBody mark rest).map fun (body, rest) => (char :: body, rest)

/-- Marks that come right after three closing ones: the text closes with the last three, but has
no more than two of them at its end. -/
def closing (mark : Char) : List Char → List Char × List Char
  | first :: second :: rest =>
      if first = mark then
        if second = mark then ([mark, mark], rest) else ([mark], second :: rest)
      else ([], first :: second :: rest)
  | [first] => if first = mark then ([mark], []) else ([], [first])
  | [] => ([], [])

def longBody (mark : Char) : List Char → Option (List Char × List Char)
  | [] => none
  | char :: rest =>
      if [mark, mark, mark].isPrefixOf (char :: rest) then
        some (closing mark (rest.drop 2))
      else if char = '\\' ∧ mark = '"' then
        match rest with
        | [] => none
        | next :: rest => (longBody mark rest).map fun (body, rest) => ('\\' :: next :: body, rest)
      else (longBody mark rest).map fun (body, rest) => (char :: body, rest)

end Body

section Meaning

def escaped? : Char → Option Char
  | 'b' => some '\x08'
  | 't' => some '\t'
  | 'n' => some '\n'
  | 'f' => some '\x0c'
  | 'r' => some '\r'
  | '"' => some '"'
  | '\\' => some '\\'
  | _ => none

def ofHex? (digits : List Char) : Option Char := do
  let values ← digits.mapM Text.Numeral.hexDigit?
  let code := values.foldl (fun code value => code * 16 + value) 0
  if code.isValidChar then some (Char.ofNat code) else none

def lineEnds : List Char → Bool
  | '\n' :: _ => true
  | '\r' :: '\n' :: _ => true
  | char :: rest => isSpace char && lineEnds rest
  | [] => false

/-- Text between quotation marks. A backslash at the end of a line joins it to the next character
that is neither space nor line end; `joining` says that this is under way. -/
def escapedText? (joining : Bool) : List Char → Option (List Char)
  | [] => some []
  | '\r' :: '\n' :: rest => (escapedText? joining rest).map (if joining then id else ('\n' :: ·))
  | '\n' :: rest => (escapedText? joining rest).map (if joining then id else ('\n' :: ·))
  | '\\' :: 'u' :: a :: b :: c :: d :: rest => do
      let char ← ofHex? [a, b, c, d]
      (escapedText? false rest).map (char :: ·)
  | '\\' :: 'U' :: a :: b :: c :: d :: e :: f :: g :: h :: rest => do
      let char ← ofHex? [a, b, c, d, e, f, g, h]
      (escapedText? false rest).map (char :: ·)
  | '\\' :: char :: rest =>
      if lineEnds (char :: rest) then escapedText? true (char :: rest)
      else do
        let char ← escaped? char
        (escapedText? false rest).map (char :: ·)
  | char :: rest =>
      if joining && isSpace char then escapedText? true rest
      else if isPlain char then (escapedText? false rest).map (char :: ·)
      else none

def literalText? : List Char → Option (List Char)
  | [] => some []
  | '\r' :: '\n' :: rest => (literalText? rest).map ('\n' :: ·)
  | '\n' :: rest => (literalText? rest).map ('\n' :: ·)
  | char :: rest => if isPlain char then (literalText? rest).map (char :: ·) else none

def meaning? (mark : Char) (body : List Char) : Option String :=
  (if mark = '"' then escapedText? false body else literalText? body).map String.ofList

end Meaning

def dropLineEnd : List Char → List Char
  | '\n' :: rest => rest
  | '\r' :: '\n' :: rest => rest
  | text => text

def shortText (mark : Char) : Reader String := do
  Reader.expect mark
  let body ← shortBody mark
  StateT.lift (meaning? mark body)

def longText (mark : Char) : Reader String := do
  Reader.exact (String.ofList [mark, mark, mark])
  modify dropLineEnd
  let body ← longBody mark
  StateT.lift (meaning? mark body)

end Storefront.Toml
