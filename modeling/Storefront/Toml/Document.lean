import Storefront.Toml.Scalar
import Storefront.Toml.Table
import Storefront.Toml.Text
/-!
TOML documents. A document is read line by line into its headers and the values assigned under
them, and these are then put together. Values may go over several lines inside brackets and long
texts, but a table in braces stays on one line.
-/

namespace Storefront.Toml

open Text (Reader)

/-- Values nest less deep than this, and a key has fewer parts. -/
def depthLimit : Nat := 80

section Layout

def spaces : Reader Unit := discard (Reader.run isSpace)

def lineFeed : Reader Unit := do
  discard (Reader.accept '\r')
  Reader.expect '\n'

def comment : Reader Unit := do
  if ← Reader.accept '#' then discard (Reader.run isPlain)

def lineEnd : Reader Unit := do
  spaces
  comment
  if !(← Reader.atEnd) then lineFeed

def gap : Reader Unit := fun text => go text.length text
where
  go : Nat → Reader Unit
    | 0 => pure ()
    | lines + 1 => do
        spaces
        match ← Reader.peek with
        | some '#' => comment *> lineFeed *> go lines
        | some '\r' | some '\n' => lineFeed *> go lines
        | _ => pure ()

end Layout

section Keys

def isBare (char : Char) : Bool := char.isAlphanum || char = '_' || char = '-'

def simpleKey : Reader String := do
  match ← Reader.peek with
  | some '"' => shortText '"'
  | some '\'' => shortText '\''
  | _ =>
      let name ← Reader.run isBare
      guard !name.isEmpty
      pure (String.ofList name)

def keyWithin : Nat → Reader (List String)
  | 0 => failure
  | parts + 1 => do
      spaces
      let first ← simpleKey
      spaces
      if ← Reader.accept '.' then (first :: ·) <$> keyWithin parts else pure [first]

def key : Reader (List String) := keyWithin (depthLimit - 1)

end Keys

section Values

def quoted (mark : Char) : Reader Datum := do
  let text ← get
  .text <$> if [mark, mark, mark].isPrefixOf text then longText mark else shortText mark

def scalar : Reader Datum := do
  match ← Reader.peek with
  | none => failure
  | some char =>
      if char = '"' || char = '\'' then quoted char
      else if char.isDigit || char = '+' || char = '-' then numeric
      else word

/-- The items of a list up to its closing bracket; a comma may follow the last. -/
def items (item : Reader Datum) : Reader (List Datum) := fun text => go (text.length + 1) text
where
  go : Nat → Reader (List Datum)
    | 0 => failure
    | size + 1 => do
        gap
        if ← Reader.accept ']' then pure []
        else do
          let first ← item
          gap
          if ← Reader.accept ',' then (first :: ·) <$> go size
          else do
            Reader.expect ']'
            pure [first]

/-- A key, of which the last part names the value, and the value. -/
structure Assignment where
  path : List String
  name : String
  value : Datum

def assignment (item : Reader Datum) : Reader Assignment := do
  let parts ← key
  Reader.expect '='
  spaces
  let value ← item
  match parts.getLast? with
  | some name => pure { path := parts.dropLast, name, value }
  | none => failure

def fill (assignments : List Assignment) (entries : Entries) : Option Entries :=
  assignments.foldlM (fun entries given => entries.assign given.path given.name given.value) entries

def assignments (item : Reader Datum) : Reader (List Assignment) := fun text =>
  go (text.length + 1) text
where
  go : Nat → Reader (List Assignment)
    | 0 => failure
    | size + 1 => do
        let first ← assignment item
        spaces
        if ← Reader.accept ',' then (first :: ·) <$> go size
        else do
          Reader.expect '\x7d'
          pure [first]

def bracedTable (item : Reader Datum) : Reader Datum := do
  spaces
  let given ← if ← Reader.accept '\x7d' then pure [] else assignments item
  let entries ← StateT.lift (fill given [])
  pure (.table (dataOf entries))

def valueWithin : Nat → Reader Datum
  | 0 => scalar
  | depth + 1 => do
      match ← Reader.peek with
      | some '[' => Reader.expect '[' *> .list <$> items (valueWithin depth)
      | some '\x7b' => Reader.expect '\x7b' *> bracedTable (valueWithin depth)
      | _ => scalar

def value : Reader Datum := valueWithin (depthLimit - 1)

end Values

section Lines

/-- What a header opens: a table, or with `listed` one more table of a list. -/
structure Header where
  parents : List String
  name : String
  listed : Bool

inductive Line where
  | blank
  | header (header : Header)
  | assignment (given : Assignment)

def header (closing : String) (listed : Bool) : Reader Line := do
  let parts ← key
  Reader.exact closing
  match parts.getLast? with
  | some name => pure (.header { parents := parts.dropLast, name, listed })
  | none => failure

def line : Reader Line := do
  spaces
  let line ← match ← get with
    | [] | '#' :: _ | '\r' :: _ | '\n' :: _ => pure Line.blank
    | '[' :: '[' :: rest => set rest *> header "]]" true
    | '[' :: rest => set rest *> header "]" false
    | _ => .assignment <$> assignment value
  lineEnd
  pure line

end Lines

section Assembly

/-- What is assigned before the first header, and every header with what is assigned under it. -/
def outline : List Line → List Assignment × List (Header × List Assignment)
  | [] => ([], [])
  | .blank :: rest => outline rest
  | .assignment given :: rest =>
      let (first, others) := outline rest
      (given :: first, others)
  | .header header :: rest =>
      let (own, others) := outline rest
      ([], (header, own) :: others)

def place (root : Entries) (part : Header × List Assignment) : Option Entries :=
  let (header, own) := part
  let change := if header.listed then Entries.append (fill own) header.name
    else Entries.state (fill own) header.name
  Entries.alterBelow change header.parents root

/-- The document's table, or nothing if the text is no document. A byte order mark in front of the
text is not part of it. -/
def read? (text : String) : Option Datum := do
  let marks := match text.toList with
    | '\ufeff' :: rest => rest
    | marks => marks
  let (lines, _) ← Reader.untilEnd line marks
  let (first, others) := outline lines
  let root ← others.foldlM place (← fill first [])
  pure (.table (dataOf root))

end Assembly

end Storefront.Toml
