import Storefront.Datum.Basic
/-!
Data printed as JSON over several lines: two spaces for each level, one item or entry a line, and
nothing between the brackets of what is empty. Text is written as it is, but for the quotation
mark, the backslash and the controls.
-/

namespace Storefront.Datum

def hexDigit (value : Nat) : Char := Nat.digitChar (value % 16)

def escapeJson (char : Char) : List Char :=
  match char with
  | '"' => ['\\', '"']
  | '\\' => ['\\', '\\']
  | '\n' => ['\\', 'n']
  | '\r' => ['\\', 'r']
  | '\t' => ['\\', 't']
  | '\x08' => ['\\', 'b']
  | '\x0c' => ['\\', 'f']
  | _ =>
      if char.toNat < 32 then
        ['\\', 'u', '0', '0', hexDigit (char.toNat / 16), hexDigit char.toNat]
      else [char]

def quoteJson (text : String) : String :=
  String.ofList ('"' :: (text.toList.flatMap escapeJson ++ ['"']))

def indent (depth : Nat) : String := String.ofList (List.replicate (2 * depth) ' ')

def block (opening closing : String) (depth : Nat) (lines : List String) : String :=
  if lines.isEmpty then opening ++ closing
  else
    let lead := "\n" ++ indent (depth + 1)
    opening ++ lead ++ ("," ++ lead).intercalate lines ++ "\n" ++ indent depth ++ closing

mutual

def pretty (depth : Nat) : Datum → String
  | .null => "null"
  | .bool value => if value then "true" else "false"
  | .int value => toString value
  | .text value => quoteJson value
  | .foreign written => written
  | .list items => block "[" "]" depth (prettyItems (depth + 1) items)
  | .table entries => block "\x7b" "\x7d" depth (prettyEntries (depth + 1) entries)

def prettyItems (depth : Nat) : List Datum → List String
  | [] => []
  | item :: rest => pretty depth item :: prettyItems depth rest

def prettyEntries (depth : Nat) : List (String × Datum) → List String
  | [] => []
  | (name, value) :: rest => (quoteJson name ++ ": " ++ pretty depth value) :: prettyEntries depth rest

end

def toJson (datum : Datum) : String := pretty 0 datum

section Sorting

mutual

def sorted : Datum → Datum
  | .list items => .list (sortedItems items)
  | .table entries => .table ((sortedEntries entries).mergeSort fun left right => left.1 ≤ right.1)
  | other => other

def sortedItems : List Datum → List Datum
  | [] => []
  | item :: rest => sorted item :: sortedItems rest

def sortedEntries : List (String × Datum) → List (String × Datum)
  | [] => []
  | (name, value) :: rest => (name, sorted value) :: sortedEntries rest

end

end Sorting

end Storefront.Datum
