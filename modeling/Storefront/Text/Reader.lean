/-!
Reading text piece by piece. A reader takes what it needs from the front of the text and leaves
the rest to the next one; a reader that fails takes nothing.
-/

namespace Storefront.Text

abbrev Reader := StateT (List Char) Option

namespace Reader

variable {α : Type}

def peek : Reader (Option Char) := fun text => some (text.head?, text)

def atEnd : Reader Bool := fun text => some (text.isEmpty, text)

def accept (mark : Char) : Reader Bool
  | [] => some (false, [])
  | char :: rest => if char = mark then some (true, rest) else some (false, char :: rest)

def expect (mark : Char) : Reader Unit := do
  guard (← accept mark)

def oneOf (belongs : Char → Bool) : Reader Char
  | [] => none
  | char :: rest => if belongs char then some (char, rest) else none

def run (belongs : Char → Bool) : Reader (List Char) := fun text =>
  some (text.takeWhile belongs, text.dropWhile belongs)

def exactly (belongs : Char → Bool) : Nat → Reader (List Char)
  | 0 => pure []
  | count + 1 => do
      let char ← oneOf belongs
      let rest ← exactly belongs count
      pure (char :: rest)

def exact (words : String) : Reader Unit :=
  words.toList.forM expect

def taken (reader : Reader α) : Reader String := fun text =>
  (reader text).map fun (_, rest) =>
    (String.ofList (text.take (text.length - rest.length)), rest)

/-- One after the other until the text ends. Each has to take something, so there are no more of
them than characters. -/
def untilEnd (reader : Reader α) : Reader (List α) := fun text => go text.length text
where
  go : Nat → List Char → Option (List α × List Char)
    | _, [] => some ([], [])
    | 0, _ :: _ => none
    | size + 1, text => do
        let (first, rest) ← reader text
        let (others, rest) ← go size rest
        pure (first :: others, rest)

end Reader

end Storefront.Text
