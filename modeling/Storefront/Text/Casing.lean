import Storefront.Text.CasingTable
/-!
Lower-casing by the full Unicode rules. One capital becomes two characters, and a capital sigma
that ends a word becomes the final sigma, so the small form of a text is not put together from
the small forms of its parts.
-/

namespace Storefront.Text.Casing

def inRanges (ranges : List (Nat × Nat)) (code : Nat) : Bool :=
  ranges.any fun range => range.1 ≤ code && code ≤ range.2

def isCased (char : Char) : Bool := inRanges casedRanges char.toNat

def isIgnorable (char : Char) : Bool := inRanges ignorableRanges char.toNat

def small? (code : Nat) : Option Nat :=
  (smallLetters.find? fun (first, last, step, _) =>
    first ≤ code && code ≤ last && (code - first) % step == 0).map
    fun (first, _, _, target) => target + (code - first)

def lowerChar (char : Char) : List Char :=
  if char.toNat < 128 then [char.toLower]
  else if char = 'İ' then ['i', '\u0307']
  else match small? char.toNat with
    | some code => [Char.ofNat code]
    | none => [char]

/-- Whether the first character that is not skipped has a case. -/
def nextIsCased (text : List Char) : Bool :=
  match text.dropWhile isIgnorable with
  | [] => false
  | char :: _ => isCased char

/-- `before` holds the characters already passed, the nearest one first. -/
def lowerFrom (before : List Char) : List Char → List Char
  | [] => []
  | char :: rest =>
      (if char = 'Σ' then
        if nextIsCased before && !nextIsCased rest then ['ς'] else ['σ']
      else lowerChar char) ++ lowerFrom (char :: before) rest

def lower (text : List Char) : List Char := lowerFrom [] text

end Storefront.Text.Casing
