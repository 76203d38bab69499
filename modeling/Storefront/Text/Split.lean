/-!
Cutting text at a mark, trimming marks at an end, and finding one text inside another. All of it
is said of lists of characters; the functions on `String` only open and close them.
-/

namespace Storefront.Text

def cutFirst (mark : Char) : List Char → Option (List Char × List Char)
  | [] => none
  | char :: rest =>
      if char = mark then some ([], rest)
      else (cutFirst mark rest).map fun parts => (char :: parts.1, parts.2)

def cutLast (mark : Char) : List Char → Option (List Char × List Char)
  | [] => none
  | char :: rest =>
      match cutLast mark rest with
      | some parts => some (char :: parts.1, parts.2)
      | none => if char = mark then some ([], rest) else none

/-- The parts between the marks; there is one part more than marks. -/
def splitAll (mark : Char) : List Char → List (List Char)
  | [] => [[]]
  | char :: rest =>
      match splitAll mark rest with
      | [] => [[char]]
      | first :: others => if char = mark then [] :: first :: others else (char :: first) :: others

def splitFirst (mark : Char) (text : String) : Option (String × String) :=
  (cutFirst mark text.toList).map fun parts => (String.ofList parts.1, String.ofList parts.2)

def trimLeft (mark : Char) (text : String) : String :=
  String.ofList (text.toList.dropWhile (· == mark))

def trimRight (mark : Char) (text : String) : String :=
  String.ofList (text.toList.reverse.dropWhile (· == mark)).reverse

def occursIn (needle : List Char) : List Char → Bool
  | [] => needle.isEmpty
  | char :: rest => needle.isPrefixOf (char :: rest) || occursIn needle rest

def stripLead? : List Char → List Char → Option (List Char)
  | [], text => some text
  | _ :: _, [] => none
  | mark :: marks, char :: rest => if mark = char then stripLead? marks rest else none

end Storefront.Text
