import Storefront.Settings
import Storefront.Text.Blank
import Storefront.Text.Letter
import Storefront.Text.Reader
import Storefront.Text.Split
/-!
Files of variables, a `NAME=value` on each line. They add to an environment and never replace what
it has. The first line that cannot be read ends the file; the lines before it count.
-/

namespace Storefront.DotEnv

open Text (Reader)

/-! Lines. A quotation mark that is open at the end of a line carries on to the next one, and a
number sign after a blank starts a comment. -/
section Lines

/-- Where in a line a character stands. A second blank after the first is an ordinary character. -/
inductive Place where
  | plain
  | blank
  | escaped
  | strong
  | strongEscaped
  | weak
  | weakEscaped
  deriving DecidableEq, Repr

namespace Place

def opened : Char → Place
  | '\\' => escaped
  | '"' => weak
  | '\'' => strong
  | _ => plain

def next (place : Place) (char : Char) : Place :=
  match place with
  | plain =>
      if Text.isBlank char && char != '\n' && char != '\r' then blank else opened char
  | blank => opened char
  | escaped => plain
  | weak => if char = '\\' then weakEscaped else if char = '"' then plain else weak
  | weakEscaped => weak
  | strong => if char = '\\' then strongEscaped else if char = '\'' then plain else strong
  | strongEscaped => strong

end Place

def scan : Place → List Char → Option (List Char) × Place
  | place, [] => (none, place)
  | .blank, '#' :: _ => (some [], .plain)
  | place, char :: rest =>
      let (kept, last) := scan (place.next char) rest
      (kept.map (char :: ·), last)

def pieces : List Char → List (List Char)
  | [] => []
  | '\n' :: rest => ['\n'] :: pieces rest
  | char :: rest =>
      match pieces rest with
      | [] => [[char]]
      | first :: others => (char :: first) :: others

def isComment (text : List Char) : Bool := (Text.dropBlanks text).head? == some '#'

/-- Pieces joined to lines. A line that is still open at the end of the text is none. -/
def joined (held : List Char) (place : Place) : List (List Char) → List (Option (List Char))
  | [] => if place = .plain then [] else [none]
  | piece :: rest =>
      let line := held ++ piece
      if isComment line then joined [] .plain rest
      else
        match scan place piece with
        | (some kept, _) => some (held ++ kept) :: joined [] .plain rest
        | (none, .plain) => some line :: joined [] .plain rest
        | (none, place) => joined line place rest

end Lines

/-! Values. Apostrophes keep everything between them as it is. Elsewhere a backslash escapes, and a
dollar sign stands before the name of a variable, which may be put in braces. -/
section Values

inductive Mode where
  | text (quoted : Bool)
  | strong
  | escape (quoted : Bool)
  | name (quoted : Bool) (read : List Char)
  | braced (quoted : Bool) (read : List Char)
  | ended
  deriving DecidableEq, Repr

/-- Whether the value may end here; it takes the variable whose name was being read. -/
def atEnd (known : List Char → List Char) : Mode → Option (List Char)
  | .text false | .escape false | .ended => some []
  | .name false read => some (known read)
  | _ => none

def escape? : Char → Option Char
  | 'n' => some '\n'
  | char => if ['\\', '\'', '"', '$', ' '].contains char then some char else none

/-- The value from a character on. Names are made of letters and digits, of any script; the
character that ends a name without braces stands for itself, unless it starts another name. -/
def value (known : List Char → List Char) (mode : Mode) : List Char → Option (List Char)
  | [] => atEnd known mode
  | char :: rest =>
      match mode with
      | .ended =>
          if char = ' ' || char = '\t' then value known .ended rest
          else if char = '#' then some []
          else none
      | .escape quoted => do
          let char ← escape? char
          (value known (.text quoted) rest).map (char :: ·)
      | .strong =>
          if char = '\'' then value known (.text false) rest
          else (value known .strong rest).map (char :: ·)
      | .name quoted read =>
          if Text.isLetterOrDigit char then value known (.name quoted (read ++ [char])) rest
          else if char = '\x7b' && read.isEmpty then value known (.braced quoted []) rest
          else if char = '$' then (value known (.name quoted []) rest).map (known read ++ ·)
          else (value known (.text quoted) rest).map (known read ++ char :: ·)
      | .braced quoted read =>
          if char = '\x7d' then (value known (.text quoted) rest).map (known read ++ ·)
          else value known (.braced quoted (read ++ [char])) rest
      | .text quoted =>
          if char = '$' then value known (.name quoted []) rest
          else if char = '"' then value known (.text !quoted) rest
          else if char = '\\' then value known (.escape quoted) rest
          else if char = '\'' && !quoted then value known .strong rest
          else if (char = ' ' || char = '\t') && !quoted then value known .ended rest
          else (value known (.text quoted) rest).map (char :: ·)

end Values

section Entries

def blanks : Reader Unit := discard (Reader.run Text.isBlank)

def isNameCharacter (char : Char) : Bool := char.isAlphanum || char = '_' || char = '.'

def name : Reader String := do
  let first ← Reader.oneOf fun char => char.isAlpha || char = '_'
  let more ← Reader.run isNameCharacter
  pure (String.ofList (first :: more))

/-- A name and the equals sign. The word `export` may come before the name, and may itself be it. -/
def assigned : Reader String := do
  let first ← name
  blanks
  if first ≠ "export" then
    Reader.expect '='
    pure first
  else if ← Reader.accept '=' then pure first
  else
    let second ← name
    blanks
    Reader.expect '='
    pure second

/-- A variable as the system finds it, by the text `NAME=` in front of its entry. So a name with an
equals sign in it goes on into the value of the variable that is named up to there. -/
def lookUp (environment : Environment) (name : List Char) : Option (List Char) :=
  match Text.cutFirst '=' name with
  | none => (environment (String.ofList name)).map String.toList
  | some (shorter, lead) => do
      let text ← environment (String.ofList shorter)
      Text.stripLead? (lead ++ ['=']) text.toList

def entry (environment : Environment) : Reader (Option (String × String)) := do
  blanks
  if (← get).isEmpty || isComment (← get) then pure none
  else
    let name ← assigned
    blanks
    let text ← get
    if text.isEmpty || isComment text then pure (some (name, ""))
    else
      let known (read : List Char) := (lookUp environment read).getD []
      let value ← StateT.lift (value known (.text false) text)
      pure (some (name, String.ofList value))

end Entries

/-- The environment with a variable that it may not have yet; none if it cannot hold the value. A
value ends at a null character, so it has none inside. -/
def withVariable (environment : Environment) (name value : String) : Option Environment :=
  if (environment name).isNone && value.contains '\x00' then none
  else some fun other => environment other <|> if other = name then some value else none

def loadLines (environment : Environment) : List (Option (List Char)) → Option Environment
  | [] => some environment
  | none :: _ => some environment
  | some line :: rest =>
      let trimmed := (Text.dropBlanks line.reverse).reverse
      match (entry environment).run' trimmed with
      | none => some environment
      | some none => loadLines environment rest
      | some (some (name, value)) => do
          loadLines (← withVariable environment name value) rest

/-- The environment with the variables of a file, none if one of them cannot be held. A byte order
mark in front is not part of the file. -/
def load (environment : Environment) (text : String) : Option Environment :=
  let marks := match text.toList with
    | '\ufeff' :: rest => rest
    | marks => marks
  loadLines environment (joined [] .plain (pieces marks))

end Storefront.DotEnv
