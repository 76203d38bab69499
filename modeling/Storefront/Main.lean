import Std.Time
import Storefront.Command.Run
/-!
The command line program. Everything it decides is decided by `Command.run`; here the files, the
variables and the clock are those of the machine.
-/

namespace Storefront.Machine

/-- A fault that comes with a path was met on the way to the file, one without while reading. -/
def fileFault : IO.Error → Command.FileFault
  | .noFileOrDirectory .. => .missing
  | .inappropriateType (some _) .. => .notDirectory
  | .inappropriateType none .. => .isDirectory
  | .invalidArgument (some _) .. => .nameTooLong
  | .permissionDenied .. => .other "Permission denied (os error 13)"
  | .userError _ => .other "stream did not contain valid UTF-8"
  | fault => .other (toString fault)

def readFile (path : String) : IO (Except Command.FileFault String) := do
  try
    return .ok (← IO.FS.readFile path)
  catch fault =>
    return .error (fileFault fault)

def dotEnvUpTo (lead : String) : Nat → IO (Option String)
  | 0 => return none
  | levels + 1 => do
      match ← readFile (lead ++ ".env") with
      | .ok text => return some text
      | .error _ => dotEnvUpTo ("../" ++ lead) levels

def dotEnv : IO (Option String) := do
  let depth := ((← IO.currentDir).toString.toList.filter (· == '/')).length
  dotEnvUpTo "" (depth + 1)

def isNameMark (char : Char) : Bool := DotEnv.isNameCharacter char || Text.isLetterOrDigit char

/-- Every word of a text that a variable may be called, and how such a word starts. -/
def mentioned (text : String) : List String :=
  let words := text.toList.splitBy fun left right => isNameMark left == isNameMark right
  words.flatMap fun word =>
    [String.ofList word, String.ofList (word.takeWhile Text.isLetterOrDigit)]

def environment : IO Environment := do
  let own := ["CATALOG_SEED", "CATALOG_MEDIA_URL", "CATALOG_STATIC_URL", "CATALOG_CURRENCY",
    "ENVIRONMENT", "NO_COLOR", "CLICOLOR_FORCE"]
  let names := own ++ ((← dotEnv).map mentioned).getD []
  let pairs ← names.filterMapM fun name => do
    return (← IO.getEnv name).map fun value => (name, value)
  return fun name => pairs.lookup name

def today : IO (Option Date) := do
  let now ← Std.Time.Timestamp.now
  return Date.ofDayNumber? (now.toSecondsSinceUnixEpoch.val / 86400)

end Storefront.Machine

open Storefront in
def main (words : List String) : IO UInt32 := do
  match ← Machine.today with
  | none =>
      IO.eprintln "Error: the clock is out of range"
      return 1
  | some today => do
      let files : Command.Files IO := { read := Machine.readFile, dotEnv := Machine.dotEnv }
      let some outcome ← Command.run files (← Machine.environment) today words
        | return 1
      IO.print outcome.output
      IO.eprint outcome.complaint
      return outcome.exitCode.toUInt32
