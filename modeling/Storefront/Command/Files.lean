/-!
The files that a command reads, wherever they come from.
-/

namespace Storefront.Command

inductive FileFault where
  | missing
  | isDirectory
  | notDirectory
  | nameTooLong
  | other (reason : String)
  deriving DecidableEq, Repr

def FileFault.message : FileFault → String
  | .missing => "No such file or directory (os error 2)"
  | .isDirectory => "Is a directory (os error 21)"
  | .notDirectory => "Not a directory (os error 20)"
  | .nameTooLong => "File name too long (os error 36)"
  | .other reason => reason

structure Files (m : Type → Type) where
  read : String → m (Except FileFault String)
  /-- The nearest file of variables, in the working directory or one above it. -/
  dotEnv : m (Option String)

end Storefront.Command
