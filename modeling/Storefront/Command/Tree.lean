import Storefront.Command.Files
import Storefront.Text.Bytes
import Storefront.Text.Split
/-!
Files held in memory. A directory is there if it was named or if something is in it, and the one
to start in always is.
-/

namespace Storefront.Command

abbrev Path := List String

/-- The parts between the slashes, some of which may be empty or made of dots. -/
def Path.ofText (text : String) : Path := (Text.splitAll '/' text.toList).map String.ofList

structure Tree where
  files : List (Path × String)
  directories : List Path := []
  start : Path := []

namespace Tree

def nameLimit : Nat := 255

/-- In bytes, for a whole path. -/
def pathLimit : Nat := 4095

def isDirectory (tree : Tree) (path : Path) : Bool :=
  path.isPrefixOf tree.start || tree.directories.any path.isPrefixOf ||
    tree.files.any fun file => path ≠ file.1 && path.isPrefixOf file.1

/-- Follows a path from a directory, part by part. The root is its own parent. -/
def walk (tree : Tree) : Path → Path → Except FileFault Path
  | here, [] => .ok here
  | here, part :: rest =>
      if (tree.files.lookup here).isSome then .error .notDirectory
      else if !tree.isDirectory here then .error .missing
      else if nameLimit < (Text.utf8 part).length then .error .nameTooLong
      else if part = "" || part = "." then tree.walk here rest
      else if part = ".." then tree.walk here.dropLast rest
      else tree.walk (here ++ [part]) rest

def textAt (tree : Tree) (path : Path) : Except FileFault String :=
  match tree.files.lookup path with
  | some text => .ok text
  | none => .error (if tree.isDirectory path then .isDirectory else .missing)

def read (tree : Tree) (path : String) : Except FileFault String :=
  if path.isEmpty then .error .missing
  else if pathLimit < (Text.utf8 path).length then .error .nameTooLong
  else
    let start := if path.toList.head? = some '/' then [] else tree.start
    tree.walk start (Path.ofText path) >>= tree.textAt

def dotEnv (tree : Tree) : Option String :=
  (List.range (tree.start.length + 1)).reverse.findSome? fun depth =>
    tree.files.lookup (tree.start.take depth ++ [".env"])

def toFiles (tree : Tree) : Files Id := { read := tree.read, dotEnv := tree.dotEnv }

end Tree

end Storefront.Command
