import Storefront.Catalog.Category
/-!
Categories as a forest. The rows say of each category which one is its parent; they describe a
forest if every parent is there and nobody is above themselves. The check walks up from every
category and gives up after as many steps as there are categories: a walk that long has come to
some category twice. Walks over the rows, up and down, are not bounded in this way.
-/

namespace Storefront.Forest

inductive Flaw where
  | unknownParent (category parent : Int64)
  | cycle (category : Int64)
  deriving DecidableEq, Repr

def Flaw.message : Flaw → String
  | .unknownParent category parent =>
      "category " ++ toString category.toInt ++ " has unknown parent " ++ toString parent.toInt
  | .cycle category => "category " ++ toString category.toInt ++ " is part of a cycle"

variable (rows : List Category)

/-- What the rows say about the parent of `id`, the last of them deciding; none if there is no
such category. -/
def parentLink? (id : Int64) : Option (Option Int64) :=
  (rows.findRev? fun row => row.id = id).map Category.parentId

def idCount : Nat := (rows.map Category.id).eraseDups.length

def climb (category : Int64) : Nat → Option Int64 → Except Flaw Unit
  | _, none => .ok ()
  | 0, some parent =>
      match parentLink? rows parent with
      | none => .error (.unknownParent category parent)
      | some _ => .error (.cycle category)
  | steps + 1, some parent =>
      match parentLink? rows parent with
      | none => .error (.unknownParent category parent)
      | some next => climb category steps next

/-- The first row from which the walk goes wrong decides. -/
def check : Except Flaw Unit :=
  let steps := idCount rows
  rows.forM fun row => climb rows row.id steps row.parentId

def find? (id : Int64) : Option Category := rows.find? fun row => row.id = id

def children (id : Int64) : List Category := rows.filter fun row => row.parentId = some id

/-- The categories above `cursor` and `cursor` itself, the nearest last, in front of those passed
so far. A parent that is not there is answered by its id. -/
def upward (passed : List Category) (cursor : Option Int64) : Walk (Except Int64 (List Category)) :=
  match cursor with
  | none => some (.ok passed)
  | some id =>
      match find? rows id with
      | none => some (.error id)
      -- Called by apply, since a call that is written out keeps its place in the file.
      | some row => by
          apply upward
          · exact row :: passed
          · exact row.parentId
partial_fixpoint

def descendants (id : Int64) : Walk (List Category) := do
  let branches ← (children rows id).mapM fun child => do
    let below ← by
      apply descendants
      exact child.id
    pure (child :: below)
  pure branches.flatten
partial_fixpoint

end Storefront.Forest
