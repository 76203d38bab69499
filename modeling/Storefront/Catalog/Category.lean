import Storefront.Datum.Basic
import Storefront.Fault
/-!
Categories, one row each, and the part of the category tree below one of them.
-/

namespace Storefront

structure Category where
  id : Int64
  name : String
  slug : String
  description : String := ""
  parentId : Option Int64 := none
  deriving DecidableEq, Repr

namespace Category

def isRoot (category : Category) : Bool := category.parentId.isNone

/-- The slugs from the root down to the category, its ancestors given root first. -/
def path (category : Category) (ancestors : List Category) : String :=
  "/".intercalate ((ancestors ++ [category]).map Category.slug)

def url (category : Category) (ancestors : List Category) : String :=
  "/products/category/" ++ category.path ancestors ++ "-" ++ toString category.id.toInt ++ "/"

instance : ToDatum Category where
  toDatum category :=
    .table (Record.entry "id" category.id ++ Record.entry "name" category.name ++
      Record.entry "slug" category.slug ++ Record.entry "description" category.description ++
      Record.entryIfSome "parent_id" category.parentId)

def entryNames : List String := ["id", "name", "slug", "description", "parent_id"]

instance : OfDatum Category where
  ofDatum? := Record.ofDatum? entryNames fun given => do
    pure { id := ← Record.required "id" given
           name := ← Record.required "name" given
           slug := ← Record.required "slug" given
           description := ← Record.orElse "description" "" given
           parentId := ← Record.optional "parent_id" given }

end Category

/-- A category with every category below it, in depth-first order. -/
structure Subtree where
  root : Category
  nodes : List Category

namespace Subtree

def childrenOf (tree : Subtree) (id : Int64) : List Category :=
  tree.nodes.filter fun node => node.parentId = some id

def toList (tree : Subtree) : List Category := tree.root :: tree.nodes

def size (tree : Subtree) : Nat := tree.nodes.length + 1

end Subtree

end Storefront
