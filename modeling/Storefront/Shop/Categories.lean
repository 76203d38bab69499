import Storefront.Selection
import Storefront.Shop.Basic
/-!
Categories and what is told about them. Looking a category up fetches its whole subtree, and the
ancestor chains of everything in it are remembered for the rest of the request; a chain that is
not remembered is fetched.
-/

namespace Storefront.Shop

def chainAbove (shop : Shop) (category : Category) : Access (List Category) :=
  if category.isRoot then pure [] else shop.ask (.ancestors category.id)

/-- Remembers the chains of the category's subtree. A miss changes nothing. -/
def category (shop : Shop) (id : Int64) : Access (Option Category) := do
  match ← shop.ask (.categoryTree id) with
  | none => pure none
  | some tree =>
      Access.remember tree (← shop.chainAbove tree.root)
      pure (some tree.root)

def ancestors (shop : Shop) (category : Category) : Access (List Category) := do
  let context ← Access.context
  match context.lineage.bind fun lineage => lineage.chain? category.id with
  | some chain => pure chain
  | none => shop.ask (.ancestors category.id)

def categoryUrl (shop : Shop) (category : Category) : Access String := do
  pure (category.url (← shop.ancestors category))

def children (shop : Shop) (category : Category) : Access (List Category) :=
  shop.ask (.children category.id)

def siblings (shop : Shop) (category : Category) : Access (List Category) :=
  shop.ask (.siblings category.id)

/-- Products directly in the category, whoever may see them. -/
def productCount (shop : Shop) (category : Category) : Access Nat :=
  shop.ask (.productCount category.id)

def descendantCount (shop : Shop) (category : Category) : Access Nat := do
  let below ← shop.ask (.descendants category.id false)
  pure below.length

def categories (shop : Shop) (filter : CategoryFilter) (page : PageArgs) :
    Access (Connection Category) := do
  let rows ← shop.ask .categories
  Access.ofExcept (Connection.ofList (rows.filter filter.selects) page)

end Storefront.Shop
