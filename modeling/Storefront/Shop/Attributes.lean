import Storefront.Shop.Basic
/-!
Attributes: all of them, or those that products in a part of the category tree can have.
-/

namespace Storefront.Shop

/-- Without those whose id came before. -/
def distinctAttributes : List Attribute → List Attribute
  | [] => []
  | attr :: rest => attr :: (distinctAttributes rest).filter fun other => other.id != attr.id

def attributes (shop : Shop) (categoryId : Option Int64) : Access (List Attribute) := do
  match categoryId with
  | none => pure (distinctAttributes (← shop.ask .attributes))
  | some categoryId =>
      let tree ← shop.ask (.descendants categoryId true)
      if tree.isEmpty then pure []
      else
        let kinds ← shop.ask (.productTypeIdsIn (tree.map Category.id))
        if kinds.isEmpty then pure []
        else pure (distinctAttributes (← shop.ask (.attributesForProductTypes kinds)))

def attributeValues (shop : Shop) (attr : Attribute) : Access (List Choice) :=
  shop.ask (.attributeValues [attr.id])

end Storefront.Shop
