import Storefront.GlobalId
import Storefront.Shop.Categories
import Storefront.Shop.Products
/-!
Any entity by its global id. Variants and images are shown only to those who may see the product
they belong to.
-/

namespace Storefront

inductive Entity where
  | product (loaded : LoadedProduct)
  | category (category : Category)
  | variant (stocked : StockedVariant)
  | image (image : Image)
  | attr (attr : Attribute)
  | attributeValue (choice : Choice)
  deriving DecidableEq

def Entity.globalId : Entity → GlobalId
  | product loaded => ⟨.product, loaded.product.id⟩
  | category row => ⟨.category, row.id⟩
  | variant stocked => ⟨.variant, stocked.variant.id⟩
  | image row => ⟨.image, row.id⟩
  | attr row => ⟨.attr, row.id⟩
  | attributeValue choice => ⟨.attributeValue, choice.id⟩

namespace Shop

/-- A row that was found, as an entity, if the requester may see the product that owns it. -/
def owned {Row : Type} (shop : Shop) (owner : Row → Int64) (found : Option Row)
    (entity : Row → Access Entity) : Access (Option Entity) :=
  match found with
  | none => pure none
  | some row => do
      if (← shop.product (owner row)).isNone then pure none
      else pure (some (← entity row))

def entity (shop : Shop) (id : GlobalId) : Access (Option Entity) := do
  match id.kind with
  | .product => pure ((← shop.product id.key).map Entity.product)
  | .category => pure ((← shop.category id.key).map Entity.category)
  | .variant =>
      let found ← shop.ask (.variant id.key)
      shop.owned Variant.productId found fun variant => do
        let stocks ← shop.ask (.stocksFor [variant.id])
        pure (.variant ⟨variant, stocks⟩)
  | .image =>
      let found ← shop.ask (.image id.key)
      shop.owned Image.productId found fun image => pure (.image image)
  | .attr => pure ((← shop.ask (.attr id.key)).map Entity.attr)
  | .attributeValue => pure ((← shop.ask (.attributeValue id.key)).map Entity.attributeValue)

def entityByText (shop : Shop) (text : String) : Access (Option Entity) := do
  let id ← Access.ofExcept (GlobalId.decode text)
  shop.entity id

end Shop

end Storefront
