import Storefront.Payment
import Storefront.Shop.Attributes
import Storefront.Shop.Entities
/-!
Replies: entities with everything that is told about them worked out, as a client reads them. The
ids in a reply are global ids, under which its parts can be asked for again.
-/

namespace Storefront

structure CategoryReply where
  id : String
  name : String
  slug : String
  url : String
  ancestors : List String
  children : List String
  siblings : List String
  productsCount : Nat
  descendantsCount : Nat
  deriving DecidableEq, Repr

structure ImageReply where
  id : String
  url : String
  alt : String
  deriving DecidableEq, Repr

structure VariantReply where
  id : String
  sku : String
  stockQuantity : Int32
  priceOverride : Option String
  deriving DecidableEq, Repr

structure ProductReply where
  id : String
  name : String
  url : String
  thumbnailUrl : String
  category : Option String
  images : List ImageReply
  variants : List VariantReply
  offer : Offer
  deriving DecidableEq, Repr

structure AttributeReply where
  id : String
  name : String
  slug : String
  /-- The slugs of its values. -/
  values : List String
  deriving DecidableEq, Repr

structure VocabularyReply where
  name : String
  choices : List (String × String)
  deriving DecidableEq, Repr

section Written

instance : ToDatum CategoryReply where
  toDatum reply :=
    .table (Record.entry "id" reply.id ++ Record.entry "name" reply.name ++
      Record.entry "slug" reply.slug ++ Record.entry "url" reply.url ++
      Record.entry "ancestors" reply.ancestors ++ Record.entry "children" reply.children ++
      Record.entry "siblings" reply.siblings ++
      Record.entry "products_count" reply.productsCount ++
      Record.entry "descendants_count" reply.descendantsCount)

instance : ToDatum ImageReply where
  toDatum reply :=
    .table (Record.entry "id" reply.id ++ Record.entry "url" reply.url ++
      Record.entry "alt" reply.alt)

instance : ToDatum VariantReply where
  toDatum reply :=
    .table (Record.entry "id" reply.id ++ Record.entry "sku" reply.sku ++
      Record.entry "stock_quantity" reply.stockQuantity ++
      Record.entryIfSome "price_override" reply.priceOverride)

instance : ToDatum ProductReply where
  toDatum reply :=
    .table (Record.entry "id" reply.id ++ Record.entry "name" reply.name ++
      Record.entry "url" reply.url ++ Record.entry "thumbnail_url" reply.thumbnailUrl ++
      Record.entry "category" reply.category ++ Record.entry "images" reply.images ++
      Record.entry "variants" reply.variants ++ Record.entry "availability" reply.offer)

instance : ToDatum AttributeReply where
  toDatum reply :=
    .table (Record.entry "id" reply.id ++ Record.entry "name" reply.name ++
      Record.entry "slug" reply.slug ++ Record.entry "values" reply.values)

instance : ToDatum VocabularyReply where
  toDatum reply :=
    .table (Record.entry "name" reply.name ++
      Record.entry "choices" (reply.choices.map fun (wire, label) => [wire, label]))

end Written

def VocabularyReply.all : List VocabularyReply :=
  open Payment in
  [⟨"TransactionKind", Vocabulary.choices TransactionKind⟩,
    ⟨"ChargeStatus", Vocabulary.choices ChargeStatus⟩,
    ⟨"TransactionError", Vocabulary.choices TransactionError⟩,
    ⟨"OperationType", Vocabulary.choices OperationType⟩,
    ⟨"CustomPaymentChoices", Vocabulary.choices CustomPayment⟩]

namespace Shop

def categoryDetails (shop : Shop) (category : Category) : Access CategoryReply := do
  let ancestors ← shop.ancestors category
  let children ← shop.children category
  let siblings ← shop.siblings category
  let productsCount ← shop.productCount category
  let descendantsCount ← shop.descendantCount category
  pure { id := (GlobalId.mk .category category.id).encode
         name := category.name
         slug := category.slug
         url := category.url ancestors
         ancestors := ancestors.map Category.name
         children := children.map Category.name
         siblings := siblings.map Category.name
         productsCount
         descendantsCount }

def imageDetails (shop : Shop) (image : Image) : Except Fault ImageReply := do
  let url ← shop.imageUrl image none
  pure { id := (GlobalId.mk .image image.id).encode, url, alt := image.alt }

def variantDetails (stocked : StockedVariant) : VariantReply where
  id := (GlobalId.mk .variant stocked.variant.id).encode
  sku := stocked.variant.sku
  stockQuantity := stocked.stockQuantity
  priceOverride := stocked.variant.priceOverride.map Price.display

def productDetails (shop : Shop) (loaded : LoadedProduct) (thumbnailSize : Option String) :
    Access ProductReply := do
  let images ← Access.ofExcept ((← shop.images loaded).mapM shop.imageDetails)
  let variants ← shop.variants loaded
  let thumbnailUrl ← shop.thumbnailUrl loaded thumbnailSize
  let category ← shop.productCategory loaded
  let offer ← shop.offer loaded
  pure { id := (GlobalId.mk .product loaded.product.id).encode
         name := loaded.product.name
         url := loaded.product.url
         thumbnailUrl
         category := category.map Category.name
         images
         variants := variants.map variantDetails
         offer }

def attributeDetails (shop : Shop) (attr : Attribute) : Access AttributeReply := do
  let values ← shop.attributeValues attr
  pure { id := (GlobalId.mk .attr attr.id).encode
         name := attr.name
         slug := attr.slug
         values := values.map Choice.slug }

section Replies

def categoryReply (shop : Shop) (id : Int64) : Access (Option CategoryReply) := do
  match ← shop.category id with
  | none => pure none
  | some category => some <$> shop.categoryDetails category

def categoriesReply (shop : Shop) (filter : CategoryFilter) (page : PageArgs) :
    Access (Connection String) := do
  let shown ← shop.categories filter page
  pure (shown.zipNodes (shown.nodes.map Category.name))

def productsReply (shop : Shop) (categoryId : Int64) (filter : ProductFilter) (page : PageArgs)
    (thumbnailSize : Option String) : Access (Option (Connection ProductReply)) := do
  match ← shop.category categoryId with
  | none => pure none
  | some category =>
      let shown ← shop.products category filter page
      let replies ← shown.nodes.mapM fun loaded => shop.productDetails loaded thumbnailSize
      pure (some (shown.zipNodes replies))

def productReply (shop : Shop) (id : Int64) (thumbnailSize : Option String) :
    Access (Option ProductReply) := do
  match ← shop.product id with
  | none => pure none
  | some loaded => some <$> shop.productDetails loaded thumbnailSize

def attributesReply (shop : Shop) (categoryId : Option Int64) : Access (List AttributeReply) := do
  let attributes ← shop.attributes categoryId
  attributes.mapM shop.attributeDetails

def entityReply (shop : Shop) (text : String) : Access (Option Datum) := do
  match ← shop.entityByText text with
  | none => pure none
  | some (.product loaded) => (some ∘ toDatum) <$> shop.productDetails loaded none
  | some (.category category) => (some ∘ toDatum) <$> shop.categoryDetails category
  | some (.variant stocked) => pure (some (toDatum (variantDetails stocked)))
  | some (.image image) => (some ∘ toDatum) <$> Access.ofExcept (shop.imageDetails image)
  | some (.attr attr) => (some ∘ toDatum) <$> shop.attributeDetails attr
  | some (.attributeValue choice) =>
      pure (some (.table (Record.entry "id" (GlobalId.mk .attributeValue choice.id).encode ++
        Record.entry "name" choice.name ++ Record.entry "slug" choice.slug)))

end Replies

end Shop

end Storefront
