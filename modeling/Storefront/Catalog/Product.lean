import Storefront.Calendar
import Storefront.Money
import Storefront.Text.Slug
/-!
Products and what belongs to them: variants, stock, images, and the attributes by which products
of a type are told apart. Each is a row as the catalog stores it.
-/

namespace Storefront

instance : ToDatum Date := ⟨fun date => .text date.write⟩

instance : OfDatum Date where
  ofDatum?
    | _, .text written => (Date.read written).toOption
    | _, _ => none

structure Assignment where
  attributeId : Int64
  valueId : Int64
  deriving DecidableEq, Repr

namespace Assignment

instance : ToDatum Assignment where
  toDatum assignment :=
    .table (Record.entry "attribute" assignment.attributeId ++ Record.entry "value" assignment.valueId)

def entryNames : List String := ["attribute", "value"]

instance : OfDatum Assignment where
  ofDatum? := Record.ofDatum? entryNames fun given => do
    pure { attributeId := ← Record.required "attribute" given
           valueId := ← Record.required "value" given }

end Assignment

structure Product where
  id : Int64
  name : String
  description : String := ""
  categoryId : Int64
  productTypeId : Int64
  /-- The price of every variant that has none of its own. -/
  price : Price
  isPublished : Bool := true
  /-- The first day on which the product may be shown; absent if any day will do. -/
  availableOn : Option Date := none
  attributes : List Assignment := []
  deriving DecidableEq

namespace Product

def withdrawn (product : Product) : Product := { product with isPublished := false }

def availableFrom (product : Product) (date : Date) : Product :=
  { product with availableOn := some date }

def assigning (product : Product) (attributeId valueId : Int64) : Product :=
  { product with attributes := product.attributes ++ [⟨attributeId, valueId⟩] }

def isAvailableOn (product : Product) (today : Date) : Bool :=
  product.isPublished && match product.availableOn with
    | none => true
    | some date => decide (date ≤ today)

def valueOf? (product : Product) (attributeId : Int64) : Option Int64 :=
  (product.attributes.find? fun assignment => assignment.attributeId = attributeId).map
    Assignment.valueId

def slug (product : Product) : String := Text.Slug.slug product.name

def url (product : Product) : String :=
  "/products/" ++ product.slug ++ "-" ++ toString product.id.toInt ++ "/"

instance : ToDatum Product where
  toDatum product :=
    .table (Record.entry "id" product.id ++ Record.entry "name" product.name ++
      Record.entry "description" product.description ++
      Record.entry "category_id" product.categoryId ++
      Record.entry "product_type_id" product.productTypeId ++
      Record.entry "price" product.price ++ Record.entry "is_published" product.isPublished ++
      Record.entryIfSome "available_on" product.availableOn ++
      Record.entryIfAny "attributes" product.attributes)

def entryNames : List String :=
  ["id", "name", "description", "category_id", "product_type_id", "price", "is_published",
    "available_on", "attributes"]

instance : OfDatum Product where
  ofDatum? := Record.ofDatum? entryNames fun given => do
    pure { id := ← Record.required "id" given
           name := ← Record.required "name" given
           description := ← Record.orElse "description" "" given
           categoryId := ← Record.required "category_id" given
           productTypeId := ← Record.required "product_type_id" given
           price := ← Record.required "price" given
           isPublished := ← Record.orElse "is_published" true given
           availableOn := ← Record.optional "available_on" given
           attributes := ← Record.orElse "attributes" [] given }

end Product

structure Variant where
  id : Int64
  productId : Int64
  sku : String
  name : String := ""
  priceOverride : Option Price := none
  attributes : List Assignment := []
  deriving DecidableEq, Repr

namespace Variant

def price (variant : Variant) (base : Price) : Price := variant.priceOverride.getD base

instance : ToDatum Variant where
  toDatum variant :=
    .table (Record.entry "id" variant.id ++ Record.entry "product_id" variant.productId ++
      Record.entry "sku" variant.sku ++ Record.entry "name" variant.name ++
      Record.entryIfSome "price_override" variant.priceOverride ++
      Record.entryIfAny "attributes" variant.attributes)

def entryNames : List String :=
  ["id", "product_id", "sku", "name", "price_override", "attributes"]

instance : OfDatum Variant where
  ofDatum? := Record.ofDatum? entryNames fun given => do
    pure { id := ← Record.required "id" given
           productId := ← Record.required "product_id" given
           sku := ← Record.required "sku" given
           name := ← Record.orElse "name" "" given
           priceOverride := ← Record.optional "price_override" given
           attributes := ← Record.orElse "attributes" [] given }

end Variant

structure Stock where
  id : Int64
  variantId : Int64
  quantity : Int32
  quantityAllocated : Int32 := 0
  deriving DecidableEq, Repr

namespace Stock

/-- Units that no order has claimed yet. The difference wraps at the ends of 32 bits, where arithmetic
that checks for them would stop. -/
def available (stock : Stock) : Int32 := max (stock.quantity - stock.quantityAllocated) 0

/-- The most that one place can deliver, since an order is filled from a single place. -/
def best (stocks : List Stock) : Int32 := (stocks.map available).foldl max 0

instance : ToDatum Stock where
  toDatum stock :=
    .table (Record.entry "id" stock.id ++ Record.entry "variant_id" stock.variantId ++
      Record.entry "quantity" stock.quantity ++
      Record.entry "quantity_allocated" stock.quantityAllocated)

def entryNames : List String := ["id", "variant_id", "quantity", "quantity_allocated"]

instance : OfDatum Stock where
  ofDatum? := Record.ofDatum? entryNames fun given => do
    pure { id := ← Record.required "id" given
           variantId := ← Record.required "variant_id" given
           quantity := ← Record.required "quantity" given
           quantityAllocated := ← Record.orElse "quantity_allocated" 0 given }

end Stock

structure Image where
  id : Int64
  productId : Int64
  image : String
  alt : String := ""
  sortOrder : Int32 := 0
  deriving DecidableEq, Repr

namespace Image

instance : ToDatum Image where
  toDatum image :=
    .table (Record.entry "id" image.id ++ Record.entry "product_id" image.productId ++
      Record.entry "image" image.image ++ Record.entry "alt" image.alt ++
      Record.entry "sort_order" image.sortOrder)

def entryNames : List String := ["id", "product_id", "image", "alt", "sort_order"]

instance : OfDatum Image where
  ofDatum? := Record.ofDatum? entryNames fun given => do
    pure { id := ← Record.required "id" given
           productId := ← Record.required "product_id" given
           image := ← Record.required "image" given
           alt := ← Record.orElse "alt" "" given
           sortOrder := ← Record.orElse "sort_order" 0 given }

end Image

/-- The attributes that products of one type have, and those that each variant has. -/
structure ProductType where
  id : Int64
  name : String
  productAttributes : List Int64 := []
  variantAttributes : List Int64 := []
  deriving DecidableEq, Repr

namespace ProductType

def uses (kind : ProductType) (attributeId : Int64) : Bool :=
  kind.productAttributes.contains attributeId || kind.variantAttributes.contains attributeId

instance : ToDatum ProductType where
  toDatum kind :=
    .table (Record.entry "id" kind.id ++ Record.entry "name" kind.name ++
      Record.entry "product_attributes" kind.productAttributes ++
      Record.entry "variant_attributes" kind.variantAttributes)

def entryNames : List String := ["id", "name", "product_attributes", "variant_attributes"]

instance : OfDatum ProductType where
  ofDatum? := Record.ofDatum? entryNames fun given => do
    pure { id := ← Record.required "id" given
           name := ← Record.required "name" given
           productAttributes := ← Record.orElse "product_attributes" [] given
           variantAttributes := ← Record.orElse "variant_attributes" [] given }

end ProductType

structure Attribute where
  id : Int64
  name : String
  slug : String
  deriving DecidableEq, Repr

namespace Attribute

instance : ToDatum Attribute where
  toDatum attr :=
    .table (Record.entry "id" attr.id ++ Record.entry "name" attr.name ++
      Record.entry "slug" attr.slug)

def entryNames : List String := ["id", "name", "slug"]

instance : OfDatum Attribute where
  ofDatum? := Record.ofDatum? entryNames fun given => do
    pure { id := ← Record.required "id" given
           name := ← Record.required "name" given
           slug := ← Record.required "slug" given }

end Attribute

structure Choice where
  id : Int64
  attributeId : Int64
  name : String
  slug : String
  sortOrder : Int32 := 0
  deriving DecidableEq, Repr

namespace Choice

instance : ToDatum Choice where
  toDatum choice :=
    .table (Record.entry "id" choice.id ++ Record.entry "attribute_id" choice.attributeId ++
      Record.entry "name" choice.name ++ Record.entry "slug" choice.slug ++
      Record.entry "sort_order" choice.sortOrder)

def entryNames : List String := ["id", "attribute_id", "name", "slug", "sort_order"]

instance : OfDatum Choice where
  ofDatum? := Record.ofDatum? entryNames fun given => do
    pure { id := ← Record.required "id" given
           attributeId := ← Record.required "attribute_id" given
           name := ← Record.required "name" given
           slug := ← Record.required "slug" given
           sortOrder := ← Record.orElse "sort_order" 0 given }

end Choice

end Storefront
