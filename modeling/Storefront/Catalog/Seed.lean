import Storefront.Catalog.Category
import Storefront.Catalog.Product
/-!
The tables of a catalog as a seed file lists them, and the order in which a catalog keeps them.
Most tables are kept by id. Images follow their product and then their own order, choices their
attribute and then their own order. Rows that the order does not tell apart stay as they came.
-/

namespace Storefront

structure Seed where
  categories : List Category := []
  productTypes : List ProductType := []
  attributes : List Attribute := []
  choices : List Choice := []
  products : List Product := []
  variants : List Variant := []
  stocks : List Stock := []
  images : List Image := []
  deriving DecidableEq

namespace Seed

def byId {Row : Type} (id : Row → Int64) (rows : List Row) : List Row :=
  rows.mergeSort fun left right => id left ≤ id right

/-- By `group`, within it by `rank`, within that by `id`. -/
def byGroup {Row : Type} (group : Row → Int64) (rank : Row → Int32) (id : Row → Int64)
    (rows : List Row) : List Row :=
  rows.mergeSort fun left right =>
    decide (group left < group right) || (group left == group right &&
      (decide (rank left < rank right) || (rank left == rank right && decide (id left ≤ id right))))

def arranged (seed : Seed) : Seed where
  categories := byId Category.id seed.categories
  productTypes := seed.productTypes
  attributes := byId Attribute.id seed.attributes
  choices := byGroup Choice.attributeId Choice.sortOrder Choice.id seed.choices
  products := byId Product.id seed.products
  variants := byId Variant.id seed.variants
  stocks := byId Stock.id seed.stocks
  images := byGroup Image.productId Image.sortOrder Image.id seed.images

instance : ToDatum Seed where
  toDatum seed :=
    .table (Record.entry "categories" seed.categories ++
      Record.entry "product_types" seed.productTypes ++
      Record.entry "attributes" seed.attributes ++
      Record.entry "attribute_values" seed.choices ++
      Record.entry "products" seed.products ++ Record.entry "variants" seed.variants ++
      Record.entry "stocks" seed.stocks ++ Record.entry "images" seed.images)

def entryNames : List String :=
  ["categories", "product_types", "attributes", "attribute_values", "products", "variants",
    "stocks", "images"]

instance : OfDatum Seed where
  ofDatum? := Record.ofDatum? entryNames fun given => do
    pure { categories := ← Record.orElse "categories" [] given
           productTypes := ← Record.orElse "product_types" [] given
           attributes := ← Record.orElse "attributes" [] given
           choices := ← Record.orElse "attribute_values" [] given
           products := ← Record.orElse "products" [] given
           variants := ← Record.orElse "variants" [] given
           stocks := ← Record.orElse "stocks" [] given
           images := ← Record.orElse "images" [] given }

end Seed

end Storefront
