import Storefront.Catalog.Basic
import Storefront.Visibility
/-!
The questions that can be put to a catalog, and their answers. Each is one call to the store
that holds the catalog, whatever the size of the answer.
-/

namespace Storefront

/-- Which products to fetch; an absent list of ids excludes nothing. -/
structure ProductQuery where
  scope : Scope
  ids : Option (List Int64) := none
  categoryIds : Option (List Int64) := none
  deriving DecidableEq

def ProductQuery.selects (query : ProductQuery) (product : Product) : Bool :=
  query.scope.admits product &&
    (query.ids.all fun ids => ids.contains product.id) &&
    (query.categoryIds.all fun ids => ids.contains product.categoryId)

inductive Query where
  | category (id : Int64)
  | categories
  | categoryTree (id : Int64)
  | ancestors (id : Int64)
  | children (id : Int64)
  | siblings (id : Int64)
  | descendants (id : Int64) (withSelf : Bool)
  | products (query : ProductQuery)
  | productCount (categoryId : Int64)
  | imagesFor (productIds : List Int64)
  | variantsFor (productIds : List Int64)
  | stocksFor (variantIds : List Int64)
  | variant (id : Int64)
  | image (id : Int64)
  | productTypeIdsIn (categoryIds : List Int64)
  | attributes
  | attributesForProductTypes (productTypeIds : List Int64)
  | attr (id : Int64)
  | attributeValues (attributeIds : List Int64)
  | attributeValue (id : Int64)
  deriving DecidableEq

namespace Query

abbrev Answer : Query → Type
  | category _ => Option Category
  | categories => List Category
  | categoryTree _ => Option Subtree
  | ancestors _ => List Category
  | children _ => List Category
  | siblings _ => List Category
  | descendants _ _ => List Category
  | products _ => List Product
  | productCount _ => Nat
  | imagesFor _ => List Image
  | variantsFor _ => List Variant
  | stocksFor _ => List Stock
  | variant _ => Option Variant
  | image _ => Option Image
  | productTypeIdsIn _ => List Int64
  | attributes => List Attribute
  | attributesForProductTypes _ => List Attribute
  | attr _ => Option Attribute
  | attributeValues _ => List Choice
  | attributeValue _ => Option Choice

def name : Query → String
  | category _ => "category"
  | categories => "categories"
  | categoryTree _ => "category_tree"
  | ancestors _ => "ancestors"
  | children _ => "children"
  | siblings _ => "siblings"
  | descendants _ _ => "descendants"
  | products _ => "products"
  | productCount _ => "product_count"
  | imagesFor _ => "images_for"
  | variantsFor _ => "variants_for"
  | stocksFor _ => "stocks_for"
  | variant _ => "variant"
  | image _ => "image"
  | productTypeIdsIn _ => "product_type_ids_in"
  | attributes => "attributes"
  | attributesForProductTypes _ => "attributes_for_product_types"
  | attr _ => "attribute"
  | attributeValues _ => "attribute_values"
  | attributeValue _ => "attribute_value"

def arguments : Query → List String
  | categories | products _ | attributes => []
  | category id | categoryTree id | ancestors id | children id | siblings id
  | productCount id | variant id | image id | attr id | attributeValue id => [toString id.toInt]
  | descendants id withSelf => [toString id.toInt, toString withSelf]
  | imagesFor ids | variantsFor ids | stocksFor ids | productTypeIdsIn ids
  | attributesForProductTypes ids | attributeValues ids => ids.map fun id => toString id.toInt

def describe (query : Query) : String :=
  query.name ++ "(" ++ ",".intercalate query.arguments ++ ")"

end Query

namespace Catalog

def answer (catalog : Catalog) : (query : Query) → ExceptT Fault Walk query.Answer
  | .category id => pure (catalog.category? id)
  | .categories => pure catalog.categories
  | .categoryTree id => ExceptT.lift (catalog.subtree? id)
  | .ancestors id => catalog.ancestors id
  | .children id => pure (catalog.children id)
  | .siblings id => pure (catalog.siblings id)
  | .descendants id withSelf => ExceptT.lift (catalog.descendants id withSelf)
  | .products query => pure (catalog.rows.products.filter query.selects)
  | .productCount id =>
      pure (catalog.rows.products.countP fun product => product.categoryId = id)
  | .imagesFor ids => pure (catalog.rows.images.filter fun image => ids.contains image.productId)
  | .variantsFor ids =>
      pure (catalog.rows.variants.filter fun variant => ids.contains variant.productId)
  | .stocksFor ids => pure (catalog.rows.stocks.filter fun stock => ids.contains stock.variantId)
  | .variant id => pure (catalog.rows.variants.find? fun variant => variant.id = id)
  | .image id => pure (catalog.rows.images.find? fun image => image.id = id)
  | .productTypeIdsIn ids => pure (catalog.productTypeIdsIn ids)
  | .attributes => pure catalog.rows.attributes
  | .attributesForProductTypes ids => pure (catalog.attributesOfTypes ids)
  | .attr id => pure (catalog.rows.attributes.find? fun attr => attr.id = id)
  | .attributeValues ids =>
      pure (catalog.rows.choices.filter fun choice => ids.contains choice.attributeId)
  | .attributeValue id => pure (catalog.rows.choices.find? fun choice => choice.id = id)

end Catalog

end Storefront
