import Storefront.Catalog.Category
import Storefront.Catalog.Product
/-!
Products and variants together with the rows that belong to them. A product can carry its
category, images and variants, or leave them to be fetched when they are asked for.
-/

namespace Storefront

structure StockedVariant where
  variant : Variant
  stocks : List Stock
  deriving DecidableEq, Repr

namespace StockedVariant

def stockQuantity (stocked : StockedVariant) : Int32 := Stock.best stocked.stocks

def group (variants : List Variant) (stocks : List Stock) : List StockedVariant :=
  variants.map fun variant =>
    ⟨variant, stocks.filter fun stock => stock.variantId = variant.id⟩

end StockedVariant

structure Relations where
  category : Option Category
  images : List Image
  variants : List StockedVariant
  deriving DecidableEq, Repr

structure LoadedProduct where
  product : Product
  relations : Option Relations := none
  deriving DecidableEq

namespace LoadedProduct

def bare (product : Product) : LoadedProduct := { product }

/-- A category that is not the product's own is not taken over. -/
def withRelations (product : Product) (category : Option Category) (images : List Image)
    (variants : List StockedVariant) : LoadedProduct where
  product
  relations := some
    { category := category.filter fun given => given.id = product.categoryId
      images
      variants }

def images? (loaded : LoadedProduct) : Option (List Image) := loaded.relations.map Relations.images

def variants? (loaded : LoadedProduct) : Option (List StockedVariant) :=
  loaded.relations.map Relations.variants

def category? (loaded : LoadedProduct) : Option Category :=
  loaded.relations.bind Relations.category

end LoadedProduct

end Storefront
