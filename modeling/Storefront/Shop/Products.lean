import Storefront.Selection
import Storefront.Shop.Basic
/-!
Products, one at a time or a page of a category. What belongs to the products of a page is fetched
for all of them together, in three questions at most; a product fetched alone leaves it to be
asked for.
-/

namespace Storefront.Shop

def scope (shop : Shop) : Access Scope := do
  let context ← Access.context
  pure (shop.scopeOf context.requester context.today)

def product (shop : Shop) (id : Int64) : Access (Option LoadedProduct) := do
  let scope ← shop.scope
  let found ← shop.ask (.products { scope, ids := some [id] })
  pure (found.head?.map LoadedProduct.bare)

/-! Attribute pairs. A pair counts if its attribute and its value are there. A product passes if
it has, for every attribute that a counting pair names, the value of one such pair. -/
section AttributePairs

/-- An attribute and one of its values, both by id. -/
abbrev Wanted := List (Int64 × Int64)

/-- Of two attributes with one slug the later is meant. -/
def attributeIdOf? (attributes : List Attribute) (pair : AttributePair) : Option Int64 :=
  (attributes.findRev? fun attr => attr.slug = pair.attributeSlug).map Attribute.id

def wantedOf? (attributes : List Attribute) (choices : List Choice) (pair : AttributePair) :
    Option (Int64 × Int64) := do
  let attributeId ← attributeIdOf? attributes pair
  let choice ← choices.find? fun choice =>
    choice.attributeId = attributeId && choice.slug = pair.valueSlug
  pure (attributeId, choice.id)

def hasWanted (wanted : Wanted) (product : Product) : Bool :=
  wanted.all fun (attributeId, _) =>
    wanted.any fun (other, valueId) => other = attributeId && product.valueOf? attributeId = some valueId

def wanted (shop : Shop) (pairs : List AttributePair) : Access Wanted := do
  let attributes ← shop.ask .attributes
  let attributeIds := pairs.filterMap (attributeIdOf? attributes)
  if attributeIds.isEmpty then pure []
  else
    let choices ← shop.ask (.attributeValues attributeIds)
    pure (pairs.filterMap (wantedOf? attributes choices))

def choose (shop : Shop) (filter : ProductFilter) (products : List Product) :
    Access (List Product) :=
  if filter.attributes.isEmpty then pure products
  else do
    let wanted ← shop.wanted filter.attributes
    pure (products.filter (hasWanted wanted))

end AttributePairs

def stocks (shop : Shop) (variants : List Variant) : Access (List Stock) :=
  if variants.isEmpty then pure [] else shop.ask (.stocksFor (variants.map Variant.id))

/-- Hands every product the images and variants that are its own. What was handed out is gone, so
a product that comes twice gets them the first time. -/
def distribute (category : Category) (stocks : List Stock) :
    List Product → List Image → List Variant → List LoadedProduct
  | [], _, _ => []
  | product :: rest, images, variants =>
      let ownImages := images.filter fun image => image.productId = product.id
      let ownVariants := variants.filter fun variant => variant.productId = product.id
      .withRelations product (some category) ownImages (StockedVariant.group ownVariants stocks) ::
        distribute category stocks rest (images.filter fun image => image.productId ≠ product.id)
          (variants.filter fun variant => variant.productId ≠ product.id)

def load (shop : Shop) (products : List Product) (category : Category) :
    Access (List LoadedProduct) := do
  if products.isEmpty then pure []
  else
    let ids := products.map Product.id
    let images ← shop.ask (.imagesFor ids)
    let variants ← shop.ask (.variantsFor ids)
    let stocks ← shop.stocks variants
    pure (distribute category stocks products images variants)

def products (shop : Shop) (category : Category) (filter : ProductFilter) (page : PageArgs) :
    Access (Connection LoadedProduct) := do
  let scope ← shop.scope
  let rows ← shop.ask (.products { scope, categoryIds := some [category.id] })
  let chosen ← shop.choose filter (rows.filter filter.matchesPrice)
  let shown ← Access.ofExcept (Connection.ofList (filter.order chosen) page)
  let loaded ← shop.load shown.nodes category
  pure (shown.zipNodes loaded)

section Relations

def images (shop : Shop) (loaded : LoadedProduct) : Access (List Image) :=
  match loaded.images? with
  | some images => pure images
  | none => shop.ask (.imagesFor [loaded.product.id])

def variants (shop : Shop) (loaded : LoadedProduct) : Access (List StockedVariant) :=
  match loaded.variants? with
  | some variants => pure variants
  | none => do
      let variants ← shop.ask (.variantsFor [loaded.product.id])
      let stocks ← shop.stocks variants
      pure (StockedVariant.group variants stocks)

def productCategory (shop : Shop) (loaded : LoadedProduct) : Access (Option Category) :=
  match loaded.category? with
  | some category => pure (some category)
  | none => shop.ask (.category loaded.product.categoryId)

def thumbnail (shop : Shop) (images : List Image) (size : ThumbnailSize) : String :=
  match images with
  | image :: _ => shop.cropper.crop image.image size
  | [] => shop.cropper.placeholder size

def thumbnailUrl (shop : Shop) (loaded : LoadedProduct) (size : Option String) :
    Access String := do
  let size ← Access.ofExcept (ThumbnailSize.orStandard size)
  pure (shop.thumbnail (← shop.images loaded) size)

def offer (shop : Shop) (loaded : LoadedProduct) : Access Offer := do
  let variants ← shop.variants loaded
  let context ← Access.context
  pure (Offer.make shop.rates loaded.product variants context.discounts context.currency
    context.today)

def imageUrl (shop : Shop) (image : Image) (size : Option String) : Except Fault String :=
  match ThumbnailSize.requested? size with
  | some text => (ThumbnailSize.read text).map (shop.cropper.crop image.image)
  | none => .ok (shop.cropper.stored image.image)

end Relations

end Storefront.Shop
