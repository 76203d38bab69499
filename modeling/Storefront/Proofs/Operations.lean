import Storefront.Shop.Attributes
import Storefront.Shop.Entities
/-!
Everything that a shop can be asked to do, and requests that do several things one after the
other. A request goes on after an operation that failed; what each operation came to is reported
in order.
-/

namespace Storefront

inductive Operation where
  | category (id : Int64)
  | ancestors (category : Category)
  | categoryUrl (category : Category)
  | children (category : Category)
  | siblings (category : Category)
  | productCount (category : Category)
  | descendantCount (category : Category)
  | categories (filter : CategoryFilter) (page : PageArgs)
  | product (id : Int64)
  | products (category : Category) (filter : ProductFilter) (page : PageArgs)
  | productUrl (loaded : LoadedProduct)
  | images (loaded : LoadedProduct)
  | variants (loaded : LoadedProduct)
  | productCategory (loaded : LoadedProduct)
  | thumbnailUrl (loaded : LoadedProduct) (size : Option String)
  | offer (loaded : LoadedProduct)
  | stockQuantity (stocked : StockedVariant)
  | priceOverride (stocked : StockedVariant)
  | imageUrl (image : Image) (size : Option String)
  | attributes (categoryId : Option Int64)
  | attributeValues (attr : Attribute)
  | entity (id : GlobalId)
  | entityByText (text : String)

abbrev Operation.Answer : Operation → Type
  | category _ => Option Category
  | ancestors _ => List Category
  | categoryUrl _ => String
  | children _ => List Category
  | siblings _ => List Category
  | productCount _ => Nat
  | descendantCount _ => Nat
  | categories _ _ => Connection Category
  | product _ => Option LoadedProduct
  | products _ _ _ => Connection LoadedProduct
  | productUrl _ => String
  | images _ => List Image
  | variants _ => List StockedVariant
  | productCategory _ => Option Category
  | thumbnailUrl _ _ => String
  | offer _ => Offer
  | stockQuantity _ => Int32
  | priceOverride _ => Option Price
  | imageUrl _ _ => String
  | attributes _ => List Attribute
  | attributeValues _ => List Choice
  | entity _ => Option Entity
  | entityByText _ => Option Entity

def Operation.looksUp : Operation → Bool
  | category _ | entity _ | entityByText _ => true
  | _ => false

structure Report where
  operation : Operation
  reached : Except Fault operation.Answer

namespace Shop

def perform (shop : Shop) : (operation : Operation) → Access operation.Answer
  | .category id => shop.category id
  | .ancestors category => shop.ancestors category
  | .categoryUrl category => shop.categoryUrl category
  | .children category => shop.children category
  | .siblings category => shop.siblings category
  | .productCount category => shop.productCount category
  | .descendantCount category => shop.descendantCount category
  | .categories filter page => shop.categories filter page
  | .product id => shop.product id
  | .products category filter page => shop.products category filter page
  | .productUrl loaded => pure loaded.product.url
  | .images loaded => shop.images loaded
  | .variants loaded => shop.variants loaded
  | .productCategory loaded => shop.productCategory loaded
  | .thumbnailUrl loaded size => shop.thumbnailUrl loaded size
  | .offer loaded => shop.offer loaded
  | .stockQuantity stocked => pure stocked.stockQuantity
  | .priceOverride stocked => pure stocked.variant.priceOverride
  | .imageUrl image size => Access.ofExcept (shop.imageUrl image size)
  | .attributes categoryId => shop.attributes categoryId
  | .attributeValues attr => shop.attributeValues attr
  | .entity id => shop.entity id
  | .entityByText text => shop.entityByText text

def run (shop : Shop) : List Operation → Session → Walk (List Report × Session)
  | [], session => some ([], session)
  | operation :: rest, session =>
      ((shop.perform operation).runFrom session).bind fun (reached, middle) =>
        (shop.run rest middle).map fun (reports, after) => (⟨operation, reached⟩ :: reports, after)

variable {shop : Shop} {session : Session}

theorem run_cons {operation : Operation} {rest : List Operation} {middle after : Session}
    {reached : Except Fault operation.Answer} {reports : List Report}
    (first : (shop.perform operation).runFrom session = some (reached, middle))
    (others : shop.run rest middle = some (reports, after)) :
    shop.run (operation :: rest) session = some (⟨operation, reached⟩ :: reports, after) := by
  simp only [run, first, others, Option.bind_some, Option.map_some]

end Shop

namespace Report

/-- A category was looked up, by its own id or by a global one, and was found. -/
inductive Finds : Report → Category → Prop where
  | category (id : Int64) (found : Category) : Finds ⟨.category id, .ok (some found)⟩ found
  | entity {id : GlobalId} (kind : id.kind = .category) (found : Category) :
      Finds ⟨.entity id, .ok (some (.category found))⟩ found
  | entityByText {text : String} {id : GlobalId} (read : GlobalId.decode text = .ok id)
      (kind : id.kind = .category) (found : Category) :
      Finds ⟨.entityByText text, .ok (some (.category found))⟩ found

theorem Finds.looksUp {report : Report} {found : Category} (finds : report.Finds found) :
    report.operation.looksUp = true := by
  cases finds <;> rfl

theorem Finds.unique {report : Report} {found other : Category} (finds : report.Finds found)
    (again : report.Finds other) : found = other := by
  cases finds <;> cases again <;> rfl

theorem finds_entityByText_iff {text : String} {id : GlobalId}
    (read : GlobalId.decode text = .ok id) {reached : Except Fault (Option Entity)}
    {found : Category} : Finds ⟨.entityByText text, reached⟩ found ↔
      Finds ⟨.entity id, reached⟩ found := by
  constructor
  · intro finds
    cases finds with
    | entityByText again kind =>
        rw [read] at again
        cases again
        exact .entity kind found
  · intro finds
    cases finds with
    | entity kind => exact .entityByText read kind found

end Report

end Storefront
