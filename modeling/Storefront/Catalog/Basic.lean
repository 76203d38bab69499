import Storefront.Catalog.Forest
import Storefront.Catalog.Seed
import Storefront.Fault
/-!
A catalog: the tables of a seed in their order, known to describe a forest of categories.
-/

namespace Storefront

structure Catalog where
  rows : Seed
  accepted : ∃ seed : Seed, rows = seed.arranged ∧ Forest.check rows.categories = .ok ()

namespace Catalog

def ofSeed (seed : Seed) : Except Fault Catalog :=
  match checked : Forest.check seed.arranged.categories with
  | .ok () => .ok ⟨seed.arranged, seed, rfl, checked⟩
  | .error flaw => .error (.seed flaw.message)

def empty : Catalog where
  rows := {}
  accepted := ⟨{}, by simp [Seed.arranged, Seed.byId, Seed.byGroup], rfl⟩

theorem ofSeed_eq_ok {seed : Seed} {catalog : Catalog} (accepted : ofSeed seed = .ok catalog) :
    catalog.rows = seed.arranged := by
  unfold ofSeed at accepted
  split at accepted
  · cases accepted; rfl
  · cases accepted

theorem ofSeed_of_check {seed : Seed} (checked : Forest.check seed.arranged.categories = .ok ()) :
    ofSeed seed = .ok ⟨seed.arranged, seed, rfl, checked⟩ := by
  unfold ofSeed
  split
  · rfl
  · simp_all

def categories (catalog : Catalog) : List Category := catalog.rows.categories

def category? (catalog : Catalog) (id : Int64) : Option Category :=
  Forest.find? catalog.categories id

def subtree? (catalog : Catalog) (id : Int64) : Walk (Option Subtree) :=
  match catalog.category? id with
  | none => some none
  | some root =>
      (Forest.descendants catalog.categories id).map fun nodes => some { root, nodes }

def ancestors (catalog : Catalog) (id : Int64) : Walk (Except Fault (List Category)) :=
  let start := (catalog.category? id).bind Category.parentId
  (Forest.upward catalog.categories [] start).map fun reached =>
    reached.mapError fun missing => .store ("dangling parent " ++ toString missing.toInt)

def children (catalog : Catalog) (id : Int64) : List Category :=
  Forest.children catalog.categories id

/-- The other categories with the same parent; roots are siblings of each other. -/
def siblings (catalog : Catalog) (id : Int64) : List Category :=
  match catalog.category? id with
  | none => []
  | some category =>
      catalog.categories.filter fun row => row.parentId = category.parentId && row.id != id

def descendants (catalog : Catalog) (id : Int64) (withSelf : Bool) : Walk (List Category) :=
  match catalog.category? id with
  | none => some []
  | some category =>
      (Forest.descendants catalog.categories id).map fun nodes =>
        (if withSelf then [category] else []) ++ nodes

def productTypeIdsIn (catalog : Catalog) (categoryIds : List Int64) : List Int64 :=
  let used := catalog.rows.products.filter fun product => categoryIds.contains product.categoryId
  ((used.map Product.productTypeId).mergeSort fun left right => left ≤ right).eraseDups

def attributesOfTypes (catalog : Catalog) (productTypeIds : List Int64) : List Attribute :=
  let kinds := catalog.rows.productTypes.filter fun kind => productTypeIds.contains kind.id
  catalog.rows.attributes.filter fun attr => kinds.any fun kind => kind.uses attr.id

end Catalog

end Storefront
