import Mathlib
import Storefront.Proofs.Access
import Storefront.Proofs.Operations
import Storefront.Proofs.Tables
/-!
Seeds with their rows in another order. Where no two rows of a table share their id, the order in
which a seed lists them leaves no trace: not in whether it is accepted, not in the reason if it is
refused, and not in any answer. Product types are kept as they come, but it is only ever asked
whether one of them uses an attribute.
-/

namespace Storefront

open Access

structure Seed.Rearranges (left right : Seed) : Prop where
  categories : left.categories.Perm right.categories
  productTypes : left.productTypes.Perm right.productTypes
  attributes : left.attributes.Perm right.attributes
  choices : left.choices.Perm right.choices
  products : left.products.Perm right.products
  variants : left.variants.Perm right.variants
  stocks : left.stocks.Perm right.stocks
  images : left.images.Perm right.images

def Seed.reversed (seed : Seed) : Seed where
  categories := seed.categories.reverse
  productTypes := seed.productTypes.reverse
  attributes := seed.attributes.reverse
  choices := seed.choices.reverse
  products := seed.products.reverse
  variants := seed.variants.reverse
  stocks := seed.stocks.reverse
  images := seed.images.reverse

theorem Seed.rearranges_reversed (seed : Seed) : seed.Rearranges seed.reversed := by
  constructor <;> exact (List.reverse_perm _).symm

section Catalogs

/-- Arranging leaves a difference in the one table that has no order of its own. -/
theorem Seed.arranged_rearranged {left right : Seed} (same : left.Rearranges right)
    (distinct : left.Distinct) :
    right.arranged = { left.arranged with productTypes := right.productTypes } := by
  simp only [arranged, byId_congr distinct.categories same.categories,
    byId_congr distinct.attributes same.attributes, byGroup_congr distinct.choices same.choices,
    byId_congr distinct.products same.products, byId_congr distinct.variants same.variants,
    byId_congr distinct.stocks same.stocks, byGroup_congr distinct.images same.images]

namespace Catalog

theorem ofSeed_of_check_error {seed : Seed} {flaw : Forest.Flaw}
    (refused : Forest.check seed.arranged.categories = .error flaw) :
    ofSeed seed = .error (.seed flaw.message) := by
  unfold ofSeed
  split
  · simp_all
  · simp_all

variable {one other : Catalog} {kinds : List ProductType}

theorem attributesOfTypes_congr (rows : other.rows = { one.rows with productTypes := kinds })
    (same : one.rows.productTypes.Perm kinds) (ids : List Int64) :
    other.attributesOfTypes ids = one.attributesOfTypes ids := by
  simp only [attributesOfTypes, rows]
  apply List.filter_congr
  intro attr _
  exact (same.filter _).any_eq.symm

theorem answer_congr (rows : other.rows = { one.rows with productTypes := kinds })
    (same : one.rows.productTypes.Perm kinds) (query : Query) :
    other.answer query = one.answer query := by
  -- All but one of the questions read tables that are the same, row by row.
  have categories : other.categories = one.categories := by rw [Catalog.categories, rows]; rfl
  cases query <;>
    simp only [answer, attributesOfTypes_congr rows same, subtree?, category?, ancestors, children,
      siblings, descendants, productTypeIdsIn, categories, rows]

end Catalog

end Catalogs

section Shops

namespace Shop

structure Agrees (shop other : Shop) : Prop where
  asks : ∀ query, shop.ask query = other.ask query
  scopeOf : shop.scopeOf = other.scopeOf
  rates : shop.rates = other.rates
  cropper : shop.cropper = other.cropper

namespace Agrees

variable {shop other : Shop} (agrees : shop.Agrees other)

include agrees

theorem category_eq (id : Int64) : shop.category id = other.category id := by
  simp only [category, chainAbove, agrees.asks]

theorem product_eq (id : Int64) : shop.product id = other.product id := by
  simp only [product, scope, agrees.asks, agrees.scopeOf]

theorem stocks_eq (variants : List Variant) : shop.stocks variants = other.stocks variants := by
  simp only [stocks, agrees.asks]

theorem products_eq (category : Category) (filter : ProductFilter) (page : PageArgs) :
    shop.products category filter page = other.products category filter page := by
  simp only [products, scope, choose, wanted, load, agrees.stocks_eq, agrees.asks, agrees.scopeOf]

theorem images_eq (loaded : LoadedProduct) : shop.images loaded = other.images loaded := by
  simp only [images, agrees.asks]

theorem variants_eq (loaded : LoadedProduct) : shop.variants loaded = other.variants loaded := by
  simp only [variants, agrees.stocks_eq, agrees.asks]

theorem entity_eq (id : GlobalId) : shop.entity id = other.entity id := by
  have owned_eq : ∀ {Row : Type} (owner : Row → Int64) (found : Option Row)
      (entity : Row → Access Entity),
      shop.owned owner found entity = other.owned owner found entity := by
    intro Row owner found entity
    cases found with
    | none => rfl
    | some row => simp only [owned, agrees.product_eq]
  simp only [entity, owned_eq, agrees.category_eq, agrees.product_eq, agrees.asks]

theorem perform_eq (operation : Operation) : shop.perform operation = other.perform operation := by
  cases operation with
  | category id => exact agrees.category_eq id
  | product id => exact agrees.product_eq id
  | products category filter page => exact agrees.products_eq category filter page
  | images loaded => exact agrees.images_eq loaded
  | variants loaded => exact agrees.variants_eq loaded
  | entity id => exact agrees.entity_eq id
  | entityByText text => simp only [perform, entityByText, agrees.entity_eq]
  | thumbnailUrl loaded size =>
      simp only [perform, thumbnailUrl, thumbnail, agrees.images_eq, agrees.cropper]
  | offer loaded => simp only [perform, offer, agrees.variants_eq, agrees.rates]
  | imageUrl image size => simp only [perform, imageUrl, agrees.cropper]
  | _ =>
      -- What is left depends on nothing but the answers.
      simp only [perform, ancestors, categoryUrl, children, siblings, productCount,
        descendantCount, categories, productCategory, attributes, attributeValues, agrees.asks]

theorem run_eq (operations : List Operation) (session : Session) :
    shop.run operations session = other.run operations session := by
  induction operations generalizing session with
  | nil => rfl
  | cons operation rest ih => simp only [run, agrees.perform_eq, ih]

end Agrees

theorem agrees_withCatalog (shop : Shop) {one other : Catalog}
    (same : ∀ query, one.answer query = other.answer query) :
    (shop.withCatalog one).Agrees (shop.withCatalog other) where
  asks query := by
    funext session
    simp only [ask, Store.ask, withCatalog, same]
  scopeOf := rfl
  rates := rfl
  cropper := rfl

end Shop

end Shops

/-- Seeds that list the same rows in different orders are refused for the same reason or make
catalogs that nobody can tell apart, neither by a question nor by an operation nor by what is left
behind in a session. -/
theorem Catalog.answers_rearranged {left right : Seed} (same : left.Rearranges right)
    (distinct : left.Distinct) :
    (∃ fault, ofSeed left = .error fault ∧ ofSeed right = .error fault) ∨
      ∃ one other, ofSeed left = .ok one ∧ ofSeed right = .ok other ∧
        (∀ query, one.answer query = other.answer query) ∧
        ∀ shop : Shop,
          (∀ operation session, ((shop.withCatalog one).perform operation).runFrom session =
            ((shop.withCatalog other).perform operation).runFrom session) ∧
          ∀ operations session, (shop.withCatalog one).run operations session =
            (shop.withCatalog other).run operations session := by
  have rows := Seed.arranged_rearranged same distinct
  have categories : right.arranged.categories = left.arranged.categories := by rw [rows]
  cases checked : Forest.check left.arranged.categories with
  | error flaw =>
      left
      have again : Forest.check right.arranged.categories = .error flaw := by rw [categories, checked]
      exact ⟨_, ofSeed_of_check_error checked, ofSeed_of_check_error again⟩
  | ok _ =>
      right
      have again : Forest.check right.arranged.categories = .ok () := by rw [categories, checked]
      have answers : ∀ query, Catalog.answer ⟨left.arranged, left, rfl, checked⟩ query =
          Catalog.answer ⟨right.arranged, right, rfl, again⟩ query :=
        fun query => (answer_congr rows same.productTypes query).symm
      refine ⟨_, _, ofSeed_of_check checked, ofSeed_of_check again, answers, fun shop => ?_⟩
      have agrees := shop.agrees_withCatalog answers
      constructor
      · intro operation session
        rw [agrees.perform_eq]
      · exact agrees.run_eq

def Seed.winery : Seed where
  categories :=
    [{ id := 1, name := "Wine", slug := "wine" },
      { id := 2, name := "Port", slug := "port", parentId := some 1 }]
  productTypes := [⟨1, "Still", [1], []⟩, ⟨2, "Fortified", [1, 2], []⟩]
  attributes := [⟨1, "Grape", "grape"⟩, ⟨2, "Age", "age"⟩]
  choices := [⟨1, 1, "Merlot", "merlot", 0⟩, ⟨2, 1, "Touriga", "touriga", 0⟩]
  products :=
    [{ id := 7, name := "Merlot", categoryId := 1, productTypeId := 1, price := ⟨900, .eur⟩ },
      { id := 8, name := "Tawny", categoryId := 2, productTypeId := 2, price := ⟨1900, .eur⟩ }]
  images :=
    [{ id := 5, productId := 8, image := "port.jpg" },
      { id := 6, productId := 8, image := "label.jpg" }]

theorem Catalog.answers_rearranged_winery : ∃ one other, ofSeed .winery = .ok one ∧
    ofSeed Seed.winery.reversed = .ok other ∧ one.rows ≠ other.rows ∧
    ∀ query, one.answer query = other.answer query := by
  have distinct : Seed.winery.Distinct := by constructor <;> decide
  have checked : Forest.check Seed.winery.arranged.categories = .ok () := by cbv
  have accepted := ofSeed_of_check checked
  rcases answers_rearranged Seed.winery.rearranges_reversed distinct with
    ⟨fault, refused, -⟩ | ⟨one, other, first, second, answers, -⟩
  · rw [accepted] at refused
    cases refused
  · refine ⟨one, other, first, second, fun same => ?_, answers⟩
    rw [ofSeed_eq_ok first, ofSeed_eq_ok second] at same
    have kinds := congrArg Seed.productTypes same
    simp [Seed.arranged, Seed.reversed, Seed.winery] at kinds

end Storefront
