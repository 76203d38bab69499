import Mathlib
import Storefront.Proofs.Fetching
import Storefront.Proofs.Operations
/-!
What a page of products costs. However many products there are on it, the catalog is asked once for
them, twice at most about attributes and three times at most for what belongs to them. After that
the products of the page tell everything about themselves without another question.
-/

namespace Storefront

open Access

variable {seed : Seed} {catalog : Catalog} {shop : Shop}

section Counted

namespace Seed

theorem attributeTrips_arranged (seed : Seed) (pairs : List AttributePair) :
    seed.arranged.attributeTrips pairs = seed.attributeTrips pairs := by
  have same : ∀ slug, (seed.arranged.attributes.any fun attr => attr.slug = slug) =
      seed.attributes.any fun attr => attr.slug = slug :=
    fun slug => (byId_perm Attribute.id seed.attributes).any_eq
  simp only [attributeTrips, same]

theorem relationTrips_arranged (seed : Seed) (products : List Product) :
    seed.arranged.relationTrips products = seed.relationTrips products := by
  have same : ∀ id, (seed.arranged.variants.any fun variant => variant.productId = id) =
      seed.variants.any fun variant => variant.productId = id :=
    fun id => (byId_perm Variant.id seed.variants).any_eq
  simp only [relationTrips, same]

end Seed

end Counted

section Complete

/-- Nothing is left to be fetched, not even the category. -/
structure LoadedProduct.Complete (loaded : LoadedProduct) : Prop where
  images : loaded.images?.isSome
  variants : loaded.variants?.isSome
  category : loaded.category?.isSome

inductive Operation.Tells (loaded : LoadedProduct) : Operation → Prop where
  | images : Tells loaded (.images loaded)
  | variants : Tells loaded (.variants loaded)
  | productCategory : Tells loaded (.productCategory loaded)
  | thumbnailUrl (size : Option String) : Tells loaded (.thumbnailUrl loaded size)
  | offer : Tells loaded (.offer loaded)

theorem LoadedProduct.complete_withRelations {product : Product} {category : Category}
    (belongs : product.categoryId = category.id) (images : List Image)
    (variants : List StockedVariant) :
    (withRelations product (some category) images variants).Complete where
  images := rfl
  variants := rfl
  category := by simp [withRelations, category?, belongs]

namespace Shop

theorem perform_tells (shop : Shop) {loaded : LoadedProduct} (complete : loaded.Complete)
    {operation : Operation} (tells : operation.Tells loaded) (session : Session) :
    ∃ reached, (shop.perform operation).runFrom session = some (reached, session) := by
  obtain ⟨images, fetched⟩ := Option.isSome_iff_exists.mp complete.images
  obtain ⟨variants, stocked⟩ := Option.isSome_iff_exists.mp complete.variants
  obtain ⟨category, own⟩ := Option.isSome_iff_exists.mp complete.category
  cases tells with
  | images =>
      refine ⟨.ok images, ?_⟩
      simp only [perform, Shop.images, fetched]
      rfl
  | variants =>
      refine ⟨.ok variants, ?_⟩
      simp only [perform, Shop.variants, stocked]
      rfl
  | productCategory =>
      refine ⟨.ok (some category), ?_⟩
      simp only [perform, Shop.productCategory, own]
      rfl
  | thumbnailUrl size =>
      simp only [perform, Shop.thumbnailUrl, Shop.images, fetched]
      -- The one thing that can go wrong is the size.
      cases ThumbnailSize.orStandard size with
      | error fault => exact ⟨.error fault, rfl⟩
      | ok given => exact ⟨.ok (shop.thumbnail images given), rfl⟩
  | offer =>
      simp only [perform, Shop.offer, Shop.variants, stocked]
      exact ⟨_, rfl⟩

theorem run_tells (shop : Shop) {operations : List Operation}
    (all : ∀ operation ∈ operations, ∃ loaded : LoadedProduct,
      loaded.Complete ∧ operation.Tells loaded) (session : Session) :
    ∃ reports, shop.run operations session = some (reports, session) := by
  induction operations with
  | nil => exact ⟨[], rfl⟩
  | cons operation rest ih =>
      obtain ⟨loaded, complete, tells⟩ := all operation List.mem_cons_self
      obtain ⟨reached, first⟩ := shop.perform_tells complete tells session
      obtain ⟨reports, others⟩ := ih fun other member => all other (List.mem_cons_of_mem _ member)
      exact ⟨_, run_cons first others⟩

end Shop

end Complete

namespace Shop

/-- A page takes one question for its products, up to two about attributes and up to three for what
belongs to the products; to tell what it can tell of them takes none. -/
theorem products_trips (accepted : Catalog.ofSeed seed = .ok catalog)
    (stored : shop.store = { catalog }) {category : Category} {filter : ProductFilter}
    {page : PageArgs} {session after : Session} {shown : Connection LoadedProduct}
    (listed : (shop.products category filter page).runFrom session = some (.ok shown, after)) :
    after.trips = session.trips + (1 + seed.attributeTrips filter.attributes +
      seed.relationTrips (shown.nodes.map LoadedProduct.product)) ∧
    ∀ operations : List Operation,
      (∀ operation ∈ operations, ∃ node ∈ shown.nodes, operation.Tells node) →
      ∀ later, ∃ reports, shop.run operations later = some (reports, later) := by
  obtain ⟨part, cut, rfl, -, counted⟩ := cut_of_runFrom_products stored listed
  rw [Connection.nodes_zipNodes_fetched]
  constructor
  · rw [counted, Catalog.ofSeed_eq_ok accepted, Seed.attributeTrips_arranged,
      Seed.relationTrips_arranged, Catalog.fetched_products]
  · intro operations all later
    refine shop.run_tells (fun operation member => ?_) later
    obtain ⟨node, inPage, tells⟩ := all operation member
    obtain ⟨images, variants, same⟩ := distribute_relations inPage
    -- The page has products of the category alone, so each of them keeps the category.
    have known : node.product ∈ part.nodes := by
      have named := List.mem_map_of_mem (f := LoadedProduct.product) inPage
      rwa [Catalog.fetched_products] at named
    have passes := (Catalog.mem_listing.mp ((Connection.nodes_sublist cut).subset known)).2
    have complete := LoadedProduct.complete_withRelations passes.belongs images variants
    exact ⟨node, same ▸ complete, tells⟩

end Shop

def Seed.tasting : Seed where
  categories := [{ id := 1, name := "Wine", slug := "wine" }]
  attributes := [⟨1, "Grape", "grape"⟩]
  choices := [⟨1, 1, "Merlot", "merlot", 0⟩, ⟨2, 1, "Touriga", "touriga", 0⟩]
  products :=
    [{ id := 7, name := "Merlot", categoryId := 1, productTypeId := 1, price := ⟨900, .eur⟩,
        attributes := [⟨1, 1⟩] },
      { id := 8, name := "Port", categoryId := 1, productTypeId := 1, price := ⟨1900, .eur⟩,
        attributes := [⟨1, 2⟩] }]
  variants :=
    [{ id := 3, productId := 7, sku := "M-75" }, { id := 4, productId := 8, sku := "P-50" }]
  stocks := [{ id := 1, variantId := 3, quantity := 6 }, { id := 2, variantId := 4, quantity := 2 }]

/-- A page of one grape takes six questions, and what is told of its product takes no more. -/
theorem Shop.products_trips_tasting : ∃ catalog, Catalog.ofSeed .tasting = .ok catalog ∧
    ∃ shown after, (({ store := { catalog } } : Shop).products
        { id := 1, name := "Wine", slug := "wine" } { attributes := [⟨"grape", "merlot"⟩] } {}).runFrom
          { context := { today := ⟨2024, 6, 1, by decide⟩ } } = some (.ok shown, after) ∧
      after.trips = 6 ∧
      ∃ node ∈ shown.nodes, node.product.name = "Merlot" ∧
        ∃ reports, ({ store := { catalog } } : Shop).run
          [.offer node, .images node, .variants node, .images node] after =
            some (reports, after) := by
  have checked : Forest.check Seed.tasting.arranged.categories = .ok () := by cbv
  have accepted := Catalog.ofSeed_of_check checked
  have paged : ((fun page => page.nodes.map LoadedProduct.product) <$>
      ({ store := { catalog := ⟨_, _, rfl, checked⟩ } } : Shop).products
        { id := 1, name := "Wine", slug := "wine" } { attributes := [⟨"grape", "merlot"⟩] } {}).result
          { context := { today := ⟨2024, 6, 1, by decide⟩ } } =
        some (.ok (Seed.tasting.products.take 1)) := by
    cbv
  generalize (⟨_, _, rfl, checked⟩ : Catalog) = catalog at accepted paged
  have stored : ({ store := { catalog } } : Shop).store = { catalog } := rfl
  obtain ⟨after, ran⟩ := result_eq_some.mp paged
  obtain ⟨shown, listed, products⟩ := runFrom_map_eq_ok.mp ran
  obtain ⟨counted, free⟩ := Shop.products_trips accepted stored listed
  rw [products] at counted
  obtain ⟨node, inPage, merlot⟩ :
      ∃ node ∈ shown.nodes, node.product = Seed.tasting.products.head (by decide) := by
    apply List.mem_map.mp
    rw [products]
    exact List.mem_cons_self
  refine ⟨catalog, accepted, shown, after, listed, counted, node, inPage, by rw [merlot]; rfl, ?_⟩
  refine free _ (fun operation member => ⟨node, inPage, ?_⟩) after
  simp only [List.mem_cons, List.not_mem_nil, or_false] at member
  rcases member with rfl | rfl | rfl | rfl
  · exact .offer
  · exact .images
  · exact .variants
  · exact .images

end Storefront
