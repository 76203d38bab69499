import Storefront.Proofs.Access
import Storefront.Proofs.Tables
/-!
How a page of products comes about. What the scope and the filter leave of a category is put in
order and cut to the page, and what belongs to the products of the page is fetched for all of them
together. What is said of each step is what it comes to and how many questions it takes.
-/

namespace Storefront

open Access

variable {catalog : Catalog} {shop : Shop}

section Distributing

/-- Where no product comes twice everybody gets all that is their own. -/
theorem Shop.distribute_eq_map {category : Category} {stocks : List Stock} {products : List Product}
    (distinct : (products.map Product.id).Nodup) (images : List Image) (variants : List Variant) :
    distribute category stocks products images variants = products.map fun product =>
      .withRelations product (some category)
        (images.filter fun image => image.productId = product.id)
        (StockedVariant.group (variants.filter fun variant => variant.productId = product.id)
          stocks) := by
  induction products generalizing images variants with
  | nil => rfl
  | cons product rest ih =>
      rw [List.map_cons, List.nodup_cons] at distinct
      obtain ⟨once, others⟩ := distinct
      rw [distribute, ih others, List.map_cons]
      congr 1
      apply List.map_congr_left
      intro other member
      -- What the first product takes out was nothing that belongs to another.
      have differs : other.id ≠ product.id := fun same => once (same ▸ List.mem_map_of_mem member)
      rw [filter_filter_of_imp, filter_filter_of_imp]
      · intro variant _ own
        simpa [of_decide_eq_true own] using differs
      · intro image _ own
        simpa [of_decide_eq_true own] using differs

theorem Shop.distribute_products (category : Category) (stocks : List Stock)
    (products : List Product) (images : List Image) (variants : List Variant) :
    (distribute category stocks products images variants).map LoadedProduct.product = products := by
  induction products generalizing images variants with
  | nil => rfl
  | cons product rest ih => rw [distribute, List.map_cons, ih, LoadedProduct.withRelations]

theorem Shop.distribute_relations {category : Category} {stocks : List Stock}
    {products : List Product} {images : List Image} {variants : List Variant}
    {loaded : LoadedProduct}
    (member : loaded ∈ distribute category stocks products images variants) :
    ∃ own stocked, loaded = .withRelations loaded.product (some category) own stocked := by
  induction products generalizing images variants with
  | nil => cases member
  | cons product rest ih =>
      rcases List.mem_cons.mp member with rfl | later
      · exact ⟨_, _, rfl⟩
      · exact ih later

theorem StockedVariant.group_filter {variants all : List Variant} (within : variants ⊆ all)
    (stocks : List Stock) :
    group variants (stocks.filter fun stock => (all.map Variant.id).contains stock.variantId) =
      group variants stocks := by
  apply List.map_congr_left
  intro variant member
  have known : variant.id ∈ all.map Variant.id := List.mem_map_of_mem (within member)
  rw [filter_filter_of_imp]
  intro stock _ own
  simpa [of_decide_eq_true own] using known

end Distributing

section Own

/-- Questions for all that belongs to some products: nothing is asked where there are no products,
and nothing about stock where they have no variants. -/
def Seed.relationTrips (seed : Seed) (products : List Product) : Nat :=
  if products.isEmpty then 0
  else if products.any fun product =>
      seed.variants.any fun variant => variant.productId = product.id then 3
  else 2

namespace Catalog

def imagesOf (catalog : Catalog) (productId : Int64) : List Image :=
  catalog.rows.images.filter fun image => image.productId = productId

def variantsOf (catalog : Catalog) (productId : Int64) : List Variant :=
  catalog.rows.variants.filter fun variant => variant.productId = productId

def loaded (catalog : Catalog) (category : Category) (product : Product) : LoadedProduct :=
  .withRelations product (some category) (catalog.imagesOf product.id)
    (StockedVariant.group (catalog.variantsOf product.id) catalog.rows.stocks)

def variantsForAll (catalog : Catalog) (products : List Product) : List Variant :=
  catalog.rows.variants.filter fun variant => (products.map Product.id).contains variant.productId

def fetched (catalog : Catalog) (category : Category) (products : List Product) :
    List LoadedProduct :=
  Shop.distribute category
    (catalog.rows.stocks.filter fun stock =>
      ((catalog.variantsForAll products).map Variant.id).contains stock.variantId)
    products
    (catalog.rows.images.filter fun image => (products.map Product.id).contains image.productId)
    (catalog.variantsForAll products)

theorem fetched_products (catalog : Catalog) (category : Category) (products : List Product) :
    (catalog.fetched category products).map LoadedProduct.product = products :=
  Shop.distribute_products category _ products _ _

theorem fetched_eq_map (catalog : Catalog) (category : Category) {products : List Product}
    (distinct : (products.map Product.id).Nodup) :
    catalog.fetched category products = products.map (catalog.loaded category) := by
  rw [fetched, Shop.distribute_eq_map distinct]
  apply List.map_congr_left
  intro product member
  have known : product.id ∈ products.map Product.id := List.mem_map_of_mem member
  have own : ((catalog.variantsForAll products).filter fun variant =>
      variant.productId = product.id) = catalog.variantsOf product.id := by
    rw [variantsForAll, filter_filter_of_imp]
    · rfl
    · exact fun variant _ same => by simpa [of_decide_eq_true same] using known
  have within : catalog.variantsOf product.id ⊆ catalog.variantsForAll products :=
    own ▸ List.filter_subset_self _
  rw [own, StockedVariant.group_filter within, filter_filter_of_imp]
  · rfl
  · exact fun image _ same => by simpa [of_decide_eq_true same] using known

theorem relationTrips_of_ne {products : List Product} (some : ¬ products.isEmpty = true) :
    catalog.rows.relationTrips products =
      2 + if (catalog.variantsForAll products).isEmpty then 0 else 1 := by
  have owned : (products.any fun product =>
      catalog.rows.variants.any fun variant => variant.productId = product.id) =
      !(catalog.variantsForAll products).isEmpty := by
    rw [Bool.eq_iff_iff]
    simp only [variantsForAll, List.any_eq_true, Bool.not_eq_true', List.isEmpty_eq_false_iff_exists_mem,
      List.mem_filter, List.contains_iff_mem, List.mem_map, decide_eq_true_eq]
    constructor
    · rintro ⟨product, member, variant, inRows, same⟩
      exact ⟨variant, inRows, product, member, same.symm⟩
    · rintro ⟨variant, inRows, product, member, same⟩
      exact ⟨product, member, variant, inRows, same.symm⟩
  rw [Seed.relationTrips, if_neg some, owned]
  cases (catalog.variantsForAll products).isEmpty <;> rfl

end Catalog

namespace Shop

theorem takes_stocks (stored : shop.store = { catalog }) (variants : List Variant) :
    Takes (shop.stocks variants)
      (catalog.rows.stocks.filter fun stock => (variants.map Variant.id).contains stock.variantId)
      (if variants.isEmpty then 0 else 1) := by
  unfold stocks
  by_cases empty : variants.isEmpty = true
  · rw [if_pos empty, if_pos empty, List.isEmpty_iff.mp empty]
    simpa using Takes.pure []
  · rw [if_neg empty, if_neg empty]
    exact takes_ask stored rfl

theorem takes_load (stored : shop.store = { catalog }) (category : Category)
    (products : List Product) : Takes (shop.load products category)
      (catalog.fetched category products) (catalog.rows.relationTrips products) := by
  unfold load
  by_cases empty : products.isEmpty = true
  · rw [if_pos empty, List.isEmpty_iff.mp empty]
    exact Takes.pure []
  · have counted : catalog.rows.relationTrips products =
        1 + (1 + if (catalog.variantsForAll products).isEmpty then 0 else 1) := by
      rw [Catalog.relationTrips_of_ne empty]
      omega
    rw [if_neg empty, counted]
    apply (takes_ask stored rfl).bind
    apply (takes_ask stored rfl).bind
    exact (takes_stocks stored _).bind_pure _

end Shop

end Own

section AttributePairs

/-- Questions about attribute pairs. Values are asked for if a pair names an attribute. -/
def Seed.attributeTrips (seed : Seed) (pairs : List AttributePair) : Nat :=
  if pairs.isEmpty then 0
  else if pairs.any fun pair =>
      seed.attributes.any fun attr => attr.slug = pair.attributeSlug then 2
  else 1

def Catalog.wanted (catalog : Catalog) (pairs : List AttributePair) : Shop.Wanted :=
  pairs.filterMap (Shop.wantedOf? catalog.rows.attributes catalog.rows.choices)

namespace Shop

theorem attributeIdOf_isSome (attributes : List Attribute) (pair : AttributePair) :
    (attributeIdOf? attributes pair).isSome =
      attributes.any fun attr => attr.slug = pair.attributeSlug := by
  rw [attributeIdOf?, Option.isSome_map, List.findRev?_eq_find?_reverse, Bool.eq_iff_iff,
    List.find?_isSome, List.any_eq_true]
  simp only [List.mem_reverse]

theorem wantedOf_filter (attributes : List Attribute) (choices : List Choice) {ids : List Int64}
    {pair : AttributePair} (fetched : ∀ id, attributeIdOf? attributes pair = some id → id ∈ ids) :
    wantedOf? attributes (choices.filter fun choice => ids.contains choice.attributeId) pair =
      wantedOf? attributes choices pair := by
  cases known : attributeIdOf? attributes pair with
  | none => simp only [wantedOf?, known, Option.bind_eq_bind, Option.bind_none]
  | some id =>
      have same : (choices.filter fun choice => ids.contains choice.attributeId).find?
            (fun choice => choice.attributeId = id && choice.slug = pair.valueSlug) =
          choices.find? fun choice => choice.attributeId = id && choice.slug = pair.valueSlug := by
        apply find_filter_of_imp
        intro choice _ own
        simp only [Bool.and_eq_true, decide_eq_true_eq] at own
        simpa [own.1] using fetched id known
      simp only [wantedOf?, known, Option.bind_eq_bind, Option.bind_some, same]

theorem attributeTrips_of_ne {pairs : List AttributePair} (some : ¬ pairs.isEmpty = true) :
    catalog.rows.attributeTrips pairs = 1 +
      if (pairs.filterMap (attributeIdOf? catalog.rows.attributes)).isEmpty then 0 else 1 := by
  have named : (pairs.any fun pair =>
      catalog.rows.attributes.any fun attr => attr.slug = pair.attributeSlug) =
      !(pairs.filterMap (attributeIdOf? catalog.rows.attributes)).isEmpty := by
    rw [Bool.eq_iff_iff, List.any_eq_true, Bool.not_eq_true', List.isEmpty_eq_false_iff]
    simp [List.filterMap_eq_nil_iff, ← attributeIdOf_isSome, Option.isSome_iff_ne_none]
  rw [Seed.attributeTrips, if_neg some, named]
  cases (pairs.filterMap (attributeIdOf? catalog.rows.attributes)).isEmpty <;> rfl

theorem takes_wanted (stored : shop.store = { catalog }) {pairs : List AttributePair}
    (some : ¬ pairs.isEmpty = true) :
    Takes (shop.wanted pairs) (catalog.wanted pairs) (catalog.rows.attributeTrips pairs) := by
  have attributes : Takes (shop.ask .attributes) catalog.rows.attributes 1 := takes_ask stored rfl
  rw [attributeTrips_of_ne some]
  apply attributes.bind
  by_cases empty : (pairs.filterMap (attributeIdOf? catalog.rows.attributes)).isEmpty = true
  · -- A pair of no known attribute does not count, so none does.
    have none : catalog.wanted pairs = [] := by
      rw [List.isEmpty_iff, List.filterMap_eq_nil_iff] at empty
      apply List.filterMap_eq_nil_iff.mpr
      intro pair member
      rw [wantedOf?, empty pair member]
      rfl
    rw [if_pos empty, if_pos empty, none]
    exact Takes.pure []
  · have same : catalog.wanted pairs = pairs.filterMap (wantedOf? catalog.rows.attributes
        (catalog.rows.choices.filter fun choice =>
          (pairs.filterMap (attributeIdOf? catalog.rows.attributes)).contains
            choice.attributeId)) := by
      apply List.filterMap_congr
      intro pair member
      refine (wantedOf_filter _ _ fun id known => ?_).symm
      exact List.mem_filterMap.mpr ⟨pair, member, known⟩
    rw [if_neg empty, if_neg empty, same]
    exact (takes_ask stored rfl).bind_pure _

theorem takes_choose (stored : shop.store = { catalog }) (filter : ProductFilter)
    (products : List Product) : Takes (shop.choose filter products)
      (products.filter (hasWanted (catalog.wanted filter.attributes)))
      (catalog.rows.attributeTrips filter.attributes) := by
  unfold choose
  by_cases free : filter.attributes.isEmpty = true
  · rw [if_pos free, List.isEmpty_iff.mp free]
    have all : products.filter (hasWanted (catalog.wanted [])) = products :=
      List.filter_eq_self.mpr fun _ _ => rfl
    rw [all]
    exact Takes.pure products
  · rw [if_neg free]
    exact (takes_wanted stored free).bind_pure _

end Shop

end AttributePairs

section Pages

namespace Connection

theorem nodes_zipNodes {α β : Type} {page : Connection α} {others : List β}
    (same : others.length = page.nodes.length) : (page.zipNodes others).nodes = others := by
  apply (nodes_zipNodes_sublist page others).eq_of_length
  rw [nodes, List.length_map, zipNodes, List.length_zipWith, same, nodes, List.length_map,
    Nat.min_self]

theorem nodes_zipNodes_fetched (catalog : Catalog) (category : Category)
    (page : Connection Product) :
    (page.zipNodes (catalog.fetched category page.nodes)).nodes =
      catalog.fetched category page.nodes := by
  apply nodes_zipNodes
  rw [← List.length_map LoadedProduct.product, catalog.fetched_products]

end Connection

namespace Catalog

/-- The product is one of the category's, in the scope, and meets the filter. -/
structure Passes (catalog : Catalog) (scope : Scope) (category : Category) (filter : ProductFilter)
    (product : Product) : Prop where
  belongs : product.categoryId = category.id
  admitted : scope.admits product = true
  atLeast : ∀ least ∈ filter.priceAtLeast, least ≤ product.price.amount
  atMost : ∀ most ∈ filter.priceAtMost, product.price.amount ≤ most
  hasWanted : Shop.hasWanted (catalog.wanted filter.attributes) product = true

variable {scope : Scope} {category : Category} {filter : ProductFilter}

def selected (catalog : Catalog) (scope : Scope) (category : Category) (filter : ProductFilter) :
    List Product :=
  let query : ProductQuery := { scope, categoryIds := some [category.id] }
  ((catalog.rows.products.filter query.selects).filter filter.matchesPrice).filter
    (Shop.hasWanted (catalog.wanted filter.attributes))

def listing (catalog : Catalog) (scope : Scope) (category : Category) (filter : ProductFilter) :
    List Product :=
  filter.order (catalog.selected scope category filter)

theorem selected_sublist :
    (catalog.selected scope category filter).Sublist catalog.rows.products :=
  List.filter_sublist.trans (List.filter_sublist.trans List.filter_sublist)

theorem mem_selected {product : Product} : product ∈ catalog.selected scope category filter ↔
    product ∈ catalog.rows.products ∧ catalog.Passes scope category filter product := by
  rw [selected, List.mem_filter, List.mem_filter, List.mem_filter]
  simp only [ProductQuery.selects, ProductFilter.matchesPrice, Bool.and_eq_true,
    Option.all_eq_true, decide_eq_true_eq]
  constructor
  · rintro ⟨⟨⟨member, ⟨admitted, -⟩, among⟩, atLeast, atMost⟩, hasWanted⟩
    have belongs : product.categoryId = category.id := by simpa using among [category.id] rfl
    exact ⟨member, belongs, admitted, atLeast, atMost, hasWanted⟩
  · rintro ⟨member, passes⟩
    have among : ∀ ids, some [category.id] = some ids → ids.contains product.categoryId = true := by
      rintro ids ⟨⟩
      simpa using passes.belongs
    exact ⟨⟨⟨member, ⟨passes.admitted, by simp⟩, among⟩, passes.atLeast, passes.atMost⟩,
      passes.hasWanted⟩

theorem mem_listing {product : Product} : product ∈ catalog.listing scope category filter ↔
    product ∈ catalog.rows.products ∧ catalog.Passes scope category filter product :=
  (filter.order_perm _).mem_iff.trans mem_selected

theorem nodup_listing (distinct : (catalog.rows.products.map Product.id).Nodup) :
    ((catalog.listing scope category filter).map Product.id).Nodup :=
  ((filter.order_perm _).map Product.id).nodup_iff.mpr
    ((selected_sublist.map Product.id).nodup distinct)

end Catalog

namespace Shop

def scopeIn (shop : Shop) (context : Context) : Scope :=
  shop.scopeOf context.requester context.today

theorem runFrom_scopeIn (shop : Shop) (session : Session) :
    shop.scope.runFrom session = some (.ok (shop.scopeIn session.context), session) :=
  rfl

variable {category : Category} {filter : ProductFilter} {args : PageArgs} {session after : Session}

theorem runFrom_products_of_cut (stored : shop.store = { catalog }) {page : Connection Product}
    (cut : Connection.ofList (catalog.listing (shop.scopeIn session.context) category filter) args =
      .ok page) :
    ∃ after, (shop.products category filter args).runFrom session =
        some (.ok (page.zipNodes (catalog.fetched category page.nodes)), after) ∧
      after.context = session.context ∧
      after.trips = session.trips + (1 + catalog.rows.attributeTrips filter.attributes +
        catalog.rows.relationTrips page.nodes) := by
  have counted : 1 + catalog.rows.attributeTrips filter.attributes +
      catalog.rows.relationTrips page.nodes = 1 + (catalog.rows.attributeTrips filter.attributes +
        (0 + catalog.rows.relationTrips page.nodes)) := by omega
  rw [products, runFrom_bind, runFrom_scopeIn, Option.bind_some, counted]
  -- From here on nothing depends on the session any more.
  refine (?_ : Takes _ _ _) session
  apply (takes_ask stored rfl).bind
  apply (takes_choose stored filter _).bind
  apply (Takes.ofExcept cut).bind
  exact (takes_load stored category page.nodes).bind_pure _

theorem cut_of_runFrom_products (stored : shop.store = { catalog })
    {shown : Connection LoadedProduct}
    (listed : (shop.products category filter args).runFrom session = some (.ok shown, after)) :
    ∃ page, Connection.ofList
        (catalog.listing (shop.scopeIn session.context) category filter) args = .ok page ∧
      shown = page.zipNodes (catalog.fetched category page.nodes) ∧
      after.context = session.context ∧
      after.trips = session.trips + (1 + catalog.rows.attributeTrips filter.attributes +
        catalog.rows.relationTrips page.nodes) := by
  have steps := listed
  simp only [products, runFrom_bind_eq_ok] at steps
  obtain ⟨_, _, given, rows, _, asked, chosen, _, chose, page, _, cut, -⟩ := steps
  -- The steps before the cut always come to the same, so it is this list that was cut.
  cases given
  obtain rfl := (yields_ask stored rfl).eq asked
  obtain rfl := (takes_choose stored filter _).yields.eq chose
  have cut := (runFrom_ofExcept_eq_ok.mp cut).1
  obtain ⟨final, ran, same, counted⟩ := runFrom_products_of_cut stored cut
  rw [listed] at ran
  cases ran
  exact ⟨page, cut, rfl, same, counted⟩

/-- Where no two products have one id, each on the page gets all that it has. -/
theorem nodes_of_runFrom_products (stored : shop.store = { catalog })
    (distinct : (catalog.rows.products.map Product.id).Nodup) {shown : Connection LoadedProduct}
    (listed : (shop.products category filter args).runFrom session = some (.ok shown, after)) :
    ∃ products : List Product, shown.nodes = products.map (catalog.loaded category) ∧
      (∀ product ∈ products, product ∈ catalog.rows.products ∧
        catalog.Passes (shop.scopeIn session.context) category filter product) ∧
      after.context = session.context := by
  obtain ⟨page, cut, rfl, kept, -⟩ := cut_of_runFrom_products stored listed
  have within := Connection.nodes_sublist cut
  have once : (page.nodes.map Product.id).Nodup :=
    (Catalog.nodup_listing distinct).sublist (within.map Product.id)
  refine ⟨page.nodes, ?_, fun product member => ?_, kept⟩
  · rw [Connection.nodes_zipNodes_fetched, Catalog.fetched_eq_map catalog category once]
  · exact Catalog.mem_listing.mp (within.subset member)

end Shop

end Pages

end Storefront
