import Storefront.Proofs.Alike
import Storefront.Proofs.Traversal
/-!
Hidden products. To those who may not see them they might as well not be in the catalog: whatever
is asked for, the answer is the one that a catalog without them, and without their variants and
images, would give.
-/

namespace Storefront

open Access

/-- Some product of this id is not shown on the day. -/
def hides (products : List Product) (today : Date) (id : Int64) : Bool :=
  products.any fun product => product.id = id && !product.isAvailableOn today

/-- Without the products that are not shown on the day and what belongs to them. -/
def Seed.withoutHidden (seed : Seed) (today : Date) : Seed :=
  { seed with
    products := seed.products.filter fun product => product.isAvailableOn today
    variants := seed.variants.filter fun variant => !hides seed.products today variant.productId
    images := seed.images.filter fun image => !hides seed.products today image.productId }

/-- The requester may see only what is shown on the day. -/
structure Context.Unprivileged (today : Date) (context : Context) : Prop where
  refused : context.requester.holds Requester.viewProduct = false
  day : context.today = today

structure Catalog.Prunes (today : Date) (full part : Catalog) : Prop where
  categories : part.rows.categories = full.rows.categories
  attributes : part.rows.attributes = full.rows.attributes
  choices : part.rows.choices = full.rows.choices
  stocks : part.rows.stocks = full.rows.stocks
  products : part.rows.products =
    full.rows.products.filter fun product => product.isAvailableOn today
  variants : part.rows.variants =
    full.rows.variants.filter fun variant => !hides full.rows.products today variant.productId
  images : part.rows.images =
    full.rows.images.filter fun image => !hides full.rows.products today image.productId
  distinct : (full.rows.products.map Product.id).Nodup
  variantIds : (full.rows.variants.map Variant.id).Nodup
  imageIds : (full.rows.images.map Image.id).Nodup

variable {seed : Seed} {today : Date} {full part : Catalog} {shop other : Shop}

section Rows

theorem hides_congr {left right : List Product} (same : left.Perm right) :
    hides left today = hides right today := by
  funext id
  rw [Bool.eq_iff_iff, hides, hides, List.any_eq_true, List.any_eq_true]
  simp only [same.mem_iff]

theorem hides_eq_false {products : List Product} (distinct : (products.map Product.id).Nodup)
    {product : Product} (member : product ∈ products) (shown : product.isAvailableOn today = true) :
    hides products today product.id = false := by
  rw [hides, List.any_eq_false]
  intro other inProducts both
  simp only [Bool.and_eq_true, decide_eq_true_eq] at both
  obtain ⟨same, hidden⟩ := both
  rw [List.inj_on_of_nodup_map distinct inProducts member same, shown] at hidden
  cases hidden

theorem Catalog.prunes_of_accepted (accepted : ofSeed seed = .ok full)
    (again : ofSeed (seed.withoutHidden today) = .ok part)
    (distinct : (seed.products.map Product.id).Nodup)
    (variantIds : (seed.variants.map Variant.id).Nodup)
    (imageIds : (seed.images.map Image.id).Nodup) : Prunes today full part := by
  have products := Seed.byId_perm Product.id seed.products
  have variants := Seed.byId_perm Variant.id seed.variants
  have images := Seed.byGroup_perm Image.productId Image.sortOrder Image.id seed.images
  have hidden : hides seed.arranged.products today = hides seed.products today :=
    hides_congr products
  have whole := ofSeed_eq_ok accepted
  have pruned := ofSeed_eq_ok again
  constructor
  case products =>
    rw [whole, pruned]
    exact Seed.byId_filter distinct _
  case variants =>
    rw [whole, pruned, hidden]
    exact Seed.byId_filter variantIds _
  case images =>
    rw [whole, pruned, hidden]
    exact Seed.byGroup_filter imageIds _
  case distinct =>
    rw [whole]
    exact (products.map Product.id).nodup_iff.mpr distinct
  case variantIds =>
    rw [whole]
    exact (variants.map Variant.id).nodup_iff.mpr variantIds
  case imageIds =>
    rw [whole]
    exact (images.map Image.id).nodup_iff.mpr imageIds
  all_goals rw [whole, pruned]; rfl

end Rows

section Answers

namespace Catalog.Prunes

variable (prunes : Prunes today full part)

include prunes

/-- What has nothing to do with products is answered alike, walks that do not end included. -/
theorem categories_eq : part.categories = full.categories := prunes.categories

theorem subtree_eq (id : Int64) : part.subtree? id = full.subtree? id := by
  simp only [subtree?, category?, prunes.categories_eq]

theorem ancestors_eq (id : Int64) : part.ancestors id = full.ancestors id := by
  simp only [ancestors, category?, prunes.categories_eq]

theorem selected_eq {query : ProductQuery} (scope : query.scope = .availableOn today) :
    part.rows.products.filter query.selects = full.rows.products.filter query.selects := by
  rw [prunes.products]
  apply filter_filter_of_imp
  intro product _ selected
  simp only [ProductQuery.selects, scope, Scope.admits, Bool.and_eq_true] at selected
  exact selected.1.1

theorem not_hides_of_selected {query : ProductQuery} (scope : query.scope = .availableOn today) :
    ∀ product ∈ full.rows.products.filter query.selects,
      hides full.rows.products today product.id = false := by
  intro product member
  obtain ⟨inRows, selected⟩ := List.mem_filter.mp member
  simp only [ProductQuery.selects, scope, Scope.admits, Bool.and_eq_true] at selected
  exact hides_eq_false prunes.distinct inRows selected.1.1

theorem imagesFor_eq {ids : List Int64}
    (shown : ∀ id ∈ ids, hides full.rows.products today id = false) :
    part.rows.images.filter (fun image => ids.contains image.productId) =
      full.rows.images.filter fun image => ids.contains image.productId := by
  rw [prunes.images]
  apply filter_filter_of_imp
  intro image _ wanted
  simp [shown image.productId (List.contains_iff_mem.mp wanted)]

theorem variantsFor_eq {ids : List Int64}
    (shown : ∀ id ∈ ids, hides full.rows.products today id = false) :
    part.rows.variants.filter (fun variant => ids.contains variant.productId) =
      full.rows.variants.filter fun variant => ids.contains variant.productId := by
  rw [prunes.variants]
  apply filter_filter_of_imp
  intro variant _ wanted
  simp [shown variant.productId (List.contains_iff_mem.mp wanted)]

def Missing {Row : Type} (today : Date) (full : Catalog) (owner : Row → Int64)
    (left right : Option Row) : Prop :=
  right = left.filter fun row => !hides full.rows.products today (owner row)

theorem variant_eq (id : Int64) : Missing today full Variant.productId
    (full.rows.variants.find? fun variant => variant.id = id)
    (part.rows.variants.find? fun variant => variant.id = id) := by
  rw [Missing, prunes.variants, find_filter prunes.variantIds]

theorem image_eq (id : Int64) : Missing today full Image.productId
    (full.rows.images.find? fun image => image.id = id)
    (part.rows.images.find? fun image => image.id = id) := by
  rw [Missing, prunes.images, find_filter prunes.imageIds]

theorem selected_of_hidden {id : Int64} (hidden : hides full.rows.products today id = true) :
    full.rows.products.filter
      (ProductQuery.selects { scope := .availableOn today, ids := some [id] }) = [] := by
  rw [List.filter_eq_nil_iff]
  intro product member selected
  have visible := prunes.not_hides_of_selected rfl product (List.mem_filter.mpr ⟨member, selected⟩)
  have same : product.id = id := by
    simp only [ProductQuery.selects, Bool.and_eq_true, Option.all_some] at selected
    simpa using selected.1.2
  rw [same, hidden] at visible
  cases visible

end Catalog.Prunes

end Answers

section Requests

/-- Two shops that go by the same rule, one of them without what is hidden. -/
structure Shop.Twins (today : Date) (full part : Catalog) (shop other : Shop) : Prop where
  stored : shop.store = { catalog := full }
  restored : other.store = { catalog := part }
  rule : shop.scopeOf = Scope.ofRequester
  same : other.scopeOf = Scope.ofRequester
  prunes : full.Prunes today part

namespace Shop

theorem runFrom_scope (rule : shop.scopeOf = Scope.ofRequester) {session : Session}
    (still : session.context.Unprivileged today) :
    shop.scope.runFrom session = some (.ok (.availableOn today), session) := by
  have given : shop.scopeOf session.context.requester session.context.today =
      .availableOn today := by
    simp [rule, Scope.ofRequester, still.refused, still.day]
  rw [scope, runFrom_bind, runFrom_context, ← given]
  rfl

theorem runFrom_product {catalog : Catalog} (stored : shop.store = { catalog })
    (rule : shop.scopeOf = Scope.ofRequester) {session : Session}
    (still : session.context.Unprivileged today) (id : Int64) :
    (shop.product id).runFrom session =
      some (.ok ((catalog.rows.products.filter (ProductQuery.selects
          { scope := .availableOn today, ids := some [id] })).head?.map .bare),
        session.noting (.products { scope := .availableOn today, ids := some [id] })) := by
  rw [product, runFrom_bind, runFrom_scope rule still, Option.bind_some]
  simp only
  rw [runFrom_bind, runFrom_ask stored]
  rfl

namespace Twins

variable (twins : Twins today full part shop other)

include twins

theorem alike_scope : Alike (Context.Unprivileged today)
    (fun left right => left = .availableOn today ∧ right = .availableOn today)
    shop.scope other.scope := by
  intro first second one still
  rw [runFrom_scope twins.rule still, runFrom_scope twins.same (one ▸ still)]
  exact .value ⟨rfl, rfl⟩ one still

theorem alike_product (id : Int64) :
    Alike (Context.Unprivileged today) Eq (shop.product id) (other.product id) := by
  intro first second one still
  rw [runFrom_product twins.stored twins.rule still,
    runFrom_product twins.restored twins.same (one ▸ still), twins.prunes.selected_eq rfl]
  exact .value rfl one still

/-- A look-up of a hidden product comes to as much as no look-up. -/
theorem alike_product_of_hidden {id : Int64} (hidden : hides full.rows.products today id = true) :
    Alike (Context.Unprivileged today) (fun shown _ => shown = none) (shop.product id)
      (pure () : Access Unit) := by
  intro first second one still
  rw [runFrom_product twins.stored twins.rule still, twins.prunes.selected_of_hidden hidden]
  exact .value rfl one still

theorem alike_chainAbove (category : Category) :
    Alike (Context.Unprivileged today) Eq (shop.chainAbove category)
      (other.chainAbove category) := by
  unfold chainAbove
  by_cases top : category.isRoot = true
  · rw [if_pos top, if_pos top]
    exact Alike.pure rfl
  · rw [if_neg top, if_neg top]
    exact alike_ask_of_eq twins.stored twins.restored (.ancestors category.id)
      (twins.prunes.ancestors_eq category.id).symm

theorem alike_category (id : Int64) :
    Alike (Context.Unprivileged today) Eq (shop.category id) (other.category id) := by
  unfold category
  refine (alike_ask_of_eq twins.stored twins.restored (.categoryTree id) ?_).bind ?_
  · rw [Catalog.run_answer_categoryTree, Catalog.run_answer_categoryTree, twins.prunes.subtree_eq]
  · rintro found _ rfl
    cases found with
    | none => exact Alike.pure rfl
    | some tree =>
        apply (twins.alike_chainAbove tree.root).bind
        rintro chain _ rfl
        refine (Alike.remember tree chain ?_).bind fun _ _ _ => Alike.pure rfl
        rintro context after ⟨refused, day⟩ remembered
        obtain ⟨lineage, -, rfl⟩ := Option.map_eq_some_iff.mp remembered
        exact ⟨refused, day⟩

theorem alike_wanted (pairs : List AttributePair) :
    Alike (Context.Unprivileged today) Eq (shop.wanted pairs) (other.wanted pairs) := by
  unfold wanted
  refine (alike_ask_of_eq twins.stored twins.restored .attributes ?_).bind ?_
  · simp only [Catalog.answer, twins.prunes.attributes]
  · rintro attributes _ rfl
    by_cases unknown : (pairs.filterMap (attributeIdOf? attributes)).isEmpty = true
    · rw [if_pos unknown, if_pos unknown]
      exact Alike.pure rfl
    · rw [if_neg unknown, if_neg unknown]
      refine (alike_ask_of_eq twins.stored twins.restored (.attributeValues _) ?_).bind ?_
      · simp only [Catalog.answer, twins.prunes.choices]
      · rintro choices _ rfl
        exact Alike.pure rfl

def Shown (today : Date) (full : Catalog) (left right : List Product) : Prop :=
  left = right ∧ ∀ product ∈ left, hides full.rows.products today product.id = false

theorem alike_choose (filter : ProductFilter) {products : List Product}
    (shown : ∀ product ∈ products, hides full.rows.products today product.id = false) :
    Alike (Context.Unprivileged today) (Shown today full)
      (shop.choose filter products) (other.choose filter products) := by
  unfold choose
  by_cases free : filter.attributes.isEmpty = true
  · rw [if_pos free, if_pos free]
    exact Alike.pure ⟨rfl, shown⟩
  · rw [if_neg free, if_neg free]
    apply (twins.alike_wanted filter.attributes).bind
    rintro wanted _ rfl
    exact Alike.pure ⟨rfl, fun product member => shown product (List.mem_of_mem_filter member)⟩

theorem alike_stocks (variants : List Variant) :
    Alike (Context.Unprivileged today) Eq (shop.stocks variants) (other.stocks variants) := by
  unfold stocks
  by_cases empty : variants.isEmpty = true
  · rw [if_pos empty, if_pos empty]
    exact Alike.pure rfl
  · rw [if_neg empty, if_neg empty]
    apply alike_ask_of_eq twins.stored twins.restored (.stocksFor _)
    simp only [Catalog.answer, twins.prunes.stocks]

theorem alike_load (category : Category) {products : List Product}
    (shown : ∀ product ∈ products, hides full.rows.products today product.id = false) :
    Alike (Context.Unprivileged today) Eq (shop.load products category)
      (other.load products category) := by
  have ids : ∀ id ∈ products.map Product.id, hides full.rows.products today id = false := by
    simpa using shown
  unfold load
  by_cases empty : products.isEmpty = true
  · rw [if_pos empty, if_pos empty]
    exact Alike.pure rfl
  · rw [if_neg empty, if_neg empty]
    refine (alike_ask_of_eq twins.stored twins.restored (.imagesFor _) ?_).bind ?_
    · simp only [Catalog.answer, twins.prunes.imagesFor_eq ids]
    · rintro images _ rfl
      refine (alike_ask_of_eq twins.stored twins.restored (.variantsFor _) ?_).bind ?_
      · simp only [Catalog.answer, twins.prunes.variantsFor_eq ids]
      · rintro variants _ rfl
        apply (twins.alike_stocks variants).bind
        rintro stocks _ rfl
        exact Alike.pure rfl

theorem alike_rows {query : ProductQuery} (scope : query.scope = .availableOn today) :
    Alike (Context.Unprivileged today) (Shown today full) (shop.ask (.products query))
      (other.ask (.products query)) :=
  alike_ask twins.stored twins.restored (.products query) rfl rfl
    ⟨(twins.prunes.selected_eq scope).symm, twins.prunes.not_hides_of_selected scope⟩

theorem alike_products (category : Category) (filter : ProductFilter) (page : PageArgs) :
    Alike (Context.Unprivileged today) Eq (shop.products category filter page)
      (other.products category filter page) := by
  unfold products
  apply twins.alike_scope.bind
  rintro _ _ ⟨rfl, rfl⟩
  apply (twins.alike_rows rfl).bind
  rintro rows _ ⟨rfl, shown⟩
  have affordable : ∀ product ∈ rows.filter filter.matchesPrice,
      hides full.rows.products today product.id = false :=
    fun product member => shown product (List.mem_of_mem_filter member)
  apply (twins.alike_choose filter affordable).bind
  rintro chosen _ ⟨rfl, kept⟩
  apply (Alike.ofExcept _).bind
  rintro listed _ ⟨rfl, cut⟩
  -- The page brings in nothing, so what is fetched for it is fetched for products that are shown.
  have visible : ∀ product ∈ listed.nodes, hides full.rows.products today product.id = false :=
    fun product member => kept product
      ((filter.order_perm chosen).mem_iff.mp ((Connection.nodes_sublist cut).subset member))
  apply (twins.alike_load category visible).bind
  rintro loaded _ rfl
  exact Alike.pure rfl

theorem alike_owned {Row : Type} {owner : Row → Int64} (found : Option Row)
    {entity : Row → Access Entity} {again : Row → Access Entity}
    (others : ∀ row, Alike (Context.Unprivileged today) Eq (entity row) (again row)) :
    Alike (Context.Unprivileged today) Eq (shop.owned owner found entity)
      (other.owned owner
        (found.filter fun row => !hides full.rows.products today (owner row)) again) := by
  cases found with
  | none => exact Alike.pure rfl
  | some row =>
      cases hidden : hides full.rows.products today (owner row) with
      | true =>
          -- One side looks the product up in vain, the other has no row to begin with.
          rw [Option.filter_some_neg (by simp [hidden])]
          have nothing : Alike (Context.Unprivileged today) Eq
              (shop.owned owner (some row) entity)
              ((pure () : Access Unit) >>= fun _ => pure none) := by
            apply (twins.alike_product_of_hidden hidden).bind
            rintro _ _ rfl
            exact Alike.pure rfl
          exact nothing
      | false =>
          rw [Option.filter_some_pos (by simp [hidden])]
          apply (twins.alike_product (owner row)).bind
          rintro shown _ rfl
          by_cases missing : shown.isNone = true
          · rw [if_pos missing, if_pos missing]
            exact Alike.pure rfl
          · rw [if_neg missing, if_neg missing]
            apply (others row).bind
            rintro entity _ rfl
            exact Alike.pure rfl

theorem alike_entity (id : GlobalId) :
    Alike (Context.Unprivileged today) Eq (shop.entity id) (other.entity id) := by
  unfold entity
  cases id.kind with
  | product =>
      apply (twins.alike_product id.key).bind
      rintro found _ rfl
      exact Alike.pure rfl
  | category =>
      apply (twins.alike_category id.key).bind
      rintro found _ rfl
      exact Alike.pure rfl
  | variant =>
      apply (alike_ask twins.stored twins.restored (.variant id.key) rfl rfl
        (twins.prunes.variant_eq id.key)).bind
      rintro found _ rfl
      apply twins.alike_owned found
      intro variant
      refine (alike_ask_of_eq twins.stored twins.restored (.stocksFor [variant.id]) ?_).bind ?_
      · simp only [Catalog.answer, twins.prunes.stocks]
      · rintro stocks _ rfl
        exact Alike.pure rfl
  | image =>
      apply (alike_ask twins.stored twins.restored (.image id.key) rfl rfl
        (twins.prunes.image_eq id.key)).bind
      rintro found _ rfl
      exact twins.alike_owned found fun image => Alike.pure rfl
  | attr =>
      refine (alike_ask_of_eq twins.stored twins.restored (.attr id.key) ?_).bind ?_
      · simp only [Catalog.answer, twins.prunes.attributes]
      · rintro found _ rfl
        exact Alike.pure rfl
  | attributeValue =>
      refine (alike_ask_of_eq twins.stored twins.restored (.attributeValue id.key) ?_).bind ?_
      · simp only [Catalog.answer, twins.prunes.choices]
      · rintro found _ rfl
        exact Alike.pure rfl

theorem alike_entityByText (text : String) :
    Alike (Context.Unprivileged today) Eq (shop.entityByText text) (other.entityByText text) := by
  unfold entityByText
  apply (Alike.ofExcept _).bind
  rintro id _ ⟨rfl, -⟩
  exact twins.alike_entity id

end Twins

/-- Requesters who may not see hidden products cannot tell from any answer whether there are any:
the rows that are hidden from them might as well be missing from the seed. -/
theorem answers_without_hidden (accepted : Catalog.ofSeed seed = .ok full)
    (products : (seed.products.map Product.id).Nodup)
    (variants : (seed.variants.map Variant.id).Nodup)
    (images : (seed.images.map Image.id).Nodup) (rule : shop.scopeOf = Scope.ofRequester)
    {session : Session} (ordinary : session.context.requester.isSuperuser = false)
    (lacks : session.context.requester.permissions.contains Requester.viewProduct = false) :
    ∃ part, Catalog.ofSeed (seed.withoutHidden session.context.today) = .ok part ∧
      (∀ id, ((shop.withCatalog full).product id).result session =
        ((shop.withCatalog part).product id).result session) ∧
      (∀ category filter page,
        ((shop.withCatalog full).products category filter page).result session =
          ((shop.withCatalog part).products category filter page).result session) ∧
      (∀ id, ((shop.withCatalog full).entity id).result session =
        ((shop.withCatalog part).entity id).result session) ∧
      ∀ text, ((shop.withCatalog full).entityByText text).result session =
        ((shop.withCatalog part).entityByText text).result session := by
  have checked : Forest.check (seed.withoutHidden session.context.today).arranged.categories =
      .ok () := by
    have whole := full.checked
    rw [Catalog.categories, Catalog.ofSeed_eq_ok accepted] at whole
    exact whole
  obtain ⟨part, again⟩ :
      ∃ part, Catalog.ofSeed (seed.withoutHidden session.context.today) = .ok part :=
    ⟨_, Catalog.ofSeed_of_check checked⟩
  have prunes := Catalog.prunes_of_accepted accepted again products variants images
  have twins : Twins session.context.today full part (shop.withCatalog full)
      (shop.withCatalog part) := ⟨rfl, rfl, rule, rule, prunes⟩
  have still : session.context.Unprivileged session.context.today :=
    ⟨by rw [Requester.holds, ordinary, lacks]; rfl, rfl⟩
  exact ⟨part, again, fun id => (twins.alike_product id).result_eq session still,
    fun category filter page => (twins.alike_products category filter page).result_eq session still,
    fun id => (twins.alike_entity id).result_eq session still,
    fun text => (twins.alike_entityByText text).result_eq session still⟩

end Shop

def Seed.announcing : Seed where
  categories := [{ id := 1, name := "Wine", slug := "wine" }]
  products :=
    [{ id := 7, name := "Merlot", categoryId := 1, productTypeId := 1, price := ⟨900, .eur⟩ },
      { id := 8, name := "Port", categoryId := 1, productTypeId := 1, price := ⟨1900, .eur⟩,
        availableOn := some ⟨2024, 7, 1, by decide⟩ }]
  variants :=
    [{ id := 3, productId := 7, sku := "M-75" }, { id := 4, productId := 8, sku := "P-50" }]
  images := [{ id := 5, productId := 8, image := "port.jpg" }]

theorem Shop.answers_without_announced :
    ∃ full part, Catalog.ofSeed .announcing = .ok full ∧
      Catalog.ofSeed (Seed.announcing.withoutHidden ⟨2024, 6, 1, by decide⟩) = .ok part ∧
      ∀ id, ((({ store := { catalog := .empty } } : Shop).withCatalog full).entity id).result
          { context := { today := ⟨2024, 6, 1, by decide⟩ } } =
        ((({ store := { catalog := .empty } } : Shop).withCatalog part).entity id).result
          { context := { today := ⟨2024, 6, 1, by decide⟩ } } := by
  have checked : Forest.check Seed.announcing.arranged.categories = .ok () := by cbv
  have accepted := Catalog.ofSeed_of_check checked
  have rule : ({ store := { catalog := .empty } } : Shop).scopeOf = Scope.ofRequester := rfl
  have ordinary :
      (Session.mk { today := ⟨2024, 6, 1, by decide⟩ } [] 0).context.requester.isSuperuser = false :=
    rfl
  obtain ⟨part, again, -, -, entities, -⟩ :=
    answers_without_hidden accepted (by decide) (by decide) (by decide) rule ordinary (by decide)
  exact ⟨_, part, accepted, again, entities⟩

end Requests

end Storefront
