import Storefront.Reply
import Storefront.Proofs.Prefetch
import Storefront.Proofs.Remembered
/-!
What replies say. What is told of a product, an image, a variant, an attribute or a category
depends on the catalog and the request alone: neither on what was fetched along with it nor on
what was asked before.
-/

namespace Storefront

open Access

variable {α β : Type} {catalog : Catalog} {shop : Shop} {context : Context}

namespace Access

/-- In every session of the request the answer is the value, and the context stays as it is. -/
def Answers (context : Context) (access : Access α) (value : α) : Prop :=
  ∀ session : Session, session.context.SameRequest context → ∃ after : Session,
    access.runFrom session = some (.ok value, after) ∧ after.context = session.context

theorem Yields.answers {access : Access α} {value : α} (yields : Yields access value) :
    Answers context access value :=
  fun session _ => yields session

theorem Answers.pure (value : α) : Answers context (pure value : Access α) value :=
  (Yields.pure value).answers

theorem Answers.bind {access : Access α} {next : α → Access β} {first : α} {value : β}
    (answers : Answers context access first) (others : Answers context (next first) value) :
    Answers context (access >>= next) value := by
  intro session same
  obtain ⟨middle, ran, kept⟩ := answers session same
  obtain ⟨after, done, still⟩ := others middle (kept ▸ same)
  exact ⟨after, runFrom_bind_eq_ok.mpr ⟨first, middle, ran, done⟩, still.trans kept⟩

theorem Answers.map {access : Access α} {value : α} (answers : Answers context access value)
    (change : α → β) : Answers context (change <$> access) (change value) := by
  rw [← bind_pure_comp]
  exact answers.bind (Answers.pure (change value))

theorem Answers.mapM {items : List α} {told : α → Access β} {value : α → β}
    (all : ∀ item ∈ items, Answers context (told item) (value item)) :
    Answers context (items.mapM told) (items.map value) := by
  induction items with
  | nil => exact Answers.pure []
  | cons item items ih =>
      rw [List.mapM_cons]
      apply (all item List.mem_cons_self).bind
      apply (ih fun other member => all other (List.mem_cons_of_mem item member)).bind
      exact Answers.pure _

theorem Answers.result {access : Access α} {value : α} (answers : Answers context access value)
    {session : Session} (same : session.context.SameRequest context) :
    access.result session = some (.ok value) := by
  obtain ⟨after, ran, -⟩ := answers session same
  exact result_eq_some.mpr ⟨after, ran⟩

theorem Answers.eq {access : Access α} {value other : α} {session after : Session}
    (answers : Answers context access value) (same : session.context.SameRequest context)
    (ran : access.runFrom session = some (.ok other, after)) :
    other = value ∧ after.context = session.context := by
  obtain ⟨final, again, kept⟩ := answers session same
  rw [ran] at again
  cases again
  exact ⟨rfl, kept⟩

end Access

section Told

namespace Shop

def imageReply (shop : Shop) (image : Image) : ImageReply where
  id := (GlobalId.mk .image image.id).encode
  url := shop.cropper.stored image.image
  alt := image.alt

theorem imageDetails_eq (shop : Shop) (image : Image) :
    shop.imageDetails image = .ok (shop.imageReply image) := rfl

theorem mapM_imageDetails (shop : Shop) (images : List Image) :
    images.mapM shop.imageDetails = .ok (images.map shop.imageReply) := by
  induction images with
  | nil => rfl
  | cons image images ih =>
      rw [List.mapM_cons, ih, imageDetails_eq]
      rfl

end Shop

namespace Catalog

def stocked (catalog : Catalog) (variant : Variant) : StockedVariant :=
  ⟨variant, catalog.rows.stocks.filter fun stock => stock.variantId = variant.id⟩

def stockedOf (catalog : Catalog) (productId : Int64) : List StockedVariant :=
  (catalog.variantsOf productId).map catalog.stocked

def attributeReply (catalog : Catalog) (attr : Attribute) : AttributeReply where
  id := (GlobalId.mk .attr attr.id).encode
  name := attr.name
  slug := attr.slug
  values := (catalog.rows.choices.filter fun choice => choice.attributeId = attr.id).map Choice.slug

def categoryReply (catalog : Catalog) (category : Category) (chain below : List Category) :
    CategoryReply where
  id := (GlobalId.mk .category category.id).encode
  name := category.name
  slug := category.slug
  url := category.url chain
  ancestors := chain.map Category.name
  children := (catalog.children category.id).map Category.name
  siblings := (catalog.siblings category.id).map Category.name
  productsCount := catalog.rows.products.countP fun product => product.categoryId = category.id
  descendantsCount := below.length

end Catalog

def Shop.replyOn (shop : Shop) (catalog : Catalog) (context : Context) (product : Product)
    (size : ThumbnailSize) : ProductReply where
  id := (GlobalId.mk .product product.id).encode
  name := product.name
  url := product.url
  thumbnailUrl := shop.thumbnail (catalog.imagesOf product.id) size
  category := (catalog.category? product.categoryId).map Category.name
  images := (catalog.imagesOf product.id).map shop.imageReply
  variants := (catalog.stockedOf product.id).map Shop.variantDetails
  offer := Offer.make shop.rates product (catalog.stockedOf product.id) context.discounts
    context.currency context.today

end Told

section Products

namespace Catalog

def visible? (catalog : Catalog) (scope : Scope) (id : Int64) : Option Product :=
  (catalog.rows.products.filter (ProductQuery.selects { scope, ids := some [id] })).head?

theorem visible_eq_some_iff (distinct : (catalog.rows.products.map Product.id).Nodup)
    {scope : Scope} {id : Int64} {product : Product} :
    catalog.visible? scope id = some product ↔
      product ∈ catalog.rows.products ∧ product.id = id ∧ scope.admits product = true := by
  -- The scope is a filter on the rows, and of what it leaves the first with the id is taken.
  have narrowed : catalog.visible? scope id =
      (catalog.rows.products.filter scope.admits).find? fun product => product.id = id := by
    rw [visible?, List.head?_filter, List.find?_filter]
    congr 1
    funext product
    simp [ProductQuery.selects]
  rw [narrowed, find_filter distinct, Option.filter_eq_some_iff, find_eq_some_iff distinct,
    and_assoc]

end Catalog

namespace Shop

/-- What the product tells of itself is what the catalog has of it. -/
structure Faithful (shop : Shop) (catalog : Catalog) (loaded : LoadedProduct) : Prop where
  images : Yields (shop.images loaded) (catalog.imagesOf loaded.product.id)
  variants : Yields (shop.variants loaded) (catalog.stockedOf loaded.product.id)
  category : Yields (shop.productCategory loaded) (catalog.category? loaded.product.categoryId)

theorem faithful_bare (stored : shop.store = { catalog }) (product : Product) :
    shop.Faithful catalog (.bare product) where
  images := yields_images stored product
  variants := yields_variants stored product
  category := yields_ask stored rfl

theorem faithful_loaded (shop : Shop) {category : Category} {product : Product}
    (known : catalog.category? category.id = some category)
    (belongs : product.categoryId = category.id) :
    shop.Faithful catalog (catalog.loaded category product) where
  images := Yields.pure _
  variants := Yields.pure _
  category := by
    have own : (catalog.loaded category product).category? = some category := by
      simp [Catalog.loaded, LoadedProduct.withRelations, LoadedProduct.category?, belongs]
    have told : catalog.category? (catalog.loaded category product).product.categoryId =
        some category := by
      rw [← known, ← belongs]
      rfl
    rw [productCategory, own, told]
    exact Yields.pure _

theorem answers_offer {loaded : LoadedProduct} (faithful : shop.Faithful catalog loaded) :
    Answers context (shop.offer loaded) (Offer.make shop.rates loaded.product
      (catalog.stockedOf loaded.product.id) context.discounts context.currency context.today) := by
  apply faithful.variants.answers.bind
  intro session same
  refine ⟨session, ?_, rfl⟩
  rw [← same.discounts, ← same.currency, ← same.today]
  rfl

theorem answers_productDetails {loaded : LoadedProduct} (faithful : shop.Faithful catalog loaded)
    {size : Option String} {given : ThumbnailSize}
    (read : ThumbnailSize.orStandard size = .ok given) :
    Answers context (shop.productDetails loaded size)
      (shop.replyOn catalog context loaded.product given) := by
  have images : Yields (Access.ofExcept
      ((catalog.imagesOf loaded.product.id).mapM shop.imageDetails))
      ((catalog.imagesOf loaded.product.id).map shop.imageReply) := by
    rw [mapM_imageDetails]
    exact Yields.pure _
  apply faithful.images.answers.bind
  apply images.answers.bind
  apply faithful.variants.answers.bind
  apply (yields_thumbnailUrl faithful.images read).answers.bind
  apply faithful.category.answers.bind
  exact (answers_offer faithful).bind (Answers.pure _)

theorem size_of_productDetails {loaded : LoadedProduct} {size : Option String}
    {session after : Session} {reply : ProductReply}
    (ran : (shop.productDetails loaded size).runFrom session = some (.ok reply, after)) :
    ∃ given, ThumbnailSize.orStandard size = .ok given := by
  -- Behind the images and the variants comes the thumbnail.
  obtain ⟨_, _, -, told⟩ := runFrom_bind_eq_ok.mp ran
  obtain ⟨_, _, -, told⟩ := runFrom_bind_eq_ok.mp told
  obtain ⟨_, _, -, told⟩ := runFrom_bind_eq_ok.mp told
  obtain ⟨_, _, cropped, -⟩ := runFrom_bind_eq_ok.mp told
  obtain ⟨given, _, read, -⟩ := runFrom_bind_eq_ok.mp cropped
  exact ⟨given, (runFrom_ofExcept_eq_ok.mp read).1⟩

section Pages

variable {category : Category} (known : catalog.category? category.id = some category)
  {products : List Product} (belong : ∀ product ∈ products, product.categoryId = category.id)

include known belong

theorem answers_page {size : Option String} {given : ThumbnailSize}
    (read : ThumbnailSize.orStandard size = .ok given) :
    Answers context ((products.map (catalog.loaded category)).mapM fun loaded =>
        shop.productDetails loaded size)
      (products.map fun product => shop.replyOn catalog context product given) := by
  have each : Answers context ((products.map (catalog.loaded category)).mapM fun loaded =>
        shop.productDetails loaded size)
      ((products.map (catalog.loaded category)).map fun loaded =>
        shop.replyOn catalog context loaded.product given) := by
    apply Answers.mapM
    intro loaded member
    obtain ⟨product, inPage, rfl⟩ := List.mem_map.mp member
    exact answers_productDetails (shop.faithful_loaded known (belong product inPage)) read
  rwa [List.map_map] at each

/-- A size that cannot be read does no harm where there are no products. -/
theorem size_of_page {size : Option String} {session after : Session} {replies : List ProductReply}
    (within : session.context.SameRequest context)
    (ran : ((products.map (catalog.loaded category)).mapM fun loaded =>
      shop.productDetails loaded size).runFrom session = some (.ok replies, after)) :
    ∃ given, replies = products.map fun product => shop.replyOn catalog context product given := by
  cases products with
  | nil =>
      cases ran
      exact ⟨.standard, rfl⟩
  | cons product rest =>
      have first := ran
      rw [List.map_cons, List.mapM_cons] at first
      obtain ⟨_, _, told, -⟩ := runFrom_bind_eq_ok.mp first
      obtain ⟨given, read⟩ := size_of_productDetails told
      exact ⟨given, ((answers_page known belong read).eq within ran).1⟩

end Pages

theorem category_sameRequest (stored : shop.store = { catalog })
    (sound : Forest.Sound catalog.categories) {id : Int64} {found : Option Category}
    {session after : Session}
    (looked : (shop.category id).runFrom session = some (.ok found, after)) :
    found = catalog.category? id ∧ after.context.SameRequest session.context := by
  obtain ⟨other, ran, kept⟩ := runFrom_category stored sound id session
  rw [looked] at ran
  cases ran
  rcases kept with same | ⟨tree, chain, -, -, remembered⟩
  · exact ⟨rfl, same ▸ .refl _⟩
  · exact ⟨rfl, Context.sameRequest_remember remembered⟩

theorem scopeIn_of_sameRequest (shop : Shop) {other : Context} (same : other.SameRequest context) :
    shop.scopeIn other = shop.scopeIn context := by
  rw [scopeIn, scopeIn, same.requester, same.today]

theorem runFrom_product_visible (stored : shop.store = { catalog }) (id : Int64)
    (session : Session) : ∃ after : Session, (shop.product id).runFrom session =
      some (.ok ((catalog.visible? (shop.scopeIn session.context) id).map .bare), after) ∧
        after.context = session.context := by
  refine ⟨session.noting (.products
    { scope := shop.scopeIn session.context, ids := some [id] }), ?_, rfl⟩
  rw [product, runFrom_bind, runFrom_scopeIn, Option.bind_some]
  simp only
  rw [runFrom_bind, runFrom_ask stored, Catalog.visible?]
  rfl

theorem answers_product (stored : shop.store = { catalog })
    (distinct : (catalog.rows.products.map Product.id).Nodup) {product : Product}
    (member : product ∈ catalog.rows.products)
    (admitted : (shop.scopeIn context).admits product = true) :
    Answers context (shop.product product.id) (some (.bare product)) := by
  intro session same
  obtain ⟨after, ran, kept⟩ := runFrom_product_visible stored product.id session
  rw [shop.scopeIn_of_sameRequest same,
    (Catalog.visible_eq_some_iff distinct).mpr ⟨member, rfl, admitted⟩] at ran
  exact ⟨after, ran, kept⟩

end Shop

end Products

section Attributes

namespace Shop

theorem yields_attributeDetails (stored : shop.store = { catalog }) (attr : Attribute) :
    Yields (shop.attributeDetails attr) (catalog.attributeReply attr) := by
  have values : Yields (shop.attributeValues attr)
      (catalog.rows.choices.filter fun choice => choice.attributeId = attr.id) := by
    apply yields_ask stored
    simp [Catalog.answer]
  exact values.bind (Yields.pure _)

theorem distinctAttributes_subset (attributes : List Attribute) :
    distinctAttributes attributes ⊆ attributes := by
  induction attributes with
  | nil => exact List.Subset.refl []
  | cons attr rest ih =>
      rw [distinctAttributes]
      exact List.cons_subset_cons attr (List.Subset.trans (List.filter_subset_self _) ih)

theorem runFrom_attributes_eq_ok (stored : shop.store = { catalog }) {categoryId : Option Int64}
    {attributes : List Attribute} {session after : Session}
    (ran : (shop.attributes categoryId).runFrom session = some (.ok attributes, after)) :
    attributes ⊆ catalog.rows.attributes := by
  cases categoryId with
  | none =>
      obtain ⟨all, _, asked, told⟩ := runFrom_bind_eq_ok.mp ran
      cases told
      rw [(yields_ask stored rfl).eq asked]
      exact distinctAttributes_subset _
  | some id =>
      obtain ⟨tree, _, -, told⟩ := runFrom_bind_eq_ok.mp ran
      by_cases outside : tree.isEmpty = true
      · rw [if_pos outside] at told
        cases told
        exact List.nil_subset _
      · rw [if_neg outside] at told
        obtain ⟨kinds, _, -, told⟩ := runFrom_bind_eq_ok.mp told
        by_cases unused : kinds.isEmpty = true
        · rw [if_pos unused] at told
          cases told
          exact List.nil_subset _
        · rw [if_neg unused] at told
          obtain ⟨some, _, asked, told⟩ := runFrom_bind_eq_ok.mp told
          cases told
          rw [(yields_ask stored rfl).eq asked]
          exact List.Subset.trans (distinctAttributes_subset _) (List.filter_subset_self _)

end Shop

end Attributes

section Categories

namespace Shop

theorem runFrom_categoryDetails (stored : shop.store = { catalog }) {category : Category}
    {chain below : List Category} {session : Session}
    (above : (shop.ancestors category).runFrom session = some (.ok chain, session))
    (downward : catalog.descendants category.id false = some below) :
    ∃ after, (shop.categoryDetails category).runFrom session =
      some (.ok (catalog.categoryReply category chain below), after) := by
  have counted : Yields (shop.descendantCount category) below.length := by
    have listed : Yields (shop.ask (.descendants category.id false)) below := by
      apply yields_ask stored
      rw [Catalog.run_answer_descendants, downward]
      rfl
    exact listed.bind (Yields.pure _)
  have children : Yields (shop.children category) _ := yields_ask stored rfl
  have siblings : Yields (shop.siblings category) _ := yields_ask stored rfl
  have products : Yields (shop.productCount category) _ := yields_ask stored rfl
  -- The chain takes no question; the four questions after it are asked one after the other.
  obtain ⟨first, children, -⟩ := children session
  obtain ⟨second, siblings, -⟩ := siblings first
  obtain ⟨third, products, -⟩ := products second
  obtain ⟨after, descendants, -⟩ := counted third
  refine ⟨after, runFrom_bind_eq_ok.mpr ⟨chain, session, above, ?_⟩⟩
  refine runFrom_bind_eq_ok.mpr ⟨_, first, children, ?_⟩
  refine runFrom_bind_eq_ok.mpr ⟨_, second, siblings, ?_⟩
  refine runFrom_bind_eq_ok.mpr ⟨_, third, products, ?_⟩
  exact runFrom_bind_eq_ok.mpr ⟨_, after, descendants, rfl⟩

/-- A category is told alike whatever is remembered. -/
theorem runFrom_category_told (stored : shop.store = { catalog })
    (sound : Forest.Sound catalog.categories) {id : Int64} {root : Category}
    (found : catalog.category? id = some root) :
    ∃ reply : CategoryReply, reply.id = (GlobalId.mk .category id).encode ∧
      ∀ session, ∃ middle after, (shop.category id).runFrom session =
          some (.ok (some root), middle) ∧
        (shop.categoryDetails root).runFrom middle = some (.ok reply, after) := by
  obtain ⟨chain, -, looked⟩ := runFrom_category_chain stored sound found
  have same : root.id = id := (Forest.find_mem found).2
  obtain ⟨below, downward⟩ := Option.isSome_iff_exists.mp
    ((Catalog.traversable_of_acyclic sound.acyclic root.id).downward false)
  refine ⟨catalog.categoryReply root chain below, by rw [Catalog.categoryReply, same], ?_⟩
  intro session
  obtain ⟨middle, ran, -, above⟩ := looked session
  obtain ⟨after, told⟩ := runFrom_categoryDetails stored above downward
  exact ⟨middle, after, ran, told⟩

end Shop

end Categories

end Storefront
