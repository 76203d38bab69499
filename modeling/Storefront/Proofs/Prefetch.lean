import Mathlib
import Storefront.Proofs.Fetching
import Storefront.Proofs.Traversal
/-!
What is fetched for a whole page. Every product on a page carries what the catalog would answer
for it alone: its images, its variants with their stock and, if it is on the page of its own
category, that category.
-/

namespace Storefront

open Access

variable {seed : Seed} {catalog : Catalog} {shop : Shop}

section Own

namespace Shop

theorem yields_images (stored : shop.store = { catalog }) (product : Product) :
    Yields (shop.images (.bare product)) (catalog.imagesOf product.id) := by
  apply yields_ask stored
  simp [Catalog.answer, Catalog.imagesOf, LoadedProduct.bare]

theorem yields_variants (stored : shop.store = { catalog }) (product : Product) :
    Yields (shop.variants (.bare product))
      (StockedVariant.group (catalog.variantsOf product.id) catalog.rows.stocks) := by
  have fetched : Yields (shop.ask (.variantsFor [product.id])) (catalog.variantsOf product.id) := by
    apply yields_ask stored
    simp [Catalog.answer, Catalog.variantsOf]
  apply fetched.bind
  apply (takes_stocks stored _).yields.bind
  rw [StockedVariant.group_filter (List.Subset.refl _)]
  exact Yields.pure _

theorem runFrom_products_eq_ok (stored : shop.store = { catalog })
    (distinct : (catalog.rows.products.map Product.id).Nodup) {category : Category}
    {filter : ProductFilter} {page : PageArgs} {session after : Session}
    {shown : Connection LoadedProduct}
    (listed : (shop.products category filter page).runFrom session = some (.ok shown, after)) :
    ∀ node ∈ shown.nodes, ∃ product, product.categoryId = category.id ∧
      node = catalog.loaded category product := by
  obtain ⟨products, nodes, passes, -⟩ := nodes_of_runFrom_products stored distinct listed
  rw [nodes]
  intro node member
  obtain ⟨product, inPage, rfl⟩ := List.mem_map.mp member
  exact ⟨product, (passes product inPage).2.belongs, rfl⟩

theorem runFrom_category_eq_ok (stored : shop.store = { catalog }) {id : Int64}
    {category : Category} {session after : Session}
    (looked : (shop.category id).runFrom session = some (.ok (some category), after)) :
    catalog.category? category.id = some category := by
  obtain ⟨found, middle, asked, told⟩ := runFrom_bind_eq_ok.mp looked
  cases found with
  | none => cases told
  | some tree =>
      rw [runFrom_ask stored, Catalog.run_answer_categoryTree, Option.map_map] at asked
      obtain ⟨other, fetched, same⟩ := Option.map_eq_some_iff.mp asked
      cases same
      obtain ⟨chain, second, -, told⟩ := runFrom_bind_eq_ok.mp told
      obtain ⟨_, third, -, told⟩ := runFrom_bind_eq_ok.mp told
      cases told
      obtain ⟨known, -⟩ := Catalog.subtree_eq_some fetched
      rw [(Forest.find_mem known).2]
      exact known

end Shop

end Own

section Answers

namespace Shop

variable {category : Category} {product : Product}

theorem yields_productCategory (stored : shop.store = { catalog })
    (known : catalog.category? category.id = some category)
    (belongs : product.categoryId = category.id) :
    Yields (shop.productCategory (.bare product)) (some category) := by
  apply yields_ask stored
  rw [← known, ← belongs]
  rfl

theorem yields_thumbnailUrl {loaded : LoadedProduct} {images : List Image}
    (fetched : Yields (shop.images loaded) images) {size : Option String} {given : ThumbnailSize}
    (read : ThumbnailSize.orStandard size = .ok given) :
    Yields (shop.thumbnailUrl loaded size) (shop.thumbnail images given) := by
  have sized : Yields (Access.ofExcept (ThumbnailSize.orStandard size)) given := by
    rw [read]
    exact Yields.pure given
  exact sized.bind (fetched.bind (Yields.pure _))

theorem sameAnswer_thumbnailUrl {left right : LoadedProduct} {images : List Image}
    (first : Yields (shop.images left) images) (second : Yields (shop.images right) images)
    (size : Option String) :
    SameAnswer (shop.thumbnailUrl left size) (shop.thumbnailUrl right size) := by
  cases read : ThumbnailSize.orStandard size with
  | ok given =>
      exact (yields_thumbnailUrl first read).sameAnswer (yields_thumbnailUrl second read)
  | error fault =>
      intro session
      unfold thumbnailUrl
      rw [read]
      exact ⟨.error fault, rfl, rfl⟩

theorem sameAnswer_offer {left right : LoadedProduct} {variants : List StockedVariant}
    (first : Yields (shop.variants left) variants) (second : Yields (shop.variants right) variants)
    (same : left.product = right.product) : SameAnswer (shop.offer left) (shop.offer right) := by
  unfold offer
  rw [same]
  let final := fun context : Context => Offer.make shop.rates right.product variants
    context.discounts context.currency context.today
  exact first.sameAnswer_bind second (fun context => .ok (final context)) fun session => rfl

/-- What a product on a page of a category tells about itself is what it would tell alone. -/
theorem prefetched_as_alone (accepted : Catalog.ofSeed seed = .ok catalog)
    (distinct : (seed.products.map Product.id).Nodup) (stored : shop.store = { catalog })
    {id : Int64} {before between : Session}
    (looked : (shop.category id).runFrom before = some (.ok (some category), between))
    {filter : ProductFilter} {page : PageArgs} {session after : Session}
    {shown : Connection LoadedProduct}
    (listed : (shop.products category filter page).runFrom session = some (.ok shown, after)) :
    ∀ node ∈ shown.nodes,
      SameAnswer (shop.images node) (shop.images (.bare node.product)) ∧
      SameAnswer (shop.variants node) (shop.variants (.bare node.product)) ∧
      SameAnswer (shop.productCategory node) (shop.productCategory (.bare node.product)) ∧
      (∀ size, SameAnswer (shop.thumbnailUrl node size)
        (shop.thumbnailUrl (.bare node.product) size)) ∧
      SameAnswer (shop.offer node) (shop.offer (.bare node.product)) := by
  have separate : (catalog.rows.products.map Product.id).Nodup := by
    rw [Catalog.ofSeed_eq_ok accepted]
    exact ((Seed.byId_perm Product.id seed.products).map Product.id).nodup_iff.mpr distinct
  intro node member
  obtain ⟨product, belongs, rfl⟩ := runFrom_products_eq_ok stored separate listed node member
  have known := runFrom_category_eq_ok stored looked
  have images : Yields (shop.images (catalog.loaded category product))
      (catalog.imagesOf product.id) := Yields.pure _
  have variants : Yields (shop.variants (catalog.loaded category product))
      (StockedVariant.group (catalog.variantsOf product.id) catalog.rows.stocks) := Yields.pure _
  have own : (catalog.loaded category product).category? = some category := by
    simp [Catalog.loaded, LoadedProduct.withRelations, LoadedProduct.category?, belongs]
  have told : Yields (shop.productCategory (catalog.loaded category product)) (some category) := by
    rw [productCategory, own]
    exact Yields.pure _
  refine ⟨images.sameAnswer (yields_images stored product),
    variants.sameAnswer (yields_variants stored product),
    told.sameAnswer (yields_productCategory stored known belongs), fun size => ?_, ?_⟩
  · exact sameAnswer_thumbnailUrl images (yields_images stored product) size
  · exact sameAnswer_offer variants (yields_variants stored product) rfl

end Shop

def Seed.cellar : Seed where
  categories := [{ id := 1, name := "Wine", slug := "wine" }]
  productTypes := [{ id := 1, name := "Bottle", productAttributes := [2] }]
  attributes := [{ id := 2, name := "Grape", slug := "grape" }]
  choices := [{ id := 6, attributeId := 2, name := "Touriga", slug := "touriga" }]
  products :=
    [{ id := 7, name := "Merlot", categoryId := 1, productTypeId := 1, price := ⟨900, .eur⟩ },
      { id := 8, name := "Port", categoryId := 1, productTypeId := 1, price := ⟨1900, .eur⟩ },
      { id := 9, name := "Sherry", categoryId := 1, productTypeId := 1, price := ⟨1400, .eur⟩ }]
  variants :=
    [{ id := 3, productId := 7, sku := "M-75" }, { id := 4, productId := 8, sku := "P-50" }]
  stocks := [{ id := 1, variantId := 3, quantity := 6 }, { id := 2, variantId := 4, quantity := 2 }]
  images := [{ id := 5, productId := 8, image := "port.jpg" }]

theorem Shop.prefetched_as_alone_cellar : ∃ catalog, Catalog.ofSeed .cellar = .ok catalog ∧
    let shop : Shop := { store := { catalog } }
    ∃ shown : Connection LoadedProduct, shown.nodes.map (fun node => node.product.id) = [7, 8, 9] ∧
      ∀ node ∈ shown.nodes,
        SameAnswer (shop.images node) (shop.images (.bare node.product)) ∧
        SameAnswer (shop.variants node) (shop.variants (.bare node.product)) ∧
        SameAnswer (shop.productCategory node) (shop.productCategory (.bare node.product)) ∧
        (∀ size, SameAnswer (shop.thumbnailUrl node size)
          (shop.thumbnailUrl (.bare node.product) size)) ∧
        SameAnswer (shop.offer node) (shop.offer (.bare node.product)) := by
  have checked : Forest.check Seed.cellar.arranged.categories = .ok () := by cbv
  have accepted := Catalog.ofSeed_of_check checked
  have paged : ((fun page => page.nodes.map fun node => node.product.id) <$>
      ({ store := { catalog := ⟨_, _, rfl, checked⟩ } } : Shop).products
        { id := 1, name := "Wine", slug := "wine" } {} {}).result
          { context := { today := ⟨2024, 6, 1, by decide⟩ } } = some (.ok [7, 8, 9]) := by
    cbv
  have found : Catalog.category? ⟨_, _, rfl, checked⟩ 1 =
    some { id := 1, name := "Wine", slug := "wine" } := by cbv
  generalize (⟨_, _, rfl, checked⟩ : Catalog) = catalog at accepted paged found
  have stored : ({ store := { catalog } } : Shop).store = { catalog } := rfl
  have distinct : (catalog.categories.map Category.id).Nodup :=
    Catalog.distinct_categories accepted (by decide)
  have sound := Forest.sound_of_check catalog.checked (Forest.agreeing_of_nodup distinct)
  obtain ⟨after, ran⟩ := result_eq_some.mp paged
  obtain ⟨shown, listed, ids⟩ := runFrom_map_eq_ok.mp ran
  obtain ⟨between, looked, -⟩ :=
    Shop.runFrom_category stored sound 1 { context := { today := ⟨2024, 6, 1, by decide⟩ } }
  rw [found] at looked
  exact ⟨catalog, accepted, shown, ids,
    Shop.prefetched_as_alone accepted (by decide) stored looked listed⟩

end Answers

end Storefront
