import Storefront.Proofs.Prefetch
import Storefront.Proofs.Windows
/-!
The products of a category, a page at a time. What the scope and the filter leave of the category
stands in one order only, and a page shows its window of that list, each product with all that
belongs to it.
-/

namespace Storefront

open Access

section Ordering

namespace SortKey

def Ahead (sortKey : SortKey) (left right : Product) : Prop :=
  match sortKey with
  | nameAscending => left.name < right.name
  | nameDescending => right.name < left.name
  | priceAscending => left.price.amount < right.price.amount
  | priceDescending => right.price.amount < left.price.amount

def Tied (sortKey : SortKey) (left right : Product) : Prop :=
  match sortKey with
  | nameAscending | nameDescending => left.name = right.name
  | priceAscending | priceDescending => left.price.amount = right.price.amount

variable {sortKey : SortKey} {left right : Product}

theorem before_trans (sortKey : SortKey) (first second third : Product)
    (one : sortKey.before first second = true) (two : sortKey.before second third = true) :
    sortKey.before first third = true := by
  cases sortKey <;> simp only [before, decide_eq_true_eq] at one two ⊢
  · exact String.le_trans one two
  · exact String.le_trans two one
  · exact Int64.le_trans one two
  · exact Int64.le_trans two one

theorem before_total (sortKey : SortKey) (left right : Product) :
    (sortKey.before left right || sortKey.before right left) = true := by
  cases sortKey <;> simp only [before, Bool.or_eq_true, decide_eq_true_eq]
  · exact String.le_total left.name right.name
  · exact String.le_total right.name left.name
  · exact Int64.le_total left.price.amount right.price.amount
  · exact Int64.le_total right.price.amount left.price.amount

theorem ahead_iff : sortKey.Ahead left right ↔ ¬ sortKey.before right left = true := by
  cases sortKey <;> simp only [Ahead, before, decide_eq_true_eq]
  · exact String.not_le.symm
  · exact String.not_le.symm
  · exact Int64.not_le.symm
  · exact Int64.not_le.symm

theorem tied_iff : sortKey.Tied left right ↔
    sortKey.before left right = true ∧ sortKey.before right left = true := by
  cases sortKey <;> simp only [Tied, before, decide_eq_true_eq]
  · exact le_antisymm_iff
  · exact le_antisymm_iff.trans and_comm
  · exact Int64.le_antisymm_iff
  · exact Int64.le_antisymm_iff.trans and_comm

end SortKey

namespace ProductFilter

/-- By the sort key, if there is one, and by id where it does not decide. -/
def Precedes (filter : ProductFilter) (left right : Product) : Prop :=
  match filter.sortBy with
  | none => left.id < right.id
  | some sortKey => sortKey.Ahead left right ∨ sortKey.Tied left right ∧ left.id < right.id

variable {filter : ProductFilter} {left right : Product}

theorem Precedes.asymm (precedes : filter.Precedes left right) : ¬ filter.Precedes right left := by
  unfold Precedes at precedes ⊢
  intro back
  cases given : filter.sortBy with
  | none =>
      rw [given] at precedes back
      exact Int64.lt_asymm precedes back
  | some sortKey =>
      rw [given] at precedes back
      simp only [SortKey.ahead_iff, SortKey.tied_iff] at precedes back
      obtain first | ⟨⟨least, most⟩, first⟩ := precedes
      · obtain second | ⟨⟨most, _⟩, _⟩ := back
        · have total := sortKey.before_total left right
          rw [Bool.or_eq_true] at total
          exact total.elim second first
        · exact first most
      · obtain second | ⟨_, second⟩ := back
        · exact second least
        · exact Int64.lt_asymm first second

theorem order_precedes {products : List Product}
    (ascending : products.Pairwise fun left right => left.id < right.id) :
    (filter.order products).Pairwise filter.Precedes := by
  unfold order Precedes
  cases filter.sortBy with
  | none => exact ascending
  | some sortKey =>
      refine (mergeSort_stable sortKey.before_trans sortKey.before_total ascending).imp ?_
      intro left right ⟨least, stable⟩
      by_cases most : sortKey.before right left = true
      · exact .inr ⟨SortKey.tied_iff.mpr ⟨least, most⟩, stable most⟩
      · exact .inl (SortKey.ahead_iff.mpr most)

end ProductFilter

end Ordering

variable {seed : Seed} {catalog : Catalog} {shop : Shop}

section Listed

namespace Catalog

/-- The products that pass, each once and in order. -/
structure Lists (catalog : Catalog) (scope : Scope) (category : Category) (filter : ProductFilter)
    (products listed : List Product) : Prop where
  members : ∀ product,
    product ∈ listed ↔ product ∈ products ∧ catalog.Passes scope category filter product
  ordered : listed.Pairwise filter.Precedes

variable {scope : Scope} {category : Category} {filter : ProductFilter}

theorem Lists.eq {products first second : List Product}
    (one : catalog.Lists scope category filter products first)
    (two : catalog.Lists scope category filter products second) : first = second :=
  eq_of_ordered ProductFilter.Precedes.asymm one.ordered two.ordered fun product =>
    (one.members product).trans (two.members product).symm

theorem products_ascending (accepted : ofSeed seed = .ok catalog)
    (distinct : (seed.products.map Product.id).Nodup) :
    catalog.rows.products.Pairwise fun left right => left.id < right.id := by
  rw [ofSeed_eq_ok accepted]
  exact Seed.byId_ascending distinct

theorem lists_listing (accepted : ofSeed seed = .ok catalog)
    (distinct : (seed.products.map Product.id).Nodup) (scope : Scope) (category : Category)
    (filter : ProductFilter) : catalog.Lists scope category filter seed.products
      (catalog.listing scope category filter) where
  members product := by
    rw [mem_listing, ofSeed_eq_ok accepted]
    exact and_congr_left' (Seed.byId_perm Product.id seed.products).mem_iff
  ordered :=
    ProductFilter.order_precedes ((products_ascending accepted distinct).sublist selected_sublist)

end Catalog

end Listed

section Shown

namespace Shop

theorem runFrom_products (stored : shop.store = { catalog })
    (distinct : (catalog.rows.products.map Product.id).Nodup) {category : Category}
    {filter : ProductFilter} {args : PageArgs} {session : Session} {listed : List Product}
    (listing : catalog.listing (shop.scopeIn session.context) category filter = listed)
    {window : Window} (asked : args.window listed.length = .ok window) :
    ∃ after, (shop.products category filter args).runFrom session =
      some (.ok ((Connection.ofWindow listed window).zipNodes
        ((Connection.ofWindow listed window).nodes.map (catalog.loaded category))), after) := by
  subst listing
  have cut := Connection.ofList_eq_ok asked
  have once := (Catalog.nodup_listing distinct).sublist
    ((Connection.nodes_sublist cut).map Product.id)
  obtain ⟨after, ran, -⟩ := runFrom_products_of_cut stored cut
  rw [Catalog.fetched_eq_map catalog category once] at ran
  exact ⟨after, ran⟩

/-- A page shows its window of the one list that the scope and the filter leave. -/
theorem products_exact (accepted : Catalog.ofSeed seed = .ok catalog)
    (distinct : (seed.products.map Product.id).Nodup) (stored : shop.store = { catalog })
    (category : Category) (filter : ProductFilter) {args : PageArgs} (readable : args.Readable)
    (session : Session) :
    ∃ listed window page after,
      (∀ other, catalog.Lists (shop.scopeIn session.context) category filter seed.products other ↔
        other = listed) ∧
      args.window listed.length = .ok window ∧
      (shop.products category filter args).runFrom session = some (.ok page, after) ∧
      page.Shows (listed.map (catalog.loaded category)) window := by
  have separate : (catalog.rows.products.map Product.id).Nodup :=
    List.pairwise_map.mpr ((Catalog.products_ascending accepted distinct).imp Int64.ne_of_lt)
  have lists := Catalog.lists_listing accepted distinct (shop.scopeIn session.context) category
    filter
  generalize listing : catalog.listing (shop.scopeIn session.context) category filter = listed
    at lists
  obtain ⟨window, asked, -, within⟩ := readable.window listed.length
  obtain ⟨after, ran⟩ := runFrom_products stored separate listing asked
  refine ⟨listed, window, _, after, fun other => ⟨fun also => also.eq lists, ?_⟩, asked, ran, ?_⟩
  · rintro rfl
    exact lists
  · exact (Connection.shows_ofWindow listed within).zipNodes (catalog.loaded category)

/-- The dearest wine first; of three pages with one wine each the second. -/
theorem products_exact_cellar : ∃ catalog, Catalog.ofSeed .cellar = .ok catalog ∧
    ∃ page after,
      (({ store := { catalog } } : Shop).products { id := 1, name := "Wine", slug := "wine" }
        { sortBy := some .priceDescending }
        { first := some 1, after := some (Cursor.encode 0) }).runFrom
          { context := { today := ⟨2024, 6, 1, by decide⟩ } } = some (.ok page, after) ∧
      page.totalCount = 3 ∧ page.edges.map Edge.cursor = [Cursor.encode 1] ∧
      ∀ edge ∈ page.edges, edge.node.product.name = "Sherry" := by
  have checked : Forest.check Seed.cellar.arranged.categories = .ok () := by cbv
  have accepted := Catalog.ofSeed_of_check checked
  generalize (⟨_, _, rfl, checked⟩ : Catalog) = catalog at accepted
  have readable : PageArgs.Readable { first := some 1, after := some (Cursor.encode 0) } :=
    { after := by
        rintro cursor ⟨⟩
        exact ⟨_, Cursor.decode_encode (by decide)⟩
      before := by simp }
  have stored : ({ store := { catalog } } : Shop).store = { catalog } := rfl
  obtain ⟨listed, window, page, after, unique, asked, ran, shows⟩ :=
    products_exact accepted (by decide) stored { id := 1, name := "Wine", slug := "wine" }
      { sortBy := some .priceDescending } readable
      { context := { today := ⟨2024, 6, 1, by decide⟩ } }
  have lists : catalog.Lists (.availableOn ⟨2024, 6, 1, by decide⟩)
      { id := 1, name := "Wine", slug := "wine" } { sortBy := some .priceDescending }
      Seed.cellar.products (Seed.cellar.products.rotate 1) :=
    { members := by
        intro product
        rw [List.mem_rotate, iff_self_and]
        intro member
        exact {
          belongs := by revert product; decide
          admitted := by revert product; decide
          atLeast := by simp
          atMost := by simp
          hasWanted := rfl }
      ordered := by simp [Seed.cellar, ProductFilter.Precedes, SortKey.Ahead] }
  obtain rfl : Seed.cellar.products.rotate 1 = listed := (unique _).mp lists
  have low : PageArgs.lower { first := some 1, after := some (Cursor.encode 0) } 3 = .ok 1 :=
    PageArgs.lower_encode rfl (show 0 < UInt64.size by decide)
  -- The third wine is left out, so there is a next page.
  have second : window = ⟨1, 2, false, true⟩ :=
    Except.ok.inj (asked.symm.trans (PageArgs.window_eq low rfl))
  subst second
  have cursors : page.edges.map Edge.cursor = [Cursor.encode 1] := shows.cursors
  refine ⟨catalog, accepted, page, after, ran, shows.total, cursors, fun edge member => ?_⟩
  have named : edge.cursor = Cursor.encode 1 :=
    List.mem_singleton.mp (cursors ▸ List.mem_map_of_mem member)
  have name := congrArg (Option.map fun node => node.product.name)
    (shows.nodes edge member 1 named)
  exact (Option.some.inj name).symm

end Shop

end Shown

end Storefront
