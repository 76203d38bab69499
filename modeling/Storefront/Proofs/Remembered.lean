import Storefront.Proofs.Traversal
/-!
Remembered chains. However the look-ups of one request overlap and in whatever order they come,
every chain in its context is the one that the catalog would answer with, provided that no two
categories have one id. A chain that is not remembered is fetched, so what is told about a
category does not depend on what was looked up before.
-/

namespace Storefront

open Access Relation

inductive Lookup where
  | category (id : Int64)
  | product (id : Int64)
  | products (category : Category) (filter : ProductFilter) (page : PageArgs)
  | entity (id : GlobalId)
  | entityByText (text : String)
  deriving DecidableEq

namespace Shop

def lookUp (shop : Shop) : Lookup → Access Unit
  | .category id => (fun _ => ()) <$> shop.category id
  | .product id => (fun _ => ()) <$> shop.product id
  | .products category filter page => (fun _ => ()) <$> shop.products category filter page
  | .entity id => (fun _ => ()) <$> shop.entity id
  | .entityByText text => (fun _ => ()) <$> shop.entityByText text

/-- What the operations, one after the other, leave of a session. One that fails does not keep
the next from being carried out. -/
def after (shop : Shop) (lookups : List Lookup) (session : Session) : Walk Session :=
  lookups.foldlM (fun session lookup => ((shop.lookUp lookup).runFrom session).map Prod.snd) session

end Shop

variable {seed : Seed} {catalog : Catalog} {shop : Shop} {rows : List Category}

namespace Context

def Exact (rows : List Category) (context : Context) : Prop := context.openLineage.Exact rows

theorem exact_fresh {context : Context} (fresh : context.lineage = none) : context.Exact rows := by
  rw [Exact, openLineage, fresh]
  exact Lineage.exact_empty

theorem chain_openLineage (context : Context) (id : Int64) :
    (context.lineage.bind fun lineage => lineage.chain? id) = context.openLineage.chain? id := by
  cases same : context.lineage with
  | none => rw [openLineage, same]; rfl
  | some lineage => rw [openLineage, same]; rfl

theorem fills_of_remember (acyclic : Forest.Acyclic rows) {tree : Subtree}
    (within : tree.nodes ⊆ rows) {before after : Context} {rootChain : List Category}
    (remembered : before.remember tree rootChain = some after) :
    Lineage.Fills (fun lower => TransGen (Forest.Child tree.nodes) lower tree.root.id)
      (before.openLineage.insert tree.root.id rootChain) after.openLineage := by
  obtain ⟨lineage, filled, rfl⟩ := Option.map_eq_some_iff.mp remembered
  obtain ⟨other, again, fills⟩ := Lineage.populate_fills
    ((acyclic.subset within).child_wellFounded.apply tree.root.id) before.openLineage rootChain
  rw [filled] at again
  cases again
  exact fills

theorem Exact.remember {context after : Context} (exact : context.Exact rows)
    (distinct : (rows.map Category.id).Nodup) {tree : Subtree} {rootChain : List Category}
    (within : tree.nodes ⊆ rows) (leads : Lineage.Leads rows (tree.root, rootChain))
    (remembered : context.remember tree rootChain = some after) : after.Exact rows := by
  obtain ⟨lineage, filled, same⟩ := Option.map_eq_some_iff.mp remembered
  subst same
  exact Lineage.Exact.populate within distinct exact leads filled

end Context

theorem Catalog.leads_of_subtree {id : Int64} {tree : Subtree} {chain : List Category}
    (fetched : catalog.subtree? id = some (some tree))
    (climbed : catalog.ancestors id = some (.ok chain)) :
    Lineage.Leads catalog.categories (tree.root, chain) := by
  obtain ⟨found, -⟩ := subtree_eq_some fetched
  have same : tree.root.id = id := (Forest.find_mem found).2
  have above := ancestors_eq_ok_iff.mp climbed
  rw [found, Option.bind_some] at above
  exact ⟨by rw [same]; exact found, above⟩

section Ending

theorem Catalog.answer_isSome (sound : Forest.Sound catalog.categories) (query : Query) :
    (catalog.answer query).run.isSome := by
  have traversable := fun id => traversable_of_acyclic sound.acyclic id
  cases query with
  | categoryTree id =>
      rw [run_answer_categoryTree, Option.isSome_map]
      exact (traversable id).subtree
  | ancestors id =>
      obtain ⟨chain, -, climbed⟩ := (traversable id).upward
      rw [run_answer_ancestors, climbed]
      rfl
  | descendants id withSelf =>
      rw [run_answer_descendants, Option.isSome_map]
      exact (traversable id).downward withSelf
  | _ => rfl

end Ending

section Steps

namespace Shop

variable {kept : Context → Prop}

theorem keeps_scope (shop : Shop) : Keeps kept shop.scope :=
  Keeps.context.bind fun _ => Keeps.pure _

variable (stored : shop.store = { catalog }) (sound : Forest.Sound catalog.categories)

include stored sound

theorem keeps_query (query : Query) : Keeps kept (shop.ask query) :=
  keeps_ask stored (Catalog.answer_isSome sound query)

theorem keeps_product (id : Int64) : Keeps kept (shop.product id) :=
  (keeps_scope shop).bind fun _ => (keeps_query stored sound _).bind fun _ => Keeps.pure _

theorem keeps_wanted (pairs : List AttributePair) : Keeps kept (shop.wanted pairs) := by
  apply (keeps_query stored sound .attributes).bind
  intro attributes
  by_cases unknown : (pairs.filterMap (attributeIdOf? attributes)).isEmpty = true
  · rw [if_pos unknown]
    exact Keeps.pure _
  · rw [if_neg unknown]
    exact (keeps_query stored sound _).bind fun _ => Keeps.pure _

theorem keeps_choose (filter : ProductFilter) (products : List Product) :
    Keeps kept (shop.choose filter products) := by
  unfold choose
  by_cases free : filter.attributes.isEmpty = true
  · rw [if_pos free]
    exact Keeps.pure _
  · rw [if_neg free]
    exact (keeps_wanted stored sound _).bind fun _ => Keeps.pure _

theorem keeps_stocks (variants : List Variant) : Keeps kept (shop.stocks variants) := by
  unfold stocks
  by_cases empty : variants.isEmpty = true
  · rw [if_pos empty]
    exact Keeps.pure _
  · rw [if_neg empty]
    exact keeps_query stored sound _

theorem keeps_load (products : List Product) (category : Category) :
    Keeps kept (shop.load products category) := by
  unfold load
  by_cases empty : products.isEmpty = true
  · rw [if_pos empty]
    exact Keeps.pure _
  · rw [if_neg empty]
    apply (keeps_query stored sound _).bind
    intro images
    apply (keeps_query stored sound _).bind
    intro variants
    exact (keeps_stocks stored sound variants).bind fun _ => Keeps.pure _

theorem keeps_products (category : Category) (filter : ProductFilter) (page : PageArgs) :
    Keeps kept (shop.products category filter page) := by
  apply (keeps_scope shop).bind
  intro scope
  apply (keeps_query stored sound _).bind
  intro rows
  apply (keeps_choose stored sound filter _).bind
  intro chosen
  apply (Keeps.ofExcept _).bind
  intro shown
  exact (keeps_load stored sound _ category).bind fun _ => Keeps.pure _

theorem keeps_category (distinct : (catalog.categories.map Category.id).Nodup) (id : Int64) :
    Keeps (Context.Exact catalog.categories) (shop.category id) := by
  intro session exact
  obtain ⟨after, ran, unchanged | ⟨tree, chain, fetched, climbed, remembered⟩⟩ :=
    runFrom_category stored sound id session
  · exact ⟨_, after, ran, by rwa [unchanged]⟩
  · have leads := Catalog.leads_of_subtree fetched climbed
    have within := Forest.descendants_subset (Catalog.subtree_eq_some fetched).2
    exact ⟨_, after, ran, Context.Exact.remember exact distinct within leads remembered⟩

theorem keeps_owned {Row : Type} (owner : Row → Int64) (found : Option Row)
    {entity : Row → Access Entity} (others : ∀ row, Keeps kept (entity row)) :
    Keeps kept (shop.owned owner found entity) := by
  cases found with
  | none => exact Keeps.pure _
  | some row =>
      apply (keeps_product stored sound (owner row)).bind
      intro shown
      by_cases missing : shown.isNone = true
      · rw [if_pos missing]
        exact Keeps.pure _
      · rw [if_neg missing]
        exact (others row).bind fun _ => Keeps.pure _

theorem keeps_entity {id : GlobalId}
    (looked : id.kind = .category → Keeps kept (shop.category id.key)) :
    Keeps kept (shop.entity id) := by
  unfold entity
  cases kind : id.kind with
  | product => exact (keeps_product stored sound id.key).bind fun _ => Keeps.pure _
  | category => exact (looked kind).bind fun _ => Keeps.pure _
  | variant =>
      apply (keeps_query stored sound _).bind
      intro found
      apply keeps_owned stored sound
      exact fun variant => (keeps_query stored sound _).bind fun _ => Keeps.pure _
  | image =>
      apply (keeps_query stored sound _).bind
      intro found
      apply keeps_owned stored sound
      exact fun image => Keeps.pure _
  | attr => exact (keeps_query stored sound _).bind fun _ => Keeps.pure _
  | attributeValue => exact (keeps_query stored sound _).bind fun _ => Keeps.pure _

theorem keeps_lookUp (distinct : (catalog.categories.map Category.id).Nodup) (lookup : Lookup) :
    Keeps (Context.Exact catalog.categories) (shop.lookUp lookup) := by
  cases lookup with
  | category id => exact (keeps_category stored sound distinct id).map _
  | product id => exact (keeps_product stored sound id).map _
  | products category filter page => exact (keeps_products stored sound category filter page).map _
  | entity id =>
      have looked := keeps_entity stored sound fun _ => keeps_category stored sound distinct id.key
      exact looked.map _
  | entityByText text =>
      refine Keeps.map _ ((Keeps.ofExcept _).bind fun id => ?_)
      exact keeps_entity stored sound fun _ => keeps_category stored sound distinct id.key

end Shop

end Steps

section Requests

theorem Shop.after_exact (stored : shop.store = { catalog })
    (sound : Forest.Sound catalog.categories)
    (distinct : (catalog.categories.map Category.id).Nodup) (lookups : List Lookup)
    {session : Session} (exact : session.context.Exact catalog.categories) :
    ∃ after, shop.after lookups session = some after ∧
      after.context.Exact catalog.categories := by
  -- What carries the induction is that every operation leaves exact chains behind.
  induction lookups generalizing session with
  | nil => exact ⟨session, rfl, exact⟩
  | cons lookup rest ih =>
      obtain ⟨reached, middle, ran, kept⟩ := keeps_lookUp stored sound distinct lookup session exact
      obtain ⟨after, others, last⟩ := ih kept
      refine ⟨after, ?_, last⟩
      rw [Shop.after, List.foldlM_cons, ran]
      exact others

theorem Shop.runFrom_ancestors_remembered (shop : Shop) {category : Category}
    {chain : List Category} {session : Session}
    (remembered : session.context.openLineage.chain? category.id = some chain) :
    (shop.ancestors category).runFrom session = some (.ok chain, session) := by
  rw [ancestors, runFrom_bind, runFrom_context, Option.bind_some]
  simp only [Context.chain_openLineage, remembered]
  rfl

/-- Whatever was remembered before, after a look-up it is the chain that the catalog has. -/
theorem Shop.runFrom_category_chain (stored : shop.store = { catalog })
    (sound : Forest.Sound catalog.categories) {id : Int64} {root : Category}
    (found : catalog.category? id = some root) :
    ∃ chain, catalog.ancestors id = some (.ok chain) ∧ ∀ session, ∃ after : Session,
      (shop.category id).runFrom session = some (.ok (some root), after) ∧
      after.context.SameRequest session.context ∧
      (shop.ancestors root).runFrom after = some (.ok chain, after) := by
  obtain ⟨chain, climbed⟩ := catalog.ancestors_exist sound id
  refine ⟨chain, climbed, fun session => ?_⟩
  obtain ⟨nodes, other, after, fetched, again, kept, ran⟩ :=
    runFrom_category_some stored sound found session
  rw [climbed] at again
  cases again
  have within := Forest.descendants_subset (Catalog.subtree_eq_some fetched).2
  have fills := Context.fills_of_remember sound.acyclic within kept
  -- The root is not below itself, so its chain is not given another time.
  have outside : ¬ TransGen (Forest.Child nodes) root.id root.id :=
    sound.acyclic.subset within root.id
  refine ⟨after, ran, Context.sameRequest_remember kept, shop.runFrom_ancestors_remembered ?_⟩
  rw [fills.others root.id outside, Lineage.chain_insert, if_pos rfl]

theorem Shop.result_ancestors (stored : shop.store = { catalog }) (category : Category)
    {session : Session} (exact : session.context.Exact catalog.categories) :
    (shop.ancestors category).result session = catalog.ancestors category.id := by
  rw [result, ancestors, runFrom_bind, runFrom_context, Option.bind_some]
  simp only [Context.chain_openLineage]
  cases remembered : session.context.openLineage.chain? category.id with
  | some chain => exact (Catalog.ancestors_eq_ok_iff.mpr (exact category.id chain remembered)).symm
  | none =>
      simp only [runFrom_ask stored, Option.map_map]
      exact Option.map_id'

theorem Shop.result_categoryUrl (shop : Shop) (category : Category) (session : Session) :
    (shop.categoryUrl category).result session =
      ((shop.ancestors category).result session).map (Except.map category.url) := by
  rw [categoryUrl, bind_pure_comp, result_map]

/-- After any look-ups the remembered chains are as good as fetched ones, for every category, and
its address is the one that it has in a context where nothing is remembered. -/
theorem Shop.ancestors_after (accepted : Catalog.ofSeed seed = .ok catalog)
    (distinct : (seed.categories.map Category.id).Nodup) (stored : shop.store = { catalog })
    {fresh : Session} (unused : fresh.context.lineage = none) (lookups : List Lookup) :
    ∃ after, shop.after lookups fresh = some after ∧ ∀ category : Category,
      ∃ chain, catalog.ancestors category.id = some (.ok chain) ∧
        (shop.ancestors category).result after = some (.ok chain) ∧
        (shop.categoryUrl category).result after = some (.ok (category.url chain)) ∧
        ∀ other : Session, other.context.lineage = none →
          (shop.categoryUrl category).result other = some (.ok (category.url chain)) := by
  have separate := Catalog.distinct_categories accepted distinct
  have sound := Forest.sound_of_check catalog.checked (Forest.agreeing_of_nodup separate)
  obtain ⟨after, ran, exact⟩ :=
    after_exact stored sound separate lookups (Context.exact_fresh unused)
  refine ⟨after, ran, fun category => ?_⟩
  obtain ⟨chain, climbed⟩ := catalog.ancestors_exist sound category.id
  have remembered := result_ancestors stored category exact
  refine ⟨chain, climbed, remembered.trans climbed, ?_, fun other empty => ?_⟩
  · rw [result_categoryUrl, remembered, climbed]
    rfl
  · rw [result_categoryUrl, result_ancestors stored category (Context.exact_fresh empty), climbed]
    rfl

def Seed.nested : Seed where
  categories :=
    [{ id := 1, name := "Food", slug := "food" },
      { id := 2, name := "Cheese", slug := "cheese", parentId := some 1 },
      { id := 3, name := "Blue", slug := "blue", parentId := some 2 },
      { id := 4, name := "Drinks", slug := "drinks" },
      { id := 5, name := "Wine", slug := "wine", parentId := some 4 }]
  products :=
    [{ id := 7, name := "Stilton", categoryId := 3, productTypeId := 1, price := ⟨900, .gbp⟩ }]

/-- The chain of the blue cheese is remembered by then, that of the wine is not. -/
theorem Shop.ancestors_after_nested : ∃ catalog, Catalog.ofSeed .nested = .ok catalog ∧
    let shop : Shop := { store := { catalog } }
    let fresh : Session := { context := { today := ⟨2024, 6, 1, by decide⟩ } }
    let blue : Category := ⟨3, "Blue", "blue", "", some 2⟩
    let wine : Category := ⟨5, "Wine", "wine", "", some 4⟩
    ∃ after, shop.after [.category 3, .product 7, .category 1] fresh = some after ∧
      (shop.ancestors blue).result after =
        some (.ok [⟨1, "Food", "food", "", none⟩, ⟨2, "Cheese", "cheese", "", some 1⟩]) ∧
      (shop.categoryUrl blue).result after =
        some (.ok "/products/category/food/cheese/blue-3/") ∧
      (shop.categoryUrl blue).result fresh =
        some (.ok "/products/category/food/cheese/blue-3/") ∧
      (shop.ancestors wine).result after = some (.ok [⟨4, "Drinks", "drinks", "", none⟩]) ∧
      (shop.categoryUrl wine).result after = some (.ok "/products/category/drinks/wine-5/") ∧
      (shop.categoryUrl wine).result fresh = some (.ok "/products/category/drinks/wine-5/") := by
  obtain ⟨catalog, accepted, rows⟩ := Catalog.exists_of_check .nested (by cbv) (by cbv)
  have stored : ({ store := { catalog } } : Shop).store = { catalog } := rfl
  have unused : (Session.mk { today := ⟨2024, 6, 1, by decide⟩ } [] 0).context.lineage = none := rfl
  have food : Forest.Above Seed.nested.categories (some 1)
      ([] ++ [⟨1, "Food", "food", "", none⟩]) := .step rfl .top
  have cheese : Forest.find? Seed.nested.categories 2 =
    some ⟨2, "Cheese", "cheese", "", some 1⟩ := rfl
  have drinks : Forest.Above Seed.nested.categories (some 4)
      ([] ++ [⟨4, "Drinks", "drinks", "", none⟩]) := .step rfl .top
  have overBlue : catalog.ancestors 3 =
      some (.ok [⟨1, "Food", "food", "", none⟩, ⟨2, "Cheese", "cheese", "", some 1⟩]) := by
    rw [Catalog.ancestors_eq_ok_iff, Catalog.category?, rows]
    exact .step cheese food
  have overWine : catalog.ancestors 5 = some (.ok [⟨4, "Drinks", "drinks", "", none⟩]) := by
    rw [Catalog.ancestors_eq_ok_iff, Catalog.category?, rows]
    exact drinks
  obtain ⟨after, ran, told⟩ :=
    ancestors_after accepted (by decide) stored unused [.category 3, .product 7, .category 1]
  obtain ⟨chain, climbed, blueChain, blueUrl, blueFresh⟩ := told ⟨3, "Blue", "blue", "", some 2⟩
  obtain rfl := Except.ok.inj (Option.some.inj (climbed.symm.trans overBlue))
  obtain ⟨chain, climbed, wineChain, wineUrl, wineFresh⟩ := told ⟨5, "Wine", "wine", "", some 4⟩
  obtain rfl := Except.ok.inj (Option.some.inj (climbed.symm.trans overWine))
  have blueText : Category.url ⟨3, "Blue", "blue", "", some 2⟩
      [⟨1, "Food", "food", "", none⟩, ⟨2, "Cheese", "cheese", "", some 1⟩] =
        "/products/category/food/cheese/blue-3/" := by decide
  have wineText : Category.url ⟨5, "Wine", "wine", "", some 4⟩ [⟨4, "Drinks", "drinks", "", none⟩] =
      "/products/category/drinks/wine-5/" := by decide
  rw [blueText] at blueUrl blueFresh
  rw [wineText] at wineUrl wineFresh
  exact ⟨catalog, accepted, after, ran, blueChain, blueUrl, blueFresh _ unused, wineChain, wineUrl,
    wineFresh _ unused⟩

end Requests

end Storefront
