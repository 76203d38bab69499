import Storefront.Proofs.Hidden
import Storefront.Proofs.Rearranged
import Storefront.Proofs.Replies
/-!
Entities by their global id. What is found under an id is the row of its kind and key, provided
that the requester may see it: a product if the scope admits it, a variant or an image if the
product that it names is there and admitted, and everything else whoever asks. Nothing but a row
that is missing or hidden keeps an entity from being found.
-/

namespace Storefront

open Access

variable {seed : Seed} {catalog : Catalog} {shop : Shop} {scope : Scope} {context : Context}

section Rows

namespace Seed

def ShowsProduct (seed : Seed) (scope : Scope) (id : Int64) : Prop :=
  ∃ product ∈ seed.products, product.id = id ∧ scope.admits product = true

/-- All that is held of the variant, in the order of ids. -/
structure Holds (seed : Seed) (variant : Variant) (stocks : List Stock) : Prop where
  members : ∀ stock, stock ∈ stocks ↔ stock ∈ seed.stocks ∧ stock.variantId = variant.id
  ordered : stocks.Pairwise fun left right => left.id < right.id

/-- The entities that the seed has for those with the scope. -/
inductive Shows (seed : Seed) (scope : Scope) : Entity → Prop where
  | product {row : Product} (listed : row ∈ seed.products) (admitted : scope.admits row = true) :
      Shows seed scope (.product (.bare row))
  | category {row : Category} (listed : row ∈ seed.categories) : Shows seed scope (.category row)
  | variant {row : Variant} {stocks : List Stock} (listed : row ∈ seed.variants)
      (owned : seed.ShowsProduct scope row.productId) (held : seed.Holds row stocks) :
      Shows seed scope (.variant ⟨row, stocks⟩)
  | image {row : Image} (listed : row ∈ seed.images)
      (owned : seed.ShowsProduct scope row.productId) : Shows seed scope (.image row)
  | attr {row : Attribute} (listed : row ∈ seed.attributes) : Shows seed scope (.attr row)
  | attributeValue {row : Choice} (listed : row ∈ seed.choices) :
      Shows seed scope (.attributeValue row)

def Has (seed : Seed) (scope : Scope) (id : GlobalId) : Prop :=
  match id.kind with
  | .product => seed.ShowsProduct scope id.key
  | .category => ∃ row ∈ seed.categories, row.id = id.key
  | .variant => ∃ row ∈ seed.variants, row.id = id.key ∧ seed.ShowsProduct scope row.productId
  | .image => ∃ row ∈ seed.images, row.id = id.key ∧ seed.ShowsProduct scope row.productId
  | .attr => ∃ row ∈ seed.attributes, row.id = id.key
  | .attributeValue => ∃ row ∈ seed.choices, row.id = id.key

theorem Holds.eq {variant : Variant} {first second : List Stock} (one : seed.Holds variant first)
    (two : seed.Holds variant second) : first = second :=
  eq_of_ordered Int64.lt_asymm one.ordered two.ordered fun stock =>
    (one.members stock).trans (two.members stock).symm

theorem exists_holds (distinct : (seed.stocks.map Stock.id).Nodup) (variant : Variant) :
    ∃ stocks, seed.Holds variant stocks := by
  let own := seed.stocks.filter fun stock => stock.variantId = variant.id
  have separate : (own.map Stock.id).Nodup := distinct.sublist (List.filter_sublist.map Stock.id)
  refine ⟨byId Stock.id own, fun stock => ?_, byId_ascending separate⟩
  rw [(byId_perm Stock.id own).mem_iff, List.mem_filter, decide_eq_true_eq]

theorem has_iff (distinct : (seed.stocks.map Stock.id).Nodup) {id : GlobalId} :
    seed.Has scope id ↔ ∃ entity, seed.Shows scope entity ∧ entity.globalId = id := by
  rcases id with ⟨kind, key⟩
  constructor
  · intro has
    cases kind with
    | product =>
        rcases has with ⟨row, listed, rfl, admitted⟩
        exact ⟨_, .product listed admitted, rfl⟩
    | category =>
        rcases has with ⟨row, listed, rfl⟩
        exact ⟨_, .category listed, rfl⟩
    | variant =>
        rcases has with ⟨row, listed, rfl, owned⟩
        rcases exists_holds distinct row with ⟨stocks, held⟩
        exact ⟨_, .variant listed owned held, rfl⟩
    | image =>
        rcases has with ⟨row, listed, rfl, owned⟩
        exact ⟨_, .image listed owned, rfl⟩
    | attr =>
        rcases has with ⟨row, listed, rfl⟩
        exact ⟨_, .attr listed, rfl⟩
    | attributeValue =>
        rcases has with ⟨row, listed, rfl⟩
        exact ⟨_, .attributeValue listed, rfl⟩
  · rintro ⟨entity, shows, named⟩
    cases shows with
    | product listed admitted =>
        cases named
        exact ⟨_, listed, rfl, admitted⟩
    | category listed =>
        cases named
        exact ⟨_, listed, rfl⟩
    | variant listed owned held =>
        cases named
        exact ⟨_, listed, rfl, owned⟩
    | image listed owned =>
        cases named
        exact ⟨_, listed, rfl, owned⟩
    | attr listed =>
        cases named
        exact ⟨_, listed, rfl⟩
    | attributeValue listed =>
        cases named
        exact ⟨_, listed, rfl⟩

end Seed

namespace Seed.Rearranges

variable {left right : Seed}

theorem symm (same : left.Rearranges right) : right.Rearranges left :=
  ⟨same.categories.symm, same.productTypes.symm, same.attributes.symm, same.choices.symm,
    same.products.symm, same.variants.symm, same.stocks.symm, same.images.symm⟩

theorem showsProduct (same : left.Rearranges right) {id : Int64}
    (shown : left.ShowsProduct scope id) : right.ShowsProduct scope id := by
  rcases shown with ⟨row, listed, named, admitted⟩
  exact ⟨row, same.products.mem_iff.mp listed, named, admitted⟩

theorem shows (same : left.Rearranges right) {entity : Entity} (shown : left.Shows scope entity) :
    right.Shows scope entity := by
  cases shown with
  | product listed admitted => exact .product (same.products.mem_iff.mp listed) admitted
  | category listed => exact .category (same.categories.mem_iff.mp listed)
  | variant listed owned held =>
      refine .variant (same.variants.mem_iff.mp listed) (same.showsProduct owned) ⟨?_, held.ordered⟩
      intro stock
      rw [held.members, same.stocks.mem_iff]
  | image listed owned =>
      exact .image (same.images.mem_iff.mp listed) (same.showsProduct owned)
  | attr listed => exact .attr (same.attributes.mem_iff.mp listed)
  | attributeValue listed => exact .attributeValue (same.choices.mem_iff.mp listed)

end Seed.Rearranges

theorem Seed.rearranges_arranged (seed : Seed) : seed.arranged.Rearranges seed where
  categories := byId_perm _ _
  productTypes := List.Perm.refl _
  attributes := byId_perm _ _
  choices := byGroup_perm _ _ _ _
  products := byId_perm _ _
  variants := byId_perm _ _
  stocks := byId_perm _ _
  images := byGroup_perm _ _ _ _

theorem Catalog.shows_iff (accepted : ofSeed seed = .ok catalog) {entity : Entity} :
    catalog.rows.Shows scope entity ↔ seed.Shows scope entity := by
  rw [ofSeed_eq_ok accepted]
  exact ⟨seed.rearranges_arranged.shows, seed.rearranges_arranged.symm.shows⟩

end Rows

def Seed.lagging : Seed :=
  { announcing with
    stocks :=
      [{ id := 2, variantId := 3, quantity := 4 }, { id := 3, variantId := 4, quantity := 1 },
        { id := 1, variantId := 3, quantity := 6 }] }

section Found

namespace Catalog

/-- The row of an id, unless the product that owns it is not shown. -/
def owned? {Row : Type} (catalog : Catalog) (scope : Scope) (owner : Row → Int64)
    (found : Option Row) : Option Row :=
  found.filter fun row => (catalog.visible? scope (owner row)).isSome

def entity? (catalog : Catalog) (scope : Scope) (id : GlobalId) : Option Entity :=
  match id.kind with
  | .product => (catalog.visible? scope id.key).map fun product => .product (.bare product)
  | .category => (catalog.category? id.key).map .category
  | .variant =>
      (catalog.owned? scope Variant.productId
        (catalog.rows.variants.find? fun variant => variant.id = id.key)).map
          fun variant => .variant (catalog.stocked variant)
  | .image =>
      (catalog.owned? scope Image.productId
        (catalog.rows.images.find? fun image => image.id = id.key)).map .image
  | .attr => (catalog.rows.attributes.find? fun attr => attr.id = id.key).map .attr
  | .attributeValue =>
      (catalog.rows.choices.find? fun choice => choice.id = id.key).map .attributeValue

variable (distinct : catalog.rows.Distinct)

include distinct

theorem visible_isSome_iff {id : Int64} :
    (catalog.visible? scope id).isSome = true ↔ catalog.rows.ShowsProduct scope id := by
  simp only [Option.isSome_iff_exists, visible_eq_some_iff distinct.products, Seed.ShowsProduct]

theorem owned_eq_some_iff {Row : Type} {owner : Row → Int64} {found : Option Row} {row : Row} :
    catalog.owned? scope owner found = some row ↔
      found = some row ∧ catalog.rows.ShowsProduct scope (owner row) := by
  rw [owned?, Option.filter_eq_some_iff, visible_isSome_iff distinct]

theorem entity_product {row : Product} (listed : row ∈ catalog.rows.products)
    (admitted : scope.admits row = true) :
    catalog.entity? scope ⟨.product, row.id⟩ = some (.product (.bare row)) := by
  have known := (visible_eq_some_iff distinct.products).mpr ⟨listed, rfl, admitted⟩
  exact Option.map_eq_some_iff.mpr ⟨row, known, rfl⟩

theorem entity_variant {row : Variant} (listed : row ∈ catalog.rows.variants)
    (owned : catalog.rows.ShowsProduct scope row.productId) :
    catalog.entity? scope ⟨.variant, row.id⟩ = some (.variant (catalog.stocked row)) := by
  have named := (find_eq_some_iff distinct.variants).mpr ⟨listed, rfl⟩
  exact Option.map_eq_some_iff.mpr ⟨row, (owned_eq_some_iff distinct).mpr ⟨named, owned⟩, rfl⟩

theorem entity_image {row : Image} (listed : row ∈ catalog.rows.images)
    (owned : catalog.rows.ShowsProduct scope row.productId) :
    catalog.entity? scope ⟨.image, row.id⟩ = some (.image row) := by
  have named := (find_eq_some_iff distinct.images).mpr ⟨listed, rfl⟩
  exact Option.map_eq_some_iff.mpr ⟨row, (owned_eq_some_iff distinct).mpr ⟨named, owned⟩, rfl⟩

theorem entity_attr {row : Attribute} (listed : row ∈ catalog.rows.attributes) :
    catalog.entity? scope ⟨.attr, row.id⟩ = some (.attr row) := by
  have known := (find_eq_some_iff distinct.attributes).mpr ⟨listed, rfl⟩
  exact Option.map_eq_some_iff.mpr ⟨row, known, rfl⟩

variable (ordered : catalog.rows.stocks.Pairwise fun left right => left.id < right.id)

include ordered

omit distinct in
theorem holds_stocked (variant : Variant) :
    catalog.rows.Holds variant (catalog.stocked variant).stocks where
  members stock := by rw [stocked, List.mem_filter, decide_eq_true_eq]
  ordered := ordered.sublist List.filter_sublist

theorem shows_of_entity {id : GlobalId} {entity : Entity}
    (found : catalog.entity? scope id = some entity) :
    catalog.rows.Shows scope entity ∧ entity.globalId = id := by
  rcases id with ⟨kind, key⟩
  cases kind <;> rcases Option.map_eq_some_iff.mp found with ⟨row, known, rfl⟩
  case product =>
      rcases (visible_eq_some_iff distinct.products).mp known with ⟨listed, rfl, admitted⟩
      exact ⟨.product listed admitted, rfl⟩
  case category =>
      rcases Forest.find_mem known with ⟨listed, rfl⟩
      exact ⟨.category listed, rfl⟩
  case variant =>
      rcases (owned_eq_some_iff distinct).mp known with ⟨named, owned⟩
      rcases (find_eq_some_iff distinct.variants).mp named with ⟨listed, rfl⟩
      exact ⟨.variant listed owned (holds_stocked ordered row), rfl⟩
  case image =>
      rcases (owned_eq_some_iff distinct).mp known with ⟨named, owned⟩
      rcases (find_eq_some_iff distinct.images).mp named with ⟨listed, rfl⟩
      exact ⟨.image listed owned, rfl⟩
  case attr =>
      rcases (find_eq_some_iff distinct.attributes).mp known with ⟨listed, rfl⟩
      exact ⟨.attr listed, rfl⟩
  case attributeValue =>
      rcases (find_eq_some_iff distinct.choices).mp known with ⟨listed, rfl⟩
      exact ⟨.attributeValue listed, rfl⟩

theorem entity_of_shows {entity : Entity} (shown : catalog.rows.Shows scope entity) :
    catalog.entity? scope entity.globalId = some entity := by
  cases shown with
  | product listed admitted => exact entity_product distinct listed admitted
  | category listed =>
      have known := (find_eq_some_iff distinct.categories).mpr ⟨listed, rfl⟩
      exact Option.map_eq_some_iff.mpr ⟨_, known, rfl⟩
  | @variant row stocks listed owned held =>
      -- The stock is told by its rows and their order.
      have own : (catalog.stocked row).stocks = stocks := (holds_stocked ordered row).eq held
      rw [← own]
      exact entity_variant distinct listed owned
  | image listed owned => exact entity_image distinct listed owned
  | attr listed => exact entity_attr distinct listed
  | attributeValue listed =>
      have known := (find_eq_some_iff distinct.choices).mpr ⟨listed, rfl⟩
      exact Option.map_eq_some_iff.mpr ⟨_, known, rfl⟩

theorem entity_eq_some_iff {id : GlobalId} {entity : Entity} :
    catalog.entity? scope id = some entity ↔
      catalog.rows.Shows scope entity ∧ entity.globalId = id := by
  constructor
  · exact shows_of_entity distinct ordered
  · rintro ⟨shown, rfl⟩
    exact entity_of_shows distinct ordered shown

end Catalog

namespace Shop

theorem answers_visible (stored : shop.store = { catalog }) (id : Int64) :
    Answers context (shop.product id)
      ((catalog.visible? (shop.scopeIn context) id).map .bare) := by
  intro session same
  rcases runFrom_product_visible stored id session with ⟨after, ran, kept⟩
  rw [shop.scopeIn_of_sameRequest same] at ran
  exact ⟨after, ran, kept⟩

theorem answers_owned (stored : shop.store = { catalog }) {Row : Type} {owner : Row → Int64}
    {told : Row → Access Entity} {entity : Row → Entity} (found : Option Row)
    (others : ∀ row, Answers context (told row) (entity row)) :
    Answers context (shop.owned owner found told)
      ((catalog.owned? (shop.scopeIn context) owner found).map entity) := by
  cases found with
  | none => exact Answers.pure none
  | some row =>
      apply (answers_visible stored (owner row)).bind
      cases seen : catalog.visible? (shop.scopeIn context) (owner row) with
      | none =>
          have hidden : catalog.owned? (shop.scopeIn context) owner (some row) = none := by
            rw [Catalog.owned?, Option.filter_some_neg (by simp [seen])]
          rw [hidden]
          exact Answers.pure none
      | some product =>
          have shown : catalog.owned? (shop.scopeIn context) owner (some row) = some row := by
            rw [Catalog.owned?, Option.filter_some_pos (by simp [seen])]
          rw [shown]
          exact (others row).bind (Answers.pure _)

/-- Only a category that is looked up leaves anything in the context. -/
theorem answers_entity (stored : shop.store = { catalog }) {id : GlobalId}
    (other : id.kind ≠ .category) :
    Answers context (shop.entity id) (catalog.entity? (shop.scopeIn context) id) := by
  rcases id with ⟨kind, key⟩
  cases kind with
  | category => exact absurd rfl other
  | product =>
      have seen : Answers context (shop.product key) _ := answers_visible stored key
      have found := seen.map (Option.map Entity.product)
      rw [Option.map_map, ← bind_pure_comp] at found
      exact found
  | variant =>
      have known : Yields (shop.ask (.variant key))
          (catalog.rows.variants.find? fun variant => variant.id = key) := yields_ask stored rfl
      apply known.answers.bind
      apply answers_owned stored
      intro variant
      have held : Yields (shop.ask (.stocksFor [variant.id])) (catalog.stocked variant).stocks := by
        apply yields_ask stored
        simp [Catalog.answer, Catalog.stocked]
      exact held.answers.bind (Answers.pure _)
  | image =>
      have known : Yields (shop.ask (.image key))
          (catalog.rows.images.find? fun image => image.id = key) := yields_ask stored rfl
      apply known.answers.bind
      apply answers_owned stored
      exact fun image => Answers.pure _
  | attr =>
      have known : Yields (shop.ask (.attr key))
          (catalog.rows.attributes.find? fun attr => attr.id = key) := yields_ask stored rfl
      exact known.answers.bind (Answers.pure _)
  | attributeValue =>
      have known : Yields (shop.ask (.attributeValue key))
          (catalog.rows.choices.find? fun choice => choice.id = key) := yields_ask stored rfl
      exact known.answers.bind (Answers.pure _)

theorem answers_entity_found (stored : shop.store = { catalog }) {id : GlobalId} {entity : Entity}
    (other : id.kind ≠ .category)
    (found : catalog.entity? (shop.scopeIn context) id = some entity) :
    Answers context (shop.entity id) (some entity) :=
  found ▸ answers_entity stored other

theorem runFrom_entity (stored : shop.store = { catalog })
    (sound : Forest.Sound catalog.categories) (id : GlobalId) (session : Session) :
    ∃ after, (shop.entity id).runFrom session =
      some (.ok (catalog.entity? (shop.scopeIn session.context) id), after) := by
  by_cases kind : id.kind = .category
  · have same : shop.entity id = Option.map Entity.category <$> shop.category id.key := by
      rw [entity, kind, ← bind_pure_comp]
    rcases runFrom_category stored sound id.key session with ⟨after, ran, -⟩
    refine ⟨after, ?_⟩
    rw [same, runFrom_map, ran, Catalog.entity?, kind]
    rfl
  · rcases answers_entity stored kind session (.refl session.context) with ⟨after, ran, -⟩
    exact ⟨after, ran⟩

/-- Whoever asks, under an id the entity is found that has it, if its row is there and may be seen,
and nothing otherwise. -/
theorem entity_exact (accepted : Catalog.ofSeed seed = .ok catalog) (distinct : seed.Distinct)
    (stored : shop.store = { catalog }) (session : Session) (id : GlobalId) :
    ∃ found after, (shop.entity id).runFrom session = some (.ok found, after) ∧
      (∀ entity, found = some entity ↔
        seed.Shows (shop.scopeIn session.context) entity ∧ entity.globalId = id) ∧
      (found.isSome = true ↔ seed.Has (shop.scopeIn session.context) id) := by
  have separate : catalog.rows.Distinct := by
    rw [Catalog.ofSeed_eq_ok accepted]
    exact distinct.arranged
  have ordered : catalog.rows.stocks.Pairwise fun left right => left.id < right.id := by
    rw [Catalog.ofSeed_eq_ok accepted]
    exact Seed.byId_ascending distinct.stocks
  have sound := Forest.sound_of_check catalog.checked
    (Forest.agreeing_of_nodup separate.categories)
  rcases runFrom_entity stored sound id session with ⟨after, ran⟩
  have told : ∀ entity, catalog.entity? (shop.scopeIn session.context) id = some entity ↔
      seed.Shows (shop.scopeIn session.context) entity ∧ entity.globalId = id := by
    intro entity
    rw [Catalog.entity_eq_some_iff separate ordered, Catalog.shows_iff accepted]
  refine ⟨_, after, ran, told, ?_⟩
  rw [Option.isSome_iff_exists, Seed.has_iff distinct.stocks]
  exact exists_congr told

theorem entity_exact_lagging : ∃ catalog, Catalog.ofSeed .lagging = .ok catalog ∧
    ∃ after other,
      (({ store := { catalog } } : Shop).entity ⟨.variant, 3⟩).runFrom
          { context := { today := ⟨2024, 6, 1, by decide⟩ } } =
        some (.ok (some (.variant ⟨{ id := 3, productId := 7, sku := "M-75" },
          [{ id := 1, variantId := 3, quantity := 6 },
            { id := 2, variantId := 3, quantity := 4 }]⟩)), after) ∧
      (({ store := { catalog } } : Shop).entity ⟨.image, 5⟩).runFrom
          { context := { today := ⟨2024, 6, 1, by decide⟩ } } = some (.ok none, other) := by
  obtain ⟨catalog, accepted, -⟩ := Catalog.exists_of_check .lagging (by cbv) (by cbv)
  have distinct : Seed.lagging.Distinct := by constructor <;> decide
  have stored : ({ store := { catalog } } : Shop).store = { catalog } := rfl
  have found := entity_exact accepted distinct stored
    { context := { today := ⟨2024, 6, 1, by decide⟩ } }
  have scope : ({ store := { catalog } } : Shop).scopeIn { today := ⟨2024, 6, 1, by decide⟩ } =
      .availableOn ⟨2024, 6, 1, by decide⟩ := rfl
  rcases found ⟨.variant, 3⟩ with ⟨shown, after, ran, told, -⟩
  rcases found ⟨.image, 5⟩ with ⟨missed, other, again, -, has⟩
  rw [scope] at told has
  refine ⟨catalog, accepted, after, other, ?_, ?_⟩
  · have owned : Seed.lagging.ShowsProduct (.availableOn ⟨2024, 6, 1, by decide⟩) 7 :=
      ⟨_, List.mem_cons_self, rfl, by decide⟩
    have held : Seed.lagging.Holds { id := 3, productId := 7, sku := "M-75" }
        [{ id := 1, variantId := 3, quantity := 6 },
          { id := 2, variantId := 3, quantity := 4 }] := by
      constructor
      · intro stock
        simp only [Seed.lagging, List.mem_cons, List.not_mem_nil, or_false]
        constructor
        · rintro (rfl | rfl) <;> simp
        · rintro ⟨rfl | rfl | rfl, own⟩ <;> simp_all
      · simp
    have listed : ({ id := 3, productId := 7, sku := "M-75" } : Variant) ∈ Seed.lagging.variants :=
      List.mem_cons_self
    rw [ran, (told _).mpr ⟨.variant listed owned held, rfl⟩]
  · have hidden : ¬ Seed.lagging.Has (.availableOn ⟨2024, 6, 1, by decide⟩) ⟨.image, 5⟩ := by
      rintro ⟨row, listed, -, product, inRows, same, admitted⟩
      obtain rfl := List.mem_singleton.mp listed
      rcases List.mem_cons.mp inRows with rfl | later
      · cases same
      · obtain rfl := List.mem_singleton.mp later
        cases admitted
    have nothing : missed = none := by
      cases missed with
      | none => rfl
      | some entity => exact absurd (has.mp rfl) hidden
    rw [again, nothing]

end Shop

end Found

end Storefront
