import Storefront.Proofs.Fetching
/-!
What attribute pairs ask for. Where slugs are distinct a pair names one value of one attribute, or
is not recognised. A product passes if of every attribute that a recognised pair names it has the
value that such a pair names, so only the recognised pairs count, in whatever order and number.
Attributes are told apart by id, as values and products refer to them.
-/

namespace Storefront

open Access

variable {seed : Seed} {catalog : Catalog} {shop : Shop}

namespace Seed

/-- The pair names an attribute that is there, by id, and a value of it that is there. -/
structure Recognises (seed : Seed) (pair : AttributePair) (attributeId valueId : Int64) : Prop where
  attr : ∃ attr ∈ seed.attributes, attr.slug = pair.attributeSlug ∧ attr.id = attributeId
  choice : ∃ choice ∈ seed.choices,
    (choice.attributeId = attributeId ∧ choice.slug = pair.valueSlug) ∧ choice.id = valueId

def Wants (seed : Seed) (pairs : List AttributePair) (attributeId valueId : Int64) : Prop :=
  ∃ pair ∈ pairs, seed.Recognises pair attributeId valueId

/-- Of every attribute of which a value is wanted the product has a value that is wanted. -/
def Suits (seed : Seed) (pairs : List AttributePair) (product : Product) : Prop :=
  ∀ attributeId, (∃ valueId, seed.Wants pairs attributeId valueId) →
    ∃ valueId, seed.Wants pairs attributeId valueId ∧ product.valueOf? attributeId = some valueId

structure DistinctSlugs (seed : Seed) : Prop where
  attributes : (seed.attributes.map Attribute.slug).Nodup
  choices : (seed.choices.map fun choice => (choice.attributeId, choice.slug)).Nodup

theorem DistinctSlugs.arranged (distinct : seed.DistinctSlugs) : seed.arranged.DistinctSlugs where
  attributes := ((byId_perm _ _).map _).nodup_iff.mpr distinct.attributes
  choices := ((byGroup_perm _ _ _ _).map _).nodup_iff.mpr distinct.choices

variable {pair : AttributePair} {pairs others : List AttributePair} {attributeId valueId : Int64}

theorem recognises_arranged :
    seed.arranged.Recognises pair attributeId valueId ↔
      seed.Recognises pair attributeId valueId := by
  have attributes : ∀ attr, attr ∈ seed.arranged.attributes ↔ attr ∈ seed.attributes :=
    fun _ => (byId_perm Attribute.id seed.attributes).mem_iff
  have choices : ∀ choice, choice ∈ seed.arranged.choices ↔ choice ∈ seed.choices :=
    fun _ => (byGroup_perm _ _ _ seed.choices).mem_iff
  constructor
  · rintro ⟨⟨attr, known, named⟩, choice, there, chosen⟩
    exact ⟨⟨attr, (attributes attr).mp known, named⟩, choice, (choices choice).mp there, chosen⟩
  · rintro ⟨⟨attr, known, named⟩, choice, there, chosen⟩
    exact ⟨⟨attr, (attributes attr).mpr known, named⟩, choice, (choices choice).mpr there, chosen⟩

theorem suits_arranged {product : Product} :
    seed.arranged.Suits pairs product ↔ seed.Suits pairs product := by
  simp only [Suits, Wants, recognises_arranged]

/-- Pairs that are not recognised do not matter, nor does the order. -/
theorem wants_congr (same : ∀ pair attributeId valueId,
      seed.Recognises pair attributeId valueId → (pair ∈ pairs ↔ pair ∈ others)) :
    seed.Wants pairs attributeId valueId ↔ seed.Wants others attributeId valueId := by
  constructor
  · rintro ⟨pair, member, recognised⟩
    exact ⟨pair, (same pair _ _ recognised).mp member, recognised⟩
  · rintro ⟨pair, member, recognised⟩
    exact ⟨pair, (same pair _ _ recognised).mpr member, recognised⟩

end Seed

namespace Shop

theorem attributeIdOf_eq_some_iff {attributes : List Attribute}
    (distinct : (attributes.map Attribute.slug).Nodup) {pair : AttributePair} {id : Int64} :
    attributeIdOf? attributes pair = some id ↔
      ∃ attr ∈ attributes, attr.slug = pair.attributeSlug ∧ attr.id = id := by
  have reversed : (attributes.reverse.map Attribute.slug).Nodup := by
    rw [List.map_reverse]
    exact List.nodup_reverse.mpr distinct
  rw [attributeIdOf?, List.findRev?_eq_find?_reverse, Option.map_eq_some_iff]
  simp only [find_eq_some_iff reversed, List.mem_reverse, and_assoc]

theorem findChoice_eq_some_iff {choices : List Choice}
    (distinct : (choices.map fun choice => (choice.attributeId, choice.slug)).Nodup)
    {attributeId : Int64} {slug : String} {choice : Choice} :
    (choices.find? fun choice => choice.attributeId = attributeId && choice.slug = slug) =
        some choice ↔
      choice ∈ choices ∧ choice.attributeId = attributeId ∧ choice.slug = slug := by
  have keyed : (fun choice : Choice =>
      decide (choice.attributeId = attributeId) && decide (choice.slug = slug)) =
      fun choice => decide ((choice.attributeId, choice.slug) = (attributeId, slug)) := by
    funext choice
    simp
  rw [keyed, find_eq_some_iff distinct, Prod.mk.injEq]

theorem wantedOf_eq_some_iff (distinct : seed.DistinctSlugs) {pair : AttributePair}
    {attributeId valueId : Int64} :
    wantedOf? seed.attributes seed.choices pair = some (attributeId, valueId) ↔
      seed.Recognises pair attributeId valueId := by
  simp only [wantedOf?, Option.bind_eq_bind, Option.pure_def, Option.bind_eq_some_iff,
    attributeIdOf_eq_some_iff distinct.attributes, findChoice_eq_some_iff distinct.choices,
    Option.some.injEq, Prod.mk.injEq]
  constructor
  · rintro ⟨_, named, choice, ⟨known, own⟩, rfl, rfl⟩
    exact ⟨named, choice, known, own, rfl⟩
  · rintro ⟨named, choice, known, own, rfl⟩
    exact ⟨attributeId, named, choice, ⟨known, own⟩, rfl, rfl⟩

theorem mem_filterMap_wantedOf (distinct : seed.DistinctSlugs) {pairs : List AttributePair}
    {attributeId valueId : Int64} :
    (attributeId, valueId) ∈ pairs.filterMap (wantedOf? seed.attributes seed.choices) ↔
      seed.Wants pairs attributeId valueId := by
  simp only [List.mem_filterMap, wantedOf_eq_some_iff distinct, Seed.Wants]

theorem hasWanted_iff (distinct : seed.DistinctSlugs) {pairs : List AttributePair}
    {product : Product} :
    hasWanted (pairs.filterMap (wantedOf? seed.attributes seed.choices)) product = true ↔
      seed.Suits pairs product := by
  simp only [hasWanted, List.all_eq_true, List.any_eq_true, Bool.and_eq_true, decide_eq_true_eq,
    Prod.forall, Prod.exists, mem_filterMap_wantedOf distinct]
  constructor
  · rintro all attributeId ⟨valueId, wanted⟩
    obtain ⟨_, other, also, rfl, has⟩ := all attributeId valueId wanted
    exact ⟨other, also, has⟩
  · intro suits attributeId valueId wanted
    obtain ⟨other, also, has⟩ := suits attributeId ⟨valueId, wanted⟩
    exact ⟨attributeId, other, also, rfl, has⟩

theorem hasWanted_catalog_iff (accepted : Catalog.ofSeed seed = .ok catalog)
    (distinct : seed.DistinctSlugs) (pairs : List AttributePair) (product : Product) :
    hasWanted (catalog.wanted pairs) product = true ↔ seed.Suits pairs product := by
  rw [Catalog.wanted, Catalog.ofSeed_eq_ok accepted, hasWanted_iff distinct.arranged,
    Seed.suits_arranged]

/-- The attribute pairs of a filter leave just the products that suit them, and so does any other
filter with the same recognised pairs. -/
theorem choose_exact (accepted : Catalog.ofSeed seed = .ok catalog)
    (distinct : seed.DistinctSlugs) (stored : shop.store = { catalog }) (filter : ProductFilter) :
    ∃ suits : Product → Bool,
      (∀ product, suits product = true ↔ seed.Suits filter.attributes product) ∧
      (∀ products session, ∃ after, (shop.choose filter products).runFrom session =
        some (.ok (products.filter suits), after)) ∧
      ∀ other : ProductFilter,
        (∀ pair attributeId valueId, seed.Recognises pair attributeId valueId →
          (pair ∈ filter.attributes ↔ pair ∈ other.attributes)) →
        ∀ products session, ∃ after, (shop.choose other products).runFrom session =
          some (.ok (products.filter suits), after) := by
  have chosen : ∀ (filter : ProductFilter) products session, ∃ after,
      (shop.choose filter products).runFrom session =
        some (.ok (products.filter (hasWanted (catalog.wanted filter.attributes))), after) := by
    intro filter products session
    obtain ⟨after, ran, -⟩ := takes_choose stored filter products session
    exact ⟨after, ran⟩
  refine ⟨hasWanted (catalog.wanted filter.attributes),
    hasWanted_catalog_iff accepted distinct filter.attributes, chosen filter, ?_⟩
  intro other same products session
  have equal : hasWanted (catalog.wanted other.attributes) =
      hasWanted (catalog.wanted filter.attributes) := by
    funext product
    rw [Bool.eq_iff_iff, hasWanted_catalog_iff accepted distinct,
      hasWanted_catalog_iff accepted distinct]
    simp only [Seed.Suits, Seed.wants_congr same]
  rw [← equal]
  exact chosen other products session

end Shop

def Seed.blended : Seed where
  attributes := [⟨2, "Colour", "colour"⟩, ⟨1, "Grape", "grape"⟩]
  choices :=
    [⟨1, 1, "Merlot", "merlot", 0⟩, ⟨2, 1, "Touriga", "touriga", 0⟩, ⟨3, 2, "Red", "red", 0⟩,
      ⟨4, 2, "Dark", "merlot", 0⟩]
  products :=
    [{ id := 7, name := "Merlot", categoryId := 1, productTypeId := 1, price := ⟨900, .eur⟩,
        attributes := [⟨1, 1⟩, ⟨2, 4⟩] },
      { id := 8, name := "Port", categoryId := 1, productTypeId := 1, price := ⟨1900, .eur⟩,
        attributes := [⟨1, 2⟩, ⟨2, 3⟩] }]

def ProductFilter.mixed : ProductFilter where
  attributes :=
    [⟨"grape", "merlot"⟩, ⟨"age", "old"⟩, ⟨"colour", "red"⟩, ⟨"grape", "touriga"⟩,
      ⟨"colour", "blue"⟩, ⟨"grape", "merlot"⟩]

theorem Shop.choose_exact_blended : ∃ catalog, Catalog.ofSeed .blended = .ok catalog ∧
    Seed.blended.DistinctSlugs ∧ ∃ chosen after,
      (({ store := { catalog } } : Shop).choose .mixed Seed.blended.products).runFrom
        { context := { today := ⟨2024, 6, 1, by decide⟩ } } = some (.ok chosen, after) ∧
      chosen.map Product.name = ["Port"] := by
  have checked : Forest.check Seed.blended.arranged.categories = .ok () := by
    simp only [Seed.blended, Seed.arranged, Seed.byId, List.mergeSort_nil]
    rfl
  have accepted := Catalog.ofSeed_of_check checked
  generalize (⟨_, _, rfl, checked⟩ : Catalog) = catalog at accepted
  have distinct : Seed.blended.DistinctSlugs := ⟨by decide, by decide⟩
  have stored : ({ store := { catalog } } : Shop).store = { catalog } := rfl
  obtain ⟨suits, exact, chosen, -⟩ := Shop.choose_exact accepted distinct stored .mixed
  obtain ⟨after, ran⟩ := chosen Seed.blended.products
    { context := { today := ⟨2024, 6, 1, by decide⟩ } }
  have computed : suits = Shop.hasWanted (ProductFilter.mixed.attributes.filterMap
      (Shop.wantedOf? Seed.blended.attributes Seed.blended.choices)) := by
    funext product
    rw [Bool.eq_iff_iff, exact, Shop.hasWanted_iff distinct]
  subst computed
  exact ⟨catalog, accepted, distinct, _, after, ran, by decide⟩

end Storefront
