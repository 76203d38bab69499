import Storefront.Shop.Attributes
import Storefront.Proofs.Access
import Storefront.Proofs.Duality
/-!
Attributes in use. An attribute is in use in a category if a product of the category, or of one
below it, is of a type that has the attribute, on the product itself or on its variants. A category
that is known is answered by these attributes, each once, by id; repeated rows of an attribute are
told by the first of them.
-/

namespace Storefront

open Access Relation

variable {seed : Seed} {catalog : Catalog} {shop : Shop}

section Distinct

namespace Shop

variable {attributes : List Attribute}

theorem distinctAttributes_sublist (attributes : List Attribute) :
    (distinctAttributes attributes).Sublist attributes := by
  induction attributes with
  | nil => exact List.Sublist.refl []
  | cons attr rest ih => exact (List.filter_sublist.trans ih).cons_cons attr

theorem nodup_distinctAttributes (attributes : List Attribute) :
    ((distinctAttributes attributes).map Attribute.id).Nodup := by
  induction attributes with
  | nil => exact List.nodup_nil
  | cons attr rest ih =>
      rw [distinctAttributes, List.map_cons, List.nodup_cons]
      refine ⟨?_, ih.sublist (List.filter_sublist.map Attribute.id)⟩
      simp

theorem find_distinctAttributes (attributes : List Attribute) (key : Int64) :
    (distinctAttributes attributes).find? (fun attr => attr.id = key) =
      attributes.find? fun attr => attr.id = key := by
  induction attributes with
  | nil => rfl
  | cons attr rest ih =>
      rw [distinctAttributes, List.find?_cons, List.find?_cons]
      by_cases hit : attr.id = key
      · simp [hit]
      · have other : ∀ row ∈ distinctAttributes rest, decide (row.id = key) = true →
            (row.id != attr.id) = true := by
          intro row _ same
          simpa [of_decide_eq_true same] using Ne.symm hit
        simp only [hit, decide_false]
        rw [find_filter_of_imp other, ih]

theorem mem_distinctAttributes_iff {attr : Attribute} : attr ∈ distinctAttributes attributes ↔
    attributes.find? (fun row => row.id = attr.id) = some attr := by
  rw [← find_distinctAttributes, find_eq_some_iff (nodup_distinctAttributes attributes)]
  simp

theorem distinctAttributes_ascending
    (sorted : attributes.Pairwise fun left right => left.id ≤ right.id) :
    (distinctAttributes attributes).Pairwise fun left right => left.id < right.id := by
  have separate := List.pairwise_map.mp (nodup_distinctAttributes attributes)
  have ordered := sorted.sublist (distinctAttributes_sublist attributes)
  exact (ordered.and separate).imp fun ⟨least, differs⟩ => Int64.lt_of_le_of_ne least differs

end Shop

namespace Seed

/-- The list has just the attributes whose ids are wanted, each once and by id, as the first of
their rows has them. -/
structure Enumerates (seed : Seed) (wanted : Int64 → Prop) (listed : List Attribute) : Prop where
  ascending : listed.Pairwise fun left right => left.id < right.id
  members : ∀ id,
    id ∈ listed.map Attribute.id ↔ id ∈ seed.attributes.map Attribute.id ∧ wanted id
  rows : ∀ attr ∈ listed, seed.attributes.find? (fun row => row.id = attr.id) = some attr

theorem Enumerates.congr {one two : Int64 → Prop} {listed : List Attribute}
    (enumerates : seed.Enumerates one listed) (same : ∀ id, one id ↔ two id) :
    seed.Enumerates two listed where
  ascending := enumerates.ascending
  members id := (enumerates.members id).trans (and_congr_right' (same id))
  rows := enumerates.rows

theorem mem_distinct_arranged (seed : Seed) (wanted : Int64 → Bool) {attr : Attribute} :
    attr ∈ Shop.distinctAttributes
        (seed.arranged.attributes.filter fun attr => wanted attr.id) ↔
      wanted attr.id = true ∧
        seed.attributes.find? (fun row => row.id = attr.id) = some attr := by
  rw [Shop.mem_distinctAttributes_iff]
  by_cases chosen : wanted attr.id = true
  · have kept : ∀ row ∈ seed.arranged.attributes, decide (row.id = attr.id) = true →
        wanted row.id = true := by
      intro row _ same
      rw [of_decide_eq_true same]
      exact chosen
    rw [find_filter_of_imp kept, arranged, find_byId]
    exact (and_iff_right chosen).symm
  · refine iff_of_false (fun found => chosen ?_) fun both => chosen both.1
    exact (List.mem_filter.mp (List.mem_of_find?_eq_some found)).2

theorem enumerates_distinct (seed : Seed) (wanted : Int64 → Bool) :
    seed.Enumerates (fun id => wanted id = true)
      (Shop.distinctAttributes
        (seed.arranged.attributes.filter fun attr => wanted attr.id)) where
  ascending := Shop.distinctAttributes_ascending
    ((byId_sorted seed.attributes).sublist List.filter_sublist)
  members id := by
    rw [List.mem_map, List.mem_map]
    constructor
    · rintro ⟨attr, member, rfl⟩
      obtain ⟨chosen, found⟩ := (mem_distinct_arranged seed wanted).mp member
      exact ⟨⟨attr, List.mem_of_find?_eq_some found, rfl⟩, chosen⟩
    · rintro ⟨⟨row, known, rfl⟩, chosen⟩
      have present : (seed.attributes.find? fun other => other.id = row.id).isSome := by
        rw [List.find?_isSome]
        exact ⟨row, known, by simp⟩
      obtain ⟨first, found⟩ := Option.isSome_iff_exists.mp present
      have same : first.id = row.id := by simpa using List.find?_some found
      refine ⟨first, (mem_distinct_arranged seed wanted).mpr ⟨?_, ?_⟩, same⟩
      · rw [same]; exact chosen
      · rw [same]; exact found
  rows attr member := ((mem_distinct_arranged seed wanted).mp member).2

end Seed

end Distinct

section Usage

namespace Seed

/-- Some product of the category, or of one below it, is of a type that has the attribute. -/
def Uses (seed : Seed) (categoryId attributeId : Int64) : Prop :=
  ∃ product ∈ seed.products, ∃ kind ∈ seed.productTypes,
    ReflTransGen (Forest.Child seed.categories) product.categoryId categoryId ∧
    kind.id = product.productTypeId ∧
    (attributeId ∈ kind.productAttributes ∨ attributeId ∈ kind.variantAttributes)

end Seed

namespace Catalog

def typesUse (catalog : Catalog) (productTypeIds : List Int64) (attributeId : Int64) : Bool :=
  (catalog.rows.productTypes.filter fun kind => productTypeIds.contains kind.id).any fun kind =>
    kind.uses attributeId

theorem mem_productTypeIdsIn {categoryIds : List Int64} {id : Int64} :
    id ∈ catalog.productTypeIdsIn categoryIds ↔
      ∃ product ∈ catalog.rows.products,
        product.categoryId ∈ categoryIds ∧ product.productTypeId = id := by
  simp [productTypeIdsIn, List.mem_eraseDups, and_assoc]

theorem typesUse_iff {categoryIds : List Int64} {attributeId : Int64} :
    catalog.typesUse (catalog.productTypeIdsIn categoryIds) attributeId = true ↔
      ∃ product ∈ catalog.rows.products, ∃ kind ∈ catalog.rows.productTypes,
        product.categoryId ∈ categoryIds ∧ kind.id = product.productTypeId ∧
        (attributeId ∈ kind.productAttributes ∨ attributeId ∈ kind.variantAttributes) := by
  simp only [typesUse, List.any_eq_true, List.mem_filter, List.contains_iff_mem,
    mem_productTypeIdsIn, ProductType.uses, Bool.or_eq_true]
  constructor
  · rintro ⟨kind, ⟨known, product, member, within, same⟩, uses⟩
    exact ⟨product, member, kind, known, within, same.symm, uses⟩
  · rintro ⟨product, member, kind, known, within, same, uses⟩
    exact ⟨kind, ⟨known, product, member, within, same.symm⟩, uses⟩

theorem mem_branch_iff (acyclic : Forest.Acyclic catalog.categories)
    (distinct : (catalog.categories.map Category.id).Nodup) {root : Category} {id : Int64} :
    id ∈ (root :: Forest.below catalog.categories root.id).map Category.id ↔
      ReflTransGen (Forest.Child catalog.categories) id root.id := by
  rw [List.map_cons, List.mem_cons, reflTransGen_iff_eq_or_transGen, eq_comm, List.mem_map]
  refine or_congr Iff.rfl ?_
  constructor
  · rintro ⟨row, member, rfl⟩
    exact ((acyclic.mem_below_iff distinct).mp member).2
  · intro lower
    obtain ⟨_, ⟨row, known, rfl, _⟩, _⟩ := TransGen.head'_iff.mp lower
    exact ⟨row, (acyclic.mem_below_iff distinct).mpr ⟨known, lower⟩, rfl⟩

theorem typesUse_branch_iff (accepted : ofSeed seed = .ok catalog)
    (acyclic : Forest.Acyclic catalog.categories)
    (distinct : (catalog.categories.map Category.id).Nodup) (root : Category)
    (attributeId : Int64) :
    catalog.typesUse (catalog.productTypeIdsIn
        ((root :: Forest.below catalog.categories root.id).map Category.id)) attributeId = true ↔
      seed.Uses root.id attributeId := by
  have products : ∀ product, product ∈ catalog.rows.products ↔ product ∈ seed.products := by
    intro product
    rw [ofSeed_eq_ok accepted]
    exact (Seed.byId_perm Product.id seed.products).mem_iff
  have kinds : catalog.rows.productTypes = seed.productTypes := by
    rw [ofSeed_eq_ok accepted]
    rfl
  simp only [typesUse_iff, mem_branch_iff acyclic distinct, products, kinds, Seed.Uses,
    Forest.child_congr (categories_perm accepted)]

theorem descendants_of_unknown (withSelf : Bool) {id : Int64}
    (unknown : id ∉ catalog.categories.map Category.id) :
    catalog.descendants id withSelf = some [] := by
  have absent : catalog.category? id = none := by
    rw [category?, Forest.find?, List.find?_eq_none]
    intro row member same
    exact unknown (of_decide_eq_true same ▸ List.mem_map_of_mem member)
  rw [descendants, absent]

theorem productTypeIdsIn_nil (catalog : Catalog) : catalog.productTypeIdsIn [] = [] := by
  simp [productTypeIdsIn]

theorem attributesOfTypes_nil (catalog : Catalog) : catalog.attributesOfTypes [] = [] := by
  simp [attributesOfTypes]

end Catalog

namespace Shop

/-- Nothing is missed where the questions break off early. -/
theorem yields_attributes (stored : shop.store = { catalog }) {id : Int64} {tree : List Category}
    (walked : catalog.descendants id true = some tree) :
    Yields (shop.attributes (some id)) (distinctAttributes
      (catalog.attributesOfTypes (catalog.productTypeIdsIn (tree.map Category.id)))) := by
  have answered : (catalog.answer (.descendants id true)).run = some (.ok tree) := by
    rw [Catalog.run_answer_descendants, walked]
    rfl
  apply (yields_ask stored answered).bind
  by_cases unknown : tree.isEmpty = true
  · rw [if_pos unknown, List.isEmpty_iff.mp unknown, List.map_nil, Catalog.productTypeIdsIn_nil,
      Catalog.attributesOfTypes_nil]
    exact Yields.pure []
  · rw [if_neg unknown]
    apply (yields_ask stored rfl).bind
    by_cases unused : (catalog.productTypeIdsIn (tree.map Category.id)).isEmpty = true
    · rw [if_pos unused, List.isEmpty_iff.mp unused, Catalog.attributesOfTypes_nil]
      exact Yields.pure []
    · rw [if_neg unused]
      exact ((takes_ask stored rfl).bind_pure _).yields

theorem yields_attributes_used (accepted : Catalog.ofSeed seed = .ok catalog)
    (distinct : (catalog.categories.map Category.id).Nodup) (stored : shop.store = { catalog })
    {category : Category} (known : category ∈ catalog.categories) :
    ∃ listed, Yields (shop.attributes (some category.id)) listed ∧
      seed.Enumerates (seed.Uses category.id) listed := by
  have sound := Forest.sound_of_check catalog.checked (Forest.agreeing_of_nodup distinct)
  have walked := Catalog.descendants_self_eq sound.acyclic (Forest.find_self distinct known)
  refine ⟨_, yields_attributes stored walked, ?_⟩
  have enumerates := seed.enumerates_distinct (catalog.typesUse (catalog.productTypeIdsIn
    ((category :: Forest.below catalog.categories category.id).map Category.id)))
  rw [← Catalog.ofSeed_eq_ok accepted] at enumerates
  exact enumerates.congr (Catalog.typesUse_branch_iff accepted sound.acyclic distinct category)

theorem yields_attributes_unknown (stored : shop.store = { catalog }) {id : Int64}
    (unknown : id ∉ catalog.categories.map Category.id) :
    Yields (shop.attributes (some id)) [] := by
  have told := yields_attributes stored (Catalog.descendants_of_unknown true unknown)
  rwa [List.map_nil, Catalog.productTypeIdsIn_nil, Catalog.attributesOfTypes_nil] at told

theorem yields_attributes_all (accepted : Catalog.ofSeed seed = .ok catalog)
    (stored : shop.store = { catalog }) :
    ∃ listed, Yields (shop.attributes none) listed ∧
      seed.Enumerates (fun _ => True) listed := by
  have asked : Yields (shop.ask .attributes) catalog.rows.attributes := yields_ask stored rfl
  refine ⟨_, asked.bind (Yields.pure _), ?_⟩
  have enumerates := seed.enumerates_distinct fun _ => true
  rw [List.filter_true, ← Catalog.ofSeed_eq_ok accepted] at enumerates
  exact enumerates.congr fun _ => iff_of_true rfl trivial

/-- A known category is answered by the attributes used in it, an unknown one by none, and no
category by all there are. -/
theorem attributes_in_use (accepted : Catalog.ofSeed seed = .ok catalog)
    (distinct : (seed.categories.map Category.id).Nodup) (stored : shop.store = { catalog })
    (session : Session) :
    (∀ category ∈ seed.categories, ∃ listed after,
      (shop.attributes (some category.id)).runFrom session = some (.ok listed, after) ∧
      seed.Enumerates (seed.Uses category.id) listed) ∧
    (∀ id, id ∉ seed.categories.map Category.id → ∃ after,
      (shop.attributes (some id)).runFrom session = some (.ok [], after)) ∧
    ∃ listed after, (shop.attributes none).runFrom session = some (.ok listed, after) ∧
      seed.Enumerates (fun _ => True) listed := by
  have same := Catalog.categories_perm accepted
  have separate := Catalog.distinct_categories accepted distinct
  refine ⟨fun category member => ?_, fun id unknown => ?_, ?_⟩
  · obtain ⟨listed, yields, enumerates⟩ :=
      yields_attributes_used accepted separate stored (same.mem_iff.mpr member)
    obtain ⟨after, ran, -⟩ := yields session
    exact ⟨listed, after, ran, enumerates⟩
  · rw [← (same.map Category.id).mem_iff] at unknown
    obtain ⟨after, ran, -⟩ := yields_attributes_unknown stored unknown session
    exact ⟨after, ran⟩
  · obtain ⟨listed, yields, enumerates⟩ := yields_attributes_all accepted stored
    obtain ⟨after, ran, -⟩ := yields session
    exact ⟨listed, after, ran, enumerates⟩

end Shop

end Usage

/-- Port is below wine, and wine below drinks. The size is an attribute of the variants and has two
rows; nothing says what type the sherry is of. -/
def Seed.drinks : Seed where
  categories :=
    [{ id := 1, name := "Drinks", slug := "drinks" },
      { id := 2, name := "Wine", slug := "wine", parentId := some 1 },
      { id := 3, name := "Port", slug := "port", parentId := some 2 }]
  productTypes :=
    [{ id := 5, name := "Bottle", productAttributes := [1], variantAttributes := [2] },
      { id := 6, name := "Glass", productAttributes := [3] }]
  attributes :=
    [⟨2, "Size", "size"⟩, ⟨1, "Grape", "grape"⟩, ⟨3, "Shape", "shape"⟩, ⟨2, "Volume", "volume"⟩]
  products :=
    [{ id := 7, name := "Port", categoryId := 3, productTypeId := 5, price := ⟨1900, .eur⟩ },
      { id := 8, name := "Sherry", categoryId := 2, productTypeId := 9, price := ⟨1200, .eur⟩ }]

theorem Shop.attributes_in_use_drinks : ∃ catalog, Catalog.ofSeed .drinks = .ok catalog ∧
    ∃ listed after, (({ store := { catalog } } : Shop).attributes (some 1)).runFrom
        { context := { today := ⟨2024, 6, 1, by decide⟩ } } = some (.ok listed, after) ∧
      (∀ id, id ∈ listed.map Attribute.id ↔ id = 1 ∨ id = 2) ∧
      ∃ after, (({ store := { catalog } } : Shop).attributes (some 4)).runFrom
        { context := { today := ⟨2024, 6, 1, by decide⟩ } } = some (.ok [], after) := by
  obtain ⟨catalog, accepted, -⟩ := Catalog.exists_of_check .drinks (by cbv) (by cbv)
  obtain ⟨known, unknown, -⟩ := Shop.attributes_in_use accepted (by decide)
    (rfl : ({ store := { catalog } } : Shop).store = { catalog })
    { context := { today := ⟨2024, 6, 1, by decide⟩ } }
  obtain ⟨listed, after, ran, enumerates⟩ :=
    known { id := 1, name := "Drinks", slug := "drinks" } (by decide)
  refine ⟨catalog, accepted, listed, after, ran, fun id => ?_, unknown 4 (by decide)⟩
  have way : ReflTransGen (Forest.Child Seed.drinks.categories) 3 1 :=
    .head ⟨{ id := 3, name := "Port", slug := "port", parentId := some 2 }, by decide, rfl, rfl⟩
      (.single ⟨{ id := 2, name := "Wine", slug := "wine", parentId := some 1 }, by decide, rfl,
        rfl⟩)
  rw [enumerates.members]
  constructor
  · rintro ⟨-, product, member, kind, inKinds, -, same, uses⟩
    simp only [Seed.drinks, List.mem_cons, List.not_mem_nil, or_false] at member inKinds
    rcases member with rfl | rfl <;> rcases inKinds with rfl | rfl <;> simp_all
  · rintro (rfl | rfl)
    · exact ⟨by decide, _, List.mem_cons_self, _, List.mem_cons_self, way, rfl, .inl (by decide)⟩
    · exact ⟨by decide, _, List.mem_cons_self, _, List.mem_cons_self, way, rfl, .inr (by decide)⟩

end Storefront
