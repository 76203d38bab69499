import Mathlib
import Storefront.Proofs.Duality
import Storefront.Proofs.Operations
import Storefront.Proofs.Remembered
/-!
Which chains a request remembers. A category that was looked up and found has the chains of its
whole branch remembered, its own and those of everybody below it; nothing else that a shop is asked
to do, found or not, changes anything in the context. So what is remembered in the end are the
branches of all the categories that were found.
-/

namespace Storefront

open Access Relation

variable {seed : Seed} {catalog : Catalog} {shop : Shop} {rows : List Category}

section Branches

theorem Forest.Acyclic.mem_map_below_iff (acyclic : Forest.Acyclic rows) {id lower : Int64} :
    lower ∈ (Forest.below rows id).map Category.id ↔
      TransGen (Forest.Child (Forest.below rows id)) lower id := by
  constructor
  · induction id using acyclic.child_wellFounded.induction with
    | _ id ih =>
      intro listed
      obtain ⟨row, member, rfl⟩ := List.mem_map.mp listed
      -- Whoever is listed is a child or listed below one.
      rw [acyclic.below_eq, List.mem_flatMap] at member
      obtain ⟨child, inChildren, inBranch⟩ := member
      have within : child :: Forest.below rows child.id ⊆ Forest.below rows id := by
        intro other member
        rw [acyclic.below_eq id]
        exact List.mem_flatMap.mpr ⟨child, inChildren, member⟩
      have step : Forest.Child (Forest.below rows id) child.id id :=
        ⟨child, within List.mem_cons_self, rfl, (Forest.mem_children.mp inChildren).2⟩
      rcases List.mem_cons.mp inBranch with rfl | deeper
      · exact .single step
      · have lower := ih child.id (Forest.child_of_children inChildren)
          (List.mem_map_of_mem deeper)
        refine .tail (TransGen.mono ?_ _ _ lower) step
        rintro first second ⟨other, member, same, named⟩
        exact ⟨other, within (List.mem_cons_of_mem child member), same, named⟩
  · intro way
    obtain ⟨_, ⟨row, member, rfl, _⟩, _⟩ := TransGen.head'_iff.mp way
    exact List.mem_map_of_mem member

def Catalog.InBranch (catalog : Catalog) (category : Category) (id : Int64) : Prop :=
  ∃ listed, catalog.descendants category.id true = some listed ∧ id ∈ listed.map Category.id

theorem Catalog.inBranch_iff (acyclic : Forest.Acyclic catalog.categories) {root : Category}
    (found : catalog.category? root.id = some root) {id : Int64} :
    catalog.InBranch root id ↔
      id = root.id ∨ id ∈ (Forest.below catalog.categories root.id).map Category.id := by
  rw [InBranch, descendants_self_eq acyclic found]
  simp [eq_comm]

end Branches

section Steps

/-- What an operation leaves of a context, seeing what it came to. -/
inductive Catalog.Leaves (catalog : Catalog) (report : Report) (before after : Context) : Prop where
  | unchanged (missed : ∀ found, ¬ report.Finds found) (same : after = before)
  | remembered {found : Category} {nodes chain : List Category} (finds : report.Finds found)
      (fetched : catalog.subtree? found.id = some (some { root := found, nodes }))
      (kept : before.remember { root := found, nodes } chain = some after)

namespace Shop

variable (stored : shop.store = { catalog }) (sound : Forest.Sound catalog.categories)

include stored sound

section Kept

variable {kept : Context → Prop}

theorem keeps_ancestors (category : Category) : Keeps kept (shop.ancestors category) := by
  apply Keeps.context.bind
  intro context
  split
  · exact Keeps.pure _
  · exact keeps_query stored sound _

theorem keeps_images (loaded : LoadedProduct) : Keeps kept (shop.images loaded) := by
  unfold images
  split
  · exact Keeps.pure _
  · exact keeps_query stored sound _

theorem keeps_variants (loaded : LoadedProduct) : Keeps kept (shop.variants loaded) := by
  unfold variants
  split
  · exact Keeps.pure _
  · apply (keeps_query stored sound _).bind
    intro variants
    exact (keeps_stocks stored sound variants).bind fun _ => Keeps.pure _

theorem keeps_productCategory (loaded : LoadedProduct) :
    Keeps kept (shop.productCategory loaded) := by
  unfold productCategory
  split
  · exact Keeps.pure _
  · exact keeps_query stored sound _

theorem keeps_attributes (categoryId : Option Int64) :
    Keeps kept (shop.attributes categoryId) := by
  unfold attributes
  cases categoryId with
  | none => exact (keeps_query stored sound _).bind fun _ => Keeps.pure _
  | some categoryId =>
      apply (keeps_query stored sound _).bind
      intro tree
      by_cases unknown : tree.isEmpty = true
      · rw [if_pos unknown]
        exact Keeps.pure _
      · rw [if_neg unknown]
        apply (keeps_query stored sound _).bind
        intro kinds
        by_cases unused : kinds.isEmpty = true
        · rw [if_pos unused]
          exact Keeps.pure _
        · rw [if_neg unused]
          exact (keeps_query stored sound _).bind fun _ => Keeps.pure _

theorem keeps_perform {operation : Operation} (plain : operation.looksUp = false) :
    Keeps kept (shop.perform operation) := by
  cases operation with
  | category | entity | entityByText => cases plain
  | ancestors category => exact keeps_ancestors stored sound category
  | categoryUrl category =>
      exact (keeps_ancestors stored sound category).bind fun _ => Keeps.pure _
  | children category => exact keeps_query stored sound _
  | siblings category => exact keeps_query stored sound _
  | productCount category => exact keeps_query stored sound _
  | descendantCount category =>
      exact (keeps_query stored sound _).bind fun _ => Keeps.pure _
  | categories filter page => exact (keeps_query stored sound _).bind fun _ => Keeps.ofExcept _
  | product id => exact keeps_product stored sound id
  | products category filter page => exact keeps_products stored sound category filter page
  | productUrl loaded => exact Keeps.pure _
  | images loaded => exact keeps_images stored sound loaded
  | variants loaded => exact keeps_variants stored sound loaded
  | productCategory loaded => exact keeps_productCategory stored sound loaded
  | thumbnailUrl loaded size =>
      apply (Keeps.ofExcept _).bind
      intro size
      exact (keeps_images stored sound loaded).bind fun _ => Keeps.pure _
  | offer loaded =>
      apply (keeps_variants stored sound loaded).bind
      intro variants
      exact Keeps.context.bind fun _ => Keeps.pure _
  | stockQuantity stocked => exact Keeps.pure _
  | priceOverride stocked => exact Keeps.pure _
  | imageUrl image size => exact Keeps.ofExcept _
  | attributes categoryId => exact keeps_attributes stored sound categoryId
  | attributeValues attr => exact keeps_query stored sound _

end Kept

theorem category_leaves (id : Int64) (session : Session) :
    ∃ reached after, (shop.category id).runFrom session = some (reached, after) ∧
      catalog.Leaves ⟨.category id, reached⟩ session.context after.context := by
  cases found : catalog.category? id with
  | none =>
      refine ⟨.ok none, _, runFrom_category_miss stored found session, .unchanged ?_ rfl⟩
      intro category finds
      cases finds
  | some root =>
      obtain ⟨nodes, chain, after, fetched, -, kept, ran⟩ :=
        runFrom_category_some stored sound found session
      obtain ⟨-, rfl⟩ := Forest.find_mem found
      exact ⟨_, after, ran, .remembered (.category root.id root) fetched kept⟩

theorem entity_leaves (id : GlobalId) (session : Session) :
    ∃ reached after, (shop.entity id).runFrom session = some (reached, after) ∧
      catalog.Leaves ⟨.entity id, reached⟩ session.context after.context := by
  by_cases kind : id.kind = .category
  · -- The answer is the category that was looked up, as an entity.
    have same : shop.entity id = Option.map Entity.category <$> shop.category id.key := by
      rw [entity, kind, ← bind_pure_comp]
    obtain ⟨reached, after, ran, leaves⟩ := category_leaves stored sound id.key session
    rw [same, runFrom_map, ran]
    cases leaves with
    | unchanged missed unchanged =>
        cases reached with
        | error fault => exact ⟨_, after, rfl, .unchanged (by rintro _ ⟨⟩) unchanged⟩
        | ok found =>
            cases found with
            | none => exact ⟨_, after, rfl, .unchanged (by rintro _ ⟨⟩) unchanged⟩
            | some found => exact absurd (.category id.key found) (missed found)
    | @remembered found nodes chain finds fetched kept =>
        cases finds
        exact ⟨_, after, rfl, .remembered (.entity kind found) fetched kept⟩
  · have keeps : Keeps (fun context => context = session.context) (shop.entity id) :=
      keeps_entity stored sound fun known => absurd known kind
    obtain ⟨reached, after, ran, same⟩ := keeps session rfl
    refine ⟨reached, after, ran, .unchanged (fun found finds => ?_) same⟩
    cases finds with
    | entity known => exact kind known

theorem entityByText_leaves (text : String) (session : Session) :
    ∃ reached after, (shop.entityByText text).runFrom session = some (reached, after) ∧
      catalog.Leaves ⟨.entityByText text, reached⟩ session.context after.context := by
  cases read : GlobalId.decode text with
  | error fault =>
      refine ⟨.error fault, session, ?_, .unchanged (by rintro _ ⟨⟩) rfl⟩
      rw [entityByText, read]
      rfl
  | ok id =>
      obtain ⟨reached, after, ran, leaves⟩ := entity_leaves stored sound id session
      have same : shop.entityByText text = shop.entity id := by
        rw [entityByText, read]
        rfl
      refine ⟨reached, after, by rw [same, ran], ?_⟩
      cases leaves with
      | unchanged missed unchanged =>
          refine .unchanged (fun found finds => missed found ?_) unchanged
          exact (Report.finds_entityByText_iff read).mp finds
      | remembered finds fetched kept =>
          exact .remembered ((Report.finds_entityByText_iff read).mpr finds) fetched kept

theorem perform_leaves (operation : Operation) (session : Session) :
    ∃ reached after, (shop.perform operation).runFrom session = some (reached, after) ∧
      catalog.Leaves ⟨operation, reached⟩ session.context after.context := by
  cases looksUp : operation.looksUp with
  | false =>
      have keeps : Keeps (fun context => context = session.context) (shop.perform operation) :=
        keeps_perform stored sound looksUp
      obtain ⟨reached, after, ran, same⟩ := keeps session rfl
      refine ⟨reached, after, ran, .unchanged (fun found finds => ?_) same⟩
      exact Bool.false_ne_true (looksUp.symm.trans finds.looksUp)
  | true =>
      cases operation with
      | category id => exact category_leaves stored sound id session
      | entity id => exact entity_leaves stored sound id session
      | entityByText text => exact entityByText_leaves stored sound text session
      | _ => cases looksUp

end Shop

end Steps

section Effects

namespace Catalog.Leaves

variable {report : Report} {before after : Context}

theorem sameRequest (leaves : catalog.Leaves report before after) : after.SameRequest before := by
  cases leaves with
  | unchanged missed same => exact same ▸ .refl after
  | remembered finds fetched kept => exact Context.sameRequest_remember kept

theorem opened_iff (leaves : catalog.Leaves report before after) :
    after.lineage.isSome = true ↔
      before.lineage.isSome = true ∨ ∃ found, report.Finds found := by
  cases leaves with
  | unchanged missed same => simp [same, missed]
  | @remembered found nodes chain finds fetched kept =>
      obtain ⟨lineage, -, rfl⟩ := Option.map_eq_some_iff.mp kept
      exact iff_of_true rfl (.inr ⟨found, finds⟩)

theorem cached_iff (acyclic : Forest.Acyclic catalog.categories)
    (leaves : catalog.Leaves report before after) (id : Int64) :
    after.openLineage.contains id = true ↔ before.openLineage.contains id = true ∨
      ∃ found, report.Finds found ∧ catalog.InBranch found id := by
  cases leaves with
  | unchanged missed same => simp [same, missed]
  | @remembered found nodes chain finds fetched kept =>
      obtain ⟨known, walked⟩ := subtree_eq_some fetched
      obtain rfl : Forest.below catalog.categories found.id = nodes :=
        Option.some.inj ((acyclic.descendants_eq found.id).symm.trans walked)
      have fills := Context.fills_of_remember acyclic (Forest.descendants_subset walked) kept
      -- A report finds one category, so theirs is the only branch in question.
      have only : (∃ other, report.Finds other ∧ catalog.InBranch other id) ↔
          catalog.InBranch found id := by
        constructor
        · rintro ⟨other, also, inBranch⟩
          exact also.unique finds ▸ inBranch
        · exact fun inBranch => ⟨found, finds, inBranch⟩
      rw [only, inBranch_iff acyclic known, acyclic.mem_map_below_iff, or_comm]
      exact ((Lineage.fills_insert _ _ chain).trans fills).contains_iff id

end Catalog.Leaves

end Effects

section Requests

/-- Remembered afterwards is what was before and the branches of all categories that were found. -/
structure Catalog.Covers (catalog : Catalog) (reports : List Report) (before after : Context) :
    Prop where
  request : after.SameRequest before
  opened : after.lineage.isSome = true ↔
    before.lineage.isSome = true ∨ ∃ report ∈ reports, ∃ found, report.Finds found
  cached : ∀ id, after.openLineage.contains id = true ↔
    before.openLineage.contains id = true ∨
      ∃ report ∈ reports, ∃ found, report.Finds found ∧ catalog.InBranch found id

namespace Catalog

theorem covers_nil (context : Context) : catalog.Covers [] context context :=
  ⟨.refl context, by simp, by simp⟩

theorem Leaves.covers_cons (acyclic : Forest.Acyclic catalog.categories) {report : Report}
    {reports : List Report} {before between after : Context}
    (first : catalog.Leaves report before between) (others : catalog.Covers reports between after) :
    catalog.Covers (report :: reports) before after where
  request := others.request.trans first.sameRequest
  opened := by
    rw [others.opened, first.opened_iff, or_assoc]
    simp
  cached id := by
    rw [others.cached, first.cached_iff acyclic, or_assoc]
    simp

end Catalog

namespace Shop

theorem run_covers (stored : shop.store = { catalog }) (sound : Forest.Sound catalog.categories)
    (operations : List Operation) (session : Session) :
    ∃ reports after, shop.run operations session = some (reports, after) ∧
      catalog.Covers reports session.context after.context := by
  induction operations generalizing session with
  | nil => exact ⟨[], session, rfl, Catalog.covers_nil session.context⟩
  | cons operation rest ih =>
      obtain ⟨reached, middle, ran, leaves⟩ := perform_leaves stored sound operation session
      obtain ⟨reports, after, others, covers⟩ := ih middle
      exact ⟨_, after, run_cons ran others, leaves.covers_cons sound.acyclic covers⟩

theorem runFrom_ancestors_of_contains {category : Category} {session : Session}
    (cached : session.context.openLineage.contains category.id = true) :
    ∃ chain, (shop.ancestors category).runFrom session = some (.ok chain, session) := by
  obtain ⟨chain, kept⟩ := Option.isSome_iff_exists.mp cached
  exact ⟨chain, shop.runFrom_ancestors_remembered kept⟩

/-- A request remembers exactly the branches of the categories that it looked up and found, and
its context has a lineage exactly if there was one. Whatever else is done, or done in vain, leaves
the context as it was, who asks for what on which day never changes, and a chain that is
remembered costs no question. -/
theorem remembers_branches (accepted : Catalog.ofSeed seed = .ok catalog)
    (distinct : (seed.categories.map Category.id).Nodup) (stored : shop.store = { catalog })
    {fresh : Session} (unused : fresh.context.lineage = none) (operations : List Operation) :
    (∃ reports after, shop.run operations fresh = some (reports, after) ∧
      (after.context.lineage.isSome = true ↔
        ∃ report ∈ reports, ∃ found, report.Finds found) ∧
      (∀ id, after.context.openLineage.contains id = true ↔
        ∃ report ∈ reports, ∃ found, report.Finds found ∧ catalog.InBranch found id) ∧
      after.context.SameRequest fresh.context) ∧
    (∀ operation session, ∃ reached after,
      (shop.perform operation).runFrom session = some (reached, after) ∧
      after.context.SameRequest session.context ∧
      ((∀ found, ¬ Report.Finds ⟨operation, reached⟩ found) → after.context = session.context)) ∧
    ∀ (category : Category) (session : Session),
      session.context.openLineage.contains category.id = true →
        ∃ chain, (shop.ancestors category).runFrom session = some (.ok chain, session) := by
  have separate := Catalog.distinct_categories accepted distinct
  have sound := Forest.sound_of_check catalog.checked (Forest.agreeing_of_nodup separate)
  refine ⟨?_, ?_, fun category session => runFrom_ancestors_of_contains⟩
  · obtain ⟨reports, after, ran, covers⟩ := run_covers stored sound operations fresh
    have empty : ∀ id, fresh.context.openLineage.contains id = false := by
      intro id
      rw [Context.openLineage, unused]
      rfl
    refine ⟨reports, after, ran, ?_, fun id => ?_, covers.request⟩
    · rw [covers.opened, unused]
      simp
    · rw [covers.cached, empty]
      simp
  · intro operation session
    obtain ⟨reached, after, ran, leaves⟩ := perform_leaves stored sound operation session
    refine ⟨reached, after, ran, leaves.sameRequest, fun missed => ?_⟩
    cases leaves with
    | unchanged _ same => exact same
    | remembered finds _ _ => exact absurd finds (missed _)

theorem remembers_branches_branching : ∃ catalog, Catalog.ofSeed .branching = .ok catalog ∧
    ∃ reports after, ({ store := { catalog } } : Shop).run [.category 9, .category 2]
        { context := { today := ⟨2024, 6, 1, by decide⟩ } } = some (reports, after) ∧
      after.context.lineage.isSome = true ∧
      ∀ id, after.context.openLineage.contains id = true ↔ id = 2 ∨ id = 4 := by
  have checked : Forest.check Seed.branching.arranged.categories = .ok () := by cbv
  have accepted := Catalog.ofSeed_of_check checked
  have reported : (({ store := { catalog := ⟨_, _, rfl, checked⟩ } } : Shop).run
      [.category 9, .category 2] { context := { today := ⟨2024, 6, 1, by decide⟩ } }).map Prod.fst =
        some [⟨.category 9, .ok none⟩,
          ⟨.category 2, .ok (some ⟨2, "Cheese", "cheese", "", some 1⟩)⟩] := by cbv
  have listed : Catalog.descendants ⟨_, _, rfl, checked⟩ 2 true =
      some [⟨2, "Cheese", "cheese", "", some 1⟩, ⟨4, "Blue", "blue", "", some 2⟩] := by cbv
  generalize (⟨_, _, rfl, checked⟩ : Catalog) = catalog at accepted reported listed
  have stored : ({ store := { catalog } } : Shop).store = { catalog } := rfl
  have unused : (Session.mk { today := ⟨2024, 6, 1, by decide⟩ } [] 0).context.lineage = none := rfl
  obtain ⟨⟨reports, after, ran, opened, cached, -⟩, -⟩ :=
    remembers_branches accepted (by decide) stored unused [.category 9, .category 2]
  rw [ran] at reported
  obtain rfl := Option.some.inj reported
  have finds : Report.Finds ⟨.category 2, .ok (some ⟨2, "Cheese", "cheese", "", some 1⟩)⟩
      ⟨2, "Cheese", "cheese", "", some 1⟩ := .category 2 _
  refine ⟨catalog, accepted, _, after, ran, opened.mpr ⟨_, by simp, _, finds⟩, fun id => ?_⟩
  rw [cached]
  constructor
  · rintro ⟨report, member, found, hit, lower, walked, inBranch⟩
    rcases List.mem_cons.mp member with rfl | later
    · cases hit
    · rw [List.mem_singleton.mp later] at hit
      rw [← finds.unique hit, listed] at walked
      cases walked
      simpa using inBranch
  · intro either
    exact ⟨_, by simp, _, finds, _, listed, by simpa using either⟩

end Shop

end Requests

end Storefront
