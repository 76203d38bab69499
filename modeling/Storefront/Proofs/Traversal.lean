import Mathlib.Data.List.Permutation
import Storefront.Proofs.Access
import Storefront.Proofs.Checked
/-!
Catalogs can be traversed. Every catalog has passed the check of its rows; whether the walks over
it end is a matter of the circles that the check lets pass.
-/

namespace Storefront

open Relation Access

variable {seed : Seed} {catalog : Catalog} {shop : Shop}

namespace Forest

theorem child_congr {left right : List Category} (same : left.Perm right) :
    Child left = Child right := by
  funext child parent
  simp only [Child, same.mem_iff]

theorem acyclic_congr {left right : List Category} (same : left.Perm right) :
    Acyclic left ↔ Acyclic right := by
  rw [Acyclic, Acyclic, child_congr same]

theorem agreeing_congr {left right : List Category} (same : left.Perm right) :
    Agreeing left ↔ Agreeing right := by
  simp only [Agreeing, same.mem_iff]

end Forest

namespace Catalog

theorem checked (catalog : Catalog) : Forest.check catalog.categories = .ok () :=
  catalog.accepted.elim fun _ accepted => accepted.2

theorem exists_of_check (seed : Seed) (ordered : seed.arranged.categories = seed.categories)
    (checked : Forest.check seed.categories = .ok ()) :
    ∃ catalog, ofSeed seed = .ok catalog ∧ catalog.categories = seed.categories := by
  have accepted := ofSeed_of_check (ordered.symm ▸ checked)
  exact ⟨_, accepted, ordered⟩

theorem categories_perm (accepted : ofSeed seed = .ok catalog) :
    catalog.categories.Perm seed.categories := by
  rw [categories, ofSeed_eq_ok accepted]
  exact Seed.byId_perm Category.id seed.categories

theorem distinct_categories (accepted : ofSeed seed = .ok catalog)
    (distinct : (seed.categories.map Category.id).Nodup) :
    (catalog.categories.map Category.id).Nodup :=
  ((categories_perm accepted).map Category.id).nodup_iff.mpr distinct

/-- Every walk from `id` ends: the one up at a category without a parent, the one down without
coming back to a category that it is still below. So does the look-up that takes both. -/
structure Traversable (catalog : Catalog) (id : Int64) : Prop where
  upward : ∃ chain,
    Forest.Above catalog.categories ((catalog.category? id).bind Category.parentId) chain ∧
    catalog.ancestors id = some (.ok chain)
  subtree : (catalog.subtree? id).isSome
  downward : ∀ withSelf, (catalog.descendants id withSelf).isSome
  path : ∀ lower, ReflTransGen (Forest.Child catalog.categories) lower id →
    ¬ TransGen (Forest.Child catalog.categories) lower lower
  lookUp : ∀ shop : Shop, shop.store = { catalog } → ∀ session, ∃ after,
    (shop.category id).runFrom session = some (.ok (catalog.category? id), after)

theorem ancestors_eq_ok_iff {id : Int64} {chain : List Category} :
    catalog.ancestors id = some (.ok chain) ↔
      Forest.Above catalog.categories ((catalog.category? id).bind Category.parentId) chain := by
  have walked :
      Forest.upward catalog.categories [] ((catalog.category? id).bind Category.parentId) =
        some (.ok chain) ↔
      Forest.Above catalog.categories ((catalog.category? id).bind Category.parentId) chain := by
    rw [Forest.upward_eq_ok_iff]
    simp only [List.append_nil, exists_eq_right]
  rw [← walked, ancestors, Option.map_eq_some_iff]
  constructor
  · rintro ⟨reached, ended, same⟩
    cases reached with
    | error missing => cases same
    | ok higher => cases same; exact ended
  · exact fun ended => ⟨.ok chain, ended, rfl⟩

theorem ancestors_exist (catalog : Catalog) (sound : Forest.Sound catalog.categories) (id : Int64) :
    ∃ chain, catalog.ancestors id = some (.ok chain) := by
  have known : ∀ parent ∈ (catalog.category? id).bind Category.parentId,
      (Forest.find? catalog.categories parent).isSome := by
    intro parent named
    obtain ⟨row, found, named⟩ := Option.bind_eq_some_iff.mp named
    exact sound.closed row (Forest.find_mem found).1 parent named
  obtain ⟨chain, above⟩ := sound.above_exists known
  exact ⟨chain, ancestors_eq_ok_iff.mpr above⟩

theorem subtree_of_found {id : Int64} {root : Category} (found : catalog.category? id = some root) :
    catalog.subtree? id =
      (Forest.descendants catalog.categories id).map fun nodes => some { root, nodes } := by
  rw [subtree?, found]

theorem subtree_eq_some {id : Int64} {tree : Subtree}
    (fetched : catalog.subtree? id = some (some tree)) :
    catalog.category? id = some tree.root ∧
      Forest.descendants catalog.categories id = some tree.nodes := by
  cases found : catalog.category? id with
  | none => simp [subtree?, found] at fetched
  | some root =>
      rw [subtree_of_found found] at fetched
      obtain ⟨nodes, walked, same⟩ := Option.map_eq_some_iff.mp fetched
      cases same
      exact ⟨rfl, walked⟩

theorem run_answer_categoryTree (catalog : Catalog) (id : Int64) :
    (catalog.answer (.categoryTree id)).run = (catalog.subtree? id).map .ok := rfl

theorem run_answer_descendants (catalog : Catalog) (id : Int64) (withSelf : Bool) :
    (catalog.answer (.descendants id withSelf)).run =
      (catalog.descendants id withSelf).map .ok := rfl

theorem run_answer_ancestors (catalog : Catalog) (id : Int64) :
    (catalog.answer (.ancestors id)).run = catalog.ancestors id := rfl

end Catalog

namespace Shop

theorem runFrom_category_miss (stored : shop.store = { catalog }) {id : Int64}
    (absent : catalog.category? id = none) (session : Session) :
    (shop.category id).runFrom session =
      some (.ok none, session.noting (.categoryTree id)) := by
  have fetched : catalog.subtree? id = some none := by rw [Catalog.subtree?, absent]
  rw [category, runFrom_bind, runFrom_ask stored, Catalog.run_answer_categoryTree, fetched]
  rfl

theorem runFrom_chainAbove (stored : shop.store = { catalog }) {root : Category}
    {chain : List Category} (found : catalog.category? root.id = some root)
    (climbed : catalog.ancestors root.id = some (.ok chain)) (session : Session) :
    ∃ noted : Session, noted.context = session.context ∧
      (shop.chainAbove root).runFrom session = some (.ok chain, noted) := by
  by_cases top : root.isRoot = true
  · have above := Catalog.ancestors_eq_ok_iff.mp climbed
    rw [found, Option.bind_some, Option.isNone_iff_eq_none.mp top] at above
    cases above
    exact ⟨session, rfl, by rw [chainAbove, if_pos top]; rfl⟩
  · refine ⟨session.noting (.ancestors root.id), rfl, ?_⟩
    rw [chainAbove, if_neg top, runFrom_ask stored, Catalog.run_answer_ancestors, climbed]
    rfl

theorem runFrom_category_hit (stored : shop.store = { catalog }) {id : Int64} {tree : Subtree}
    {chain : List Category} (fetched : catalog.subtree? id = some (some tree))
    (climbed : catalog.ancestors id = some (.ok chain)) (session : Session) :
    ∃ noted : Session, (shop.category id).runFrom session =
      (session.context.remember tree chain).map fun context =>
        (.ok (some tree.root), { noted with context }) := by
  obtain ⟨found, -⟩ := Catalog.subtree_eq_some fetched
  have same : tree.root.id = id := (Forest.find_mem found).2
  subst same
  obtain ⟨noted, kept, ran⟩ :=
    runFrom_chainAbove stored found climbed (session.noting (.categoryTree tree.root.id))
  refine ⟨noted, ?_⟩
  rw [category, runFrom_bind, runFrom_ask stored, Catalog.run_answer_categoryTree, fetched]
  simp only [Option.map_some, Option.bind_some]
  rw [runFrom_bind, ran]
  simp only [Option.bind_some]
  rw [runFrom_bind, runFrom_remember, kept, Session.context_noting]
  cases session.context.remember tree chain <;> rfl

section Ending

theorem remember_isSome {tree : Subtree} (acyclic : Forest.Acyclic catalog.categories)
    (within : tree.nodes ⊆ catalog.categories) (context : Context) (chain : List Category) :
    (context.remember tree chain).isSome := by
  -- The nodes of the tree are rows of the catalog, so below the root there is no circle either.
  have accessible := (acyclic.subset within).child_wellFounded.apply tree.root.id
  rw [Context.remember, Option.isSome_map]
  exact Lineage.populate_isSome accessible context.openLineage chain

theorem runFrom_category_some (stored : shop.store = { catalog })
    (sound : Forest.Sound catalog.categories) {id : Int64} {root : Category}
    (found : catalog.category? id = some root) (session : Session) :
    ∃ (nodes chain : List Category) (after : Session),
      catalog.subtree? id = some (some { root, nodes }) ∧
      catalog.ancestors id = some (.ok chain) ∧
      session.context.remember { root, nodes } chain = some after.context ∧
      (shop.category id).runFrom session = some (.ok (some root), after) := by
  obtain ⟨nodes, walked⟩ := Option.isSome_iff_exists.mp
    (Forest.descendants_isSome_iff.mpr (sound.acyclic.child_wellFounded.apply id))
  have fetched : catalog.subtree? id = some (some { root, nodes }) := by
    rw [Catalog.subtree_of_found found, walked]
    rfl
  obtain ⟨chain, climbed⟩ := catalog.ancestors_exist sound id
  obtain ⟨noted, ran⟩ := runFrom_category_hit stored fetched climbed session
  have within : Subtree.nodes { root, nodes } ⊆ catalog.categories :=
    Forest.descendants_subset walked
  obtain ⟨context, kept⟩ := Option.isSome_iff_exists.mp
    (remember_isSome sound.acyclic within session.context chain)
  refine ⟨nodes, chain, { noted with context }, fetched, climbed, kept, ?_⟩
  rw [ran, kept]
  rfl

/-- Looking a category up ends with the category, and all that it changes in the context is that
the chains of the category's subtree are remembered. -/
theorem runFrom_category (stored : shop.store = { catalog })
    (sound : Forest.Sound catalog.categories) (id : Int64) (session : Session) :
    ∃ after : Session,
      (shop.category id).runFrom session = some (.ok (catalog.category? id), after) ∧
      (after.context = session.context ∨ ∃ tree chain,
        catalog.subtree? id = some (some tree) ∧ catalog.ancestors id = some (.ok chain) ∧
        session.context.remember tree chain = some after.context) := by
  cases found : catalog.category? id with
  | none => exact ⟨_, runFrom_category_miss stored found session, .inl rfl⟩
  | some root =>
      obtain ⟨nodes, chain, after, fetched, climbed, kept, ran⟩ :=
        runFrom_category_some stored sound found session
      exact ⟨after, ran, .inr ⟨_, chain, fetched, climbed, kept⟩⟩

end Ending

end Shop

section Accepted

theorem Catalog.sound (catalog : Catalog) (acyclic : Forest.Acyclic catalog.categories) :
    Forest.Sound catalog.categories :=
  ⟨Forest.closed_of_check catalog.checked, acyclic⟩

theorem Catalog.acc_of_subtree {id : Int64} (ended : (catalog.subtree? id).isSome) :
    Acc (Forest.Child catalog.categories) id := by
  cases found : catalog.category? id with
  | none =>
      -- Nothing is below an id that is not there, since every parent is.
      constructor
      rintro child ⟨row, member, rfl, named⟩
      have known := Forest.closed_of_check catalog.checked row member id named
      rw [← Catalog.category?, found] at known
      cases known
  | some root =>
      rw [Catalog.subtree_of_found found, Option.isSome_map] at ended
      exact Forest.descendants_isSome_iff.mp ended

theorem Catalog.traversable_of_acyclic (acyclic : Forest.Acyclic catalog.categories) (id : Int64) :
    catalog.Traversable id := by
  have sound := catalog.sound acyclic
  have walked : (Forest.descendants catalog.categories id).isSome :=
    Forest.descendants_isSome_iff.mpr (acyclic.child_wellFounded.apply id)
  obtain ⟨chain, climbed⟩ := catalog.ancestors_exist sound id
  constructor
  · exact ⟨chain, ancestors_eq_ok_iff.mp climbed, climbed⟩
  · cases found : catalog.category? id with
    | none => rw [Catalog.subtree?, found]; rfl
    | some root => rwa [Catalog.subtree_of_found found, Option.isSome_map]
  · intro withSelf
    rw [Catalog.descendants]
    cases catalog.category? id with
    | none => rfl
    | some root => rwa [Option.isSome_map]
  · exact fun lower _ => acyclic lower
  · intro shop stored session
    obtain ⟨after, ran, -⟩ := Shop.runFrom_category stored sound id session
    exact ⟨after, ran⟩

/-- Acceptance alone does not make a catalog traversable. What does is exactly that no category is
above itself, counting every row of it, and rows that agree about parents give that. -/
theorem Catalog.traversable_iff_acyclic (accepted : ofSeed seed = .ok catalog) :
    ((∀ id, catalog.Traversable id) ↔ Forest.Acyclic seed.categories) ∧
      (Forest.Agreeing seed.categories → Forest.Acyclic seed.categories) := by
  have same := categories_perm accepted
  rw [← Forest.acyclic_congr same, ← Forest.agreeing_congr same]
  constructor
  · constructor
    · intro traversable
      exact Forest.acyclic_of_acc fun id => acc_of_subtree (traversable id).subtree
    · exact traversable_of_acyclic
  · exact Forest.acyclic_of_check catalog.checked

def Seed.repeating : Seed where
  categories :=
    [{ id := 1, name := "Wine", slug := "wine" },
      { id := 2, name := "Red", slug := "red", parentId := some 1 },
      { id := 2, name := "Red wine", slug := "red-wine", parentId := some 1 }]

theorem Catalog.repeating_traversable :
    ∃ catalog, ofSeed .repeating = .ok catalog ∧ ∀ id, catalog.Traversable id := by
  obtain ⟨catalog, accepted, -⟩ := exists_of_check .repeating (by cbv) (by cbv)
  have agreeing : Forest.Agreeing Seed.repeating.categories := by
    unfold Forest.Agreeing
    decide
  obtain ⟨exactly, enough⟩ := traversable_iff_acyclic accepted
  exact ⟨catalog, accepted, exactly.mpr (enough agreeing)⟩

/-- A category that is its own parent by its first row and has none by its last. -/
def Seed.circular : Seed where
  categories :=
    [{ id := 1, name := "A", slug := "a", parentId := some 1 },
      { id := 1, name := "B", slug := "b" }]

theorem Catalog.circular_endless : ∃ catalog, ofSeed .circular = .ok catalog ∧
    catalog.ancestors 1 = none ∧ catalog.subtree? 1 = none ∧
    ∀ shop : Shop, shop.store = { catalog } → ∀ session,
      (shop.category 1).runFrom session = none := by
  obtain ⟨catalog, accepted, rows⟩ := exists_of_check .circular (by cbv) (by cbv)
  have parent : Forest.Parent catalog.categories 1 1 := by rw [rows]; rfl
  -- By its first row the category is its own parent, and what is its own parent is not accessible.
  have upward : ¬ (catalog.ancestors 1).isSome := by
    rw [ancestors, Option.isSome_map, Forest.upward_isSome_iff]
    exact fun accessible => Forest.not_related_of_acc (accessible 1 parent) parent
  have downward : ¬ (catalog.subtree? 1).isSome := fun ended =>
    Forest.not_related_of_acc (acc_of_subtree ended) (Forest.parent_child parent)
  rw [Option.not_isSome_iff_eq_none] at upward downward
  refine ⟨catalog, accepted, upward, downward, fun shop stored session => ?_⟩
  rw [Shop.category, runFrom_bind, Shop.runFrom_ask stored, run_answer_categoryTree, downward]
  rfl

end Accepted

end Storefront
