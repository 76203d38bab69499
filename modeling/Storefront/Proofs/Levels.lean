import Storefront.Proofs.Duality
/-!
The subtree of a category beside the catalog that it was taken from. The subtree is listed depth
first, the catalog by id, so children stand next to each other in neither. Where ids are distinct
both have the same children of every category in the subtree, and in the same order: whoever is in
the subtree has all their children there, and siblings keep the order of their ids on the walk down.
-/

namespace Storefront

open Relation

variable {seed : Seed} {catalog : Catalog} {rows : List Category}

namespace Forest

theorem children_ascending {id : Int64}
    (ascending : rows.Pairwise fun left right => left.id < right.id) :
    (children rows id).Pairwise fun left right => left.id < right.id :=
  ascending.sublist List.filter_sublist

section Below

variable (acyclic : Acyclic rows) (distinct : (rows.map Category.id).Nodup)

include acyclic distinct

theorem Acyclic.mem_children_below_iff {top id : Int64} (within : ReflTransGen (Child rows) id top)
    {row : Category} : row ∈ children (below rows top) id ↔ row ∈ children rows id := by
  rw [mem_children, mem_children, acyclic.mem_below_iff distinct]
  constructor
  · rintro ⟨⟨known, -⟩, named⟩
    exact ⟨known, named⟩
  · rintro ⟨known, named⟩
    exact ⟨⟨known, .head' ⟨row, known, rfl, named⟩ within⟩, named⟩

theorem Acyclic.children_below_ascending
    (ascending : rows.Pairwise fun left right => left.id < right.id) (top id : Int64) :
    (children (below rows top) id).Pairwise fun left right => left.id < right.id := by
  have siblings := (acyclic.siblings_ascending distinct ascending top).sublist
    (List.filter_sublist (p := fun row : Category => row.parentId = some id))
  refine siblings.imp_of_mem ?_
  intro left right inLeft inRight least
  exact least ((mem_children.mp inLeft).2.trans (mem_children.mp inRight).2.symm)

theorem Acyclic.children_below_eq
    (ascending : rows.Pairwise fun left right => left.id < right.id) {top id : Int64}
    (within : ReflTransGen (Child rows) id top) :
    children (below rows top) id = children rows id :=
  eq_of_ordered Int64.lt_asymm (acyclic.children_below_ascending distinct ascending top id)
    (children_ascending ascending) fun _ => acyclic.mem_children_below_iff distinct within

end Below

end Forest

namespace Catalog

theorem categories_ascending (accepted : ofSeed seed = .ok catalog)
    (distinct : (seed.categories.map Category.id).Nodup) :
    catalog.categories.Pairwise fun left right => left.id < right.id := by
  rw [categories, ofSeed_eq_ok accepted]
  exact Seed.byId_ascending distinct

theorem subtree_eq_below (acyclic : Forest.Acyclic catalog.categories) {root : Category}
    (found : catalog.category? root.id = some root) : catalog.subtree? root.id =
      some (some ⟨root, Forest.below catalog.categories root.id⟩) := by
  rw [subtree_of_found found, acyclic.descendants_eq]
  rfl

/-- The subtree of a known category is what the walk down lists, the category first, and whoever is
in it has the children there that they have in the catalog. -/
theorem subtree_agrees (accepted : ofSeed seed = .ok catalog)
    (distinct : (seed.categories.map Category.id).Nodup) :
    ∀ root ∈ seed.categories, ∃ tree, catalog.subtree? root.id = some (some tree) ∧
      tree.root = root ∧ catalog.descendants root.id true = some tree.toList ∧
      ∀ node ∈ tree.toList, tree.childrenOf node.id = catalog.children node.id := by
  have separate := distinct_categories accepted distinct
  have acyclic := Forest.acyclic_of_check catalog.checked (Forest.agreeing_of_nodup separate)
  intro root member
  have found : catalog.category? root.id = some root :=
    Forest.find_self separate ((categories_perm accepted).symm.subset member)
  refine ⟨_, subtree_eq_below acyclic found, rfl, descendants_self_eq acyclic found, ?_⟩
  intro node inTree
  exact acyclic.children_below_eq separate (categories_ascending accepted distinct)
    (acyclic.upward_of_branch separate inTree)

/-- The children of the root stand with a grandchild between them in the one list, and next to each
other in the other. -/
theorem subtree_agrees_branching : ∃ catalog, ofSeed .branching = .ok catalog ∧
    ∃ tree, catalog.subtree? 1 = some (some tree) ∧ catalog.descendants 1 true = some tree.toList ∧
      tree.childrenOf 1 = catalog.children 1 ∧
      catalog.children 1 =
        [⟨2, "Cheese", "cheese", "", some 1⟩, ⟨3, "Wine", "wine", "", some 1⟩] := by
  obtain ⟨catalog, accepted, listed⟩ := exists_of_check .branching (by cbv) (by cbv)
  obtain ⟨tree, taken, own, walked, agree⟩ := subtree_agrees accepted (by decide)
    ⟨1, "Food", "food", "", none⟩ (by decide)
  have level := agree tree.root List.mem_cons_self
  rw [own] at level
  refine ⟨catalog, accepted, tree, taken, walked, level, ?_⟩
  rw [children, listed]
  decide

end Catalog

end Storefront
