import Mathlib.Data.List.Nodup
import Storefront.Proofs.Chains
import Storefront.Proofs.Traversal
/-!
Up and down. Where ids are distinct nobody has two parents, so in a forest the walks down from two
siblings have nothing in common. The walk down lists everybody below the start once, each directly
followed by those below it; and those are just the categories whose walk up passes the start.
-/

namespace Storefront

open Relation

variable {seed : Seed} {catalog : Catalog} {rows : List Category}

namespace Forest

section Siblings

variable (distinct : (rows.map Category.id).Nodup)

include distinct

theorem child_rightUnique : Relator.RightUnique (Child rows) := by
  rintro _ parent other ⟨row, member, rfl, named⟩ ⟨again, inRows, same, names⟩
  rw [List.inj_on_of_nodup_map distinct inRows member same] at names
  exact Option.some.inj (named.symm.trans names)

theorem below_iff_parent {row : Category} (member : row ∈ rows) {upper : Int64} :
    TransGen (Child rows) row.id upper ↔
      ∃ parent ∈ row.parentId, ReflTransGen (Child rows) parent upper := by
  constructor
  · intro lower
    obtain ⟨parent, ⟨again, inRows, same, named⟩, higher⟩ := TransGen.head'_iff.mp lower
    rw [List.inj_on_of_nodup_map distinct inRows member same] at named
    exact ⟨parent, named, higher⟩
  · rintro ⟨parent, named, higher⟩
    exact .head' ⟨row, member, rfl, named⟩ higher

theorem Acyclic.sibling_eq (acyclic : Acyclic rows) {id left right : Int64}
    (first : Child rows left id) (second : Child rows right id)
    (higher : ReflTransGen (Child rows) left right) : left = right := by
  rcases higher.cases_head with same | ⟨parent, names, further⟩
  · exact same
  · rw [child_rightUnique distinct names first] at further
    exact absurd (.tail' further second) (acyclic id)

/-- Nobody is below two siblings. -/
theorem Acyclic.branch_eq (acyclic : Acyclic rows) {id left right lower : Int64}
    (first : Child rows left id) (second : Child rows right id)
    (belowLeft : ReflTransGen (Child rows) lower left)
    (belowRight : ReflTransGen (Child rows) lower right) : left = right := by
  have line := ReflTransGen.total_of_right_unique (child_rightUnique distinct) belowLeft belowRight
  rcases line with higher | higher
  · exact acyclic.sibling_eq distinct first second higher
  · exact (acyclic.sibling_eq distinct second first higher).symm

theorem Acyclic.branch_siblings (acyclic : Acyclic rows) {id left right : Int64}
    (first : Child rows left id) (second : Child rows right id) (differs : left ≠ right)
    {lower other parent : Int64} (belowLeft : ReflTransGen (Child rows) lower left)
    (belowRight : ReflTransGen (Child rows) other right) (named : Child rows lower parent)
    (names : Child rows other parent) : lower = left ∧ other = right := by
  have unique := child_rightUnique distinct
  rcases belowLeft.cases_head with rfl | ⟨_, step, higher⟩
  · rw [unique named first] at names
    exact ⟨rfl, acyclic.sibling_eq distinct names second belowRight⟩
  · rcases belowRight.cases_head with rfl | ⟨_, again, further⟩
    · rw [unique names second] at named
      exact ⟨acyclic.sibling_eq distinct named first belowLeft, rfl⟩
    · rw [unique step named] at higher
      rw [unique again names] at further
      exact absurd (acyclic.branch_eq distinct first second higher further) differs

end Siblings

theorem child_of_children {id : Int64} {row : Category} (member : row ∈ children rows id) :
    Child rows row.id id := by
  obtain ⟨inRows, named⟩ := mem_children.mp member
  exact ⟨row, inRows, rfl, named⟩

section Down

/-- The categories below `id`; none where the walk does not end. -/
def below (rows : List Category) (id : Int64) : List Category := (descendants rows id).getD []

variable (acyclic : Acyclic rows)

include acyclic

theorem Acyclic.descendants_eq (id : Int64) : descendants rows id = some (below rows id) := by
  obtain ⟨nodes, ended⟩ := Option.isSome_iff_exists.mp
    (descendants_isSome_iff.mpr (acyclic.child_wellFounded.apply id))
  rw [below, ended]
  rfl

theorem Acyclic.below_eq (id : Int64) :
    below rows id = (children rows id).flatMap fun child => child :: below rows child.id := by
  have branches : ((children rows id).mapM fun child : Category => do
        pure (child :: (← descendants rows child.id))) =
      some ((children rows id).map fun child => child :: below rows child.id) := by
    simp only [acyclic.descendants_eq]
    exact List.mapM_pure
  rw [below, descendants, branches]
  rfl

theorem Acyclic.block_infix {id : Int64} {row : Category} (member : row ∈ below rows id) :
    (row :: below rows row.id) <:+: below rows id := by
  induction id using acyclic.child_wellFounded.induction with
  | _ id ih =>
    rw [acyclic.below_eq] at member
    rw [acyclic.below_eq id]
    obtain ⟨child, inChildren, inBranch⟩ := List.mem_flatMap.mp member
    have branch := List.infix_flatMap_of_mem inChildren fun child => child :: below rows child.id
    rcases List.mem_cons.mp inBranch with rfl | deeper
    · exact branch
    · have lower := ih child.id (child_of_children inChildren) deeper
      exact (lower.trans (List.suffix_cons child _).isInfix).trans branch

variable (distinct : (rows.map Category.id).Nodup)

include distinct

theorem Acyclic.mem_below_iff {id : Int64} {row : Category} :
    row ∈ below rows id ↔ row ∈ rows ∧ TransGen (Child rows) row.id id := by
  induction id using acyclic.child_wellFounded.induction with
  | _ id ih =>
    rw [acyclic.below_eq, List.mem_flatMap]
    constructor
    · rintro ⟨child, inChildren, member⟩
      have step := child_of_children inChildren
      rcases List.mem_cons.mp member with rfl | deeper
      · exact ⟨(mem_children.mp inChildren).1, .single step⟩
      · obtain ⟨known, lower⟩ := (ih child.id step).mp deeper
        exact ⟨known, lower.tail step⟩
    · rintro ⟨known, lower⟩
      obtain ⟨_, way, child, inRows, rfl, named⟩ := TransGen.tail'_iff.mp lower
      refine ⟨child, mem_children.mpr ⟨inRows, named⟩, ?_⟩
      rcases reflTransGen_iff_eq_or_transGen.mp way with same | deeper
      · rw [List.inj_on_of_nodup_map distinct inRows known same]
        exact List.mem_cons_self
      · exact List.mem_cons_of_mem _ ((ih child.id ⟨child, inRows, rfl, named⟩).mpr ⟨known, deeper⟩)

theorem Acyclic.upward_of_branch {child row : Category}
    (member : row ∈ child :: below rows child.id) :
    ReflTransGen (Child rows) row.id child.id := by
  rcases List.mem_cons.mp member with rfl | deeper
  · exact .refl
  · exact ((acyclic.mem_below_iff distinct).mp deeper).2.to_reflTransGen

theorem Acyclic.parent_of_branch {id : Int64} {child row : Category}
    (inChildren : child ∈ children rows id) (member : row ∈ child :: below rows child.id) :
    row ∈ rows ∧ ∃ parent, row.parentId = some parent := by
  obtain ⟨inRows, named⟩ := mem_children.mp inChildren
  rcases List.mem_cons.mp member with rfl | deeper
  · exact ⟨inRows, id, named⟩
  · obtain ⟨known, lower⟩ := (acyclic.mem_below_iff distinct).mp deeper
    obtain ⟨parent, names, -⟩ := (below_iff_parent distinct known).mp lower
    exact ⟨known, parent, names⟩

theorem Acyclic.nodup_below (id : Int64) : (below rows id).Nodup := by
  induction id using acyclic.child_wellFounded.induction with
  | _ id ih =>
    rw [acyclic.below_eq, List.nodup_flatMap]
    constructor
    · intro child inChildren
      refine List.nodup_cons.mpr ⟨fun itself => ?_, ih child.id (child_of_children inChildren)⟩
      exact acyclic child.id ((acyclic.mem_below_iff distinct).mp itself).2
    · have separate : (children rows id).Pairwise fun left right => left.id ≠ right.id :=
        List.pairwise_map.mp (distinct.sublist (List.filter_sublist.map Category.id))
      refine separate.imp_of_mem ?_
      intro left right inLeft inRight differs row first second
      exact differs (acyclic.branch_eq distinct (child_of_children inLeft)
        (child_of_children inRight) (acyclic.upward_of_branch distinct first)
        (acyclic.upward_of_branch distinct second))

theorem Acyclic.siblings_ascending (ascending : rows.Pairwise fun left right => left.id < right.id)
    (id : Int64) : (below rows id).Pairwise fun left right =>
      left.parentId = right.parentId → left.id < right.id := by
  induction id using acyclic.child_wellFounded.induction with
  | _ id ih =>
    rw [acyclic.below_eq, List.pairwise_flatMap]
    constructor
    · intro child inChildren
      have step := child_of_children inChildren
      refine List.pairwise_cons.mpr ⟨fun row deeper same => ?_, ih child.id step⟩
      -- Nobody below the child is its sibling.
      obtain ⟨known, lower⟩ := (acyclic.mem_below_iff distinct).mp deeper
      have again : Child rows row.id id :=
        ⟨row, known, rfl, same ▸ (mem_children.mp inChildren).2⟩
      have one := acyclic.sibling_eq distinct again step lower.to_reflTransGen
      exact absurd (one ▸ lower) (acyclic child.id)
    · refine (ascending.sublist List.filter_sublist).imp_of_mem ?_
      intro left right inLeft inRight least first inFirst second inSecond same
      have differs : left.id ≠ right.id := fun one => Int64.lt_irrefl (one ▸ least)
      obtain ⟨firstRow, parent, named⟩ := acyclic.parent_of_branch distinct inLeft inFirst
      obtain ⟨secondRow, _, _⟩ := acyclic.parent_of_branch distinct inRight inSecond
      obtain ⟨one, other⟩ := acyclic.branch_siblings distinct (child_of_children inLeft)
        (child_of_children inRight) differs (acyclic.upward_of_branch distinct inFirst)
        (acyclic.upward_of_branch distinct inSecond) ⟨first, firstRow, rfl, named⟩
        ⟨second, secondRow, rfl, same ▸ named⟩
      rwa [one, other]

end Down

end Forest

namespace Catalog

/-- Everybody once, directly followed by all those below them, and siblings by ascending id. -/
structure DepthFirst (catalog : Catalog) (listed : List Category) : Prop where
  once : listed.Nodup
  blocks : ∀ row ∈ listed, ∃ block, catalog.descendants row.id false = some block ∧
    (row :: block) <:+: listed
  ascending : listed.Pairwise fun left right => left.parentId = right.parentId → left.id < right.id

/-- From a category without a parent down to the parent of `category`. -/
structure Lineal (chain : List Category) (category : Category) : Prop where
  top : ∀ root ∈ chain.head?, root.parentId = none
  linked : chain.IsChain fun higher lower => lower.parentId = some higher.id
  last : chain.getLast?.map Category.id = category.parentId

section Forests

variable (acyclic : Forest.Acyclic catalog.categories)

include acyclic

theorem descendants_eq_below {row : Category} (member : row ∈ catalog.categories) :
    catalog.descendants row.id false = some (Forest.below catalog.categories row.id) := by
  obtain ⟨found, known⟩ := Option.isSome_iff_exists.mp (Forest.find_isSome member)
  rw [descendants, category?, known, acyclic.descendants_eq]
  rfl

theorem descendants_self_eq {root : Category} (found : catalog.category? root.id = some root) :
    catalog.descendants root.id true = some (root :: Forest.below catalog.categories root.id) := by
  rw [descendants, found, acyclic.descendants_eq]
  rfl

theorem depthFirst_below (distinct : (catalog.categories.map Category.id).Nodup)
    (ascending : catalog.categories.Pairwise fun left right => left.id < right.id) (id : Int64) :
    catalog.DepthFirst (Forest.below catalog.categories id) where
  once := acyclic.nodup_below distinct id
  blocks row member := by
    have inRows := ((acyclic.mem_below_iff distinct).mp member).1
    exact ⟨_, descendants_eq_below acyclic inRows, acyclic.block_infix member⟩
  ascending := acyclic.siblings_ascending distinct ascending id

end Forests

theorem ancestors_eq_ok_iff_above (distinct : (catalog.categories.map Category.id).Nodup)
    {row : Category} (member : row ∈ catalog.categories) {chain : List Category} :
    catalog.ancestors row.id = some (.ok chain) ↔
      Forest.Above catalog.categories row.parentId chain := by
  rw [ancestors_eq_ok_iff, category?, Forest.find_self distinct member, Option.bind_some]

/-- Upwards and downwards are dual: below a category are those that have it above them. -/
theorem descendants_dual_ancestors (accepted : ofSeed seed = .ok catalog)
    (distinct : (seed.categories.map Category.id).Nodup) :
    ∀ upper ∈ seed.categories, ∃ listed, catalog.descendants upper.id false = some listed ∧
      listed ⊆ seed.categories ∧ catalog.DepthFirst listed ∧
      ∀ lower ∈ seed.categories, ∃ chain, catalog.ancestors lower.id = some (.ok chain) ∧
        chain ⊆ seed.categories ∧ Lineal chain lower ∧ (lower ∈ listed ↔ upper ∈ chain) := by
  have separate := distinct_categories accepted distinct
  have sound := Forest.sound_of_check catalog.checked (Forest.agreeing_of_nodup separate)
  have ascending : catalog.categories.Pairwise fun left right => left.id < right.id := by
    rw [categories, ofSeed_eq_ok accepted]
    exact Seed.byId_ascending distinct
  have same := (categories_perm accepted).subset
  have back := (categories_perm accepted).symm.subset
  intro upper inUpper
  refine ⟨_, descendants_eq_below sound.acyclic (back inUpper), fun row member => ?_,
    depthFirst_below sound.acyclic separate ascending upper.id, fun lower inLower => ?_⟩
  · exact same ((sound.acyclic.mem_below_iff separate).mp member).1
  · obtain ⟨chain, above⟩ := sound.above_exists (sound.closed lower (back inLower))
    refine ⟨chain, (ancestors_eq_ok_iff_above separate (back inLower)).mpr above,
      List.Subset.trans above.subset same, ⟨above.top_isRoot, above.linked, above.last⟩, ?_⟩
    rw [sound.acyclic.mem_below_iff separate, above.mem_iff separate,
      Forest.below_iff_parent separate (back inLower)]
    exact and_congr (iff_of_true (back inLower) (back inUpper)) Iff.rfl

end Catalog

def Seed.branching : Seed where
  categories :=
    [{ id := 1, name := "Food", slug := "food" },
      { id := 2, name := "Cheese", slug := "cheese", parentId := some 1 },
      { id := 3, name := "Wine", slug := "wine", parentId := some 1 },
      { id := 4, name := "Blue", slug := "blue", parentId := some 2 }]

theorem Catalog.descendants_dual_ancestors_branching :
    ∃ catalog, ofSeed .branching = .ok catalog ∧
      ∃ listed, catalog.descendants 2 false = some listed ∧ catalog.DepthFirst listed ∧
        ∃ chain, catalog.ancestors 4 = some (.ok chain) ∧
          Lineal chain ⟨4, "Blue", "blue", "", some 2⟩ ∧
          (⟨4, "Blue", "blue", "", some 2⟩ ∈ listed ↔
            ⟨2, "Cheese", "cheese", "", some 1⟩ ∈ chain) := by
  obtain ⟨catalog, accepted, -⟩ := exists_of_check .branching (by cbv) (by cbv)
  obtain ⟨listed, walked, -, ordered, lower⟩ := descendants_dual_ancestors accepted (by decide)
    ⟨2, "Cheese", "cheese", "", some 1⟩ (by decide)
  obtain ⟨chain, climbed, -, lineal, dual⟩ := lower ⟨4, "Blue", "blue", "", some 2⟩ (by decide)
  exact ⟨catalog, accepted, listed, walked, ordered, chain, climbed, lineal, dual⟩

end Storefront
