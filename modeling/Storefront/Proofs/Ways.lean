import Storefront.Proofs.Duality
import Storefront.Proofs.Worklist
/-!
The ways down from the root of a subtree, whoever made the subtree. Nodes may come in any order,
name parents that are not there, and lead round in circles apart from the root; as long as ids are
distinct everybody below the root has one way from there, and no way comes by anybody twice. So the
worklist ends, and what it keeps are these ways: whoever is below the root was either given the
chain already or is below a category that is pending with the way to it.
-/

namespace Storefront

open Relation

variable {tree : Subtree}

namespace Subtree

/-- Who is passed from the root down to `node`: the root first and the parent last, nobody for the
root itself. -/
inductive Way (tree : Subtree) : List Category → Category → Prop where
  | root : Way tree [] tree.root
  | child {passed : List Category} {upper node : Category} (higher : Way tree passed upper)
      (member : node ∈ tree.nodes) (named : node.parentId = some upper.id) :
      Way tree (passed ++ [upper]) node

/-- The child names the parent, and the parent's links lead to the root. -/
def Link (tree : Subtree) (child parent : Int64) : Prop :=
  Forest.Child tree.nodes child parent ∧
    ReflTransGen (Forest.Child tree.nodes) parent tree.root.id

variable {passed others : List Category} {node other : Category}

theorem Way.reaches (way : tree.Way passed node) :
    ReflTransGen (Forest.Child tree.nodes) node.id tree.root.id := by
  induction way with
  | root => exact .refl
  | @child _ _ node _ member named ih => exact .head ⟨node, member, rfl, named⟩ ih

theorem Way.lower (way : tree.Way passed node) {id : Int64}
    (below : TransGen (Forest.Child tree.nodes) id node.id) :
    ∃ longer row, tree.Way longer row ∧ row.id = id ∧ passed.length < longer.length := by
  induction below using TransGen.head_induction_on with
  | single step =>
      obtain ⟨row, member, same, named⟩ := step
      exact ⟨passed ++ [node], row, .child way member named, same, by simp⟩
  | head step _ ih =>
      obtain ⟨longer, upper, higher, rfl, less⟩ := ih
      obtain ⟨row, member, same, named⟩ := step
      exact ⟨longer ++ [upper], row, .child higher member named, same, by simp; omega⟩

theorem exists_way {id : Int64} (below : TransGen (Forest.Child tree.nodes) id tree.root.id) :
    ∃ passed node, tree.Way passed node ∧ node.id = id := by
  obtain ⟨passed, node, way, same, -⟩ := Way.root.lower below
  exact ⟨passed, node, way, same⟩

section Distinct

variable (distinct : (tree.toList.map Category.id).Nodup)

include distinct

theorem Way.unique (one : tree.Way passed node) (two : tree.Way others other)
    (same : node.id = other.id) : node = other ∧ passed = others := by
  obtain ⟨apart, separate⟩ := List.nodup_cons.mp distinct
  induction one generalizing others other with
  | root =>
      cases two with
      | root => exact ⟨rfl, rfl⟩
      | child _ member _ => exact absurd (same ▸ List.mem_map_of_mem member) apart
  | @child passed upper node _ member named ih =>
      cases two with
      | root => exact absurd (same ▸ List.mem_map_of_mem member) apart
      | child higher inNodes names =>
          obtain rfl := List.inj_on_of_nodup_map separate member inNodes same
          obtain ⟨rfl, rfl⟩ := ih higher (Option.some.inj (named.symm.trans names))
          exact ⟨rfl, rfl⟩

theorem exists_way_of_mem (member : node ∈ tree.nodes)
    (below : TransGen (Forest.Child tree.nodes) node.id tree.root.id) :
    ∃ passed, tree.Way passed node := by
  obtain ⟨apart, separate⟩ := List.nodup_cons.mp distinct
  obtain ⟨passed, row, way, same⟩ := exists_way below
  refine ⟨passed, ?_⟩
  cases way with
  | root => exact absurd (same ▸ List.mem_map_of_mem member) apart
  | child higher inNodes named =>
      obtain rfl := List.inj_on_of_nodup_map separate inNodes member same
      exact .child higher inNodes named

theorem not_circle {id : Int64}
    (reached : ReflTransGen (Forest.Child tree.nodes) id tree.root.id) :
    ¬ TransGen (Forest.Child tree.nodes) id id := by
  intro circle
  have below : TransGen (Forest.Child tree.nodes) id tree.root.id := circle.trans_left reached
  obtain ⟨passed, node, way, rfl⟩ := exists_way below
  obtain ⟨longer, row, again, same, less⟩ := way.lower circle
  obtain ⟨-, rfl⟩ := again.unique distinct way same
  exact Nat.lt_irrefl _ less

theorem link_wellFounded : WellFounded tree.Link := by
  apply Forest.wellFounded_of_irreflexive
  intro id circle
  obtain ⟨_, _, _, reached⟩ := TransGen.tail'_iff.mp circle
  exact not_circle distinct reached (TransGen.mono (fun _ _ link => link.1) id id circle)

/-- Circles among other nodes are out of reach. -/
theorem accessible_of_reaches {id : Int64}
    (reached : ReflTransGen (Forest.Child tree.nodes) id tree.root.id) :
    Acc (Forest.Child tree.nodes) id := by
  induction id using (link_wellFounded distinct).induction with
  | _ id ih =>
    exact .intro id fun lower step => ih lower ⟨step, reached⟩ (.head step reached)

end Distinct

end Subtree

namespace Lineage

variable {rootChain : List Category}

/-- Whoever is pending came with the way there, and whoever has a way was given it or is below
somebody who is pending. -/
structure Work.Follows (tree : Subtree) (rootChain : List Category) (work : Work) : Prop where
  pending : ∀ item ∈ work.pending, ∃ passed, tree.Way passed item.1 ∧ item.2 = rootChain ++ passed
  given : ∀ passed node, tree.Way passed node →
    work.lineage.chain? node.id = some (rootChain ++ passed) ∨
      ∃ item ∈ work.pending, ReflTransGen (Forest.Child tree.nodes) node.id item.1.id

theorem follows_start (tree : Subtree) (rootChain : List Category) (lineage : Lineage) :
    Work.Follows tree rootChain ⟨[(tree.root, rootChain)], lineage⟩ where
  pending := by
    rintro item member
    obtain rfl := List.mem_singleton.mp member
    exact ⟨[], .root, (List.append_nil rootChain).symm⟩
  given _ _ way := .inr ⟨_, List.mem_singleton_self _, way.reaches⟩

section Step

variable {category : Category} {chain : List Category} {rest : List (Category × List Category)}
  {lineage : Lineage} (follows : Work.Follows tree rootChain ⟨(category, chain) :: rest, lineage⟩)

include follows

theorem Work.Follows.pending_step :
    ∀ item ∈ (Work.step tree ⟨(category, chain) :: rest, lineage⟩).pending,
      ∃ passed, tree.Way passed item.1 ∧ item.2 = rootChain ++ passed := by
  intro item member
  rcases mem_pending_step.mp member with ⟨child, inNodes, named, rfl⟩ | old
  · obtain ⟨above, higher, rfl⟩ := follows.pending (category, chain) List.mem_cons_self
    exact ⟨above ++ [category], .child higher inNodes named, List.append_assoc _ _ _⟩
  · exact follows.pending item (List.mem_cons_of_mem _ old)

theorem Work.Follows.given_step (distinct : (tree.toList.map Category.id).Nodup)
    {passed : List Category} {node : Category} (way : tree.Way passed node) :
    (lineage.insert category.id chain).chain? node.id = some (rootChain ++ passed) ∨
      ∃ item ∈ (Work.step tree ⟨(category, chain) :: rest, lineage⟩).pending,
        ReflTransGen (Forest.Child tree.nodes) node.id item.1.id := by
  by_cases taken : node.id = category.id
  · obtain ⟨above, higher, rfl⟩ := follows.pending (category, chain) List.mem_cons_self
    obtain ⟨-, rfl⟩ := way.unique distinct higher taken
    exact .inl (by rw [chain_insert, if_pos taken])
  · rcases follows.given passed node way with kept | ⟨item, member, below⟩
    · exact .inl (by rw [chain_insert, if_neg taken, kept])
    · rcases List.mem_cons.mp member with rfl | old
      · rcases below.cases_tail with same | ⟨_, below, child, inNodes, rfl, named⟩
        · exact absurd same.symm taken
        · exact .inr ⟨_, mem_pending_step.mpr (.inl ⟨child, inNodes, named, rfl⟩), below⟩
      · exact .inr ⟨item, mem_pending_step.mpr (.inr old), below⟩

end Step

theorem Work.Follows.step (distinct : (tree.toList.map Category.id).Nodup) {work : Work}
    (follows : work.Follows tree rootChain) : (work.step tree).Follows tree rootChain := by
  obtain ⟨pending, lineage⟩ := work
  cases pending with
  | nil => exact follows
  | cons item rest =>
      exact ⟨follows.pending_step, fun _ _ way => follows.given_step distinct way⟩

theorem Work.Follows.run (distinct : (tree.toList.map Category.id).Nodup) {work : Work}
    {filled : Lineage} (follows : work.Follows tree rootChain)
    (done : work.run tree = some filled) {passed : List Category} {node : Category}
    (way : tree.Way passed node) : filled.chain? node.id = some (rootChain ++ passed) := by
  have kept := run_invariant (fun _ kept => kept.step distinct) follows done
  rcases kept.given passed node way with given | ⟨_, nobody, _⟩
  · exact given
  · cases nobody

/-- Where ids are distinct the worklist ends. Then the root has the chain that it was given,
everybody whose links lead to the root has that chain and the way down from the root behind it, and
what is kept for anybody else is as it was. -/
theorem populate_exact (distinct : (tree.toList.map Category.id).Nodup)
    (rootChain : List Category) (lineage : Lineage) :
    ∃ filled, lineage.populate tree rootChain = some filled ∧
      filled.chain? tree.root.id = some rootChain ∧
      (∀ node ∈ tree.nodes, TransGen (Forest.Child tree.nodes) node.id tree.root.id →
        ∃ passed, tree.Way passed node ∧ filled.chain? node.id = some (rootChain ++ passed)) ∧
      ∀ id, ¬ ReflTransGen (Forest.Child tree.nodes) id tree.root.id →
        filled.chain? id = lineage.chain? id := by
  obtain ⟨filled, done, fills⟩ :=
    populate_fills (Subtree.accessible_of_reaches distinct .refl) lineage rootChain
  have given : ∀ {passed node}, tree.Way passed node →
      filled.chain? node.id = some (rootChain ++ passed) :=
    fun way => (follows_start tree rootChain lineage).run distinct done way
  refine ⟨filled, done, by simpa using given .root, ?_, ?_⟩
  · intro node member below
    obtain ⟨passed, way⟩ := Subtree.exists_way_of_mem distinct member below
    exact ⟨passed, way, given way⟩
  · intro id apart
    have other : id ≠ tree.root.id := fun same => apart (same ▸ .refl)
    rw [fills.others id fun below => apart below.to_reflTransGen, chain_insert, if_neg other]

end Lineage

/-- Two nodes below each other in the wrong order, two that lead round in a circle, and one whose
parent is not there. -/
def Subtree.tangled : Subtree where
  root := ⟨2, "Cheese", "cheese", "", some 1⟩
  nodes :=
    [⟨4, "Blue", "blue", "", some 3⟩, ⟨3, "Cow", "cow", "", some 2⟩,
      ⟨7, "Hen", "hen", "", some 8⟩, ⟨8, "Egg", "egg", "", some 7⟩,
      ⟨9, "Lost", "lost", "", some 99⟩]

theorem Subtree.tangled_reached {id : Int64}
    (reached : ReflTransGen (Forest.Child Subtree.tangled.nodes) id 2) :
    id = 2 ∨ id = 3 ∨ id = 4 := by
  induction reached using ReflTransGen.head_induction_on with
  | refl => exact .inl rfl
  | head step _ ih =>
      obtain ⟨row, member, rfl, named⟩ := step
      simp only [tangled, List.mem_cons, List.not_mem_nil, or_false] at member
      rcases member with rfl | rfl | rfl | rfl | rfl <;> cases named <;> simp_all

/-- A chain that was kept for somebody below the root gives way, others stay. -/
theorem Lineage.populate_exact_tangled : ∃ filled,
    Lineage.populate ⟨[(4, []), (7, [⟨8, "Egg", "egg", "", some 7⟩])]⟩ .tangled
      [⟨1, "Food", "food", "", none⟩] = some filled ∧
    filled.chain? 2 = some [⟨1, "Food", "food", "", none⟩] ∧
    filled.chain? 4 = some [⟨1, "Food", "food", "", none⟩, ⟨2, "Cheese", "cheese", "", some 1⟩,
      ⟨3, "Cow", "cow", "", some 2⟩] ∧
    filled.chain? 7 = some [⟨8, "Egg", "egg", "", some 7⟩] ∧ filled.chain? 9 = none := by
  have distinct : (Subtree.tangled.toList.map Category.id).Nodup := by decide
  obtain ⟨filled, done, root, below, others⟩ := populate_exact distinct
    [⟨1, "Food", "food", "", none⟩] ⟨[(4, []), (7, [⟨8, "Egg", "egg", "", some 7⟩])]⟩
  have cow : Subtree.tangled.Way [⟨2, "Cheese", "cheese", "", some 1⟩]
      ⟨3, "Cow", "cow", "", some 2⟩ := .child .root (by decide) rfl
  have blue := Subtree.Way.child cow
    (show ⟨4, "Blue", "blue", "", some 3⟩ ∈ Subtree.tangled.nodes by decide) rfl
  have way : TransGen (Forest.Child Subtree.tangled.nodes) 4 2 :=
    .head' ⟨⟨4, "Blue", "blue", "", some 3⟩, by decide, rfl, rfl⟩ cow.reaches
  obtain ⟨passed, again, kept⟩ := below ⟨4, "Blue", "blue", "", some 3⟩ (by decide) way
  obtain ⟨-, rfl⟩ := again.unique distinct blue rfl
  refine ⟨filled, done, root, kept, ?_, ?_⟩
  · exact others 7 fun reached => absurd (Subtree.tangled_reached reached) (by decide)
  · exact others 9 fun reached => absurd (Subtree.tangled_reached reached) (by decide)

end Storefront
