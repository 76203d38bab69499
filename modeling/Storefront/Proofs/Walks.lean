import Mathlib.Data.Fintype.Card
import Mathlib.Data.Fintype.EquivFin
import Mathlib.Logic.Relation
import Storefront.Proofs.Tables
/-!
Walks over category rows, up and down, told by relations. A walk ends exactly where the relation
that it follows is accessible, and what it comes to in the end is determined by that relation.
Nothing is supposed of the rows: ids may be repeated, parents may be missing, and categories may
lead round in a circle.
-/

namespace Storefront.Forest

open Relation

theorem mapM_isSome_iff {α β : Type} (next : α → Option β) (items : List α) :
    (items.mapM next).isSome ↔ ∀ item ∈ items, (next item).isSome := by
  induction items with
  | nil => simp
  | cons item rest ih =>
      rw [List.mapM_cons, List.forall_mem_cons, ← ih]
      cases next item <;> cases rest.mapM next <;> simp

theorem mapM_mem {α β : Type} {next : α → Option β} {items : List α} {results : List β}
    (mapped : items.mapM next = some results) :
    ∀ result ∈ results, ∃ item ∈ items, next item = some result := by
  induction items generalizing results with
  | nil => simp_all
  | cons item rest ih =>
      simp only [List.mapM_cons, Option.bind_eq_bind, Option.bind_eq_some_iff, Option.pure_def,
        Option.some.injEq] at mapped
      obtain ⟨first, head, others, tail, rfl⟩ := mapped
      intro result member
      rcases List.mem_cons.mp member with rfl | later
      · exact ⟨item, List.mem_cons_self, head⟩
      · obtain ⟨source, inRest, same⟩ := ih tail result later
        exact ⟨source, List.mem_cons_of_mem item inRest, same⟩

theorem not_related_of_acc {related : Int64 → Int64 → Prop} {id : Int64}
    (accessible : Acc related id) : ¬ related id id := by
  induction accessible with
  | intro id _ ih => exact fun itself => ih id itself itself

/-- On finitely many ids a relation that never leads back can be followed only finitely often. -/
theorem wellFounded_of_irreflexive {related : Int64 → Int64 → Prop}
    (irreflexive : ∀ id, ¬ TransGen related id id) : WellFounded related := by
  have finite : Finite Int64 :=
    Finite.of_injective (fun id => id.toBitVec.toFin) fun left right same =>
      Int64.toBitVec_inj.mp (BitVec.eq_of_toFin_eq same)
  -- On the ids themselves the relation need not be transitive, on ways of any length it is.
  have transitive : IsTrans Int64 (TransGen related) := ⟨fun _ _ _ => TransGen.trans⟩
  have strict : Std.Irrefl (TransGen related) := ⟨irreflexive⟩
  exact Subrelation.wf TransGen.single (Finite.wellFounded_of_trans_of_irrefl (TransGen related))

variable (rows : List Category)

def Child (child parent : Int64) : Prop :=
  ∃ row ∈ rows, row.id = child ∧ row.parentId = some parent

/-- The row by which `child` is found names `parent`. -/
def Parent (parent child : Int64) : Prop :=
  (find? rows child).bind Category.parentId = some parent

/-- The chain leads from a category without a parent down to the cursor and includes both. -/
inductive Above : Option Int64 → List Category → Prop where
  | top : Above none []
  | step {id : Int64} {row : Category} {chain : List Category} (found : find? rows id = some row)
      (higher : Above row.parentId chain) : Above (some id) (chain ++ [row])

def Acyclic : Prop := ∀ id, ¬ TransGen (Child rows) id id

variable {rows}

theorem mem_children {id : Int64} {row : Category} :
    row ∈ children rows id ↔ row ∈ rows ∧ row.parentId = some id := by
  simp [children]

theorem find_mem {id : Int64} {row : Category} (found : find? rows id = some row) :
    row ∈ rows ∧ row.id = id := by
  refine ⟨List.mem_of_find?_eq_some found, ?_⟩
  simpa using List.find?_some found

theorem find_isSome {row : Category} (member : row ∈ rows) : (find? rows row.id).isSome := by
  rw [find?, List.find?_isSome]
  exact ⟨row, member, by simp⟩

theorem find_self (distinct : (rows.map Category.id).Nodup) {row : Category}
    (member : row ∈ rows) : find? rows row.id = some row :=
  (find_eq_some_iff distinct).mpr ⟨member, rfl⟩

theorem parent_child {parent child : Int64} (named : Parent rows parent child) :
    Child rows child parent := by
  obtain ⟨row, found, same⟩ := Option.bind_eq_some_iff.mp named
  obtain ⟨member, identity⟩ := find_mem found
  exact ⟨row, member, identity, same⟩

theorem Acyclic.child_wellFounded (acyclic : Acyclic rows) : WellFounded (Child rows) :=
  wellFounded_of_irreflexive acyclic

theorem Acyclic.subset (acyclic : Acyclic rows) {nodes : List Category} (within : nodes ⊆ rows) :
    Acyclic nodes := by
  intro id circle
  have lower : ∀ child parent, Child nodes child parent → Child rows child parent := by
    rintro child parent ⟨row, member, same, named⟩
    exact ⟨row, within member, same, named⟩
  exact acyclic id (TransGen.mono lower id id circle)

theorem Acyclic.parent_wellFounded (acyclic : Acyclic rows) : WellFounded (Parent rows) := by
  apply wellFounded_of_irreflexive
  intro id circle
  have lower := TransGen.mono (fun _ _ named => parent_child named) id id circle
  exact acyclic id (transGen_swap.mp lower)

theorem acyclic_of_acc (accessible : ∀ id, Acc (Child rows) id) : Acyclic rows :=
  fun id => not_related_of_acc (accessible id).transGen

/-! The walk down. It enters every child of every category that it comes to, by whichever row. -/
section Down

theorem acc_of_descendants {id : Int64} {nodes : List Category}
    (ended : descendants rows id = some nodes) : Acc (Child rows) id := by
  refine descendants.partial_correctness rows (fun id _ => Acc (Child rows) id) ?_ id nodes ended
  intro walk accessible id nodes answer
  obtain ⟨branches, mapped, -⟩ := Option.bind_eq_some_iff.mp answer
  -- The children's walks are accessible by what is supposed of the walk that is called.
  constructor
  rintro child ⟨row, member, rfl, named⟩
  have walked := (mapM_isSome_iff _ _).mp (Option.isSome_of_eq_some mapped) row
    (mem_children.mpr ⟨member, named⟩)
  obtain ⟨branch, walked⟩ := Option.isSome_iff_exists.mp walked
  obtain ⟨lower, ended, -⟩ := Option.bind_eq_some_iff.mp walked
  exact accessible row.id lower ended

theorem descendants_isSome_iff {id : Int64} :
    (descendants rows id).isSome ↔ Acc (Child rows) id := by
  constructor
  · intro ended
    obtain ⟨nodes, ended⟩ := Option.isSome_iff_exists.mp ended
    exact acc_of_descendants ended
  · intro accessible
    induction accessible with
    | intro id _ ih =>
      have branches : ((children rows id).mapM fun child : Category => do
          pure (child :: (← descendants rows child.id))).isSome := by
        rw [mapM_isSome_iff]
        intro child member
        obtain ⟨inRows, named⟩ := mem_children.mp member
        have deeper := ih child.id ⟨child, inRows, rfl, named⟩
        obtain ⟨lower, ended⟩ := Option.isSome_iff_exists.mp deeper
        simp [ended]
      obtain ⟨branches, mapped⟩ := Option.isSome_iff_exists.mp branches
      rw [descendants, mapped]
      rfl

theorem descendants_subset {id : Int64} {nodes : List Category}
    (ended : descendants rows id = some nodes) : nodes ⊆ rows := by
  refine descendants.partial_correctness rows (fun _ nodes => nodes ⊆ rows) ?_ id nodes ended
  intro walk within id nodes answer node member
  obtain ⟨branches, mapped, same⟩ := Option.bind_eq_some_iff.mp answer
  cases same
  obtain ⟨branch, inBranches, inBranch⟩ := List.mem_flatten.mp member
  obtain ⟨child, inChildren, walked⟩ := mapM_mem mapped branch inBranches
  obtain ⟨lower, ended, same⟩ := Option.bind_eq_some_iff.mp walked
  cases same
  rcases List.mem_cons.mp inBranch with rfl | deeper
  · exact (mem_children.mp inChildren).1
  · exact within child.id lower ended deeper

end Down

/-! The walk up. It follows the row by which a category is found. -/
section Up

theorem acc_of_upward {passed : List Category} {cursor : Option Int64}
    {reached : Except Int64 (List Category)} (ended : upward rows passed cursor = some reached) :
    ∀ id ∈ cursor, Acc (Parent rows) id := by
  refine upward.partial_correctness rows
    (fun _ cursor _ => ∀ id ∈ cursor, Acc (Parent rows) id) ?_ passed cursor reached ended
  rintro walk accessible passed cursor reached answer id ⟨⟩
  constructor
  intro parent named
  obtain ⟨row, found, same⟩ := Option.bind_eq_some_iff.mp named
  simp only [found] at answer
  exact accessible (row :: passed) row.parentId reached answer parent same

theorem upward_isSome {id : Int64} (accessible : Acc (Parent rows) id) (passed : List Category) :
    (upward rows passed (some id)).isSome := by
  induction accessible generalizing passed with
  | intro id _ ih =>
    rw [upward]
    cases found : find? rows id with
    | none => rfl
    | some row =>
      cases named : row.parentId with
      | none => simp [named, upward]
      | some parent =>
        simpa [named] using ih parent (by simp [Parent, found, named]) (row :: passed)

theorem upward_isSome_iff {passed : List Category} {cursor : Option Int64} :
    (upward rows passed cursor).isSome ↔ ∀ id ∈ cursor, Acc (Parent rows) id := by
  constructor
  · intro ended
    obtain ⟨reached, ended⟩ := Option.isSome_iff_exists.mp ended
    exact acc_of_upward ended
  · intro accessible
    cases cursor with
    | none => rw [upward]; rfl
    | some id => exact upward_isSome (accessible id rfl) passed

theorem upward_eq_ok_iff {passed chain : List Category} {cursor : Option Int64} :
    upward rows passed cursor = some (.ok chain) ↔
      ∃ higher, Above rows cursor higher ∧ higher ++ passed = chain := by
  constructor
  · intro ended
    refine upward.partial_correctness rows (fun passed cursor reached => ∀ chain,
      reached = .ok chain → ∃ higher, Above rows cursor higher ∧ higher ++ passed = chain) ?_
      passed cursor (.ok chain) ended chain rfl
    rintro walk climbed passed cursor reached answer chain rfl
    cases cursor with
    | none =>
      cases answer
      exact ⟨[], .top, rfl⟩
    | some id =>
      cases found : find? rows id with
      | none => simp [found] at answer
      | some row =>
        simp only [found] at answer
        obtain ⟨higher, above, rfl⟩ := climbed _ _ _ answer chain rfl
        exact ⟨higher ++ [row], .step found above, by simp⟩
  · rintro ⟨higher, above, rfl⟩
    induction above generalizing passed with
    | top => rw [upward]; rfl
    | step found _ ih =>
      rw [upward, found, List.append_assoc]
      exact ih

end Up

end Storefront.Forest
