import Storefront.Lineage
import Storefront.Proofs.Walks
/-!
The walk by which the chains of a subtree are worked out. It ends if the walk down from every
pending category does, and just the categories that it came to were given a chain. It keeps only
true chains if the pending ones are true: where ids are distinct, a chain is true if it is what
the walk up through the rows comes to.
-/

namespace Storefront.Lineage

variable {tree : Subtree} {rows : List Category}

theorem run_nil (tree : Subtree) (lineage : Lineage) :
    Work.run tree ⟨[], lineage⟩ = some lineage := by
  rw [Work.run]
  rfl

theorem run_cons (tree : Subtree) (item : Category × List Category)
    (rest : List (Category × List Category)) (lineage : Lineage) :
    Work.run tree ⟨item :: rest, lineage⟩ =
      Work.run tree (Work.step tree ⟨item :: rest, lineage⟩) := by
  rw [Work.run]
  rfl

theorem mem_pending_step {category : Category} {chain : List Category}
    {rest : List (Category × List Category)} {lineage : Lineage} {item : Category × List Category} :
    item ∈ (Work.step tree ⟨(category, chain) :: rest, lineage⟩).pending ↔
      (∃ child ∈ tree.nodes, child.parentId = some category.id ∧
        (child, chain ++ [category]) = item) ∨ item ∈ rest := by
  simp [Work.step, Subtree.childrenOf, and_assoc]

theorem run_invariant {kept : Work → Prop} (step : ∀ work, kept work → kept (work.step tree))
    {work : Work} {filled : Lineage} (started : kept work) (done : work.run tree = some filled) :
    kept ⟨[], filled⟩ := by
  refine Work.run.partial_correctness tree (fun work filled => kept work → kept ⟨[], filled⟩) ?_
    work filled done started
  intro run later work filled answer here
  by_cases done : work.pending.isEmpty = true
  · rw [if_pos done] at answer
    cases answer
    rwa [← List.isEmpty_iff.mp done]
  · rw [if_neg done] at answer
    exact later (work.step tree) filled answer (step work here)

section Filling

/-- Just these ids were given a chain, and nobody else's changed. -/
structure Fills (ids : Int64 → Prop) (before after : Lineage) : Prop where
  given : ∀ id, ids id → after.contains id = true
  others : ∀ id, ¬ ids id → after.chain? id = before.chain? id

variable {ids more : Int64 → Prop} {before between after : Lineage}

theorem Fills.refl (lineage : Lineage) : Fills (fun _ => False) lineage lineage :=
  ⟨fun _ given => given.elim, fun _ _ => rfl⟩

theorem Fills.trans (first : Fills ids before between) (second : Fills more between after) :
    Fills (fun id => ids id ∨ more id) before after := by
  constructor
  · intro id given
    by_cases later : more id
    · exact second.given id later
    · rw [contains, second.others id later]
      exact first.given id (given.resolve_right later)
  · intro id other
    rw [not_or] at other
    rw [second.others id other.2, first.others id other.1]

theorem Fills.congr (fills : Fills ids before after) (same : ∀ id, ids id ↔ more id) :
    Fills more before after :=
  ⟨fun id given => fills.given id ((same id).mpr given),
    fun id other => fills.others id (other ∘ (same id).mp)⟩

theorem Fills.contains_iff (fills : Fills ids before after) (id : Int64) :
    after.contains id = true ↔ ids id ∨ before.contains id = true := by
  by_cases given : ids id
  · simp [given, fills.given id given]
  · simp [given, contains, fills.others id given]

theorem fills_insert (lineage : Lineage) (id : Int64) (chain : List Category) :
    Fills (fun other => other = id) lineage (lineage.insert id chain) := by
  constructor
  · rintro other rfl
    simp [contains, chain_insert]
  · intro other differs
    simp [chain_insert, differs]

end Filling

section Ending

open Relation

theorem run_append {items : List (Category × List Category)}
    {ids : Category × List Category → Int64 → Prop}
    (each : ∀ item ∈ items, ∀ rest lineage, ∃ filled,
      Work.run tree ⟨item :: rest, lineage⟩ = Work.run tree ⟨rest, filled⟩ ∧
        Fills (ids item) lineage filled)
    (rest : List (Category × List Category)) (lineage : Lineage) :
    ∃ filled, Work.run tree ⟨items ++ rest, lineage⟩ = Work.run tree ⟨rest, filled⟩ ∧
      Fills (fun id => ∃ item ∈ items, ids item id) lineage filled := by
  induction items generalizing lineage with
  | nil => exact ⟨lineage, rfl, (Fills.refl lineage).congr (by simp)⟩
  | cons item items ih =>
      obtain ⟨middle, first, own⟩ := each item List.mem_cons_self (items ++ rest) lineage
      have later := fun other member => each other (List.mem_cons_of_mem item member)
      obtain ⟨filled, others, more⟩ := ih later middle
      exact ⟨filled, first.trans others, (own.trans more).congr (by simp)⟩

/-- Besides the category, which gets the chain it came with, those below it get one. -/
theorem run_pending {id : Int64} (accessible : Acc (Forest.Child tree.nodes) id)
    {category : Category} (same : category.id = id) (chain : List Category)
    (rest : List (Category × List Category)) (lineage : Lineage) :
    ∃ filled, Work.run tree ⟨(category, chain) :: rest, lineage⟩ =
        Work.run tree ⟨rest, filled⟩ ∧
      Fills (fun lower => TransGen (Forest.Child tree.nodes) lower id)
        (lineage.insert id chain) filled := by
  -- Whatever is pending behind the category is still there when all below it has been done.
  induction accessible generalizing category chain rest lineage with
  | intro id _ ih =>
    subst same
    have each : ∀ item ∈ ((tree.childrenOf category.id).map fun child =>
        (child, chain ++ [category])).reverse, ∀ rest lineage, ∃ filled,
          Work.run tree ⟨item :: rest, lineage⟩ = Work.run tree ⟨rest, filled⟩ ∧
            Fills (fun lower => lower = item.1.id ∨
              TransGen (Forest.Child tree.nodes) lower item.1.id) lineage filled := by
      rintro ⟨child, childChain⟩ member rest lineage
      obtain ⟨_, inChildren, ⟨⟩⟩ := List.mem_map.mp (List.mem_reverse.mp member)
      obtain ⟨inNodes, named⟩ := Forest.mem_children.mp inChildren
      obtain ⟨filled, done, below⟩ :=
        ih child.id ⟨child, inNodes, rfl, named⟩ rfl (chain ++ [category]) rest lineage
      exact ⟨filled, done, (fills_insert lineage child.id _).trans below⟩
    obtain ⟨filled, done, fills⟩ := run_append each rest (lineage.insert category.id chain)
    refine ⟨filled, (run_cons tree _ rest lineage).trans done, fills.congr fun lower => ?_⟩
    rw [TransGen.tail'_iff]
    constructor
    · rintro ⟨item, member, reached⟩
      obtain ⟨child, inChildren, rfl⟩ := List.mem_map.mp (List.mem_reverse.mp member)
      obtain ⟨inNodes, named⟩ := Forest.mem_children.mp inChildren
      exact ⟨child.id, reached.elim (fun here => here ▸ .refl) TransGen.to_reflTransGen,
        child, inNodes, rfl, named⟩
    · rintro ⟨_, lower, child, inNodes, rfl, named⟩
      refine ⟨(child, chain ++ [category]), ?_, (reflTransGen_iff_eq_or_transGen.mp lower).imp_left
        Eq.symm⟩
      exact List.mem_reverse.mpr (List.mem_map_of_mem (Forest.mem_children.mpr ⟨inNodes, named⟩))

/-- Cycles among the nodes do no harm as long as the root does not lead to them. -/
theorem populate_fills (accessible : Acc (Forest.Child tree.nodes) tree.root.id)
    (lineage : Lineage) (rootChain : List Category) :
    ∃ filled, lineage.populate tree rootChain = some filled ∧
      Fills (fun lower => TransGen (Forest.Child tree.nodes) lower tree.root.id)
        (lineage.insert tree.root.id rootChain) filled := by
  obtain ⟨filled, done, fills⟩ := run_pending accessible rfl rootChain [] lineage
  exact ⟨filled, done.trans (run_nil tree filled), fills⟩

theorem populate_isSome (accessible : Acc (Forest.Child tree.nodes) tree.root.id)
    (lineage : Lineage) (rootChain : List Category) :
    (lineage.populate tree rootChain).isSome := by
  obtain ⟨filled, done, -⟩ := populate_fills accessible lineage rootChain
  rw [done]
  rfl

end Ending

section Chains

def Exact (rows : List Category) (lineage : Lineage) : Prop :=
  ∀ id chain, lineage.chain? id = some chain →
    Forest.Above rows ((Forest.find? rows id).bind Category.parentId) chain

def Leads (rows : List Category) (item : Category × List Category) : Prop :=
  Forest.find? rows item.1.id = some item.1 ∧ Forest.Above rows item.1.parentId item.2

structure Work.Exact (rows : List Category) (work : Work) : Prop where
  pending : ∀ item ∈ work.pending, Leads rows item
  lineage : work.lineage.Exact rows

theorem exact_empty : ({} : Lineage).Exact rows := by
  intro id chain kept
  cases kept

theorem Exact.insert {lineage : Lineage} (exact : lineage.Exact rows)
    {category : Category} {chain : List Category} (leads : Leads rows (category, chain)) :
    (lineage.insert category.id chain).Exact rows := by
  intro id other kept
  rw [chain_insert] at kept
  by_cases same : id = category.id
  · rw [if_pos same] at kept
    cases kept
    rw [same, leads.1]
    exact leads.2
  · rw [if_neg same] at kept
    exact exact id other kept

theorem Work.Exact.step (within : tree.nodes ⊆ rows) (distinct : (rows.map Category.id).Nodup)
    {work : Work} (exact : work.Exact rows) : (work.step tree).Exact rows := by
  obtain ⟨pending, lineage⟩ := work
  cases pending with
  | nil => exact exact
  | cons item rest =>
      obtain ⟨category, chain⟩ := item
      have leads := exact.pending (category, chain) List.mem_cons_self
      refine ⟨?_, exact.lineage.insert leads⟩
      intro item member
      rcases mem_pending_step.mp member with ⟨child, inNodes, named, rfl⟩ | old
      -- The child's own row names the category as its parent, since ids are distinct.
      · refine ⟨Forest.find_self distinct (within inNodes), ?_⟩
        rw [named]
        exact .step leads.1 leads.2
      · exact exact.pending item (List.mem_cons_of_mem _ old)

theorem Work.Exact.run (within : tree.nodes ⊆ rows) (distinct : (rows.map Category.id).Nodup)
    {work : Work} {filled : Lineage} (exact : work.Exact rows)
    (done : work.run tree = some filled) : filled.Exact rows :=
  (run_invariant (fun _ kept => kept.step within distinct) exact done).lineage

theorem Exact.populate (within : tree.nodes ⊆ rows) (distinct : (rows.map Category.id).Nodup)
    {lineage filled : Lineage} {rootChain : List Category} (exact : lineage.Exact rows)
    (leads : Leads rows (tree.root, rootChain))
    (done : lineage.populate tree rootChain = some filled) : filled.Exact rows := by
  have started : Work.Exact rows ⟨[(tree.root, rootChain)], lineage⟩ :=
    ⟨fun item member => (List.mem_singleton.mp member) ▸ leads, exact⟩
  exact started.run within distinct done

end Chains

end Storefront.Lineage
