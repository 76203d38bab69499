import Storefront.Catalog.Category
/-!
Ancestor chains that were worked out once are kept for the rest of a request. They come from a
subtree: a category's chain is the chain of its parent and the parent itself, so a walk that takes
each category from a list of pending ones, and puts its children there, finds them all.
-/

namespace Storefront

/-- Chains by category id, root first, each id once. -/
structure Lineage where
  chains : List (Int64 × List Category) := []
  deriving DecidableEq, Repr

namespace Lineage

def chain? (lineage : Lineage) (id : Int64) : Option (List Category) := lineage.chains.lookup id

def contains (lineage : Lineage) (id : Int64) : Bool := (lineage.chain? id).isSome

def size (lineage : Lineage) : Nat := lineage.chains.length

def isEmpty (lineage : Lineage) : Bool := lineage.chains.isEmpty

def insert (lineage : Lineage) (id : Int64) (chain : List Category) : Lineage :=
  ⟨(id, chain) :: lineage.chains.filter fun kept => kept.1 != id⟩

theorem lookup_filter_ne {id other : Int64} (different : other ≠ id)
    (chains : List (Int64 × List Category)) :
    (chains.filter fun kept => kept.1 != id).lookup other = chains.lookup other := by
  induction chains with
  | nil => rfl
  | cons kept rest ih =>
      obtain ⟨key, chain⟩ := kept
      by_cases replaced : key = id
      · have passed : (other == id) = false := by simpa using different
        simp [List.lookup_cons, replaced, passed, ih]
      · by_cases hit : other = key <;> simp [List.lookup_cons, replaced, hit, ih]

theorem chain_insert (lineage : Lineage) (id other : Int64) (chain : List Category) :
    (lineage.insert id chain).chain? other =
      if other = id then some chain else lineage.chain? other := by
  by_cases same : other = id
  · simp [chain?, insert, same]
  · have passed : (other == id) = false := by simpa using same
    simp [chain?, insert, List.lookup_cons, passed, same, lookup_filter_ne same]

/-- Categories still to be looked at, each with its chain; the last one put there comes first. -/
structure Work where
  pending : List (Category × List Category)
  lineage : Lineage

def Work.step (tree : Subtree) (work : Work) : Work :=
  match work.pending with
  | [] => work
  | (category, chain) :: rest =>
      let found := (tree.childrenOf category.id).map fun child => (child, chain ++ [category])
      { pending := found.reverse ++ rest
        lineage := work.lineage.insert category.id chain }

def Work.run (tree : Subtree) (work : Work) : Walk Lineage :=
  if work.pending.isEmpty then some work.lineage
  -- The place of a call that is written out would be kept in the term.
  else by
    apply Work.run
    · exact tree
    · exact work.step tree
partial_fixpoint

def populate (lineage : Lineage) (tree : Subtree) (rootChain : List Category) : Walk Lineage :=
  Work.run tree ⟨[(tree.root, rootChain)], lineage⟩

end Lineage

end Storefront
