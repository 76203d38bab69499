import Mathlib.Data.List.Chain
import Storefront.Proofs.Checked
/-!
The chain above a category: from a category without a parent down, each one the parent of the
next. Where nobody is above themselves it passes no category twice, so it is no longer than there
are ids, and where ids are distinct it passes every category that is above.
-/

namespace Storefront.Forest

open Relation

variable {rows : List Category} {cursor : Option Int64} {chain : List Category}

section Links

theorem Above.last (above : Above rows cursor chain) :
    chain.getLast?.map Category.id = cursor := by
  cases above with
  | top => rfl
  | step found _ => simpa using (find_mem found).2

theorem Above.top_isRoot (above : Above rows cursor chain) :
    ∀ top ∈ chain.head?, top.parentId = none := by
  induction above with
  | top => simp
  | @step id row chain found higher ih =>
      cases chain with
      | nil =>
          rintro _ ⟨⟩
          exact higher.last.symm
      | cons top rest => exact ih

theorem Above.linked (above : Above rows cursor chain) :
    chain.IsChain fun higher lower => lower.parentId = some higher.id := by
  induction above with
  | top => exact .nil
  | @step id row chain found higher ih =>
      refine ih.append (.singleton row) ?_
      rintro parent last _ ⟨⟩
      rw [← higher.last, Option.mem_def.mp last]
      rfl

end Links

section Members

theorem Above.subset (above : Above rows cursor chain) : chain ⊆ rows := by
  induction above with
  | top => exact List.nil_subset rows
  | step found _ ih =>
      exact List.append_subset.mpr ⟨ih, by simpa using (find_mem found).1⟩

theorem Above.upward (above : Above rows cursor chain) :
    ∀ id ∈ cursor, ∀ row ∈ chain, ReflTransGen (Child rows) id row.id := by
  induction above with
  | top => simp
  | @step id row chain found higher ih =>
      rintro _ ⟨⟩ other member
      obtain ⟨inRows, same⟩ := find_mem found
      rcases List.mem_append.mp member with above | here
      · cases named : row.parentId with
        | none =>
            rw [named] at higher
            cases higher
            cases above
        | some parent => exact .head ⟨row, inRows, same, named⟩ (ih parent named other above)
      · rw [List.mem_singleton.mp here, same]

theorem Above.nodup (acyclic : Acyclic rows) (above : Above rows cursor chain) :
    (chain.map Category.id).Nodup := by
  induction above with
  | top => exact List.nodup_nil
  | @step id row chain found higher ih =>
      obtain ⟨inRows, same⟩ := find_mem found
      have fresh : row.id ∉ chain.map Category.id := by
        intro again
        obtain ⟨other, member, twice⟩ := List.mem_map.mp again
        cases named : row.parentId with
        | none =>
            rw [named] at higher
            cases higher
            cases member
        | some parent =>
            -- The way up from the parent would come back to the row.
            have back := higher.upward parent named other member
            exact acyclic row.id (.head' ⟨row, inRows, rfl, named⟩ (twice ▸ back))
      rw [List.map_append, List.map_singleton, List.nodup_append]
      refine ⟨ih, List.nodup_singleton _, ?_⟩
      rintro other member _ once rfl
      exact fresh (List.mem_singleton.mp once ▸ member)

theorem Above.length_le (acyclic : Acyclic rows) (above : Above rows cursor chain) :
    chain.length ≤ idCount rows := by
  have known : chain.map Category.id ⊆ (rows.map Category.id).eraseDups :=
    fun id member => List.mem_eraseDups.mpr (List.map_subset Category.id above.subset member)
  simpa [idCount] using (above.nodup acyclic).length_le_of_subset known

theorem Above.mem_iff (distinct : (rows.map Category.id).Nodup)
    (above : Above rows cursor chain) {row : Category} :
    row ∈ chain ↔ row ∈ rows ∧ ∃ id ∈ cursor, ReflTransGen (Child rows) id row.id := by
  constructor
  · intro member
    refine ⟨above.subset member, ?_⟩
    cases cursor with
    | none => cases above; cases member
    | some id => exact ⟨id, rfl, above.upward id rfl row member⟩
  · rintro ⟨inRows, id, named, higher⟩
    induction above generalizing id with
    | top => cases named
    | @step _ found chain hit _ ih =>
        cases named
        obtain ⟨inTable, same⟩ := find_mem hit
        rcases higher.cases_head with here | ⟨parent, ⟨child, member, again, names⟩, further⟩
        · -- The row that was found is the only one of its id.
          have one : row = found :=
            List.inj_on_of_nodup_map distinct inRows inTable (here.symm.trans same.symm)
          exact List.mem_append_right chain (List.mem_singleton.mpr one)
        · have one : child = found :=
            List.inj_on_of_nodup_map distinct member inTable (again.trans same.symm)
          exact List.mem_append_left [found] (ih parent (one ▸ names) further)

end Members

end Storefront.Forest
