import Storefront.Proofs.Chains
import Storefront.Proofs.Traversal
/-!
Which seeds are accepted. Where ids are distinct the check of the rows refuses exactly those that
are no forest: it takes as many steps up as there are ids, and no more of them lie above anybody
who is not above themselves.
-/

namespace Storefront

open Relation

variable {seed : Seed} {rows : List Category}

namespace Forest

section Passing

theorem parentLink_of_find (distinct : (rows.map Category.id).Nodup) {id : Int64} {row : Category}
    (found : find? rows id = some row) : parentLink? rows id = some row.parentId := by
  obtain ⟨member, rfl⟩ := find_mem found
  obtain ⟨entry, decided⟩ := Option.isSome_iff_exists.mp (parentLink_isSome member)
  obtain ⟨other, inRows, same, rfl⟩ := parentLink_eq_some decided
  rw [decided, List.inj_on_of_nodup_map distinct inRows member same]

theorem Above.climb_eq_ok (distinct : (rows.map Category.id).Nodup) {cursor : Option Int64}
    {chain : List Category} (above : Above rows cursor chain) (category : Int64) {steps : Nat}
    (enough : chain.length ≤ steps) : climb rows category steps cursor = .ok () := by
  induction above generalizing steps with
  | top => cases steps <;> rfl
  | step found _ ih =>
      cases steps with
      | zero => simp at enough
      | succ steps =>
          rw [climb, parentLink_of_find distinct found]
          exact ih (by simpa using enough)

/-- The bound on the steps refuses nobody whose way up ends. -/
theorem Sound.check_eq_ok (sound : Sound rows) (distinct : (rows.map Category.id).Nodup) :
    check rows = .ok () := by
  apply forM_eq_ok_iff.mpr
  intro row member
  obtain ⟨chain, above⟩ := sound.above_exists (sound.closed row member)
  exact above.climb_eq_ok distinct row.id (above.length_le sound.acyclic)

theorem check_eq_ok_iff (distinct : (rows.map Category.id).Nodup) :
    check rows = .ok () ↔ Sound rows :=
  ⟨fun checked => sound_of_check checked (agreeing_of_nodup distinct),
    fun sound => sound.check_eq_ok distinct⟩

theorem closed_iff : Closed rows ↔
    ∀ row ∈ rows, ∀ parent ∈ row.parentId, ∃ other ∈ rows, other.id = parent := by
  simp [Closed, find?, List.find?_isSome]

theorem sound_congr {left right : List Category} (same : left.Perm right) :
    Sound left ↔ Sound right := by
  have closed : Closed left ↔ Closed right := by simp only [closed_iff, same.mem_iff]
  have acyclic := acyclic_congr same
  exact ⟨fun sound => ⟨closed.mp sound.closed, acyclic.mp sound.acyclic⟩,
    fun sound => ⟨closed.mpr sound.closed, acyclic.mpr sound.acyclic⟩⟩

end Passing

end Forest

namespace Catalog

theorem ofSeed_eq_ok_iff :
    (∃ catalog, ofSeed seed = .ok catalog) ↔ Forest.check seed.arranged.categories = .ok () := by
  constructor
  · rintro ⟨catalog, accepted⟩
    rw [← ofSeed_eq_ok accepted]
    exact catalog.checked
  · exact fun checked => ⟨_, ofSeed_of_check checked⟩

theorem ofSeed_eq_error (refused : ¬ ∃ catalog, ofSeed seed = .ok catalog) :
    ∃ flaw : Forest.Flaw, ofSeed seed = .error (.seed flaw.message) := by
  unfold ofSeed at refused ⊢
  split at refused
  · exact absurd ⟨_, rfl⟩ refused
  · exact ⟨_, rfl⟩

/-- Where ids are distinct a seed is accepted exactly if its categories are a forest: every parent
that is named is there, and nobody is above themselves. Every other seed is refused. -/
theorem accepted_iff_forest (distinct : (seed.categories.map Category.id).Nodup) :
    ((∃ catalog, ofSeed seed = .ok catalog) ↔
      (∀ row ∈ seed.categories, ∀ parent ∈ row.parentId,
        ∃ other ∈ seed.categories, other.id = parent) ∧
      Forest.Acyclic seed.categories) ∧
    ((¬ ∃ catalog, ofSeed seed = .ok catalog) →
      ∃ flaw : Forest.Flaw, ofSeed seed = .error (.seed flaw.message)) := by
  have same : seed.arranged.categories.Perm seed.categories :=
    Seed.byId_perm Category.id seed.categories
  have separate : (seed.arranged.categories.map Category.id).Nodup :=
    (same.map Category.id).nodup_iff.mpr distinct
  refine ⟨?_, ofSeed_eq_error⟩
  rw [ofSeed_eq_ok_iff, Forest.check_eq_ok_iff separate, Forest.sound_congr same,
    ← Forest.closed_iff]
  exact ⟨fun sound => ⟨sound.closed, sound.acyclic⟩, fun ⟨closed, acyclic⟩ => ⟨closed, acyclic⟩⟩

end Catalog

def Seed.descending : Seed where
  categories :=
    [{ id := 1, name := "Blue", slug := "blue", parentId := some 2 },
      { id := 2, name := "Cheese", slug := "cheese", parentId := some 3 },
      { id := 3, name := "Food", slug := "food" }]

def Seed.whirling : Seed where
  categories :=
    [{ id := 1, name := "Blue", slug := "blue", parentId := some 2 },
      { id := 2, name := "Cheese", slug := "cheese", parentId := some 3 },
      { id := 3, name := "Food", slug := "food", parentId := some 2 }]

theorem Catalog.accepted_iff_forest_descending :
    (∃ catalog, ofSeed .descending = .ok catalog) ∧
      ∃ flaw : Forest.Flaw, ofSeed .whirling = .error (.seed flaw.message) := by
  constructor
  · have ascending : ∀ row ∈ Seed.descending.categories, ∀ parent ∈ row.parentId,
        row.id < parent := by
      simp [Seed.descending]
    have higher : ∀ lower upper, TransGen (Forest.Child Seed.descending.categories) lower upper →
        lower < upper := by
      rintro lower upper way
      induction way with
      | single step =>
          obtain ⟨row, member, rfl, named⟩ := step
          exact ascending row member _ named
      | tail _ step ih =>
          obtain ⟨row, member, rfl, named⟩ := step
          exact Int64.lt_trans ih (ascending row member _ named)
    exact (accepted_iff_forest (by decide)).1.mpr
      ⟨by simp [Seed.descending], fun id circle => Int64.lt_irrefl (higher id id circle)⟩
  · have down : Forest.Child Seed.whirling.categories 2 3 :=
      ⟨⟨2, "Cheese", "cheese", "", some 3⟩, by decide, rfl, rfl⟩
    have back : Forest.Child Seed.whirling.categories 3 2 :=
      ⟨⟨3, "Food", "food", "", some 2⟩, by decide, rfl, rfl⟩
    have distinct : (Seed.whirling.categories.map Category.id).Nodup := by decide
    refine (accepted_iff_forest distinct).2 fun accepted => ?_
    exact ((accepted_iff_forest distinct).1.mp accepted).2 2 (.tail (.single down) back)

end Storefront
