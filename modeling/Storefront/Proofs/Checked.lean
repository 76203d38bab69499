import Storefront.Proofs.Walks
/-!
What the check of the rows promises. It looks every parent up among the last rows of each id, the
walks go by the first rows or by all of them. So a parent that is named is always there, but only
where rows of one id agree about the parent do the walks end as well.
-/

namespace Storefront.Forest

open Relation

variable (rows : List Category)

def LinkParent (parent child : Int64) : Prop := parentLink? rows child = some (some parent)

def Closed : Prop := ∀ row ∈ rows, ∀ parent ∈ row.parentId, (find? rows parent).isSome

def Agreeing : Prop :=
  ∀ left ∈ rows, ∀ right ∈ rows, left.id = right.id → left.parentId = right.parentId

/-- Every walk over the rows ends, and the walk up ends at a category without a parent. -/
structure Sound : Prop where
  closed : Closed rows
  acyclic : Acyclic rows

variable {rows}

theorem findRev_eq_find {α : Type} (test : α → Bool) (items : List α) :
    items.findRev? test = items.reverse.find? test := by
  rw [List.findRev?_eq_findRev?TR]
  rfl

theorem parentLink_eq_some {id : Int64} {entry : Option Int64}
    (decided : parentLink? rows id = some entry) :
    ∃ row ∈ rows, row.id = id ∧ row.parentId = entry := by
  rw [parentLink?, findRev_eq_find] at decided
  obtain ⟨row, found, same⟩ := Option.map_eq_some_iff.mp decided
  exact ⟨row, List.mem_reverse.mp (List.mem_of_find?_eq_some found),
    by simpa using List.find?_some found, same⟩

theorem parentLink_isSome {row : Category} (member : row ∈ rows) :
    (parentLink? rows row.id).isSome := by
  rw [parentLink?, findRev_eq_find, Option.isSome_map, List.find?_isSome]
  exact ⟨row, List.mem_reverse.mpr member, by simp⟩

/-- A climb that is not refused stays among known ids and comes to an end. -/
theorem climb_ok {category : Int64} {steps : Nat} {cursor : Option Int64}
    (climbed : climb rows category steps cursor = .ok ()) :
    ∀ id ∈ cursor, (parentLink? rows id).isSome ∧ Acc (LinkParent rows) id := by
  induction steps generalizing cursor with
  | zero =>
      rintro id ⟨⟩
      cases known : parentLink? rows id <;> simp [climb, known] at climbed
  | succ steps ih =>
      rintro id ⟨⟩
      cases known : parentLink? rows id with
      | none => simp [climb, known] at climbed
      | some next =>
          have onward : climb rows category steps next = .ok () := by
            simpa [climb, known] using climbed
          have higher := ih onward
          refine ⟨rfl, Acc.intro id fun parent named => (higher parent ?_).2⟩
          rw [LinkParent, known] at named
          exact Option.some.inj named

theorem forM_eq_ok_iff {ε α : Type} {action : α → Except ε PUnit} {items : List α} :
    items.forM action = .ok () ↔ ∀ item ∈ items, action item = .ok () := by
  induction items with
  | nil => exact iff_of_true rfl (by simp)
  | cons item rest ih =>
      rw [List.forall_mem_cons, ← ih]
      cases first : action item <;> simp [first, bind, Except.bind]

theorem check_ok (checked : check rows = .ok ()) {row : Category} (member : row ∈ rows) :
    ∀ id ∈ row.parentId, (parentLink? rows id).isSome ∧ Acc (LinkParent rows) id :=
  climb_ok (forM_eq_ok_iff.mp checked row member)

theorem closed_of_check (checked : check rows = .ok ()) : Closed rows := by
  intro row member parent named
  obtain ⟨entry, decided⟩ := Option.isSome_iff_exists.mp (check_ok checked member parent named).1
  obtain ⟨known, inRows, rfl, -⟩ := parentLink_eq_some decided
  exact find_isSome inRows

theorem Agreeing.linkParent (agreeing : Agreeing rows) {child parent : Int64}
    (lower : Child rows child parent) : LinkParent rows parent child := by
  obtain ⟨row, member, rfl, named⟩ := lower
  obtain ⟨entry, decided⟩ := Option.isSome_iff_exists.mp (parentLink_isSome member)
  obtain ⟨last, inRows, same, rfl⟩ := parentLink_eq_some decided
  rw [LinkParent, decided, agreeing last inRows row member same, named]

theorem acyclic_of_check (checked : check rows = .ok ()) (agreeing : Agreeing rows) :
    Acyclic rows := by
  intro id circle
  -- Whoever stands below `id` on the way round had the check climb on from `id` to an end.
  obtain ⟨-, -, row, member, -, named⟩ := TransGen.tail'_iff.mp circle
  have ended := (check_ok checked member id named).2
  have climbed : TransGen (LinkParent rows) id id :=
    TransGen.mono (fun _ _ lower => agreeing.linkParent lower) id id (transGen_swap.mpr circle)
  exact not_related_of_acc ended.transGen climbed

theorem sound_of_check (checked : check rows = .ok ()) (agreeing : Agreeing rows) : Sound rows :=
  ⟨closed_of_check checked, acyclic_of_check checked agreeing⟩

theorem Sound.above_exists (sound : Sound rows) {cursor : Option Int64}
    (known : ∀ id ∈ cursor, (find? rows id).isSome) : ∃ chain, Above rows cursor chain := by
  cases cursor with
  | none => exact ⟨[], .top⟩
  | some id =>
      have here := known id rfl
      clear known
      -- By induction on the way up, which leads into no circle.
      induction id using sound.acyclic.parent_wellFounded.induction with
      | _ id ih =>
        obtain ⟨row, found⟩ := Option.isSome_iff_exists.mp here
        cases named : row.parentId with
        | none => exact ⟨[] ++ [row], .step found (by rw [named]; exact .top)⟩
        | some parent =>
          have there := sound.closed row (find_mem found).1 parent named
          obtain ⟨chain, higher⟩ := ih parent (by simp [Parent, found, named]) there
          exact ⟨chain ++ [row], .step found (by rw [named]; exact higher)⟩

theorem agreeing_of_nodup (distinct : (rows.map Category.id).Nodup) : Agreeing rows := by
  intro left inLeft right inRight same
  rw [List.inj_on_of_nodup_map distinct inLeft inRight same]

end Storefront.Forest
