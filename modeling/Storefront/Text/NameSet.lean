/-!
Sets of names. The names are kept in ascending order, each once, so two sets with the same members
are the same set.
-/

namespace Storefront.Text

structure NameSet where
  names : List String
  ascending : names.Pairwise (· < ·)
  deriving DecidableEq, Repr

namespace NameSet

def insertName (name : String) : List String → List String
  | [] => [name]
  | head :: rest =>
      if name < head then name :: head :: rest
      else if head < name then head :: insertName name rest
      else head :: rest

theorem mem_insertName {name other : String} {names : List String} :
    other ∈ insertName name names ↔ other = name ∨ other ∈ names := by
  induction names with
  | nil => simp [insertName]
  | cons head rest ih =>
      simp only [insertName]
      split
      case isTrue => simp
      case isFalse notBefore =>
        split
        case isTrue => simp only [List.mem_cons, ih, or_left_comm]
        case isFalse notAfter =>
          -- Neither stands before the other, so the name is there already.
          have same : name = head := String.le_antisymm notAfter notBefore
          simp [same]

theorem insertName_ascending (name : String) {names : List String}
    (ascending : names.Pairwise (· < ·)) : (insertName name names).Pairwise (· < ·) := by
  induction names with
  | nil => simp [insertName]
  | cons head rest ih =>
      obtain ⟨above, tail⟩ := List.pairwise_cons.mp ascending
      simp only [insertName]
      split
      case isTrue before =>
        refine List.pairwise_cons.mpr ⟨fun other member => ?_, ascending⟩
        rcases List.mem_cons.mp member with rfl | deeper
        · exact before
        · exact Std.lt_trans before (above other deeper)
      case isFalse =>
        split
        case isTrue after =>
          refine List.pairwise_cons.mpr ⟨fun other member => ?_, ih tail⟩
          rcases mem_insertName.mp member with rfl | deeper
          · exact after
          · exact above other deeper
        case isFalse => exact ascending

def empty : NameSet := ⟨[], .nil⟩

def insert (set : NameSet) (name : String) : NameSet :=
  ⟨insertName name set.names, insertName_ascending name set.ascending⟩

def ofList (names : List String) : NameSet := names.foldr (fun name set => set.insert name) empty

def contains (set : NameSet) (name : String) : Bool := set.names.contains name

end NameSet

end Storefront.Text
