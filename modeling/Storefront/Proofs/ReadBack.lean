import Storefront.Catalog.Seed
import Storefront.Page
import Storefront.Proofs.Dates
import Storefront.Sale
import Storefront.Selection
import Storefront.Visibility
/-!
What a catalog stores, and what a request brings, is read back from its data. The entry that the
writer leaves out is the one that the reader takes for absent, and what it takes it for is the value
that was left out; everything else is read from the entry of its own name.
-/

namespace Storefront

variable {α : Type}

class ReadsBack (α : Type) [ToDatum α] [OfDatum α] : Prop where
  ofDatum_toDatum : ∀ value : α, ofDatum? .json (toDatum value) = some value

attribute [simp] ReadsBack.ofDatum_toDatum

/-- No value is read where nothing is written. -/
class Substantial (α : Type) [OfDatum α] : Prop where
  ofDatum_null : (ofDatum? .json .null : Option α) = none

section Scalars

theorem Datum.intWithin?_int {low high value : Int} (least : low ≤ value) (most : value ≤ high) :
    (Datum.int value).intWithin? low high = some value :=
  if_pos ⟨least, most⟩

instance : ReadsBack Bool := ⟨fun _ => rfl⟩

instance : ReadsBack String := ⟨fun _ => rfl⟩

instance : ReadsBack Int64 where
  ofDatum_toDatum value := by
    change ((Datum.int value.toInt).intWithin? _ _).map Int64.ofInt = some value
    rw [Datum.intWithin?_int (Int64.minValue_le_toInt value) (Int64.toInt_le value),
      Option.map_some, Int64.ofInt_toInt]

instance : ReadsBack Int32 where
  ofDatum_toDatum value := by
    change ((Datum.int value.toInt).intWithin? _ _).map Int32.ofInt = some value
    rw [Datum.intWithin?_int (Int32.minValue_le_toInt value) (Int32.toInt_le value),
      Option.map_some, Int32.ofInt_toInt]

instance : ReadsBack UInt64 where
  ofDatum_toDatum value := by
    have small := value.toNat_lt_size
    change ((Datum.int value.toNat).intWithin? _ _).map (fun value => UInt64.ofNat value.toNat) =
      some value
    rw [Datum.intWithin?_int (by omega) (by omega), Option.map_some, Int.toNat_natCast,
      UInt64.ofNat_toNat]

instance : ReadsBack UInt8 where
  ofDatum_toDatum value := by
    have small := value.toNat_lt_size
    change ((Datum.int value.toNat).intWithin? _ _).map (fun value => UInt8.ofNat value.toNat) =
      some value
    rw [Datum.intWithin?_int (by omega) (by omega), Option.map_some, Int.toNat_natCast,
      UInt8.ofNat_toNat]

@[simp]
theorem Datum.name?_toDatum {format : Format} (name : String) :
    (toDatum name).name? format = some name :=
  rfl

instance : ReadsBack Date where
  ofDatum_toDatum date := by
    change (Date.read date.write).toOption = some date
    rw [Date.read_write]
    rfl

instance : ReadsBack Currency := ⟨Currency.ofCode?_code⟩

instance : ReadsBack SortKey where
  ofDatum_toDatum sortKey := by cases sortKey <;> rfl

instance : Substantial Int64 := ⟨rfl⟩

instance : Substantial UInt64 := ⟨rfl⟩

instance : Substantial String := ⟨rfl⟩

instance : Substantial Date := ⟨rfl⟩

instance : Substantial SortKey := ⟨rfl⟩

end Scalars

section Collections

instance [ToDatum α] [OfDatum α] [ReadsBack α] : ReadsBack (List α) where
  ofDatum_toDatum items := by
    change (items.map toDatum).mapM (ofDatum? .json) = some items
    induction items with
    | nil => rfl
    | cons item items ih => simp [ih]

instance [ToDatum α] [OfDatum α] [ReadsBack α] [Substantial α] : ReadsBack (Option α) where
  ofDatum_toDatum
    | none => rfl
    | some value => by
        have read := ReadsBack.ofDatum_toDatum value
        change (OfDatum.ofDatum? .json (toDatum value) : Option (Option α)) = _
        cases written : toDatum value with
        | null =>
            rw [written, Substantial.ofDatum_null] at read
            cases read
        | _ =>
            rw [written] at read
            simp [OfDatum.ofDatum?, read]

theorem Text.NameSet.insertName_of_lt {name : String} {names : List String}
    (least : ∀ other ∈ names, name < other) : insertName name names = name :: names := by
  cases names with
  | nil => rfl
  | cons head rest => rw [insertName, if_pos (least head List.mem_cons_self)]

theorem Text.NameSet.ofList_names (set : Text.NameSet) : ofList set.names = set := by
  obtain ⟨names, ascending⟩ := set
  induction names with
  | nil => rfl
  | cons name names ih =>
      obtain ⟨least, later⟩ := List.pairwise_cons.mp ascending
      have inserted : ofList (name :: names) = (ofList names).insert name := rfl
      rw [inserted, ih later, insert]
      simp only [NameSet.mk.injEq]
      exact insertName_of_lt least

instance : ReadsBack Text.NameSet where
  ofDatum_toDatum set := by
    change (OfDatum.ofDatum? .json (toDatum set.names)).map Text.NameSet.ofList = some set
    rw [ReadsBack.ofDatum_toDatum, Option.map_some, Text.NameSet.ofList_names]

end Collections

namespace Record

variable {name other : String} {format : Format} {entries : Entries}

@[simp]
theorem lookup_entry [ToDatum α] (value : α) :
    (entry name value).lookup other = if other = name then some (toDatum value) else none := by
  by_cases same : other = name
  · simp [entry, same]
  · simp [entry, List.lookup_cons, beq_false_of_ne same, same]

@[simp]
theorem lookup_entryIfSome [ToDatum α] (value : Option α) :
    (entryIfSome name value).lookup other = if other = name then value.map toDatum else none := by
  cases value with
  | none => simp [entryIfSome]
  | some value => simp [entryIfSome]

@[simp]
theorem lookup_entryIfAny [ToDatum α] (items : List α) :
    (entryIfAny name items).lookup other =
      if other = name ∧ items ≠ [] then some (toDatum items) else none := by
  cases items with
  | nil => simp [entryIfAny]
  | cons item items => simp [entryIfAny]

@[simp]
theorem find?_mk : (Given.mk format entries).find? name = entries.lookup name :=
  rfl

@[simp]
theorem required_mk [OfDatum α] : (required name ⟨format, entries⟩ : Option α) =
    (entries.lookup name).bind (OfDatum.ofDatum? format) :=
  rfl

@[simp]
theorem orElse_mk [OfDatum α] (absent : α) : orElse name absent ⟨format, entries⟩ =
    (entries.lookup name).elim (some absent) (OfDatum.ofDatum? format) := by
  rw [orElse, Given.find?]
  cases entries.lookup name <;> rfl

@[simp]
theorem optional_eq_orElse [OfDatum α] :
    (optional name : Given → Option (Option α)) = orElse name none :=
  rfl

@[simp]
theorem elim_toDatum [ToDatum α] [OfDatum α] [ReadsBack α] [Substantial α] (value : Option α) :
    value.elim (some none) (OfDatum.ofDatum? .json ∘ toDatum) = some value := by
  cases value with
  | none => rfl
  | some value => exact ReadsBack.ofDatum_toDatum (some value)

@[simp]
theorem elim_toDatum_list [ToDatum α] [OfDatum α] [ReadsBack α] (items : List α) :
    (if items = [] then none else some (toDatum items)).elim (some [])
      (OfDatum.ofDatum? .json) = some items := by
  by_cases empty : items = []
  · simp [empty]
  · simp [empty]

end Record

section Records

instance : Substantial Price := ⟨rfl⟩

instance : ReadsBack Price where
  ofDatum_toDatum price := by
    -- Behind the two instances stand a reader of entries and the table it is given.
    change Record.ofDatum? _ _ .json (.table _) = some price
    simp [Record.ofDatum?, List.lookup_append]

instance : ReadsBack Category where
  ofDatum_toDatum category := by
    change Record.ofDatum? _ _ .json (.table _) = some category
    simp [Record.ofDatum?, List.lookup_append]

instance : ReadsBack Assignment where
  ofDatum_toDatum assignment := by
    change Record.ofDatum? _ _ .json (.table _) = some assignment
    simp [Record.ofDatum?, List.lookup_append]

instance : ReadsBack Product where
  ofDatum_toDatum product := by
    change Record.ofDatum? _ _ .json (.table _) = some product
    simp [Record.ofDatum?, List.lookup_append]

instance : ReadsBack Variant where
  ofDatum_toDatum variant := by
    change Record.ofDatum? _ _ .json (.table _) = some variant
    simp [Record.ofDatum?, List.lookup_append]

instance : ReadsBack Stock where
  ofDatum_toDatum stock := by
    change Record.ofDatum? _ _ .json (.table _) = some stock
    simp [Record.ofDatum?, List.lookup_append]

instance : ReadsBack Image where
  ofDatum_toDatum image := by
    change Record.ofDatum? _ _ .json (.table _) = some image
    simp [Record.ofDatum?, List.lookup_append]

instance : ReadsBack ProductType where
  ofDatum_toDatum kind := by
    change Record.ofDatum? _ _ .json (.table _) = some kind
    simp [Record.ofDatum?, List.lookup_append]

instance : ReadsBack Attribute where
  ofDatum_toDatum attr := by
    change Record.ofDatum? _ _ .json (.table _) = some attr
    simp [Record.ofDatum?, List.lookup_append]

instance : ReadsBack Choice where
  ofDatum_toDatum choice := by
    change Record.ofDatum? _ _ .json (.table _) = some choice
    simp [Record.ofDatum?, List.lookup_append]

instance : ReadsBack Discount where
  ofDatum_toDatum
    | .percentage percent => by
        change Record.ofDatum? _ _ .json (.table _) = _
        simp [Record.ofDatum?, List.lookup_append]
    | .fixed amount => by
        change Record.ofDatum? _ _ .json (.table _) = _
        simp [Record.ofDatum?, List.lookup_append]

instance : ReadsBack Sale where
  ofDatum_toDatum sale := by
    change Record.ofDatum? _ _ .json (.table _) = some sale
    simp [Record.ofDatum?, List.lookup_append]

instance : ReadsBack Requester where
  ofDatum_toDatum requester := by
    change Record.ofDatum? _ _ .json (.table _) = some requester
    simp [Record.ofDatum?, List.lookup_append]

instance : ReadsBack AttributePair where
  ofDatum_toDatum pair := by
    change Record.ofDatum? _ _ .json (.table _) = some pair
    simp [Record.ofDatum?, List.lookup_append]

instance : ReadsBack ProductFilter where
  ofDatum_toDatum filter := by
    change Record.ofDatum? _ _ .json (.table _) = some filter
    simp [Record.ofDatum?, List.lookup_append]

instance : ReadsBack PageArgs where
  ofDatum_toDatum args := by
    change Record.ofDatum? _ _ .json (.table _) = some args
    simp [Record.ofDatum?, List.lookup_append]

instance : ReadsBack Seed where
  ofDatum_toDatum seed := by
    change Record.ofDatum? _ _ .json (.table _) = some seed
    simp [Record.ofDatum?, List.lookup_append]

end Records

/-- What a catalog keeps in its tables, the tables together, and what a request brings with it are
read back as they were written. -/
theorem records_read_back :
    ReadsBack Category ∧ ReadsBack Product ∧ ReadsBack Variant ∧ ReadsBack Stock ∧
      ReadsBack Image ∧ ReadsBack ProductType ∧ ReadsBack Attribute ∧ ReadsBack Choice ∧
      ReadsBack Sale ∧ ReadsBack Requester ∧ ReadsBack ProductFilter ∧ ReadsBack PageArgs ∧
      ReadsBack Seed :=
  ⟨inferInstance, inferInstance, inferInstance, inferInstance, inferInstance, inferInstance,
    inferInstance, inferInstance, inferInstance, inferInstance, inferInstance, inferInstance,
    inferInstance⟩

end Storefront
