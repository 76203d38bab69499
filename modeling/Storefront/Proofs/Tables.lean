import Mathlib.Data.List.Nodup
import Storefront.Catalog.Basic
/-!
Tables in their order. Arranging a table only permutes it, and rows that no comparison tells apart
stay in the order in which they came. Where no two rows have one id it makes no difference whether
rows are left out before or afterwards.
-/

namespace Storefront

variable {Row : Type}

section Choosing

theorem filter_filter_of_imp {kept wanted : Row → Bool} {rows : List Row}
    (all : ∀ row ∈ rows, wanted row = true → kept row = true) :
    (rows.filter kept).filter wanted = rows.filter wanted := by
  rw [List.filter_filter]
  apply List.filter_congr
  intro row member
  cases chosen : wanted row with
  | false => rfl
  | true => simpa using all row member chosen

theorem find_filter_of_imp {kept wanted : Row → Bool} {rows : List Row}
    (all : ∀ row ∈ rows, wanted row = true → kept row = true) :
    (rows.filter kept).find? wanted = rows.find? wanted := by
  rw [← List.head?_filter, ← List.head?_filter, filter_filter_of_imp all]

theorem find_eq_some_iff {Key : Type} [DecidableEq Key] {id : Row → Key} {rows : List Row}
    (distinct : (rows.map id).Nodup) {key : Key} {row : Row} :
    (rows.find? fun other => id other = key) = some row ↔ row ∈ rows ∧ id row = key := by
  constructor
  · intro found
    exact ⟨List.mem_of_find?_eq_some found, by simpa using List.find?_some found⟩
  · rintro ⟨member, same⟩
    have known : (rows.find? fun other => id other = key).isSome := by
      rw [List.find?_isSome]
      exact ⟨row, member, by simpa using same⟩
    obtain ⟨other, found⟩ := Option.isSome_iff_exists.mp known
    have named : id other = key := by simpa using List.find?_some found
    rw [found, List.inj_on_of_nodup_map distinct (List.mem_of_find?_eq_some found) member
      (named.trans same.symm)]

theorem find_filter {id : Row → Int64} {rows : List Row} (distinct : (rows.map id).Nodup)
    (kept : Row → Bool) (key : Int64) :
    (rows.filter kept).find? (fun row => id row = key) =
      (rows.find? fun row => id row = key).filter kept := by
  have separate : ((rows.filter kept).map id).Nodup :=
    distinct.sublist (List.filter_sublist.map id)
  ext row
  rw [find_eq_some_iff separate, Option.filter_eq_some_iff, find_eq_some_iff distinct,
    List.mem_filter]
  exact and_right_comm

end Choosing

section Sorting

theorem eq_of_ordered {before : Row → Row → Prop} {first second : List Row}
    (asymm : ∀ {left right}, before left right → ¬ before right left)
    (one : first.Pairwise before) (two : second.Pairwise before)
    (same : ∀ row, row ∈ first ↔ row ∈ second) : first = second := by
  have differ : ∀ {left right}, before left right → left ≠ right := by
    rintro left _ ahead rfl
    exact asymm ahead ahead
  have permuted : first.Perm second :=
    (List.perm_ext_iff_of_nodup (one.imp differ) (two.imp differ)).mpr same
  exact permuted.eq_of_pairwise (fun _ _ _ _ ahead back => absurd back (asymm ahead)) one two

theorem mergeSort_filter {le : Row → Row → Bool} {rows : List Row}
    (trans : ∀ first second third, le first second = true → le second third = true →
      le first third = true)
    (total : ∀ left right, (le left right || le right left) = true)
    (antisymm : ∀ left ∈ rows, ∀ right ∈ rows, le left right = true → le right left = true →
      left = right) (kept : Row → Bool) :
    (rows.filter kept).mergeSort le = (rows.mergeSort le).filter kept := by
  have permuted : ((rows.filter kept).mergeSort le).Perm ((rows.mergeSort le).filter kept) :=
    (List.mergeSort_perm _ le).trans ((List.mergeSort_perm rows le).filter kept).symm
  refine List.Perm.eq_of_pairwise ?_ (List.pairwise_mergeSort trans total _)
    ((List.pairwise_mergeSort trans total rows).filter kept) permuted
  intro left right inLeft inRight
  have first : left ∈ rows := List.mem_of_mem_filter ((List.mergeSort_perm _ le).mem_iff.mp inLeft)
  have second : right ∈ rows :=
    (List.mergeSort_perm rows le).mem_iff.mp (List.mem_of_mem_filter inRight)
  exact antisymm left first right second

/-- Where no two rows compare both ways it does not matter how they came. -/
theorem mergeSort_congr {le : Row → Row → Bool} {left right : List Row}
    (trans : ∀ first second third, le first second = true → le second third = true →
      le first third = true)
    (total : ∀ left right, (le left right || le right left) = true)
    (antisymm : ∀ first ∈ left, ∀ second ∈ left, le first second = true →
      le second first = true → first = second) (same : left.Perm right) :
    left.mergeSort le = right.mergeSort le := by
  have permuted : (left.mergeSort le).Perm (right.mergeSort le) :=
    (List.mergeSort_perm left le).trans (same.trans (List.mergeSort_perm right le).symm)
  refine List.Perm.eq_of_pairwise ?_ (List.pairwise_mergeSort trans total left)
    (List.pairwise_mergeSort trans total right) permuted
  intro first second inLeft inRight
  exact antisymm first ((List.mergeSort_perm left le).mem_iff.mp inLeft) second
    (same.mem_iff.mpr ((List.mergeSort_perm right le).mem_iff.mp inRight))

section Stable

variable {le : Row → Row → Bool}
  (trans : ∀ first second third, le first second = true → le second third = true →
    le first third = true)
  (total : ∀ left right, (le left right || le right left) = true)

include trans total

/-- Rows that no comparison tells apart stay as they were. -/
theorem filter_mergeSort_of_tied {tied : Row → Bool}
    (all : ∀ left right, tied left = true → tied right = true → le left right = true)
    (rows : List Row) : (rows.mergeSort le).filter tied = rows.filter tied := by
  have sorted : (rows.filter tied).Pairwise fun left right => le left right = true :=
    List.pairwise_of_forall_mem_list fun left inLeft right inRight =>
      all left right (List.of_mem_filter inLeft) (List.of_mem_filter inRight)
  have kept : (rows.filter tied).Sublist ((rows.mergeSort le).filter tied) := by
    have part := (List.sublist_mergeSort trans total sorted List.filter_sublist).filter tied
    rwa [filter_filter_of_imp fun _ _ chosen => chosen] at part
  exact (kept.eq_of_length ((List.mergeSort_perm rows le).filter tied).length_eq.symm).symm

theorem mergeSort_stable {before : Row → Row → Prop} {rows : List Row}
    (ordered : rows.Pairwise before) :
    (rows.mergeSort le).Pairwise fun left right =>
      le left right = true ∧ (le right left = true → before left right) := by
  rw [List.pairwise_iff_forall_sublist]
  intro left right pair
  have least : le left right = true :=
    List.pairwise_iff_forall_sublist.mp (List.pairwise_mergeSort trans total rows) pair
  refine ⟨least, fun most => ?_⟩
  -- Whatever compares both ways with the first row is there in its old order.
  let tied row := le left row && le row left
  have same : (rows.mergeSort le).filter tied = rows.filter tied := by
    apply filter_mergeSort_of_tied trans total
    intro first second inFirst inSecond
    exact trans _ _ _ (Bool.and_eq_true_iff.mp inFirst).2 (Bool.and_eq_true_iff.mp inSecond).1
  have self : le left left = true := by simpa using total left left
  have stays := pair.filter tied
  rw [same, List.filter_cons_of_pos (by simp [tied, self]),
    List.filter_cons_of_pos (by simp [tied, least, most])] at stays
  exact List.pairwise_iff_forall_sublist.mp ordered (stays.trans List.filter_sublist)

end Stable

end Sorting

namespace Seed

theorem byId_perm (id : Row → Int64) (rows : List Row) : (byId id rows).Perm rows :=
  List.mergeSort_perm rows _

theorem byGroup_perm (group : Row → Int64) (rank : Row → Int32) (id : Row → Int64)
    (rows : List Row) : (byGroup group rank id rows).Perm rows :=
  List.mergeSort_perm rows _

section ById

variable {id : Row → Int64}

theorem byId_trans (first second third : Row) (one : decide (id first ≤ id second) = true)
    (two : decide (id second ≤ id third) = true) : decide (id first ≤ id third) = true := by
  simp only [decide_eq_true_eq] at one two ⊢
  exact Int64.le_trans one two

theorem byId_total (left right : Row) :
    (decide (id left ≤ id right) || decide (id right ≤ id left)) = true := by
  simp only [Bool.or_eq_true, decide_eq_true_eq]
  exact Int64.le_total (id left) (id right)

theorem byId_sorted (rows : List Row) :
    (byId id rows).Pairwise fun left right => id left ≤ id right :=
  (List.pairwise_mergeSort byId_trans byId_total rows).imp of_decide_eq_true

theorem find_byId (rows : List Row) (key : Int64) :
    (byId id rows).find? (fun row => id row = key) = rows.find? fun row => id row = key := by
  have tied : ∀ left right, decide (id left = key) = true → decide (id right = key) = true →
      decide (id left ≤ id right) = true := by
    intro left right one two
    rw [decide_eq_true_eq] at one two ⊢
    rw [one, two]
    exact Int64.le_refl key
  rw [← List.head?_filter, ← List.head?_filter, byId,
    filter_mergeSort_of_tied byId_trans byId_total tied]

variable {rows : List Row} (distinct : (rows.map id).Nodup)

include distinct

theorem byId_antisymm (left : Row) (inLeft : left ∈ rows) (right : Row) (inRight : right ∈ rows)
    (least : decide (id left ≤ id right) = true) (most : decide (id right ≤ id left) = true) :
    left = right := by
  simp only [decide_eq_true_eq] at least most
  exact List.inj_on_of_nodup_map distinct inLeft inRight (Int64.le_antisymm least most)

theorem byId_ascending : (byId id rows).Pairwise fun left right => id left < id right := by
  have separate : (byId id rows).Pairwise fun left right => id left ≠ id right :=
    List.pairwise_map.mp (((byId_perm id rows).map id).nodup_iff.mpr distinct)
  exact (List.Pairwise.and (byId_sorted rows) separate).imp fun ⟨least, differs⟩ =>
    Int64.lt_of_le_of_ne least differs

theorem byId_filter (kept : Row → Bool) :
    byId id (rows.filter kept) = (byId id rows).filter kept :=
  mergeSort_filter byId_trans byId_total (byId_antisymm distinct) kept

theorem byId_congr {others : List Row} (same : rows.Perm others) : byId id rows = byId id others :=
  mergeSort_congr byId_trans byId_total (byId_antisymm distinct) same

end ById

section ByGroup

variable {group : Row → Int64} {rank : Row → Int32} {id : Row → Int64}

def groupLe (group : Row → Int64) (rank : Row → Int32) (id : Row → Int64) (left right : Row) :
    Bool :=
  decide (group left < group right) || (group left == group right &&
    (decide (rank left < rank right) || (rank left == rank right && decide (id left ≤ id right))))

theorem groupLe_iff {left right : Row} : groupLe group rank id left right = true ↔
    (group left).toInt < (group right).toInt ∨
      (group left).toInt = (group right).toInt ∧ ((rank left).toInt < (rank right).toInt ∨
        (rank left).toInt = (rank right).toInt ∧ (id left).toInt ≤ (id right).toInt) := by
  simp only [groupLe, Bool.or_eq_true, Bool.and_eq_true, beq_iff_eq, decide_eq_true_eq,
    Int64.le_iff_toInt_le, Int64.lt_iff_toInt_lt, Int32.lt_iff_toInt_lt, Int64.toInt_inj,
    Int32.toInt_inj]

theorem groupLe_trans (first second third : Row) (one : groupLe group rank id first second = true)
    (two : groupLe group rank id second third = true) :
    groupLe group rank id first third = true := by
  rw [groupLe_iff] at one two ⊢
  omega

theorem groupLe_total (left right : Row) :
    (groupLe group rank id left right || groupLe group rank id right left) = true := by
  rw [Bool.or_eq_true, groupLe_iff, groupLe_iff]
  omega

variable {rows : List Row} (distinct : (rows.map id).Nodup)

include distinct

/-- Rows that stand neither before nor behind each other share their id, and so are one row. -/
theorem groupLe_antisymm (left : Row) (inLeft : left ∈ rows) (right : Row) (inRight : right ∈ rows)
    (least : groupLe group rank id left right = true)
    (most : groupLe group rank id right left = true) : left = right := by
  rw [groupLe_iff] at least most
  have same : (id left).toInt = (id right).toInt := by omega
  exact List.inj_on_of_nodup_map distinct inLeft inRight (Int64.toInt_inj.mp same)

theorem byGroup_filter (kept : Row → Bool) :
    byGroup group rank id (rows.filter kept) = (byGroup group rank id rows).filter kept :=
  mergeSort_filter groupLe_trans groupLe_total (groupLe_antisymm distinct) kept

theorem byGroup_congr {others : List Row} (same : rows.Perm others) :
    byGroup group rank id rows = byGroup group rank id others :=
  mergeSort_congr groupLe_trans groupLe_total (groupLe_antisymm distinct) same

end ByGroup

structure Distinct (seed : Seed) : Prop where
  categories : (seed.categories.map Category.id).Nodup
  productTypes : (seed.productTypes.map ProductType.id).Nodup
  attributes : (seed.attributes.map Attribute.id).Nodup
  choices : (seed.choices.map Choice.id).Nodup
  products : (seed.products.map Product.id).Nodup
  variants : (seed.variants.map Variant.id).Nodup
  stocks : (seed.stocks.map Stock.id).Nodup
  images : (seed.images.map Image.id).Nodup

theorem Distinct.arranged {seed : Seed} (distinct : seed.Distinct) : seed.arranged.Distinct where
  categories := ((byId_perm _ _).map _).nodup_iff.mpr distinct.categories
  productTypes := distinct.productTypes
  attributes := ((byId_perm _ _).map _).nodup_iff.mpr distinct.attributes
  choices := ((byGroup_perm _ _ _ _).map _).nodup_iff.mpr distinct.choices
  products := ((byId_perm _ _).map _).nodup_iff.mpr distinct.products
  variants := ((byId_perm _ _).map _).nodup_iff.mpr distinct.variants
  stocks := ((byId_perm _ _).map _).nodup_iff.mpr distinct.stocks
  images := ((byGroup_perm _ _ _ _).map _).nodup_iff.mpr distinct.images

end Seed

end Storefront
