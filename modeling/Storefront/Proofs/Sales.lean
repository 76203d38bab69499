import Storefront.Sale
import Storefront.Proofs.Ranges
/-!
Sales. A sale keeps the order of the amounts that it is applied to, and so does the best of several.
What it leaves is dearer only if it is a surcharge, which is a fixed sale that takes less than
nothing off; of several sales the best leaves more only if all of them are surcharges.
-/

namespace Storefront

section Single

namespace Discount

theorem share_of_nonneg {amount share : Int} (nonneg : 0 ≤ amount) (low : 0 ≤ share)
    (high : share ≤ 100) : 0 ≤ (amount * share).tdiv 100 ∧ (amount * share).tdiv 100 ≤ amount := by
  have product : 0 ≤ amount * share := Int.mul_nonneg nonneg low
  have bound : amount * share ≤ amount * 100 := Int.mul_le_mul_of_nonneg_left high nonneg
  rw [Int.tdiv_eq_ediv_of_nonneg product]
  omega

theorem share_of_nonpos {amount share : Int} (nonpos : amount ≤ 0) (low : 0 ≤ share)
    (high : share ≤ 100) : amount ≤ (amount * share).tdiv 100 ∧ (amount * share).tdiv 100 ≤ 0 := by
  have mirrored := share_of_nonneg (Int.neg_nonneg_of_nonpos nonpos) low high
  rw [Int.neg_mul, Int.neg_tdiv] at mirrored
  omega

theorem share_mono {left right share : Int} (nonneg : 0 ≤ left) (ordered : left ≤ right)
    (low : 0 ≤ share) (high : share ≤ 100) :
    left - (left * share).tdiv 100 ≤ right - (right * share).tdiv 100 := by
  have first : 0 ≤ left * share := Int.mul_nonneg nonneg low
  have second : 0 ≤ right * share := Int.mul_nonneg (by omega) low
  -- Of what is added to the amount no more than all of it is taken off.
  have added : (right - left) * share ≤ (right - left) * 100 :=
    Int.mul_le_mul_of_nonneg_left high (by omega)
  rw [Int.sub_mul] at added
  rw [Int.tdiv_eq_ediv_of_nonneg first, Int.tdiv_eq_ediv_of_nonneg second]
  omega

theorem percent_bounds (percent : UInt8) :
    (0 : Int) ≤ (min percent.toNat 100 : Nat) ∧ ((min percent.toNat 100 : Nat) : Int) ≤ 100 := by
  omega

/-- A part of an amount is no further from zero than the amount, on the same side. -/
theorem percent_between (percent : UInt8) (amount : Int) :
    min amount 0 ≤ (amount * (min percent.toNat 100 : Nat)).tdiv 100 ∧
      (amount * (min percent.toNat 100 : Nat)).tdiv 100 ≤ max amount 0 := by
  obtain ⟨low, high⟩ := percent_bounds percent
  rcases Int.le_total 0 amount with nonneg | nonpos
  · obtain ⟨above, below⟩ := share_of_nonneg nonneg low high
    omega
  · obtain ⟨above, below⟩ := share_of_nonpos nonpos low high
    omega

theorem toInt_reduction_percentage (percent : UInt8) (amount : Int64) :
    ((percentage percent).reduction amount).toInt =
      (amount.toInt * (min percent.toNat 100 : Nat)).tdiv 100 := by
  obtain ⟨above, below⟩ := percent_between percent amount.toInt
  have least := amount.le_toInt
  have most := amount.toInt_lt
  exact Int64.toInt_ofInt_of_le (by omega) (by omega)

end Discount

theorem Price.toInt_reduce (price : Price) (amount : Int64) :
    (price.reduce amount).amount.toInt =
      max 0 (min (price.amount.toInt - amount.toInt) Int64.maxValue.toInt) := by
  have clamped := Number.toInt_clampInt64 (price.amount.toInt - amount.toInt)
  have low : Int64.minValue.toInt < 0 := by decide
  have high : 0 < Int64.maxValue.toInt := by decide
  have zero : (0 : Int64).toInt = 0 := rfl
  have floored : (price.reduce amount).amount =
      if Number.clampInt64 (price.amount.toInt - amount.toInt) ≤ 0 then 0
      else Number.clampInt64 (price.amount.toInt - amount.toInt) := rfl
  rw [floored]
  split <;> rename_i side <;> rw [Int64.le_iff_toInt_le] at side <;> omega

namespace Sale

def leaves (sale : Sale) (amount : Int64) : Int64 := (sale.apply ⟨amount, .standard⟩).amount

theorem amount_apply (sale : Sale) (price : Price) :
    (sale.apply price).amount = sale.leaves price.amount := rfl

theorem toInt_leaves (sale : Sale) (amount : Int64) :
    (sale.leaves amount).toInt =
      max 0 (min (amount.toInt - (sale.discount.reduction amount).toInt) Int64.maxValue.toInt) :=
  Price.toInt_reduce ⟨amount, .standard⟩ (sale.discount.reduction amount)

theorem leaves_nonneg (sale : Sale) (amount : Int64) : 0 ≤ (sale.leaves amount).toInt := by
  rw [toInt_leaves]
  omega

theorem leaves_mono (sale : Sale) {left right : Int64} (ordered : left ≤ right) :
    sale.leaves left ≤ sale.leaves right := by
  rw [Int64.le_iff_toInt_le] at ordered ⊢
  rw [toInt_leaves, toInt_leaves]
  cases sale.discount with
  | percentage percent =>
      obtain ⟨low, high⟩ := Discount.percent_bounds percent
      rw [Discount.toInt_reduction_percentage, Discount.toInt_reduction_percentage]
      by_cases nonneg : 0 ≤ left.toInt
      · have rest := Discount.share_mono nonneg ordered low high
        omega
      · -- Of less than nothing the floor leaves nothing.
        obtain ⟨taken, -⟩ := Discount.share_of_nonpos (Int.le_of_not_le nonneg) low high
        omega
  | fixed amount =>
      simp only [Discount.reduction]
      omega

/-- A fixed sale that takes less than nothing off adds to the price. -/
def IsSurcharge (sale : Sale) : Prop := ∃ amount, sale.discount = .fixed amount ∧ amount < 0

/-- Only a surcharge makes an amount dearer, unless it is the greatest there is. -/
theorem lt_leaves_iff (sale : Sale) {amount : Int64} (nonneg : 0 ≤ amount) :
    amount < sale.leaves amount ↔ sale.IsSurcharge ∧ amount < Int64.maxValue := by
  have zero : (0 : Int64).toInt = 0 := rfl
  rw [Int64.le_iff_toInt_le, zero] at nonneg
  rw [Int64.lt_iff_toInt_lt, Int64.lt_iff_toInt_lt, toInt_leaves, IsSurcharge]
  cases sale.discount with
  | percentage percent =>
      obtain ⟨low, high⟩ := Discount.percent_bounds percent
      obtain ⟨taken, -⟩ := Discount.share_of_nonneg nonneg low high
      rw [Discount.toInt_reduction_percentage]
      refine iff_of_false (by omega) ?_
      rintro ⟨⟨fixed, ⟨⟩, -⟩, -⟩
  | fixed taken =>
      simp only [Discount.reduction, Discount.fixed.injEq, exists_eq_left', Int64.lt_iff_toInt_lt,
        zero]
      omega

end Sale

end Single

section Best

namespace Sale

variable {sales : List Sale}

/-- What is charged where the sales run: the least that one of them leaves of the amount, or all of
it without a sale. -/
inductive Charges (sales : List Sale) (amount : Int64) : Int64 → Prop where
  | full (none : sales = []) : Charges sales amount amount
  | least {sale : Sale} (member : sale ∈ sales)
      (all : ∀ other ∈ sales, sale.leaves amount ≤ other.leaves amount) :
      Charges sales amount (sale.leaves amount)

def applicable (sales : List Sale) (product : Product) : List Sale :=
  sales.filter fun sale => sale.appliesTo product

theorem applicable_cons_of_applies {sale : Sale} {product : Product}
    (applies : sale.appliesTo product = true) :
    applicable (sale :: sales) product = sale :: applicable sales product :=
  List.filter_cons_of_pos (p := fun sale : Sale => sale.appliesTo product) applies

theorem applicable_cons_of_not_applies {sale : Sale} {product : Product}
    (applies : ¬ sale.appliesTo product = true) :
    applicable (sale :: sales) product = applicable sales product :=
  List.filter_cons_of_neg (p := fun sale : Sale => sale.appliesTo product) applies

structure SurchargesOnly (sales : List Sale) : Prop where
  some : sales ≠ []
  all : ∀ sale ∈ sales, sale.IsSurcharge

theorem surchargesOnly_singleton {sale : Sale} : SurchargesOnly [sale] ↔ sale.IsSurcharge :=
  ⟨fun only => only.all sale List.mem_cons_self,
    fun surcharge => ⟨List.cons_ne_nil _ _, by simpa using surcharge⟩⟩

theorem best_eq_start {price : Price} {range : PriceRange}
    (spanned : PriceRange.spanning (sales.map fun sale => sale.apply price) = some range) :
    best sales price = range.start := by
  have folded : ∀ (rest : List Price) (range : PriceRange),
      rest.foldl (fun least next => if next.amount < least.amount then next else least)
        range.start = (rest.foldl PriceRange.widen range).start := by
    intro rest
    induction rest with
    | nil => exact fun _ => rfl
    | cons next rest ih => exact fun range => ih (range.widen next)
  unfold best
  cases left : sales.map fun sale => sale.apply price with
  | nil => rw [left] at spanned; cases spanned
  | cons first rest =>
      rw [left] at spanned
      cases spanned
      exact folded rest ⟨first, first⟩

theorem charges_best (sales : List Sale) (price : Price) :
    Charges sales price.amount (best sales price).amount := by
  cases sales with
  | nil => exact .full rfl
  | cons sale rest =>
      have filled : ((sale :: rest).map fun sale => sale.apply price) ≠ [] := List.cons_ne_nil _ _
      obtain ⟨range, spanned⟩ := PriceRange.spanning_exists filled
      have spans := PriceRange.spans_of_spanning spanned
      rw [best_eq_start spanned]
      obtain ⟨best, member, same⟩ := List.mem_map.mp spans.start
      rw [← same, amount_apply]
      refine .least member fun other among => ?_
      rw [← amount_apply, ← amount_apply, same]
      exact spans.least _ (List.mem_map_of_mem among)

namespace Charges

variable {more : List Sale} {amount other charged left right : Int64}

theorem mono (first : Charges sales amount left) (second : Charges sales other right)
    (ordered : amount ≤ other) : left ≤ right := by
  cases first with
  | full none =>
      cases second with
      | full _ => exact ordered
      | least member _ => exact absurd (none ▸ member) List.not_mem_nil
  | least _ all =>
      cases second with
      | full none => exact absurd (none ▸ ‹_ ∈ sales›) List.not_mem_nil
      | @least sale member _ =>
          exact Int64.le_trans (all sale member) (sale.leaves_mono ordered)

theorem eq (first : Charges sales amount left) (second : Charges sales amount right) :
    left = right :=
  Int64.le_antisymm (first.mono second (Int64.le_refl _)) (second.mono first (Int64.le_refl _))

theorem perm (charges : Charges sales amount charged) (same : sales.Perm more) :
    Charges more amount charged := by
  cases charges with
  | full none => exact .full (none ▸ same).symm.eq_nil
  | least member all =>
      exact .least (same.mem_iff.mp member) fun other among => all other (same.mem_iff.mpr among)

theorem le_of_subset (first : Charges sales amount left) (second : Charges more amount right)
    (within : sales ⊆ more) (some : sales ≠ []) : right ≤ left := by
  cases first with
  | full none => exact absurd none some
  | least member _ =>
      cases second with
      | full none => exact absurd (none ▸ within member) List.not_mem_nil
      | least _ all => exact all _ (within member)

theorem nonneg_of_lt (charges : Charges sales amount charged) (reduced : charged < amount) :
    0 ≤ charged.toInt := by
  cases charges with
  | full _ => exact absurd reduced Int64.lt_irrefl
  | @least sale _ _ => exact sale.leaves_nonneg amount

theorem lt_iff (charges : Charges sales amount charged) (nonneg : 0 ≤ amount) :
    amount < charged ↔ SurchargesOnly sales ∧ amount < Int64.maxValue := by
  cases charges with
  | full none => exact iff_of_false Int64.lt_irrefl fun only => only.1.some none
  | @least sale member all =>
      constructor
      · intro dearer
        have each : ∀ other ∈ sales, other.IsSurcharge ∧ amount < Int64.maxValue :=
          fun other among => (other.lt_leaves_iff nonneg).mp (Int64.lt_of_lt_of_le dearer
            (all other among))
        exact ⟨⟨List.ne_nil_of_mem member, fun other among => (each other among).1⟩,
          (each sale member).2⟩
      · rintro ⟨only, below⟩
        exact (sale.lt_leaves_iff nonneg).mpr ⟨only.all sale member, below⟩

/-- What a further sale makes dearer is what was not on sale, and it does so as a surcharge. -/
theorem added_lt_iff {product : Product} {further : Sale}
    (first : Charges (applicable sales product) amount left)
    (second : Charges (applicable more product) amount right) (nonneg : 0 ≤ amount)
    (added : more.Perm (further :: sales)) : left < right ↔
      (further.IsSurcharge ∧ further.appliesTo product = true ∧ applicable sales product = []) ∧
        amount < Int64.maxValue := by
  have chosen : (applicable more product).Perm (applicable (further :: sales) product) :=
    added.filter _
  by_cases applies : further.appliesTo product = true
  · rw [applicable_cons_of_applies applies] at chosen
    by_cases alone : applicable sales product = []
    · have single := second.perm chosen
      rw [alone] at first single
      rw [first.eq (.full rfl), single.lt_iff nonneg]
      simp [surchargesOnly_singleton, applies, alone]
    · have within : applicable sales product ⊆ applicable more product :=
        fun sale member => chosen.mem_iff.mpr (List.mem_cons_of_mem further member)
      have least := first.le_of_subset second within alone
      exact iff_of_false (Int64.not_lt.mpr least) fun dearer => alone dearer.1.2.2
  · rw [applicable_cons_of_not_applies applies] at chosen
    rw [first.eq (second.perm chosen)]
    exact iff_of_false Int64.lt_irrefl fun dearer => applies dearer.1.2.1

end Charges

end Sale

end Best

end Storefront
