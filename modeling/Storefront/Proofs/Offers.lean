import Storefront.Offer
import Storefront.Proofs.Sales
/-!
Offers. The ends of the discounted range are what the sales charge for the ends of the full range,
and the discount is the difference at the lower end. So a product becomes dearer by sales only where
nothing but surcharges applies to it.
-/

namespace Storefront

theorem PriceRange.Spans.charges {full reduced : PriceRange} {prices : List Price} {sales : List Sale}
    (fullSpans : full.Spans prices) (spans : reduced.Spans (prices.map (Sale.best sales))) :
    Sale.Charges sales full.start.amount reduced.start.amount ∧
      Sale.Charges sales full.stop.amount reduced.stop.amount := by
  have keeps : ∀ left right : Price, left.amount ≤ right.amount →
      (Sale.best sales left).amount ≤ (Sale.best sales right).amount :=
    fun left right ordered => (Sale.charges_best sales left).mono (Sale.charges_best sales right)
      ordered
  obtain ⟨lowest, inLowest, low⟩ := List.mem_map.mp spans.start
  obtain ⟨highest, inHighest, high⟩ := List.mem_map.mp spans.stop
  have start : reduced.start.amount = (Sale.best sales full.start).amount := by
    apply Int64.le_antisymm (spans.least _ (List.mem_map_of_mem fullSpans.start))
    rw [← low]
    exact keeps full.start lowest (fullSpans.least lowest inLowest)
  have stop : reduced.stop.amount = (Sale.best sales full.stop).amount := by
    refine Int64.le_antisymm ?_ (spans.most _ (List.mem_map_of_mem fullSpans.stop))
    rw [← high]
    exact keeps highest full.stop (fullSpans.most highest inHighest)
  rw [start, stop]
  exact ⟨Sale.charges_best sales full.start, Sale.charges_best sales full.stop⟩

namespace Offer

theorem prices_ne_nil (product : Product) (variants : List StockedVariant) :
    prices product variants ≠ [] := by
  cases variants with
  | nil => exact List.cons_ne_nil _ _
  | cons _ _ => exact List.cons_ne_nil _ _

/-- The reduced range has for its ends what the sales charge for the ends of the full one. -/
structure Reduces (offer : Offer) (sales : List Sale) (full reduced : PriceRange) : Prop where
  fullRange : offer.fullRange = some full
  range : offer.range = some reduced
  start : Sale.Charges sales full.start.amount reduced.start.amount
  stop : Sale.Charges sales full.stop.amount reduced.stop.amount

theorem discountBetween_some (full reduced : PriceRange) :
    discountBetween (some full) (some reduced) =
      if reduced.start.amount < full.start.amount then
        some ⟨full.start.amount - reduced.start.amount, full.start.currency⟩
      else none := rfl

variable (rates : ExchangeRates) (product : Product) (variants : List StockedVariant)
  (currency : Currency) (today : Date)

theorem reduces_make (sales : List Sale) : ∃ full reduced, full.Spans (prices product variants) ∧
    (make rates product variants sales currency today).Reduces (Sale.applicable sales product)
      full reduced := by
  obtain ⟨full, spanned⟩ := PriceRange.spanning_exists (prices_ne_nil product variants)
  have filled : (prices product variants).map (Sale.best (Sale.applicable sales product)) ≠ [] :=
    mt List.map_eq_nil_iff.mp (prices_ne_nil product variants)
  obtain ⟨reduced, mapped⟩ := PriceRange.spanning_exists filled
  have spans := PriceRange.spans_of_spanning spanned
  obtain ⟨start, stop⟩ := spans.charges (PriceRange.spans_of_spanning mapped)
  exact ⟨full, reduced, spans, spanned, mapped, start, stop⟩

theorem toInt_sub_of_charges {sales : List Sale} {amount charged : Int64}
    (charges : Sale.Charges sales amount charged) (reduced : charged < amount) :
    (amount - charged).toInt = amount.toInt - charged.toInt := by
  have nonneg := charges.nonneg_of_lt reduced
  have most := amount.toInt_lt
  rw [Int64.lt_iff_toInt_lt] at reduced
  rw [Int64.toInt_sub, Int.bmod_eq_of_le] <;> omega

/-- The range is the image of the full range under the best sale, and the discount is how far it
starts below. -/
theorem range_reduced (sales : List Sale) :
    ∃ full reduced, full.Spans (prices product variants) ∧
      (make rates product variants sales currency today).Reduces (Sale.applicable sales product)
        full reduced ∧
      ((make rates product variants sales currency today).discount.isSome ↔
        reduced.start.amount < full.start.amount) ∧
      ∀ discount ∈ (make rates product variants sales currency today).discount,
        discount.amount.toInt = full.start.amount.toInt - reduced.start.amount.toInt := by
  obtain ⟨full, reduced, spans, reduces⟩ :=
    reduces_make rates product variants currency today sales
  have discount : (make rates product variants sales currency today).discount =
      discountBetween (make rates product variants sales currency today).fullRange
        (make rates product variants sales currency today).range := rfl
  rw [reduces.fullRange, reduces.range, discountBetween_some] at discount
  refine ⟨full, reduced, spans, reduces, ?_, ?_⟩
  · rw [discount]
    by_cases cheaper : reduced.start.amount < full.start.amount <;> simp [cheaper]
  · intro price given
    rw [discount] at given
    by_cases cheaper : reduced.start.amount < full.start.amount
    · rw [if_pos cheaper] at given
      cases given
      exact toInt_sub_of_charges reduces.start cheaper
    · rw [if_neg cheaper] at given
      cases given

/-- A further sale makes a product dearer only as a surcharge where no other sale applies, and
sales together only where all that apply are surcharges. -/
theorem dearer_by_surcharges {sales more : List Sale} {further : Sale}
    (nonneg : ∀ price ∈ prices product variants, 0 ≤ price.amount)
    (added : more.Perm (further :: sales)) :
    ∃ full before after,
      (make rates product variants sales currency today).fullRange = some full ∧
      (make rates product variants sales currency today).range = some before ∧
      (make rates product variants more currency today).range = some after ∧
      (after.AtMost before ↔
        ¬ ((further.IsSurcharge ∧ further.appliesTo product = true ∧
            Sale.applicable sales product = []) ∧ full.start.amount < Int64.maxValue)) ∧
      (before.AtMost full ↔
        ¬ (Sale.SurchargesOnly (Sale.applicable sales product) ∧
          full.start.amount < Int64.maxValue)) := by
  obtain ⟨full, before, spans, first⟩ := reduces_make rates product variants currency today sales
  obtain ⟨again, after, _, second⟩ := reduces_make rates product variants currency today more
  obtain rfl : full = again := Option.some.inj (first.fullRange.symm.trans second.fullRange)
  have ordered := spans.least full.stop spans.stop
  have low := nonneg full.start spans.start
  have high := nonneg full.stop spans.stop
  refine ⟨full, before, after, first.fullRange, first.range, second.range, ?_, ?_⟩
  · exact PriceRange.atMost_iff ordered (first.start.added_lt_iff second.start low added)
      (first.stop.added_lt_iff second.stop high added)
  · exact PriceRange.atMost_iff ordered (first.start.lt_iff low) (first.stop.lt_iff high)

end Offer

def Product.merlot : Product :=
  { id := 7, name := "Merlot", categoryId := 1, productTypeId := 1, price := ⟨900, .eur⟩ }

def StockedVariant.magnum : StockedVariant :=
  ⟨{ id := 3, productId := 7, sku := "M-150", priceOverride := some ⟨2100, .eur⟩ }, []⟩

def Sale.tenth : Sale :=
  { id := 1, name := "Vintage", discount := .percentage 10, productIds := [7] }

def Sale.deposit : Sale :=
  { id := 2, name := "Deposit", discount := .fixed (-100), categoryIds := [1] }

namespace Offer

/-- The deposit applies, but so does a tenth off, which is better. -/
theorem dearer_by_surcharges_tenth :
    (∀ price ∈ prices .merlot [.magnum], 0 ≤ price.amount) ∧
      [Sale.deposit, .tenth].Perm (.deposit :: [.tenth]) ∧
      ∃ full before after,
        (make {} .merlot [.magnum] [.tenth] .eur ⟨2024, 6, 1, by decide⟩).fullRange = some full ∧
        (make {} .merlot [.magnum] [.tenth] .eur ⟨2024, 6, 1, by decide⟩).range = some before ∧
        (make {} .merlot [.magnum] [.deposit, .tenth] .eur ⟨2024, 6, 1, by decide⟩).range =
          some after ∧
        after.AtMost before ∧ before.AtMost full := by
  have nonneg : ∀ price ∈ prices .merlot [.magnum], 0 ≤ price.amount := by decide
  have applies : Sale.applicable [.tenth] .merlot = [.tenth] := rfl
  obtain ⟨full, before, after, whole, first, second, added, reduced⟩ :=
    dearer_by_surcharges {} .merlot [.magnum] .eur ⟨2024, 6, 1, by decide⟩ nonneg
      (List.Perm.refl (.deposit :: [.tenth]))
  refine ⟨nonneg, List.Perm.refl _, full, before, after, whole, first, second, added.mpr ?_,
    reduced.mpr ?_⟩
  · rintro ⟨⟨-, -, none⟩, -⟩
    rw [applies] at none
    cases none
  · rintro ⟨only, -⟩
    rw [applies, Sale.surchargesOnly_singleton] at only
    obtain ⟨amount, ⟨⟩, -⟩ := only

theorem dearer_with_deposit :
    (∀ price ∈ prices .merlot [], 0 ≤ price.amount) ∧
      ∃ full before after,
        (make {} .merlot [] [] .eur ⟨2024, 6, 1, by decide⟩).range = some before ∧
        (make {} .merlot [] [.deposit] .eur ⟨2024, 6, 1, by decide⟩).range = some after ∧
        (make {} .merlot [] [.deposit] .eur ⟨2024, 6, 1, by decide⟩).fullRange = some full ∧
        ¬ after.AtMost before ∧ ¬ after.AtMost full := by
  have dearer : ¬ (⟨⟨1000, .eur⟩, ⟨1000, .eur⟩⟩ : PriceRange).AtMost ⟨⟨900, .eur⟩, ⟨900, .eur⟩⟩ :=
    fun atMost => absurd atMost.start (by decide)
  exact ⟨by decide, _, _, _, rfl, rfl, rfl, dearer, dearer⟩

end Offer

end Storefront
