import Storefront.Money
/-!
Ranges of prices. The range that spans a list of prices has two of them for its ends, and none of
the others is beyond these. Amounts are compared without regard to the currency.
-/

namespace Storefront.PriceRange

/-- The ends are prices themselves, and none is beyond them. -/
structure Spans (range : PriceRange) (prices : List Price) : Prop where
  start : range.start ∈ prices
  stop : range.stop ∈ prices
  least : ∀ price ∈ prices, range.start.amount ≤ price.amount
  most : ∀ price ∈ prices, price.amount ≤ range.stop.amount

variable {range : PriceRange} {passed prices : List Price}

theorem start_widen_le (range : PriceRange) (price : Price) :
    (range.widen price).start.amount ≤ range.start.amount ∧
      (range.widen price).start.amount ≤ price.amount := by
  unfold widen
  by_cases cheaper : price.amount < range.start.amount
  · simp [cheaper, Int64.le_of_lt cheaper]
  · simp [cheaper, Int64.not_lt.mp cheaper]

theorem le_stop_widen (range : PriceRange) (price : Price) :
    range.stop.amount ≤ (range.widen price).stop.amount ∧
      price.amount ≤ (range.widen price).stop.amount := by
  unfold widen
  by_cases dearer : range.stop.amount < price.amount
  · simp [dearer, Int64.le_of_lt dearer]
  · simp [dearer, Int64.not_lt.mp dearer]

theorem Spans.widen (spans : range.Spans passed) (price : Price) :
    (range.widen price).Spans (passed ++ [price]) where
  start := by
    by_cases cheaper : price.amount < range.start.amount
    · simp [PriceRange.widen, cheaper]
    · simp [PriceRange.widen, cheaper, spans.start]
  stop := by
    by_cases dearer : range.stop.amount < price.amount
    · simp [PriceRange.widen, dearer]
    · simp [PriceRange.widen, dearer, spans.stop]
  least other member := by
    obtain ⟨before, here⟩ := range.start_widen_le price
    rcases List.mem_append.mp member with passed | last
    · exact Int64.le_trans before (spans.least other passed)
    · exact List.mem_singleton.mp last ▸ here
  most other member := by
    obtain ⟨before, here⟩ := range.le_stop_widen price
    rcases List.mem_append.mp member with passed | last
    · exact Int64.le_trans (spans.most other passed) before
    · exact List.mem_singleton.mp last ▸ here

theorem Spans.foldl (spans : range.Spans passed) (rest : List Price) :
    (rest.foldl PriceRange.widen range).Spans (passed ++ rest) := by
  induction rest generalizing range passed with
  | nil => simpa using spans
  | cons price rest ih => simpa using ih (spans.widen price)

theorem spans_of_spanning (spanned : spanning prices = some range) : range.Spans prices := by
  cases prices with
  | nil => cases spanned
  | cons first rest =>
      cases spanned
      have single : (⟨first, first⟩ : PriceRange).Spans [first] := by
        constructor <;> simp
      exact single.foldl rest

theorem spanning_exists (filled : prices ≠ []) : ∃ range, spanning prices = some range := by
  cases prices with
  | nil => exact absurd rfl filled
  | cons first rest => exact ⟨_, rfl⟩

structure AtMost (range bound : PriceRange) : Prop where
  start : range.start.amount ≤ bound.start.amount
  stop : range.stop.amount ≤ bound.stop.amount

/-- Where dearer ends have a common cause, the lower end decides. -/
theorem atMost_iff {cause : Prop} {full range bound : PriceRange}
    (ordered : full.start.amount ≤ full.stop.amount)
    (start : bound.start.amount < range.start.amount ↔
      cause ∧ full.start.amount < Int64.maxValue)
    (stop : bound.stop.amount < range.stop.amount ↔
      cause ∧ full.stop.amount < Int64.maxValue) :
    range.AtMost bound ↔ ¬ (cause ∧ full.start.amount < Int64.maxValue) := by
  constructor
  · intro atMost dearer
    exact Int64.not_lt.mpr atMost.start (start.mpr dearer)
  · intro cheap
    refine ⟨Int64.not_lt.mp fun dearer => cheap (start.mp dearer), Int64.not_lt.mp fun dearer => ?_⟩
    obtain ⟨because, below⟩ := stop.mp dearer
    exact cheap ⟨because, Int64.lt_of_le_of_lt ordered below⟩

end Storefront.PriceRange
