import Storefront.Proofs.Offers
/-!
Offers in another currency. There is one rate for both ends of a range, the one that leads from the
currency of the product. It is the right rate for an end in that currency and for no other, so both
ends are told at their own rates where every variant is sold in the currency of its product.
-/

namespace Storefront

open Number (Binary64)

section Staying

namespace Sale

theorem best_exists {sales : List Sale} (some : sales ≠ []) (price : Price) :
    ∃ sale ∈ sales, best sales price = sale.apply price := by
  have filled : (sales.map fun sale => sale.apply price) ≠ [] := mt List.map_eq_nil_iff.mp some
  obtain ⟨range, spanned⟩ := PriceRange.spanning_exists filled
  obtain ⟨sale, member, same⟩ := List.mem_map.mp (PriceRange.spans_of_spanning spanned).start
  exact ⟨sale, member, (best_eq_start spanned).trans same.symm⟩

theorem currency_best (sales : List Sale) (price : Price) :
    (best sales price).currency = price.currency := by
  by_cases none : sales = []
  · rw [none]
    rfl
  · obtain ⟨sale, -, same⟩ := best_exists none price
    rw [same]
    rfl

end Sale

namespace Offer

def OneCurrency (product : Product) (variants : List StockedVariant) : Prop :=
  ∀ stocked ∈ variants, ∀ price ∈ stocked.variant.priceOverride,
    price.currency = product.price.currency

variable {product : Product} {variants : List StockedVariant}

theorem OneCurrency.prices (one : OneCurrency product variants) :
    ∀ price ∈ prices product variants, price.currency = product.price.currency := by
  intro price member
  unfold Offer.prices at member
  split at member
  · rw [List.mem_singleton.mp member]
  · obtain ⟨stocked, among, rfl⟩ := List.mem_map.mp member
    cases given : stocked.variant.priceOverride with
    | none => rw [Variant.price, given, Option.getD_none]
    | some own => rw [Variant.price, given, Option.getD_some, one stocked among own given]

theorem OneCurrency.best (one : OneCurrency product variants) (sales : List Sale) :
    ∀ price ∈ (Offer.prices product variants).map (Sale.best sales),
      price.currency = product.price.currency := by
  intro price member
  obtain ⟨before, among, rfl⟩ := List.mem_map.mp member
  rw [Sale.currency_best, one.prices before among]

end Offer

end Staying

namespace ExchangeRates

/-- What a price comes to in a currency: itself if it is in that currency already, and otherwise
what the rate that leads there from its own currency makes of it. -/
inductive Tells (rates : ExchangeRates) (currency : Currency) (price : Price) : Price → Prop where
  | same (already : price.currency = currency) : Tells rates currency price price
  | converted {rate : Binary64} (registered : rates.rate? price.currency currency = some rate) :
      Tells rates currency price (price.convert currency rate)

theorem Tells.eq_of_already {rates : ExchangeRates} {currency : Currency} {price told : Price}
    (tells : rates.Tells currency price told) (already : price.currency = currency) :
    told = price := by
  cases tells with
  | same _ => rfl
  | converted registered => simp [rate?, already] at registered

theorem rate_register {source target : Currency} (apart : source ≠ target) (rate : Binary64) :
    (register {} source target rate).rate? source target = some rate := by
  simp [rate?, register, apart]

theorem not_tells_of_foreign {source target : Currency} {rate : Binary64} {price told : Price}
    (foreign : price.currency ≠ source) (elsewhere : price.currency ≠ target) :
    ¬ (register {} source target rate).Tells target price told := by
  intro tells
  cases tells with
  | same already => exact elsewhere already
  | converted registered =>
      have other : ((price.currency, target) == (source, target)) = false := by simp [foreign]
      simp [rate?, register, elsewhere, List.lookup_cons, other] at registered

end ExchangeRates

theorem Currency.exists_third (first second : Currency) :
    ∃ third ∈ [usd, eur, gbp], third ≠ first ∧ third ≠ second := by
  cases first <;> cases second <;> decide

namespace Offer

variable {product : Product} {variants : List StockedVariant} {sales : List Sale} {today : Date}

theorem localRange_eq_some_iff {rates : ExchangeRates} {currency : Currency}
    {range told : PriceRange}
    (known : (make rates product variants sales currency today).range = some range) :
    (make rates product variants sales currency today).localRange = some told ↔
      ∃ rate, rates.rate? product.price.currency currency = some rate ∧
        range.convert currency rate = told := by
  have converted : (make rates product variants sales currency today).localRange =
      (rates.rate? product.price.currency currency).bind fun rate =>
        (make rates product variants sales currency today).range.map fun range =>
          range.convert currency rate := rfl
  rw [converted, known, Option.bind_eq_some_iff]
  simp only [Option.map_some, Option.some.injEq]

theorem tells_iff_own {range : PriceRange} {side : PriceRange → Price}
    (known : ∀ rates currency,
      (make rates product variants sales currency today).range = some range)
    (sided : ∀ currency rate, side (range.convert currency rate) =
      (side range).convert currency rate) :
    (∀ rates currency, ∀ told ∈ (make rates product variants sales currency today).localRange,
        rates.Tells currency (side range) (side told)) ↔
      (side range).currency = product.price.currency := by
  constructor
  · intro tells
    refine Decidable.byContradiction fun foreign => ?_
    -- The one rate that is registered leads from the currency of the product to a third one.
    obtain ⟨third, -, apart, elsewhere⟩ :=
      Currency.exists_third product.price.currency (side range).currency
    have registered := ExchangeRates.rate_register apart.symm (.ofInt 1)
    have given := (localRange_eq_some_iff (known _ third)).mpr ⟨_, registered, rfl⟩
    exact ExchangeRates.not_tells_of_foreign foreign elsewhere.symm (tells _ third _ given)
  · intro own rates currency told given
    obtain ⟨rate, registered, rfl⟩ := (localRange_eq_some_iff (known rates currency)).mp given
    rw [sided]
    exact .converted (own ▸ registered)

/-- Whatever the rates and the currency asked for, an end of the range is told at the rate from its
own currency exactly if that is the currency of the product. So both ends are where every variant
is sold in it. -/
theorem ends_told_at_own_rate (product : Product) (variants : List StockedVariant)
    (sales : List Sale) (today : Date) : ∃ range,
    (∀ rates currency, (make rates product variants sales currency today).range = some range) ∧
    ((∀ rates currency, ∀ told ∈ (make rates product variants sales currency today).localRange,
        rates.Tells currency range.start told.start) ↔
      range.start.currency = product.price.currency) ∧
    ((∀ rates currency, ∀ told ∈ (make rates product variants sales currency today).localRange,
        rates.Tells currency range.stop told.stop) ↔
      range.stop.currency = product.price.currency) ∧
    (OneCurrency product variants → range.start.currency = product.price.currency ∧
      range.stop.currency = product.price.currency) := by
  have filled : (prices product variants).map (Sale.best (Sale.applicable sales product)) ≠ [] :=
    mt List.map_eq_nil_iff.mp (prices_ne_nil product variants)
  obtain ⟨range, spanned⟩ := PriceRange.spanning_exists filled
  have known : ∀ rates currency,
      (make rates product variants sales currency today).range = some range :=
    fun _ _ => spanned
  have spans := PriceRange.spans_of_spanning spanned
  exact ⟨range, known, tells_iff_own known fun _ _ => rfl, tells_iff_own known fun _ _ => rfl,
    fun one => ⟨one.best _ _ spans.start, one.best _ _ spans.stop⟩⟩

end Offer

def ExchangeRates.zloty : ExchangeRates := register {} .eur .pln (.ofInt 4)

def StockedVariant.imported : StockedVariant :=
  ⟨{ id := 4, productId := 7, sku := "M-PL", priceOverride := some ⟨500, .pln⟩ }, []⟩

namespace Offer

theorem ends_told_at_own_rate_magnum : OneCurrency .merlot [.magnum] ∧ ∃ range,
    (make .zloty .merlot [.magnum] [.tenth] .pln ⟨2024, 6, 1, by decide⟩).range = some range ∧
    (make .zloty .merlot [.magnum] [.tenth] .pln ⟨2024, 6, 1, by decide⟩).localRange =
      some ⟨⟨7560, .pln⟩, ⟨7560, .pln⟩⟩ ∧
    ExchangeRates.zloty.Tells .pln range.start ⟨7560, .pln⟩ ∧
    ExchangeRates.zloty.Tells .pln range.stop ⟨7560, .pln⟩ := by
  have one : OneCurrency .merlot [.magnum] := by
    simp [OneCurrency, StockedVariant.magnum, Product.merlot]
  have told : (make .zloty .merlot [.magnum] [.tenth] .pln ⟨2024, 6, 1, by decide⟩).localRange =
      some ⟨⟨7560, .pln⟩, ⟨7560, .pln⟩⟩ := by decide +kernel
  obtain ⟨range, known, start, stop, own⟩ :=
    ends_told_at_own_rate .merlot [.magnum] [.tenth] ⟨2024, 6, 1, by decide⟩
  exact ⟨one, range, known _ _, told, start.mpr (own one).1 _ _ _ told,
    stop.mpr (own one).2 _ _ _ told⟩

/-- A price in the currency that was asked for is converted once more. -/
theorem imported_converted_again :
    (make .zloty .merlot [.imported] [] .pln ⟨2024, 6, 1, by decide⟩).range =
      some ⟨⟨500, .pln⟩, ⟨500, .pln⟩⟩ ∧
    (make .zloty .merlot [.imported] [] .pln ⟨2024, 6, 1, by decide⟩).localRange =
      some ⟨⟨2000, .pln⟩, ⟨2000, .pln⟩⟩ ∧
    ¬ ExchangeRates.zloty.Tells .pln ⟨500, .pln⟩ ⟨2000, .pln⟩ := by
  refine ⟨by decide +kernel, by decide +kernel, fun tells => ?_⟩
  have same := tells.eq_of_already rfl
  revert same
  decide

end Offer

end Storefront
