import Storefront.Loaded
import Storefront.Sale
/-!
What a product costs and whether it can be had: the range of its variants' prices with and without
the sales that run, and both again in the currency that was asked for.
-/

namespace Storefront

open Number (Binary64)

/-- How much of one currency a unit of another is worth. The rate registered last counts. -/
structure ExchangeRates where
  entries : List ((Currency × Currency) × Binary64) := []

namespace ExchangeRates

def register (rates : ExchangeRates) (source target : Currency) (rate : Binary64) : ExchangeRates :=
  ⟨((source, target), rate) :: rates.entries⟩

def rate? (rates : ExchangeRates) (source target : Currency) : Option Binary64 :=
  if source = target then none else rates.entries.lookup (source, target)

end ExchangeRates

structure Offer where
  available : Bool
  onSale : Bool
  discount : Option Price
  localDiscount : Option Price
  range : Option PriceRange
  fullRange : Option PriceRange
  localRange : Option PriceRange
  deriving DecidableEq, Repr

namespace Offer

/-- A product without variants is sold at its own price. -/
def prices (product : Product) (variants : List StockedVariant) : List Price :=
  if variants.isEmpty then [product.price]
  else variants.map fun stocked => stocked.variant.price product.price

def discountBetween (full discounted : Option PriceRange) : Option Price :=
  match full, discounted with
  | some before, some after =>
      if after.start.amount < before.start.amount then
        some ⟨before.start.amount - after.start.amount, before.start.currency⟩
      else none
  | _, _ => none

def make (rates : ExchangeRates) (product : Product) (variants : List StockedVariant)
    (sales : List Sale) (currency : Currency) (today : Date) : Offer :=
  let prices := prices product variants
  let applicable := sales.filter fun sale => sale.appliesTo product
  let fullRange := PriceRange.spanning prices
  let range := PriceRange.spanning (prices.map (Sale.best applicable))
  let inStock := variants.any fun stocked => 0 < stocked.stockQuantity
  let available := product.isAvailableOn today && inStock
  let discount := discountBetween fullRange range
  let rate := rates.rate? product.price.currency currency
  { available
    onSale := available && discount.isSome
    discount
    localDiscount := rate.bind fun rate => discount.map fun price => price.convert currency rate
    range
    fullRange
    localRange := rate.bind fun rate => range.map fun range => range.convert currency rate }

instance : ToDatum Offer where
  toDatum offer :=
    .table (Record.entry "available" offer.available ++ Record.entry "onSale" offer.onSale ++
      Record.entry "discount" offer.discount ++
      Record.entry "discountLocalCurrency" offer.localDiscount ++
      Record.entry "priceRange" offer.range ++
      Record.entry "priceRangeUndiscounted" offer.fullRange ++
      Record.entry "priceRangeLocalCurrency" offer.localRange)

end Offer

end Storefront
