import Mathlib.Data.List.Forall2
import Storefront.Proofs.Exchange
/-!
Offers whose inputs come in another order. Amounts alone decide which price is an end of a range and
which sale is the best, and where all prices are in one currency a price is no more than its amount.
So an offer is the same in whatever order the variants, the stock of each and the sales are given.
-/

namespace Storefront

section Prices

variable {currency : Currency} {prices others : List Price}

theorem Price.eq_of_amount {left right : Price} (amount : left.amount = right.amount)
    (currency : left.currency = right.currency) : left = right := by
  cases left
  cases right
  simp_all

namespace PriceRange

theorem Spans.perm {range : PriceRange} (spans : range.Spans prices) (same : prices.Perm others) :
    range.Spans others where
  start := same.mem_iff.mp spans.start
  stop := same.mem_iff.mp spans.stop
  least price member := spans.least price (same.mem_iff.mpr member)
  most price member := spans.most price (same.mem_iff.mpr member)

theorem Spans.eq {range other : PriceRange} (one : ∀ price ∈ prices, price.currency = currency)
    (spans : range.Spans prices) (again : other.Spans prices) : range = other := by
  have start : range.start = other.start := by
    apply Price.eq_of_amount
    · exact Int64.le_antisymm (spans.least _ again.start) (again.least _ spans.start)
    · rw [one _ spans.start, one _ again.start]
  have stop : range.stop = other.stop := by
    apply Price.eq_of_amount
    · exact Int64.le_antisymm (again.most _ spans.stop) (spans.most _ again.stop)
    · rw [one _ spans.stop, one _ again.stop]
  cases range
  cases other
  simp_all

theorem spanning_perm (one : ∀ price ∈ prices, price.currency = currency)
    (same : prices.Perm others) : spanning prices = spanning others := by
  by_cases filled : others = []
  · rw [filled, (same.trans (List.Perm.of_eq filled)).eq_nil]
  · have some : prices ≠ [] := fun nothing =>
      filled (same.symm.trans (List.Perm.of_eq nothing)).eq_nil
    obtain ⟨range, spanned⟩ := spanning_exists some
    obtain ⟨other, again⟩ := spanning_exists filled
    have spans := spans_of_spanning spanned
    rw [spanned, again, spans.eq one ((spans_of_spanning again).perm same.symm)]

end PriceRange

theorem Sale.best_perm {sales more : List Sale} (same : sales.Perm more) (price : Price) :
    best sales price = best more price := by
  apply Price.eq_of_amount
  · exact ((charges_best sales price).perm same).eq (charges_best more price)
  · rw [currency_best, currency_best]

end Prices

section Stocks

theorem max_le_iff_both {left right bound : Int32} :
    max left right ≤ bound ↔ left ≤ bound ∧ right ≤ bound := by
  have chosen : max left right = if left ≤ right then right else left := rfl
  rw [chosen]
  by_cases ordered : left ≤ right
  · rw [if_pos ordered]
    exact ⟨fun below => ⟨Int32.le_trans ordered below, below⟩, And.right⟩
  · rw [if_neg ordered]
    have turned := Int32.le_of_lt (Int32.not_le.mp ordered)
    exact ⟨fun below => ⟨below, Int32.le_trans turned below⟩, And.left⟩

namespace Stock

variable {stocks others : List Stock}

theorem foldl_max_le_iff {least bound : Int32} {numbers : List Int32} :
    numbers.foldl max least ≤ bound ↔ least ≤ bound ∧ ∀ number ∈ numbers, number ≤ bound := by
  induction numbers generalizing least with
  | nil => simp
  | cons number rest ih =>
      rw [List.foldl_cons, ih, max_le_iff_both, List.forall_mem_cons, and_assoc]

theorem best_le_iff {bound : Int32} :
    best stocks ≤ bound ↔ 0 ≤ bound ∧ ∀ stock ∈ stocks, stock.available ≤ bound := by
  rw [best, foldl_max_le_iff, List.forall_mem_map]

theorem best_perm (same : stocks.Perm others) : best stocks = best others := by
  have alike : ∀ bound, best stocks ≤ bound ↔ best others ≤ bound := by
    intro bound
    simp only [best_le_iff, same.mem_iff]
  exact Int32.le_antisymm ((alike _).mpr (Int32.le_refl _)) ((alike _).mp (Int32.le_refl _))

end Stock

namespace StockedVariant

structure Restocks (left right : StockedVariant) : Prop where
  variant : left.variant = right.variant
  stocks : left.stocks.Perm right.stocks

theorem Restocks.stockQuantity {left right : StockedVariant} (restocks : left.Restocks right) :
    left.stockQuantity = right.stockQuantity :=
  Stock.best_perm restocks.stocks

theorem map_restocked {α : Type} {told : StockedVariant → α}
    {variants restocked : List StockedVariant}
    (same : List.Forall₂ Restocks variants restocked)
    (tells : ∀ left right : StockedVariant, left.Restocks right → told left = told right) :
    variants.map told = restocked.map told := by
  induction same with
  | nil => rfl
  | cons restocks _ ih => rw [List.map_cons, List.map_cons, tells _ _ restocks, ih]

end StockedVariant

end Stocks

namespace Offer

variable {product : Product} {variants restocked others : List StockedVariant}
  {sales more : List Sale}

theorem prices_perm (same : variants.Perm others) :
    (prices product variants).Perm (prices product others) := by
  unfold prices
  rw [same.isEmpty_eq]
  split
  · exact List.Perm.refl _
  · exact same.map _

theorem prices_restocked (same : List.Forall₂ StockedVariant.Restocks variants restocked) :
    prices product variants = prices product restocked := by
  cases same with
  | nil => rfl
  | cons first rest =>
      exact StockedVariant.map_restocked (.cons first rest) fun _ _ restocks => by
        rw [restocks.variant]

theorem inStock_reordered (stocks : List.Forall₂ StockedVariant.Restocks variants restocked)
    (order : restocked.Perm others) :
    (variants.any fun stocked => decide (0 < stocked.stockQuantity)) =
      others.any fun stocked => decide (0 < stocked.stockQuantity) := by
  have quantities := StockedVariant.map_restocked stocks fun _ _ restocks => restocks.stockQuantity
  have positive := congrArg (List.any · fun quantity => decide (0 < quantity)) quantities
  simp only [List.any_map] at positive
  exact positive.trans order.any_eq

/-- The order of the variants, of the stock of each and of the sales makes no difference. -/
theorem make_reordered (rates : ExchangeRates) (currency : Currency) (today : Date)
    (one : OneCurrency product variants)
    (stocks : List.Forall₂ StockedVariant.Restocks variants restocked)
    (order : restocked.Perm others) (same : sales.Perm more) :
    make rates product variants sales currency today =
      make rates product others more currency today := by
  have priced : (prices product variants).Perm (prices product others) :=
    prices_restocked stocks ▸ prices_perm order
  have best : Sale.best (sales.filter fun sale => sale.appliesTo product) =
      Sale.best (more.filter fun sale => sale.appliesTo product) :=
    funext fun price => Sale.best_perm (same.filter _) price
  have full := PriceRange.spanning_perm one.prices priced
  have reduced := PriceRange.spanning_perm (one.best (Sale.applicable more product))
    (priced.map (Sale.best (Sale.applicable more product)))
  have inStock := inStock_reordered stocks order
  rw [Sale.applicable] at reduced
  simp only [make, best, inStock, full, reduced]

end Offer

def StockedVariant.bottle : StockedVariant := ⟨{ id := 2, productId := 7, sku := "M-75" }, []⟩

def StockedVariant.shelved : StockedVariant :=
  { magnum with stocks := [⟨1, 3, 2, 2⟩, ⟨2, 3, 5, 1⟩] }

def StockedVariant.turned : StockedVariant := { shelved with stocks := shelved.stocks.reverse }

theorem Offer.make_reordered_turned : OneCurrency .merlot [.shelved, .bottle] ∧
    make .zloty .merlot [.shelved, .bottle] [.tenth, .deposit] .pln ⟨2024, 6, 1, by decide⟩ =
      make .zloty .merlot [.bottle, .turned] [.deposit, .tenth] .pln ⟨2024, 6, 1, by decide⟩ ∧
    (make .zloty .merlot [.bottle, .turned] [.deposit, .tenth] .pln
      ⟨2024, 6, 1, by decide⟩).available = true := by
  have one : OneCurrency .merlot [.shelved, .bottle] := by
    simp [OneCurrency, StockedVariant.shelved, StockedVariant.magnum, StockedVariant.bottle,
      Product.merlot]
  have restocked : List.Forall₂ StockedVariant.Restocks [.shelved, .bottle] [.turned, .bottle] :=
    .cons ⟨rfl, (List.reverse_perm _).symm⟩ (.cons ⟨rfl, List.Perm.refl _⟩ .nil)
  exact ⟨one, make_reordered _ _ _ one restocked (List.Perm.swap _ _ _) (List.Perm.swap _ _ _),
    by decide +kernel⟩

end Storefront
