import Storefront.Catalog.Product
/-!
Sales. A sale names the products and the categories it covers and what it takes off a price. The
price that remains is never negative, and among several sales the one that leaves least counts.
-/

namespace Storefront

inductive Discount where
  /-- More than a hundred percent takes off no more than all of it. -/
  | percentage (percent : UInt8)
  | fixed (amount : Int64)
  deriving DecidableEq, Repr

namespace Discount

/-- What is taken off `amount`; a part of a unit is not taken off. -/
def reduction (discount : Discount) (amount : Int64) : Int64 :=
  match discount with
  | percentage percent => Int64.ofInt ((amount.toInt * min percent.toNat 100).tdiv 100)
  | fixed reduction => reduction

instance : ToDatum Discount where
  toDatum
    | percentage percent => .table (Record.entry "type" "percentage" ++ Record.entry "value" percent)
    | fixed amount => .table (Record.entry "type" "fixed" ++ Record.entry "value" amount)

def entryNames : List String := ["type", "value"]

instance : OfDatum Discount where
  ofDatum? := Record.ofDatum? entryNames fun given => do
    match ← (← given.find? "type").name? given.format with
    | "percentage" => pure (percentage (← Record.required "value" given))
    | "fixed" => pure (fixed (← Record.required "value" given))
    | _ => none

end Discount

structure Sale where
  id : Int64
  name : String
  discount : Discount
  productIds : List Int64 := []
  categoryIds : List Int64 := []
  deriving DecidableEq, Repr

namespace Sale

def appliesTo (sale : Sale) (product : Product) : Bool :=
  sale.productIds.contains product.id || sale.categoryIds.contains product.categoryId

def apply (sale : Sale) (price : Price) : Price :=
  price.reduce (sale.discount.reduction price.amount)

/-- The lowest price that one of the sales leaves, or the price itself without a sale. -/
def best (sales : List Sale) (price : Price) : Price :=
  match sales.map fun sale => sale.apply price with
  | [] => price
  | first :: rest =>
      rest.foldl (fun least next => if next.amount < least.amount then next else least) first

instance : ToDatum Sale where
  toDatum sale :=
    .table (Record.entry "id" sale.id ++ Record.entry "name" sale.name ++
      Record.entry "value" sale.discount ++ Record.entry "product_ids" sale.productIds ++
      Record.entry "category_ids" sale.categoryIds)

def entryNames : List String := ["id", "name", "value", "product_ids", "category_ids"]

instance : OfDatum Sale where
  ofDatum? := Record.ofDatum? entryNames fun given => do
    pure { id := ← Record.required "id" given
           name := ← Record.required "name" given
           discount := ← Record.required "value" given
           productIds := ← Record.orElse "product_ids" [] given
           categoryIds := ← Record.orElse "category_ids" [] given }

end Sale

end Storefront
