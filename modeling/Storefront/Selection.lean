import Storefront.Catalog.Product
import Storefront.Catalog.Category
import Storefront.Text.Casing
import Storefront.Text.Split
/-!
Which members of a collection are wanted, and in what order. Categories are chosen by id and by a
part of their name; products by price, by attribute values, and with a sort key.
-/

namespace Storefront

structure CategoryFilter where
  id : Option Int64 := none
  name : Option String := none
  deriving DecidableEq, Repr

namespace CategoryFilter

def nameContains (category : Category) (part : String) : Bool :=
  Text.occursIn (Text.Casing.lower part.toList) (Text.Casing.lower category.name.toList)

def selects (filter : CategoryFilter) (category : Category) : Bool :=
  (filter.id.all fun id => category.id = id) && filter.name.all (nameContains category)

instance : ToDatum CategoryFilter where
  toDatum filter := .table (Record.entry "id" filter.id ++ Record.entry "name" filter.name)

def entryNames : List String := ["id", "name"]

instance : OfDatum CategoryFilter where
  ofDatum? := Record.ofDatum? entryNames fun given => do
    pure { id := ← Record.optional "id" given
           name := ← Record.optional "name" given }

end CategoryFilter

inductive SortKey where
  | nameAscending
  | nameDescending
  | priceAscending
  | priceDescending
  deriving DecidableEq, Repr

namespace SortKey

def all : List SortKey := [nameAscending, nameDescending, priceAscending, priceDescending]

def title : SortKey → String
  | nameAscending => "NameAsc"
  | nameDescending => "NameDesc"
  | priceAscending => "PriceAsc"
  | priceDescending => "PriceDesc"

/-- As a caller writes it: a hyphen in front turns the order round. -/
def key : SortKey → String
  | nameAscending => "name"
  | nameDescending => "-name"
  | priceAscending => "price"
  | priceDescending => "-price"

def read (text : String) : Except Fault SortKey :=
  match all.find? fun sortKey => sortKey.key = text with
  | some sortKey => .ok sortKey
  | none => .error (.filter ("unknown sort key " ++ text))

def before (sortKey : SortKey) (left right : Product) : Bool :=
  match sortKey with
  | nameAscending => left.name ≤ right.name
  | nameDescending => right.name ≤ left.name
  | priceAscending => left.price.amount ≤ right.price.amount
  | priceDescending => right.price.amount ≤ left.price.amount

def sort (sortKey : SortKey) (products : List Product) : List Product :=
  products.mergeSort sortKey.before

instance : ToDatum SortKey := ⟨fun sortKey => .text sortKey.title⟩

instance : OfDatum SortKey where
  ofDatum? format datum :=
    (datum.name? format).bind fun name => all.find? fun sortKey => sortKey.title = name

end SortKey

/-- An attribute and one of its values, both by slug. -/
structure AttributePair where
  attributeSlug : String
  valueSlug : String
  deriving DecidableEq, Repr

namespace AttributePair

def read (text : String) : Except Fault AttributePair :=
  match Text.splitFirst ':' text with
  | some (attributeSlug, valueSlug) =>
      if attributeSlug.isEmpty || valueSlug.isEmpty then refused else .ok ⟨attributeSlug, valueSlug⟩
  | none => refused
where
  refused := .error (.filter ("attribute filter must be slug:value, got " ++ text))

instance : ToDatum AttributePair where
  toDatum pair :=
    .table (Record.entry "attribute" pair.attributeSlug ++ Record.entry "value" pair.valueSlug)

def entryNames : List String := ["attribute", "value"]

instance : OfDatum AttributePair where
  ofDatum? := Record.ofDatum? entryNames fun given => do
    pure { attributeSlug := ← Record.required "attribute" given
           valueSlug := ← Record.required "value" given }

end AttributePair

structure ProductFilter where
  /-- The base price is at least this much, in the smallest unit of its currency. -/
  priceAtLeast : Option Int64 := none
  priceAtMost : Option Int64 := none
  attributes : List AttributePair := []
  sortBy : Option SortKey := none
  deriving DecidableEq, Repr

namespace ProductFilter

def matchesPrice (filter : ProductFilter) (product : Product) : Bool :=
  (filter.priceAtLeast.all fun least => least ≤ product.price.amount) &&
    (filter.priceAtMost.all fun most => product.price.amount ≤ most)

/-- In the order of the sort key; without one they stay as they are. -/
def order (filter : ProductFilter) (products : List Product) : List Product :=
  match filter.sortBy with
  | some sortKey => sortKey.sort products
  | none => products

theorem order_perm (filter : ProductFilter) (products : List Product) :
    (filter.order products).Perm products := by
  unfold order
  split
  · exact List.mergeSort_perm products _
  · exact List.Perm.refl products

/-- More attribute pairs, as callers write them; the first that cannot be read is refused. -/
def withPairs (filter : ProductFilter) (pairs : List String) : Except Fault ProductFilter := do
  let more ← pairs.mapM AttributePair.read
  pure { filter with attributes := filter.attributes ++ more }

instance : ToDatum ProductFilter where
  toDatum filter :=
    .table (Record.entry "price_gte" filter.priceAtLeast ++
      Record.entry "price_lte" filter.priceAtMost ++
      Record.entry "attributes" filter.attributes ++ Record.entry "sort_by" filter.sortBy)

def entryNames : List String := ["price_gte", "price_lte", "attributes", "sort_by"]

instance : OfDatum ProductFilter where
  ofDatum? := Record.ofDatum? entryNames fun given => do
    pure { priceAtLeast := ← Record.optional "price_gte" given
           priceAtMost := ← Record.optional "price_lte" given
           attributes := ← Record.orElse "attributes" [] given
           sortBy := ← Record.optional "sort_by" given }

end ProductFilter

end Storefront
