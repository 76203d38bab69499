import Storefront.Datum.Basic
import Storefront.Fault
import Storefront.Number.Binary64
/-!
Prices. An amount counts the smallest unit of its currency and fits in 64 bits; arithmetic on it
ends at the ends of that range instead of wrapping. Only conversion and display go through
floating-point numbers.
-/

namespace Storefront

open Number

inductive Currency where
  | usd
  | eur
  | gbp
  | jpy
  | cad
  | aud
  | chf
  | pln
  deriving DecidableEq, Repr

namespace Currency

def all : List Currency := [usd, eur, gbp, jpy, cad, aud, chf, pln]

def code : Currency → String
  | usd => "USD"
  | eur => "EUR"
  | gbp => "GBP"
  | jpy => "JPY"
  | cad => "CAD"
  | aud => "AUD"
  | chf => "CHF"
  | pln => "PLN"

def standard : Currency := usd

def decimalPlaces : Currency → Nat
  | jpy => 0
  | _ => 2

def unitSize (currency : Currency) : Nat := Nat.pow 10 currency.decimalPlaces

def ofCode? (code : String) : Option Currency := all.find? fun currency => currency.code = code

def read (text : String) : Except Fault Currency :=
  let capitals := String.ofList (text.toList.map Char.toUpper)
  match ofCode? capitals with
  | some currency => .ok currency
  | none => .error (.configuration ("unsupported currency " ++ capitals))

theorem ofCode?_code (currency : Currency) : ofCode? currency.code = some currency := by
  cases currency <;> simp [ofCode?, all, code]

instance : ToDatum Currency := ⟨fun currency => .text currency.code⟩
instance : OfDatum Currency := ⟨fun format datum => (datum.name? format).bind ofCode?⟩

end Currency

structure Price where
  amount : Int64
  currency : Currency
  deriving DecidableEq, Repr

namespace Price

def decimal (price : Price) : Binary64 :=
  (Binary64.ofInt price.amount.toInt).divNat price.currency.unitSize

/-- Less by `amount`, but never below zero. -/
def reduce (price : Price) (amount : Int64) : Price :=
  { price with amount := max (clampInt64 (price.amount.toInt - amount.toInt)) 0 }

/-- In another currency, of which `rate` units are worth one unit of this one. -/
def convert (price : Price) (currency : Currency) (rate : Binary64) : Price where
  amount := ((price.decimal.mul rate).mul (.ofInt currency.unitSize)).roundToInt64
  currency := currency

def display (price : Price) : String :=
  price.currency.code ++ " " ++
    if price.currency.decimalPlaces = 0 then toString price.amount.toInt
    else price.decimal.twoPlaces

instance : ToDatum Price where
  toDatum price :=
    .table (Record.entry "amount" price.amount ++ Record.entry "currency" price.currency)

def entryNames : List String := ["amount", "currency"]

instance : OfDatum Price where
  ofDatum? := Record.ofDatum? entryNames fun given => do
    pure { amount := ← Record.required "amount" given
           currency := ← Record.required "currency" given }

end Price

structure PriceRange where
  start : Price
  stop : Price
  deriving DecidableEq, Repr

namespace PriceRange

/-- Takes in one more price; a price equal to an end does not replace it. -/
def widen (range : PriceRange) (price : Price) : PriceRange where
  start := if price.amount < range.start.amount then price else range.start
  stop := if range.stop.amount < price.amount then price else range.stop

def spanning : List Price → Option PriceRange
  | [] => none
  | first :: rest => some (rest.foldl widen ⟨first, first⟩)

def convert (range : PriceRange) (currency : Currency) (rate : Binary64) : PriceRange where
  start := range.start.convert currency rate
  stop := range.stop.convert currency rate

instance : ToDatum PriceRange where
  toDatum range := .table (Record.entry "start" range.start ++ Record.entry "stop" range.stop)

def entryNames : List String := ["start", "stop"]

instance : OfDatum PriceRange where
  ofDatum? := Record.ofDatum? entryNames fun given => do
    pure { start := ← Record.required "start" given
           stop := ← Record.required "stop" given }

end PriceRange

end Storefront
