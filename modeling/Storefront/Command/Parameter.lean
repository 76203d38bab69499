import Storefront.Page
import Storefront.Sale
import Storefront.Selection
import Storefront.Text.Quoted
import Storefront.Text.Terminal
/-!
Parameters of the command line and the arguments that they fill. Every parameter reads its own
values. Most are given once at most; sales and attributes are collected.
-/

namespace Storefront.Command

inductive Refusal where
  | usage
  | value (given label reason : String)
  deriving DecidableEq, Repr

def Refusal.message : Refusal → String
  | .usage => "error: usage: storefront [OPTIONS] <COMMAND>"
  | .value given label reason =>
      Text.Terminal.styled "1;31" "error:" ++ " invalid value '" ++
        Text.Terminal.styled "33" given ++ "' for '" ++ Text.Terminal.styled "1" label ++ "': " ++
        reason ++ "\n\nFor more information, try '" ++ Text.Terminal.styled "1" "--help" ++ "'."

/-- What was given, on one level of the command line. -/
structure Arguments where
  seed : Option String := none
  staff : Bool := false
  currency : Option Currency := none
  date : Option Date := none
  sales : List Sale := []
  jsonLogs : Bool := false
  id : Option Int64 := none
  globalId : Option String := none
  name : Option String := none
  category : Option Int64 := none
  attributes : List String := []
  priceAtLeast : Option Int64 := none
  priceAtMost : Option Int64 := none
  sortBy : Option SortKey := none
  thumbnail : Option String := none
  first : Option UInt64 := none
  after : Option String := none
  deriving DecidableEq

structure Parameter where
  name : String
  label : String
  takesValue : Bool := true
  /-- Whether a value of its own word may start with a hyphen. -/
  takesHyphens : Bool := false
  give : String → Arguments → Except Refusal Arguments

namespace Parameter

variable {α : Type}

def optionLabel (name placeholder : String) : String := "--" ++ name ++ " <" ++ placeholder ++ ">"

/-- Reads a value into its slot, which has to be empty. -/
def fillOnce (label : String) (slot : Arguments → Option α) (fill : Arguments → α → Arguments)
    (read : String → Except String α) (text : String) (arguments : Arguments) :
    Except Refusal Arguments :=
  if (slot arguments).isSome then .error .usage
  else match read text with
    | .ok value => .ok (fill arguments value)
    | .error reason => .error (.value text label reason)

def option (name placeholder : String) (slot : Arguments → Option α)
    (fill : Arguments → α → Arguments) (read : String → Except String α) : Parameter where
  name
  label := optionLabel name placeholder
  give := fillOnce (optionLabel name placeholder) slot fill read

def position (placeholder : String) (slot : Arguments → Option α)
    (fill : Arguments → α → Arguments) (read : String → Except String α) : Parameter where
  name := ""
  label := "<" ++ placeholder ++ ">"
  give := fillOnce ("<" ++ placeholder ++ ">") slot fill read

def collected (name placeholder : String) (add : Arguments → α → Arguments)
    (read : String → Except String α) : Parameter where
  name
  label := optionLabel name placeholder
  give text arguments := match read text with
    | .ok value => .ok (add arguments value)
    | .error reason => .error (.value text (optionLabel name placeholder) reason)

def flag (name : String) (slot : Arguments → Bool) (set : Arguments → Arguments) : Parameter where
  name
  label := "--" ++ name
  takesValue := false
  give _ arguments := if slot arguments then .error .usage else .ok (set arguments)

end Parameter

section Reading

def readText (text : String) : Except String String := .ok text

def readInt64 (text : String) : Except String Int64 :=
  (Text.Numeral.readInt64 text).mapError Text.Numeral.Fault.message

def readUInt64 (text : String) : Except String UInt64 :=
  (Text.Numeral.readUInt64 text).mapError Text.Numeral.Fault.message

def readCurrency (text : String) : Except String Currency :=
  (Currency.read text).mapError Fault.message

def readDate (text : String) : Except String Date := (Date.read text).mapError Date.Fault.message

def readSortKey (text : String) : Except String SortKey := (SortKey.read text).mapError Fault.message

/-- A sale on one category, written as its id and a percentage with a colon between. -/
def readSale (text : String) : Except String Sale :=
  match Text.splitFirst ':' text with
  | none => .error ("expected CATEGORY_ID:PERCENT, got " ++ Text.Quoted.quote text)
  | some (category, percent) =>
      match Text.Numeral.readInt64 category, Text.Numeral.readUInt8 percent with
      | .error _, _ => .error ("invalid category id " ++ Text.Quoted.quote category)
      | .ok _, .error _ => outOfRange percent
      | .ok categoryId, .ok percentage =>
          if 100 < percentage then outOfRange percent
          else
            .ok { id := categoryId
                  name :=
                    toString percentage.toNat ++ "% off category " ++ toString categoryId.toInt
                  discount := .percentage percentage
                  categoryIds := [categoryId] }
where
  outOfRange (percent : String) : Except String Sale :=
    .error ("percent must be 0-100, got " ++ Text.Quoted.quote percent)

end Reading

namespace Parameter

section Shared

/-- No file has the empty path. -/
def seed : Parameter where
  name := "seed"
  label := optionLabel "seed" "SEED"
  give path arguments :=
    if arguments.seed.isSome || path.isEmpty then .error .usage
    else .ok { arguments with seed := some path }

def staff : Parameter :=
  flag "staff" Arguments.staff fun arguments => { arguments with staff := true }

def currency : Parameter :=
  option "currency" "CURRENCY" Arguments.currency
    (fun arguments value => { arguments with currency := some value }) readCurrency

def date : Parameter :=
  option "date" "DATE" Arguments.date
    (fun arguments value => { arguments with date := some value }) readDate

def sale : Parameter :=
  collected "sale" "SALES"
    (fun arguments value => { arguments with sales := arguments.sales ++ [value] }) readSale

def jsonLogs : Parameter :=
  flag "json-logs" Arguments.jsonLogs fun arguments => { arguments with jsonLogs := true }

def shared : List Parameter := [seed, staff, currency, date, sale, jsonLogs]

end Shared

section Own

def id (placeholder : String) : Parameter :=
  position placeholder Arguments.id
    (fun arguments value => { arguments with id := some value }) readInt64

def globalId : Parameter :=
  position "GLOBAL_ID" Arguments.globalId
    (fun arguments value => { arguments with globalId := some value }) readText

def namePart : Parameter :=
  option "name" "NAME" Arguments.name
    (fun arguments value => { arguments with name := some value }) readText

def category : Parameter :=
  option "category" "CATEGORY" Arguments.category
    (fun arguments value => { arguments with category := some value }) readInt64

def attr : Parameter :=
  collected "attribute" "ATTRIBUTES"
    (fun arguments value => { arguments with attributes := arguments.attributes ++ [value] }) readText

def priceAtLeast : Parameter :=
  option "price-gte" "PRICE_GTE" Arguments.priceAtLeast
    (fun arguments value => { arguments with priceAtLeast := some value }) readInt64

def priceAtMost : Parameter :=
  option "price-lte" "PRICE_LTE" Arguments.priceAtMost
    (fun arguments value => { arguments with priceAtMost := some value }) readInt64

def sortBy : Parameter :=
  { option "sort" "SORT" Arguments.sortBy
      (fun arguments value => { arguments with sortBy := some value }) readSortKey with
    takesHyphens := true }

def thumbnail : Parameter :=
  option "thumbnail" "THUMBNAIL" Arguments.thumbnail
    (fun arguments value => { arguments with thumbnail := some value }) readText

def first : Parameter :=
  option "first" "FIRST" Arguments.first
    (fun arguments value => { arguments with first := some value }) readUInt64

def after : Parameter :=
  option "after" "AFTER" Arguments.after
    (fun arguments value => { arguments with after := some value }) readText

end Own

end Parameter

end Storefront.Command
