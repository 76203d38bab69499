import Storefront.Command.Parameter
import Storefront.Settings
/-!
The command line, read word by word. There are two levels of it: the options before the name of
the command, and what comes after it. The shared options may be given on both; the later level
then decides.

A word that starts with two hyphens is an option, and brings its value along after an equals sign
or takes the next word for it. Such a value is only looked at when the next option begins or the
level ends; on the first level that is after the whole of the second. Two hyphens alone end the
options.
-/

namespace Storefront.Command

inductive Request where
  | category (id : Int64)
  | categories (filter : CategoryFilter) (page : PageArgs)
  | products (categoryId : Int64) (filter : ProductFilter) (pairs : List String)
      (thumbnail : Option String) (page : PageArgs)
  | product (id : Int64) (thumbnail : Option String)
  | attributes (categoryId : Option Int64)
  | entity (globalId : String)
  | vocabularies
  deriving DecidableEq

structure Subcommand where
  name : String
  positions : List Parameter := []
  options : List Parameter := []
  request : Arguments → Option Request

section Subcommands

open Parameter

def Arguments.page (arguments : Arguments) : PageArgs :=
  { first := arguments.first, after := arguments.after }

def Arguments.productFilter (arguments : Arguments) : ProductFilter :=
  { priceAtLeast := arguments.priceAtLeast, priceAtMost := arguments.priceAtMost
    sortBy := arguments.sortBy }

def subcommands : List Subcommand :=
  [{ name := "category"
     positions := [id "ID"]
     request := fun given => given.id.map .category },
   { name := "categories"
     options := [namePart, first, after]
     request := fun given => some (.categories { name := given.name } given.page) },
   { name := "products"
     positions := [id "CATEGORY_ID"]
     options := [attr, priceAtLeast, priceAtMost, sortBy, thumbnail, first, after]
     request := fun given => given.id.map fun categoryId =>
       .products categoryId given.productFilter given.attributes given.thumbnail given.page },
   { name := "product"
     positions := [id "ID"]
     options := [thumbnail]
     request := fun given => given.id.map fun id => .product id given.thumbnail },
   { name := "attributes"
     options := [category]
     request := fun given => some (.attributes given.category) },
   { name := "node"
     positions := [globalId]
     request := fun given => given.globalId.map .entity },
   { name := "payment-choices"
     request := fun _ => some .vocabularies }]

end Subcommands

structure Level where
  options : List Parameter
  positions : List Parameter
  arguments : Arguments := {}
  /-- The parameter given last and its value, if that came yet; it is not looked at so far. -/
  pending : Option (Parameter × Option String) := none
  optionsEnded : Bool := false

namespace Level

def awaiting? (level : Level) : Option Parameter :=
  match level.pending with
  | some (parameter, none) => some parameter
  | _ => none

def settle (level : Level) : Except Refusal Level :=
  match level.pending with
  | none => .ok level
  | some (_, none) => .error .usage
  | some (parameter, some value) => do
      pure { level with arguments := ← parameter.give value level.arguments, pending := none }

def takePosition (level : Level) (word : String) : Except Refusal Level :=
  match level.positions with
  | [] => .error .usage
  | parameter :: rest => do
      let level ← level.settle
      pure { level with positions := rest, pending := some (parameter, some word) }

def takeOption (level : Level) (word : String) : Except Refusal Level :=
  let (name, value) := match Text.splitFirst '=' word with
    | some (name, value) => (name, some value)
    | none => (word, none)
  match level.options.find? fun parameter => parameter.name = name with
  | none => .error .usage
  | some parameter =>
      match parameter.takesValue, value with
      | false, some _ => .error .usage
      | true, none => do
          pure { ← level.settle with pending := some (parameter, none) }
      | _, value => do
          let level ← level.settle
          pure { level with arguments := ← parameter.give (value.getD "") level.arguments }

/-- A word that does not have to be a value. A single hyphen is an ordinary word; there are no
options of one letter. -/
def takeWord (level : Level) (word : String) : Except Refusal Level :=
  match word.toList with
  | ['-', '-'] => .ok { level with optionsEnded := true }
  | '-' :: '-' :: rest => level.takeOption (String.ofList rest)
  | '-' :: _ :: _ => .error .usage
  | _ => level.takePosition word

def startsOption (word : String) : Bool := "-".toList.isPrefixOf word.toList && word ≠ "-"

def take (level : Level) (word : String) : Except Refusal Level :=
  if level.optionsEnded then level.takePosition word
  else match level.awaiting? with
    | none => level.takeWord word
    | some parameter =>
        if startsOption word && !parameter.takesHyphens then level.takeWord word
        else .ok { level with pending := some (parameter, some word) }

/-- The arguments of a level that has ended. Where it names no seed file the environment's counts,
and that must not be empty. -/
def finish (level : Level) (environment : Environment) : Except Refusal Arguments := do
  let level ← level.settle
  if level.arguments.seed.isNone && environment "CATALOG_SEED" = some "" then throw .usage
  pure level.arguments

end Level

structure Invocation where
  seed : Option String
  staff : Bool
  currency : Option Currency
  date : Option Date
  sales : List Sale
  request : Request
  deriving DecidableEq

namespace Invocation

def ofLevels (environment : Environment) (outer inner : Arguments) (request : Request) :
    Invocation where
  seed := inner.seed <|> outer.seed <|> environment "CATALOG_SEED"
  staff := inner.staff || outer.staff
  currency := inner.currency <|> outer.currency
  date := inner.date <|> outer.date
  sales := if inner.sales.isEmpty then outer.sales else inner.sales
  request

def readInner (environment : Environment) (command : Subcommand) (words : List String) :
    Except Refusal (Arguments × Request) := do
  let start : Level :=
    { options := Parameter.shared ++ command.options, positions := command.positions }
  let level ← words.foldlM Level.take start
  let arguments ← level.finish environment
  match command.request arguments with
  | some request => pure (arguments, request)
  | none => throw .usage

def commandAt? (level : Level) (word : String) : Option Subcommand :=
  if level.optionsEnded || level.awaiting?.isSome then none
  else subcommands.find? fun command => command.name = word

def readOuter (environment : Environment) (level : Level) :
    List String → Except Refusal Invocation
  | [] => do
      discard (level.finish environment)
      throw .usage
  | word :: rest =>
      match commandAt? level word with
      | some command => do
          let (inner, request) ← readInner environment command rest
          let outer ← level.finish environment
          pure (ofLevels environment outer inner request)
      | none => do readOuter environment (← level.take word) rest

def read (environment : Environment) (words : List String) : Except Refusal Invocation :=
  readOuter environment { options := Parameter.shared, positions := [] } words

end Invocation

end Storefront.Command
