import Storefront.Catalog.Toml
import Storefront.Command.Files
import Storefront.Command.Invocation
import Storefront.Datum.Json
import Storefront.DotEnv
import Storefront.Reply
/-!
Running a command: from its words, its surroundings and the day to what it prints and how it ends.
-/

namespace Storefront.Command

inductive Outcome where
  | printed (text : String)
  | failed (message : String)
  | refused (message : String)
  | broken (reason : String)
  deriving DecidableEq, Repr

namespace Outcome

def exitCode : Outcome → UInt8
  | printed _ => 0
  | failed _ => 1
  | refused _ => 2
  | broken _ => 101

def output : Outcome → String
  | printed text => text ++ "\n"
  | _ => ""

def complaint : Outcome → String
  | printed _ => ""
  | failed message => "Error: " ++ message ++ "\n"
  | refused message => message ++ "\n"
  | broken reason => reason ++ "\n"

end Outcome

/-! The catalog: from the file that was named, or else from the first of the usual places that has
one. Without any the catalog is empty. -/
section Loading

variable {m : Type → Type} [Monad m]

def usualPaths : List String :=
  ["config/catalog.toml", "../config/catalog.toml", "../../config/catalog.toml"]

def catalogAt (path text : String) : Except String Catalog :=
  (Catalog.ofToml text).mapError fun fault => "Failed to load " ++ path ++ ": " ++ fault.message

def usualCatalog (files : Files m) : List String → m (Except String Catalog)
  | [] => pure (.ok Catalog.empty)
  | path :: others => do
      match ← files.read path with
      | .ok text => pure (catalogAt path text)
      | .error _ => usualCatalog files others

def loadCatalog (files : Files m) : Option String → m (Except String Catalog)
  | none => usualCatalog files usualPaths
  | some path => do
      match ← files.read path with
      | .ok text => pure (catalogAt path text)
      | .error fault => pure (.error ("Failed to read " ++ path ++ ": " ++ fault.message))

end Loading

section Answering

/-- As somebody of the staff, or as nobody in particular. -/
def Invocation.context (invocation : Invocation) (settings : Settings) (today : Date) : Context where
  requester := if invocation.staff then .staff 0 [Requester.viewProduct] else .anonymous
  discounts := invocation.sales
  currency := invocation.currency.getD settings.currency
  today := invocation.date.getD today

def found {α : Type} [ToDatum α] (what : String) : Option α → ExceptT String Walk Datum
  | some value => pure (toDatum value)
  | none => throw (what ++ " not found")

def answer {α : Type} (context : Context) (access : Access α) : ExceptT String Walk α :=
  (access.runFrom { context }).map fun (result, _) => result.mapError Fault.message

/-- An entity is printed with its entries in the order of their names. -/
def Request.answer (shop : Shop) (context : Context) : Request → ExceptT String Walk Datum
  | .category id => do
      found ("category " ++ toString id.toInt) (← Command.answer context (shop.categoryReply id))
  | .categories filter page =>
      toDatum <$> Command.answer context (shop.categoriesReply filter page)
  | .products categoryId filter pairs thumbnail page => do
      let filter ← MonadExcept.ofExcept ((filter.withPairs pairs).mapError Fault.message)
      let reply ← Command.answer context (shop.productsReply categoryId filter page thumbnail)
      found ("category " ++ toString categoryId.toInt) reply
  | .product id thumbnail => do
      let reply ← Command.answer context (shop.productReply id thumbnail)
      found ("product " ++ toString id.toInt) reply
  | .attributes categoryId =>
      toDatum <$> Command.answer context (shop.attributesReply categoryId)
  | .entity globalId => do
      let reply ← Command.answer context (shop.entityReply globalId)
      Datum.sorted <$> found ("node " ++ globalId) reply
  | .vocabularies => pure (toDatum VocabularyReply.all)

end Answering

section Running

/-- Whether styles are asked for although there may be no terminal. Any text in a variable counts,
also a zero. -/
def forcesStyles (environment : Environment) : Bool :=
  (environment "NO_COLOR").getD "" = "" && (environment "CLICOLOR_FORCE").getD "" ≠ ""

def Refusal.written (environment : Environment) (refusal : Refusal) : String :=
  if forcesStyles environment then refusal.message else Text.Terminal.plain refusal.message

variable {m : Type → Type} [Monad m]

def Invocation.answer (files : Files m) (environment : Environment) (today : Date)
    (invocation : Invocation) : m (Walk (Except String Datum)) := do
  match Settings.ofEnvironment environment with
  | .error fault => pure (some (.error fault.message))
  | .ok settings => do
      let deployment := Deployment.ofEnvironment environment invocation.seed
      match ← loadCatalog files deployment.seedPath with
      | .error message => pure (some (.error message))
      | .ok catalog =>
          let shop : Shop := { store := { catalog }, settings }
          pure (invocation.request.answer shop (invocation.context settings today)).run

/-- The variables of a file count once the command line was read. -/
def Invocation.run (files : Files m) (environment : Environment) (today : Date)
    (invocation : Invocation) : m (Walk Outcome) := do
  let loaded := match ← files.dotEnv with
    | some text => DotEnv.load environment text
    | none => some environment
  match loaded with
  | none => pure (some (.broken "a variable has a null character in its value"))
  | some environment => do
      let answer ← invocation.answer files environment today
      pure (answer.map fun
        | .ok datum => .printed datum.toJson
        | .error message => .failed message)

def run (files : Files m) (environment : Environment) (today : Date) (words : List String) :
    m (Walk Outcome) := do
  match Invocation.read environment words with
  | .error refusal => pure (some (.refused (refusal.written environment)))
  | .ok invocation => invocation.run files environment today

end Running

end Storefront.Command
