import Storefront.Money
/-!
Settings, taken from the environment where it has them.
-/

namespace Storefront

abbrev Environment := String → Option String

structure Settings where
  mediaUrl : String := "/media"
  staticUrl : String := "/static"
  /-- Used where a request names no currency. -/
  currency : Currency := .standard
  deriving DecidableEq, Repr

namespace Settings

def ofEnvironment (environment : Environment) : Except Fault Settings := do
  let standard : Settings := {}
  let currency ← match environment "CATALOG_CURRENCY" with
    | some code => Currency.read code
    | none => .ok standard.currency
  pure { mediaUrl := (environment "CATALOG_MEDIA_URL").getD standard.mediaUrl
         staticUrl := (environment "CATALOG_STATIC_URL").getD standard.staticUrl
         currency }

end Settings

structure Deployment where
  seedPath : Option String
  stage : String
  deriving DecidableEq, Repr

namespace Deployment

def ofEnvironment (environment : Environment) (seedPath : Option String) : Deployment where
  seedPath := seedPath <|> environment "CATALOG_SEED"
  stage := (environment "ENVIRONMENT").getD "development"

def isProduction (deployment : Deployment) : Bool := deployment.stage = "production"

end Deployment

end Storefront
