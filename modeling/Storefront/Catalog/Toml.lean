import Storefront.Catalog.Basic
import Storefront.Toml.Document
/-!
Catalogs seeded from a TOML document.
-/

namespace Storefront

namespace Seed

def ofToml? (text : String) : Option Seed := (Toml.read? text).bind (ofDatum? .toml)

end Seed

namespace Catalog

def ofToml (text : String) : Except Fault Catalog :=
  match Seed.ofToml? text with
  | some seed => ofSeed seed
  | none => .error (.seed "TOML parse error")

end Catalog

end Storefront
