/-!
What can go wrong while the catalog answers. The caller is to blame for an argument that cannot
be read; the store, the seed and the configuration are the catalog's own. A lookup that finds
nothing is no fault. A walk that goes on for ever is none either: it has no answer at all.
-/

namespace Storefront

/-- What a walk comes to in the end; nothing if it goes on for ever. -/
abbrev Walk := Option

inductive Fault where
  | store (reason : String)
  | globalId (reason : String)
  | thumbnailSize (size : String)
  | cursor (cursor : String)
  | filter (reason : String)
  | seed (reason : String)
  | configuration (reason : String)
  deriving DecidableEq, Repr

namespace Fault

def message : Fault → String
  | .store reason => "Store error: " ++ reason
  | .globalId reason => "Invalid global id: " ++ reason
  | .thumbnailSize given => "Invalid thumbnail size: " ++ given
  | .cursor given => "Invalid cursor: " ++ given
  | .filter reason => "Invalid filter: " ++ reason
  | .seed reason => "Seed error: " ++ reason
  | .configuration reason => "Configuration error: " ++ reason

def isCallers : Fault → Bool
  | .globalId _ | .thumbnailSize _ | .cursor _ | .filter _ => true
  | .store _ | .seed _ | .configuration _ => false

def status : Fault → Nat
  | .store _ => 503
  | .globalId _ | .thumbnailSize _ | .cursor _ | .filter _ => 400
  | .seed _ | .configuration _ => 500

end Fault

end Storefront
