import Storefront.Lineage
import Storefront.Sale
import Storefront.Visibility
/-!
What one request brings along: who asks, which sales run, the currency wanted, the day, and the
ancestor chains that were worked out for it so far. A context is never shared between requests.
-/

namespace Storefront

structure Context where
  requester : Requester := .anonymous
  discounts : List Sale := []
  currency : Currency := .standard
  today : Date
  /-- Absent until a category was looked up. -/
  lineage : Option Lineage := none
  deriving DecidableEq

namespace Context

def openLineage (context : Context) : Lineage := context.lineage.getD {}

def withLineage (context : Context) : Context := { context with lineage := some context.openLineage }

def remember (context : Context) (tree : Subtree) (rootChain : List Category) : Walk Context :=
  (context.openLineage.populate tree rootChain).map fun lineage =>
    { context with lineage := some lineage }

end Context

end Storefront
