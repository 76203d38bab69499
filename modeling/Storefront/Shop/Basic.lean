import Storefront.Offer
import Storefront.Page
import Storefront.Rendition
import Storefront.Settings
import Storefront.Store
/-!
A shop: a catalog in its store, with the rules by which it is shown. Requests bring their own
context; the shop itself never changes.
-/

namespace Storefront

structure Shop where
  store : Store
  scopeOf : Requester → Date → Scope := Scope.ofRequester
  rates : ExchangeRates := {}
  settings : Settings := {}
  cropper : Cropper := Cropper.ofUrls settings.mediaUrl settings.staticUrl

namespace Shop

def ask (shop : Shop) (query : Query) : Access query.Answer := shop.store.ask query

end Shop

end Storefront
