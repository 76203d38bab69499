import Storefront.Text.LetterTable
/-!
Letters and digits of all scripts.
-/

namespace Storefront.Text

def isLetterOrDigit (char : Char) : Bool :=
  letterRanges.any fun range => range.1 ≤ char.toNat && char.toNat ≤ range.2

end Storefront.Text
