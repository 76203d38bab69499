/-!
Slugs: the letters and digits of a text, in small ASCII letters, with one hyphen for whatever
stands between two runs of them.
-/

namespace Storefront.Text.Slug

/-- `parted` tells that something other than a letter or a digit was passed since the last one
that was written; the hyphen for it is written only when another one follows. -/
def slugFrom (started parted : Bool) : List Char → List Char
  | [] => []
  | char :: rest =>
      if char.isAlphanum then
        if started && parted then '-' :: char.toLower :: slugFrom true false rest
        else char.toLower :: slugFrom true false rest
      else slugFrom started true rest

def slug (text : String) : String := String.ofList (slugFrom false false text.toList)

end Storefront.Text.Slug
