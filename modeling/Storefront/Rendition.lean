import Storefront.Fault
import Storefront.Text.Blank
import Storefront.Text.Numeral
import Storefront.Text.Split
/-!
Addresses of images. A picture is shown as it is stored or cropped to a size; the address of the
cropped picture carries the size in front of the extension.
-/

namespace Storefront

structure ThumbnailSize where
  width : UInt32
  height : UInt32
  deriving DecidableEq, Repr

namespace ThumbnailSize

def standard : ThumbnailSize := ⟨255, 255⟩

def write (size : ThumbnailSize) : String :=
  toString size.width.toNat ++ "x" ++ toString size.height.toNat

def read? (text : String) : Option ThumbnailSize := do
  let (width, height) ← Text.splitFirst 'x' text
  let width ← (Text.Numeral.readUInt32 width).toOption
  let height ← (Text.Numeral.readUInt32 height).toOption
  if width = 0 ∨ height = 0 then none else some ⟨width, height⟩

def read (text : String) : Except Fault ThumbnailSize :=
  match read? text with
  | some size => .ok size
  | none => .error (.thumbnailSize text)

/-- A size that is missing, or blank, was not asked for. -/
def requested? (size : Option String) : Option String :=
  size.filter fun text => !Text.isAllBlank text

def orStandard (size : Option String) : Except Fault ThumbnailSize :=
  match requested? size with
  | some text => read text
  | none => .ok standard

end ThumbnailSize

structure Cropper where
  mediaUrl : String
  staticUrl : String
  deriving DecidableEq, Repr

namespace Cropper

def ofUrls (mediaUrl staticUrl : String) : Cropper :=
  ⟨Text.trimRight '/' mediaUrl, Text.trimRight '/' staticUrl⟩

def stored (cropper : Cropper) (path : String) : String :=
  cropper.mediaUrl ++ "/" ++ Text.trimLeft '/' path

/-- What follows the last dot, unless a directory comes after that dot. -/
def splitExtension (path : List Char) : List Char × Option (List Char) :=
  match Text.cutLast '.' path with
  | some (stem, extension) =>
      if extension.contains '/' then (path, none) else (stem, some extension)
  | none => (path, none)

def crop (cropper : Cropper) (path : String) (size : ThumbnailSize) : String :=
  let (stem, extension) := splitExtension (path.toList.dropWhile (· == '/'))
  let sized :=
    cropper.mediaUrl ++ "/__sized__/" ++ String.ofList stem ++ "-crop-c0-5__0-5-" ++ size.write
  match extension with
  | some extension => sized ++ "." ++ String.ofList extension
  | none => sized

def placeholder (cropper : Cropper) (size : ThumbnailSize) : String :=
  cropper.staticUrl ++ "/images/placeholder" ++ size.write ++ ".png"

end Cropper

end Storefront
