import Storefront.Datum.Basic
import Storefront.Fault
import Storefront.Text.Base64
import Storefront.Text.Numeral
import Storefront.Text.Quoted
import Storefront.Text.Split
/-!
Ids under which every entity of the catalog can be asked for again: the kind of the entity and
its key, a colon between, in base64.
-/

namespace Storefront

inductive EntityKind where
  | product
  | category
  | variant
  | image
  | attr
  | attributeValue
  deriving DecidableEq, Repr

namespace EntityKind

def all : List EntityKind := [product, category, variant, image, attr, attributeValue]

def name : EntityKind → String
  | product => "Product"
  | category => "Category"
  | variant => "ProductVariant"
  | image => "ProductImage"
  | attr => "ProductAttribute"
  | attributeValue => "ProductAttributeValue"

def ofName? (name : String) : Option EntityKind := all.find? fun kind => kind.name = name

def read (text : String) : Except Fault EntityKind :=
  match ofName? text with
  | some kind => .ok kind
  | none => .error (.globalId ("unknown type " ++ text))

theorem ofName?_name (kind : EntityKind) : ofName? kind.name = some kind := by
  cases kind <;> simp [ofName?, all, name]

instance : ToDatum EntityKind := ⟨fun kind => .text kind.name⟩
instance : OfDatum EntityKind := ⟨fun format datum => (datum.name? format).bind ofName?⟩

end EntityKind

structure GlobalId where
  kind : EntityKind
  key : Int64
  deriving DecidableEq, Repr

namespace GlobalId

def plain (id : GlobalId) : String := id.kind.name ++ ":" ++ toString id.key.toInt

def encode (id : GlobalId) : String := Text.Base64.ofText id.plain

example : (mk .category 12).encode = "Q2F0ZWdvcnk6MTI=" := by cbv

def decode (text : String) : Except Fault GlobalId := do
  let refused := fun reason => Fault.globalId (text ++ ": " ++ reason)
  let bytes ← (Text.Base64.bytes text).mapError fun fault => refused fault.message
  let plain ← match Text.ofUtf8? bytes with
    | some plain => .ok plain
    | none => .error (refused "not utf-8")
  let (kind, key) ← match Text.splitFirst ':' plain with
    | some parts => .ok parts
    | none => .error (refused "missing type")
  let key ← (Text.Numeral.readInt64 key).mapError fun _ =>
    refused ("bad key " ++ Text.Quoted.quote key)
  pure ⟨← EntityKind.read kind, key⟩

end GlobalId

end Storefront
