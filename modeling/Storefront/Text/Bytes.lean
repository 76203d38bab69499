/-!
Text as the bytes of its UTF-8 form, and back. Offsets that an error names are offsets into
these bytes.
-/

namespace Storefront.Text

def utf8 (text : String) : List UInt8 := text.toByteArray.data.toList

def ofUtf8? (bytes : List UInt8) : Option String := String.fromUTF8? ⟨bytes.toArray⟩

theorem ofUtf8?_utf8 (text : String) : ofUtf8? (utf8 text) = some text := by
  have same : (⟨(utf8 text).toArray⟩ : ByteArray) = text.toByteArray := by
    simp [utf8]
  simp [ofUtf8?, same, String.fromUTF8?, text.isValidUTF8, String.fromUTF8]

theorem utf8_injective {left right : String} (same : utf8 left = utf8 right) : left = right := by
  have there := ofUtf8?_utf8 left
  rw [same, ofUtf8?_utf8] at there
  exact (Option.some.inj there).symm

end Storefront.Text
