import Storefront.Proofs.Numerals
/-!
The format of cursors. A text is read as a cursor exactly if it is the base64 form of the lead and
a numeral without a minus sign for an offset of 64 bits. Every other text is refused, whatever is
wrong with it, and the refusal carries the text as it was given.
-/

namespace Storefront.Cursor

open Text

/-- The cursor is the base64 form of the lead and this numeral for the offset. -/
structure Spells (offset : UInt64) (numeral cursor : String) : Prop where
  form : cursor = Base64.ofText (lead ++ numeral)
  offset : Numeral.Counts numeral.toList offset.toNat

variable {cursor : String} {offset : UInt64}

theorem decode_eq_ok_iff : decode cursor = .ok offset ↔ decode? cursor = some offset := by
  rw [decode]
  cases decode? cursor with
  | none => simp
  | some known => simp

theorem decode_eq_error_iff {fault : Storefront.Fault} :
    decode cursor = .error fault ↔ decode? cursor = none ∧ fault = .cursor cursor := by
  rw [decode]
  cases decode? cursor with
  | none => simp [eq_comm]
  | some known => simp

theorem decode?_eq_some : decode? cursor = some offset ↔
    ∃ bytes, Base64.bytes cursor = .ok bytes ∧ ∃ plain, ofUtf8? bytes = some plain ∧
      ∃ numeral, plain.toList = lead.toList ++ numeral ∧
        Numeral.Counts numeral offset.toNat := by
  simp only [decode?, bind, Option.bind_eq_some_iff, toOption_eq_some_iff, stripLead_eq_some_iff,
    Numeral.readUInt64_eq_ok_iff, String.toList_ofList]

theorem spells_of_decode (read : decode? cursor = some offset) :
    ∃ numeral, Spells offset numeral cursor := by
  obtain ⟨bytes, decoded, plain, known, numeral, whole, counts⟩ := decode?_eq_some.mp read
  have plain_eq : plain = lead ++ String.ofList numeral := by
    apply String.toList_inj.mp
    rw [whole, String.toList_append, String.toList_ofList]
  refine ⟨String.ofList numeral, ?_, by rwa [String.toList_ofList]⟩
  rw [← plain_eq]
  exact Base64.plain_iff.mp ⟨bytes, decoded, known⟩

theorem Spells.decode {numeral : String} (spells : Spells offset numeral cursor) :
    decode? cursor = some offset := by
  obtain ⟨bytes, decoded, known⟩ := Base64.plain_iff.mpr spells.form
  exact decode?_eq_some.mpr
    ⟨bytes, decoded, _, known, numeral.toList, String.toList_append, spells.offset⟩

theorem decode?_eq_some_iff :
    decode? cursor = some offset ↔ ∃ numeral, Spells offset numeral cursor :=
  ⟨spells_of_decode, fun ⟨_, spells⟩ => spells.decode⟩

theorem decode?_eq_none_iff :
    decode? cursor = none ↔ ¬ ∃ offset numeral, Spells offset numeral cursor := by
  simp only [← decode?_eq_some_iff]
  cases decode? cursor <;> simp

/-- Exactly the texts of the format are read, each as the offset that it spells; every other text is
refused with the text itself. An offset is read back from the cursor that is written for it, so no
two offsets have one cursor. -/
theorem offsets_exact :
    (∀ cursor offset, decode cursor = .ok offset ↔ ∃ numeral, Spells offset numeral cursor) ∧
    (∀ cursor, decode cursor = .error (.cursor cursor) ↔
      ¬ ∃ offset numeral, Spells offset numeral cursor) ∧
    (∀ offset : UInt64, decode (encode offset.toNat) = .ok offset) ∧
    Function.Injective fun offset : UInt64 => encode offset.toNat := by
  refine ⟨fun cursor offset => ?_, fun cursor => ?_, fun offset => ?_, ?_⟩
  · rw [decode_eq_ok_iff, decode?_eq_some_iff]
  · rw [decode_eq_error_iff, decode?_eq_none_iff, and_iff_left rfl]
  · rw [decode_encode offset.toNat_lt_size, UInt64.ofNat_toNat]
  · intro left right same
    exact UInt64.toNat_inj.mp (encode_injective same)

theorem offsets_exact_padded :
    decode (Base64.ofText "arrayconnection:+007") = .ok 7 ∧
      decode (Base64.ofText "arrayconnection:18446744073709551616") =
        .error (.cursor (Base64.ofText "arrayconnection:18446744073709551616")) := by
  obtain ⟨read, refused, -, -⟩ := offsets_exact
  refine ⟨(read _ 7).mpr ⟨"+007", rfl, .plus (by decide)⟩, (refused _).mpr ?_⟩
  rintro ⟨offset, numeral, form, counts⟩
  obtain rfl : "18446744073709551616" = numeral :=
    (String.append_right_inj lead).mp (Base64.ofText_injective form)
  have digits : Numeral.Digits "18446744073709551616".toList := by decide
  have beyond : offset.toNat = 18446744073709551616 := counts.unique (.unsigned digits)
  have small := offset.toNat_lt
  omega

end Storefront.Cursor
