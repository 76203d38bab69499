import Storefront.Proofs.Numerals
import Storefront.Rendition
/-!
The sizes of thumbnails. A text is read as a size exactly if it is a numeral for the width, an x and
a numeral for the height, neither of them zero; every other text is refused and named. A numeral may
have a plus sign in front, so there are more texts for a size than those of digits and an x alone.
-/

namespace Storefront.ThumbnailSize

open Text

/-- The text is a numeral for the width, an x and a numeral for the height, and neither is zero. -/
structure Spells (size : ThumbnailSize) (width height text : String) : Prop where
  form : text = width ++ "x" ++ height
  width : Numeral.Counts width.toList size.width.toNat
  height : Numeral.Counts height.toList size.height.toNat
  wide : size.width ≠ 0
  high : size.height ≠ 0

def InDigits (size : ThumbnailSize) (text : String) : Prop :=
  ∃ width height, size.Spells width height text ∧
    Numeral.Digits width.toList ∧ Numeral.Digits height.toList

variable {size : ThumbnailSize} {width height text : String}

theorem spells_of_read (read : read? text = some size) :
    ∃ width height, size.Spells width height text := by
  obtain ⟨⟨width, height⟩, cut, numerals⟩ := Option.bind_eq_some_iff.mp read
  simp only [bind, Option.bind_eq_some_iff, toOption_eq_some_iff,
    Numeral.readUInt32_eq_ok_iff] at numerals
  obtain ⟨wide, countsWidth, high, countsHeight, checked⟩ := numerals
  split_ifs at checked with zero
  obtain ⟨some, tall⟩ := not_or.mp zero
  cases checked
  exact ⟨width, height, (splitFirst_eq_some_iff.mp cut).1, countsWidth, countsHeight, some, tall⟩

theorem Spells.read (spells : size.Spells width height text) : read? text = some size := by
  have unmarked : 'x' ∉ width.toList := fun among =>
    absurd (spells.width.isDigit_of_mem among (by decide)) (by decide)
  have parts : splitFirst 'x' text = some (width, height) :=
    splitFirst_eq_some_iff.mpr ⟨spells.form, unmarked⟩
  have wide := Numeral.readUInt32_eq_ok_iff.mpr spells.width
  have high := Numeral.readUInt32_eq_ok_iff.mpr spells.height
  simp [read?, parts, wide, high, Except.toOption, spells.wide, spells.high]

theorem read?_eq_some_iff :
    read? text = some size ↔ ∃ width height, size.Spells width height text :=
  ⟨spells_of_read, fun ⟨_, _, spells⟩ => spells.read⟩

theorem read?_eq_none_iff :
    read? text = none ↔ ¬ ∃ size width height, Spells size width height text := by
  simp only [← read?_eq_some_iff]
  cases read? text <;> simp

theorem read_eq_ok_iff : read text = .ok size ↔ read? text = some size := by
  rw [ThumbnailSize.read]
  cases read? text <;> simp

theorem read_eq_error_iff {fault : Storefront.Fault} : read text = .error fault ↔
    read? text = none ∧ fault = .thumbnailSize text := by
  rw [ThumbnailSize.read]
  cases read? text with
  | none => simp [eq_comm]
  | some known => simp

theorem inDigits_iff : size.InDigits text ↔ read text = .ok size ∧ '+' ∉ text.toList := by
  have unsigned_iff : ∀ {width height}, size.Spells width height text →
      ('+' ∉ text.toList ↔ Numeral.Digits width.toList ∧ Numeral.Digits height.toList) := by
    intro width height spells
    rw [spells.width.digits_iff, spells.height.digits_iff, spells.form]
    simp
  rw [read_eq_ok_iff, read?_eq_some_iff]
  constructor
  · rintro ⟨width, height, spells, digits⟩
    exact ⟨⟨width, height, spells⟩, (unsigned_iff spells).mpr digits⟩
  · rintro ⟨⟨width, height, spells⟩, unsigned⟩
    exact ⟨width, height, spells, (unsigned_iff spells).mp unsigned⟩

/-- Exactly what spells a size is read, as that size, and everything else is refused as no size.
What is in digits is read, and nothing else is that has no plus sign. -/
theorem sizes_exact (text : String) :
    (∀ size, read text = .ok size ↔ ∃ width height, size.Spells width height text) ∧
    (read text = .error (.thumbnailSize text) ↔
      ¬ ∃ size width height, Spells size width height text) ∧
    ∀ size, InDigits size text ↔ read text = .ok size ∧ '+' ∉ text.toList := by
  refine ⟨fun size => ?_, ?_, fun size => inDigits_iff⟩
  · rw [read_eq_ok_iff, read?_eq_some_iff]
  · rw [read_eq_error_iff, read?_eq_none_iff, and_iff_left rfl]

theorem reads_plus_sign : read "+1x2" = .ok ⟨1, 2⟩ ∧ ¬ ∃ size, InDigits size "+1x2" := by
  have spells : Spells ⟨1, 2⟩ "+1" "2" "+1x2" :=
    { form := rfl
      width := .plus (by decide)
      height := .unsigned (by decide)
      wide := by decide
      high := by decide }
  refine ⟨read_eq_ok_iff.mpr spells.read, ?_⟩
  rintro ⟨size, digits⟩
  exact absurd (inDigits_iff.mp digits).2 (by decide)

end Storefront.ThumbnailSize
