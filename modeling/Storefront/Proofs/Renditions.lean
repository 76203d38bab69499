import Storefront.Proofs.Numerals
import Storefront.Rendition
/-!
Addresses of cropped images. The size goes in front of the extension, which is what follows the
last dot of a path unless a slash follows that dot. What is put there has no dot in it, so the
address has the extension of the path; and its last hyphen stands in front of the size, so the size
can be taken off again.
-/

namespace Storefront

open Text

namespace ThumbnailSize

theorem toList_write (size : ThumbnailSize) : size.write.toList =
    Nat.toDigits 10 size.width.toNat ++ 'x' :: Nat.toDigits 10 size.height.toNat := by
  simp [write]

theorem not_mem_write {mark : Char} (other : mark.isDigit = false) (between : mark ≠ 'x')
    (size : ThumbnailSize) : mark ∉ size.write.toList := by
  rw [toList_write, List.mem_append, List.mem_cons, not_or, not_or]
  exact ⟨Numeral.not_mem_toDigits other _, between, Numeral.not_mem_toDigits other _⟩

theorem write_injective : Function.Injective write := by
  intro left right same
  have noX := Numeral.not_mem_toDigits (show 'x'.isDigit = false by decide)
  have chars := congrArg String.toList same
  rw [toList_write, toList_write] at chars
  obtain ⟨widths, heights⟩ := last_cut_unique (noX _) (noX _) chars
  have width := UInt32.toNat_inj.mp (Numeral.toDigits_injective widths)
  have height := UInt32.toNat_inj.mp (Numeral.toDigits_injective heights)
  cases left
  cases right
  exact congr (congrArg mk width) height

end ThumbnailSize

namespace Cropper

section Extensions

def rejoin (stem : List Char) : Option (List Char) → List Char
  | some extension => stem ++ '.' :: extension
  | none => stem

variable {path stem extension suffix : List Char} {extension? : Option (List Char)}

theorem splitExtension_undotted (cut : cutLast '.' path = none) :
    splitExtension path = (path, none) := by
  rw [splitExtension, cut]

theorem splitExtension_dotted {before rest : List Char}
    (cut : cutLast '.' path = some (before, rest)) :
    splitExtension path = if '/' ∈ rest then (path, none) else (before, some rest) := by
  rw [splitExtension, cut]
  simp only [List.contains_iff_mem]

theorem splitExtension_eq_some_iff : splitExtension path = (stem, some extension) ↔
    path = stem ++ '.' :: extension ∧ '.' ∉ extension ∧ '/' ∉ extension := by
  rw [← and_assoc, ← cutLast_eq_some_iff]
  cases cut : cutLast '.' path with
  | none => simp [splitExtension_undotted cut]
  | some parts =>
      rw [splitExtension_dotted cut]
      split <;> grind

theorem splitExtension_eq_none_iff : splitExtension path = (stem, none) ↔ stem = path ∧
    ∀ before rest, path = before ++ '.' :: rest → '.' ∉ rest → '/' ∈ rest := by
  simp only [← and_imp, ← cutLast_eq_some_iff]
  cases cut : cutLast '.' path with
  | none => simp [splitExtension_undotted cut, eq_comm]
  | some parts =>
      rw [splitExtension_dotted cut]
      split <;> grind

theorem rejoin_splitExtension (path : List Char) :
    rejoin (splitExtension path).1 (splitExtension path).2 = path := by
  rcases split : splitExtension path with ⟨stem, _ | extension⟩
  · exact (splitExtension_eq_none_iff.mp split).1
  · exact (splitExtension_eq_some_iff.mp split).1.symm

/-- What goes in front of the extension leaves it as it is, and gives none to a path without. -/
theorem splitExtension_rejoin (undotted : '.' ∉ suffix)
    (split : splitExtension path = (stem, extension?)) :
    splitExtension (rejoin (stem ++ suffix) extension?) = (stem ++ suffix, extension?) := by
  cases extension? with
  | some extension =>
      obtain ⟨-, short⟩ := splitExtension_eq_some_iff.mp split
      exact splitExtension_eq_some_iff.mpr ⟨rfl, short⟩
  | none =>
      obtain ⟨rfl, plain⟩ := splitExtension_eq_none_iff.mp split
      refine splitExtension_eq_none_iff.mpr ⟨rfl, fun before rest same last => ?_⟩
      change stem ++ suffix = before ++ '.' :: rest at same
      have among : '.' ∈ stem ++ suffix := same ▸ List.mem_append_right before List.mem_cons_self
      have dotted : '.' ∈ stem := (List.mem_append.mp among).resolve_right undotted
      -- The last dot of the whole is the last one of the path.
      obtain ⟨front, back, rfl, unmarked⟩ := exists_last_cut dotted
      rw [List.append_assoc, List.cons_append] at same
      obtain ⟨-, rfl⟩ := last_cut_unique last (by simp [unmarked, undotted]) same.symm
      exact List.mem_append_left suffix (plain front back rfl unmarked)

end Extensions

section Renditions

def insertion (size : ThumbnailSize) : List Char :=
  "-crop-c0-5__0-5".toList ++ '-' :: size.write.toList

theorem dot_not_mem_insertion (size : ThumbnailSize) : '.' ∉ insertion size := by
  unfold insertion
  rw [List.mem_append, List.mem_cons, not_or, not_or]
  exact ⟨by decide, by decide, size.not_mem_write (by decide) (by decide)⟩

def rendition (path : List Char) (size : ThumbnailSize) : List Char :=
  rejoin ((splitExtension path).1 ++ insertion size) (splitExtension path).2

theorem splitExtension_rendition (path : List Char) (size : ThumbnailSize) :
    splitExtension (rendition path size) =
      ((splitExtension path).1 ++ insertion size, (splitExtension path).2) :=
  splitExtension_rejoin (dot_not_mem_insertion size) rfl

theorem rendition_eq_iff {path other : List Char} {size another : ThumbnailSize} :
    rendition path size = rendition other another ↔ path = other ∧ size = another := by
  constructor
  · intro same
    have parts := congrArg splitExtension same
    rw [splitExtension_rendition, splitExtension_rendition, Prod.mk.injEq] at parts
    obtain ⟨fronts, extensions⟩ := parts
    unfold insertion at fronts
    rw [← List.append_assoc, ← List.append_assoc] at fronts
    obtain ⟨stems, sizes⟩ := last_cut_unique (size.not_mem_write (by decide) (by decide))
      (another.not_mem_write (by decide) (by decide)) fronts
    refine ⟨?_, ThumbnailSize.write_injective (String.toList_inj.mp sizes)⟩
    rw [← rejoin_splitExtension path, List.append_cancel_right stems, extensions,
      rejoin_splitExtension]
  · rintro ⟨rfl, rfl⟩
    rfl

theorem toList_crop (cropper : Cropper) (path : String) (size : ThumbnailSize) :
    (cropper.crop path size).toList = (cropper.mediaUrl ++ "/__sized__/").toList ++
      rendition (trimLeft '/' path).toList size := by
  unfold crop rendition insertion
  rw [trimLeft, String.toList_ofList]
  rcases splitExtension (path.toList.dropWhile (· == '/')) with ⟨stem, _ | extension⟩
  · simp [rejoin]
  · simp [rejoin]

/-- Two renditions have one address exactly if they are of one size and of one path, but for slashes
in front of it. -/
theorem crop_eq_iff (cropper : Cropper) (path other : String) (size another : ThumbnailSize) :
    cropper.crop path size = cropper.crop other another ↔
      trimLeft '/' path = trimLeft '/' other ∧ size = another := by
  rw [← String.toList_inj, toList_crop, toList_crop, List.append_cancel_left_eq, rendition_eq_iff,
    String.toList_inj]

end Renditions

end Cropper

end Storefront
