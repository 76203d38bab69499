import Mathlib
import Storefront.Catalog.Category
import Storefront.Catalog.Product
import Storefront.Proofs.Numerals
/-!
Slugs, and the addresses of products, which are a slug and an id with a hyphen between them. An id
below zero brings a hyphen of its own and a slug has hyphens inside, but no slug ends in one; so the
last hyphen of an address, or two of them in a row, tells where the id begins. No slug has a slash,
which keeps the addresses of products apart from those of categories.
-/

namespace Storefront

open Text

namespace Text.Slug

theorem not_isUpper_of_isDigit {char : Char} (digit : char.isDigit = true) :
    ¬ char.isUpper = true := by
  simp only [Char.isDigit, Char.isUpper, Bool.and_eq_true, decide_eq_true_eq,
    UInt32.le_iff_toNat_le] at digit ⊢
  grind

theorem toLower_plain {char : Char} (kept : char.isAlphanum = true) :
    char.toLower.isLower = true ∨ char.toLower.isDigit = true := by
  rcases Bool.or_eq_true_iff.mp kept with letter | digit
  · exact .inl (by rw [Char.isLower_toLower_eq_isAlpha, letter])
  · exact .inr (by rwa [Char.toLower_eq_of_not_isUpper (not_isUpper_of_isDigit digit)])

theorem toLower_ne_hyphen {char : Char} (kept : char.isAlphanum = true) : char.toLower ≠ '-' := by
  intro same
  have plain := toLower_plain kept
  rw [same] at plain
  revert plain
  decide

section Loop

variable {started parted : Bool} {text : List Char}

theorem slugFrom_kept {first : Char} (kept : first.isAlphanum = true) :
    slugFrom started parted (first :: text) =
      (if started && parted then ['-'] else []) ++ first.toLower :: slugFrom true false text := by
  rw [slugFrom, if_pos kept]
  split <;> rfl

theorem slugFrom_passed {first : Char} (passed : ¬ first.isAlphanum = true) :
    slugFrom started parted (first :: text) = slugFrom started true text :=
  if_neg passed

theorem mem_slugFrom {char : Char} (among : char ∈ slugFrom started parted text) :
    char = '-' ∨ char.isLower = true ∨ char.isDigit = true := by
  induction text generalizing started parted with
  | nil => cases among
  | cons first rest ih =>
      by_cases kept : first.isAlphanum = true
      · rw [slugFrom_kept kept, List.mem_append, List.mem_cons] at among
        rcases among with hyphen | rfl | later
        · split at hyphen
          · exact .inl (List.mem_singleton.mp hyphen)
          · cases hyphen
        · exact .inr (toLower_plain kept)
        · exact ih later
      · rw [slugFrom_passed kept] at among
        exact ih among

/-- A hyphen is written only when something comes behind it. -/
theorem getLast_slugFrom : (slugFrom started parted text).getLast? ≠ some '-' := by
  induction text generalizing started parted with
  | nil => simp [slugFrom]
  | cons first rest ih =>
      by_cases kept : first.isAlphanum = true
      · have differs := toLower_ne_hyphen kept
        rw [slugFrom_kept kept, List.getLast?_append_of_ne_nil _ (List.cons_ne_nil _ _),
          List.getLast?_cons]
        -- The last one is the last of the rest, or else the letter that was just written.
        cases last : (slugFrom true false rest).getLast? with
        | none => simpa using differs
        | some char => exact last ▸ ih
      · rw [slugFrom_passed kept]
        exact ih

end Loop

theorem slash_not_mem_slug (text : String) : '/' ∉ (slug text).toList := by
  intro among
  rw [slug, String.toList_ofList] at among
  exact absurd (mem_slugFrom among) (by decide)

theorem getLast_slug (text : String) : (slug text).toList.getLast? ≠ some '-' := by
  rw [slug, String.toList_ofList]
  exact getLast_slugFrom

/-- Behind a text that does not end in a hyphen, a hyphen and an integer are told apart from it. -/
theorem hyphen_toString_inj {left right : List Char} {number other : Int}
    (closed : left.getLast? ≠ some '-') (ended : right.getLast? ≠ some '-')
    (same : left ++ '-' :: (toString number).toList = right ++ '-' :: (toString other).toList) :
    left = right ∧ number = other := by
  -- The sign goes to the text in front, so that the last hyphen stands before the digits.
  have signed : ∀ (front : List Char) (value : Int), front ++ '-' :: (toString value).toList =
      (front ++ if value < 0 then ['-'] else []) ++ '-' :: Nat.toDigits 10 value.natAbs := by
    intro front value
    rw [Numeral.toList_toString]
    split <;> simp
  have digits := Numeral.not_mem_toDigits (show '-'.isDigit = false by decide)
  rw [signed, signed] at same
  obtain ⟨front, numerals⟩ := last_cut_unique (digits _) (digits _) same
  have size : number.natAbs = other.natAbs := Numeral.toDigits_injective numerals
  split_ifs at front with below under under
  · exact ⟨List.append_cancel_right front, by omega⟩
  · exact absurd (by rw [← List.append_nil right, ← front, List.getLast?_concat]) ended
  · exact absurd (by rw [← List.append_nil left, front, List.getLast?_concat]) closed
  · exact ⟨List.append_cancel_right front, by omega⟩

end Text.Slug

def Product.handle (product : Product) : String :=
  product.slug ++ "-" ++ toString product.id.toInt

namespace Product

theorem toList_handle (product : Product) : product.handle.toList =
    product.slug.toList ++ '-' :: (toString product.id.toInt).toList := by
  simp [handle]

theorem handle_eq_iff {left right : Product} :
    left.handle = right.handle ↔ left.id = right.id ∧ left.slug = right.slug := by
  constructor
  · intro same
    have chars := congrArg String.toList same
    rw [toList_handle, toList_handle] at chars
    obtain ⟨slugs, ids⟩ :=
      Slug.hyphen_toString_inj (Slug.getLast_slug _) (Slug.getLast_slug _) chars
    exact ⟨Int64.toInt_inj.mp ids, String.toList_inj.mp slugs⟩
  · rintro ⟨ids, slugs⟩
    rw [handle, handle, ids, slugs]

theorem slash_not_mem_handle (product : Product) : '/' ∉ product.handle.toList := by
  rw [toList_handle, List.mem_append, List.mem_cons, not_or, not_or]
  exact ⟨Slug.slash_not_mem_slug _, by decide,
    Numeral.not_mem_toString (by decide) (by decide) _⟩

theorem url_eq (product : Product) :
    product.url = "/products/" ++ (product.handle ++ String.singleton '/' ++ "") := by
  simp [url, handle, String.append_assoc]

end Product

theorem Category.url_eq (category : Category) (ancestors : List Category) :
    category.url ancestors = "/products/" ++ ("category" ++ String.singleton '/' ++
      (category.path ancestors ++ "-" ++ toString category.id.toInt ++ "/")) := by
  have lead : "/products/category/" = "/products/" ++ ("category" ++ String.singleton '/') := by
    simp
  unfold url
  rw [lead]
  simp only [String.append_assoc]

/-- The address of a product tells its id and its slug, and it is the address of no category. -/
theorem Product.urls_apart :
    (∀ left right : Product,
      left.url = right.url ↔ left.id = right.id ∧ left.slug = right.slug) ∧
    ∀ (product : Product) (category : Category) (ancestors : List Category),
      product.url ≠ category.url ancestors := by
  constructor
  · intro left right
    rw [url_eq, url_eq, String.append_right_inj, String.append_left_inj, String.append_left_inj,
      handle_eq_iff]
  · intro product category ancestors same
    rw [url_eq, Category.url_eq, String.append_right_inj] at same
    have cut := congrArg (splitFirst '/') same
    rw [splitFirst_append product.slash_not_mem_handle, splitFirst_append (by decide),
      Option.some.injEq, Prod.mk.injEq] at cut
    -- Behind a product's handle comes one slash and nothing more.
    have ends := congrArg String.toList cut.2
    simp at ends

end Storefront
