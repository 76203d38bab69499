import Mathlib.Data.List.Infix
import Mathlib.Data.List.TakeWhile
import Storefront.Proofs.Traversal
import Storefront.Proofs.Windows
import Storefront.Shop.Categories
/-!
Parts of names. What is looked for is the small form of the part in the small form of the name. All
characters have one small form wherever they stand, except for the capital sigma: it has the final
one where it ends a word, and that depends on what stands around it. So a part is found in a name if
its sigmas have the forms in the name that they have in the part alone, and it is found in every
name it stands in exactly if nothing around it could give one of them its other form.
-/

namespace Storefront

theorem Text.occursIn_iff {needle hay : List Char} :
    occursIn needle hay = true ↔ needle <:+: hay := by
  induction hay with
  | nil => rw [occursIn, List.isEmpty_iff, List.infix_nil]
  | cons char rest ih =>
      rw [occursIn, Bool.or_eq_true, List.isPrefixOf_iff_prefix, ih, List.infix_cons_iff]

namespace Text.Casing

variable {before after outer beyond text left right : List Char} {char : Char}

section Neighbours

/-- Whether a capital sigma between them ends a word. What comes before it is read backwards. -/
def endsWord (before after : List Char) : Bool := nextIsCased before && !nextIsCased after

def Skipped (text : List Char) : Prop := ∀ char ∈ text, isIgnorable char = true

-- Named, since another instance would go through all characters there are.
instance (text : List Char) : Decidable (Skipped text) :=
  List.decidableBAll (fun char => isIgnorable char = true) text

theorem nextIsCased_append (skipped : Skipped text) (more : List Char) :
    nextIsCased (text ++ more) = nextIsCased more := by
  rw [nextIsCased, List.dropWhile_append_of_pos skipped, nextIsCased]

theorem nextIsCased_eq_false (skipped : Skipped text) : nextIsCased text = false := by
  have alone := nextIsCased_append skipped []
  rwa [List.append_nil] at alone

theorem nextIsCased_append_of_not (stops : ¬ Skipped text) (more : List Char) :
    nextIsCased (text ++ more) = nextIsCased text := by
  have some : text.dropWhile isIgnorable ≠ [] := mt List.dropWhile_eq_nil_iff.mp stops
  obtain ⟨char, rest, met⟩ := List.exists_cons_of_ne_nil some
  rw [nextIsCased, nextIsCased, List.dropWhile_append, met]
  rfl

theorem nextIsCased_append_of_eq_true (cased : nextIsCased text = true) (more : List Char) :
    nextIsCased (text ++ more) = true := by
  rw [nextIsCased_append_of_not _ more, cased]
  intro skipped
  rw [nextIsCased_eq_false skipped] at cased
  cases cased

/-- These neighbours alone tell whether the sigma ends a word. If all before it are skipped a letter
comes behind it, and if all behind it are skipped no letter comes before it. -/
structure Settles (before after : List Char) : Prop where
  onset : Skipped before → nextIsCased after = true
  ending : Skipped after → nextIsCased before = false

instance (before after : List Char) : Decidable (Settles before after) :=
  decidable_of_iff
    ((Skipped before → nextIsCased after = true) ∧ (Skipped after → nextIsCased before = false))
    ⟨fun ⟨onset, ending⟩ => ⟨onset, ending⟩, fun ⟨onset, ending⟩ => ⟨onset, ending⟩⟩

theorem Settles.endsWord_eq (settles : Settles before after) (outer beyond : List Char) :
    endsWord (before ++ outer) (after ++ beyond) = endsWord before after := by
  by_cases front : Skipped before
  · have letter := settles.onset front
    rw [endsWord, endsWord, letter, nextIsCased_append_of_eq_true letter, Bool.not_true,
      Bool.and_false, Bool.and_false]
  · rw [endsWord, endsWord, nextIsCased_append_of_not front]
    by_cases back : Skipped after
    · rw [settles.ending back, Bool.false_and, Bool.false_and]
    · rw [nextIsCased_append_of_not back]

end Neighbours

section Between

def sigma (final : Bool) : Char := if final then 'ς' else 'σ'

def form (before : List Char) (char : Char) (after : List Char) : List Char :=
  if char = 'Σ' then [sigma (endsWord before after)] else lowerChar char

def lowerBetween (before after : List Char) : List Char → List Char
  | [] => []
  | char :: rest =>
      form before char (rest ++ after) ++ lowerBetween (char :: before) after rest

theorem lowerFrom_cons (before : List Char) (char : Char) (rest : List Char) :
    lowerFrom before (char :: rest) = form before char rest ++ lowerFrom (char :: before) rest := by
  have chosen : [sigma (endsWord before rest)] =
      if nextIsCased before && !nextIsCased rest then ['ς'] else ['σ'] := by
    rw [endsWord]
    cases nextIsCased before && !nextIsCased rest <;> rfl
  rw [lowerFrom, form, chosen]

theorem lowerFrom_eq_lowerBetween (before text : List Char) :
    lowerFrom before text = lowerBetween before [] text := by
  induction text generalizing before with
  | nil => rfl
  | cons char rest ih => rw [lowerFrom_cons, ih, lowerBetween, List.append_nil]

theorem lowerBetween_append (before after left right : List Char) :
    lowerBetween before after (left ++ right) =
      lowerBetween before (right ++ after) left ++
        lowerBetween (left.reverse ++ before) after right := by
  induction left generalizing before with
  | nil => rfl
  | cons char rest ih =>
      rw [List.cons_append, lowerBetween, ih, lowerBetween, List.reverse_cons, List.append_assoc,
        List.append_assoc, List.append_assoc]
      rfl

theorem lower_eq_lowerBetween (text : List Char) : lower text = lowerBetween [] [] text :=
  lowerFrom_eq_lowerBetween [] text

theorem lower_append (before text after : List Char) : lower (before ++ text ++ after) =
    lowerBetween [] (text ++ after) before ++ lowerBetween before.reverse after text ++
      lowerBetween (text.reverse ++ before.reverse) [] after := by
  rw [lower_eq_lowerBetween, lowerBetween_append, lowerBetween_append, List.reverse_append,
    List.append_nil, List.append_nil, List.append_nil]

/-- Only the sigmas make a difference. -/
theorem lowerBetween_congr
    (same : ∀ left right, text = left ++ 'Σ' :: right →
      endsWord (left.reverse ++ before) (right ++ after) =
        endsWord (left.reverse ++ outer) (right ++ beyond)) :
    lowerBetween before after text = lowerBetween outer beyond text := by
  induction text generalizing before outer with
  | nil => rfl
  | cons char rest ih =>
      have first : form before char (rest ++ after) = form outer char (rest ++ beyond) := by
        by_cases capital : char = 'Σ'
        · have ends := same [] rest (by rw [capital, List.nil_append])
          rw [form, form, if_pos capital, if_pos capital]
          exact congrArg (fun final => [sigma final]) ends
        · rw [form, form, if_neg capital, if_neg capital]
      rw [lowerBetween, lowerBetween, first]
      congr 1
      apply ih
      rintro left right rfl
      have ends := same (char :: left) right rfl
      simpa using ends

end Between

section Found

theorem forall_split_iff {holds : List Char → List Char → Prop} :
    (∀ left right, text = left ++ char :: right → holds left right) ↔
      ∀ place < text.length, text[place]? = some char →
        holds (text.take place) (text.drop (place + 1)) := by
  constructor
  · intro split place within there
    obtain ⟨_, rfl⟩ := List.getElem?_eq_some_iff.mp there
    apply split
    rw [← List.drop_eq_getElem_cons within, List.take_append_drop]
  · rintro places left right rfl
    have here := places left.length (by simp) (by simp)
    simpa using here

/-- What stands around the part gives each of its sigmas the form it has in the part alone. -/
def Undisturbed (before part after : List Char) : Prop :=
  ∀ left right, part = left ++ 'Σ' :: right →
    endsWord (left.reverse ++ before.reverse) (right ++ after) = endsWord left.reverse right

instance (before part after : List Char) : Decidable (Undisturbed before part after) :=
  decidable_of_iff' _ forall_split_iff

/-- Nothing around the part could give one of its sigmas another form. -/
def Settled (part : List Char) : Prop :=
  ∀ left right, part = left ++ 'Σ' :: right → Settles left.reverse right

instance (part : List Char) : Decidable (Settled part) := decidable_of_iff' _ forall_split_iff

theorem settled_of_not_mem {part : List Char} (plain : 'Σ' ∉ part) : Settled part := by
  rintro left right rfl
  exact absurd (by simp) plain

theorem Settled.undisturbed {part : List Char} (settled : Settled part) (before after : List Char) :
    Undisturbed before part after :=
  fun left right split => (settled left right split).endsWord_eq _ _

theorem Undisturbed.occurs {part : List Char} (undisturbed : Undisturbed before part after) :
    lower part <:+: lower (before ++ part ++ after) := by
  have same : lowerBetween before.reverse after part = lowerBetween [] [] part := by
    apply lowerBetween_congr
    intro left right split
    rw [List.append_nil, List.append_nil, undisturbed left right split]
  rw [lower_append, same, lower_eq_lowerBetween]
  exact ⟨_, _, rfl⟩

end Found

section Missed

variable {final : Bool}

/-- Wherever a sigma has this form in the second surroundings it has it in the first. -/
def Favours (final : Bool) (before after outer beyond : List Char) : Prop :=
  ∀ left right, endsWord (left ++ outer) (right ++ beyond) = final →
    endsWord (left ++ before) (right ++ after) = final

theorem Favours.extend (favours : Favours final before after outer beyond)
    (left right : List Char) :
    Favours final (left ++ before) (right ++ after) (left ++ outer) (right ++ beyond) := by
  intro more further ends
  simp only [← List.append_assoc] at ends ⊢
  exact favours _ _ ends

/-- What comes in front of a text can only make its sigmas final ones. -/
theorem favours_front (more : List Char) : Favours false [] [] more [] := by
  intro left right ends
  rw [List.append_nil] at ends ⊢
  rw [List.append_nil]
  by_cases skipped : Skipped left
  · rw [endsWord, nextIsCased_eq_false skipped, Bool.false_and]
  · rwa [endsWord, nextIsCased_append_of_not skipped] at ends

/-- What comes behind it can only keep them from being final. -/
theorem favours_back (more : List Char) : Favours true [] [] [] more := by
  intro left right ends
  rw [List.append_nil] at ends ⊢
  rw [List.append_nil]
  by_cases skipped : Skipped right
  · rw [endsWord, Bool.and_eq_true] at ends
    rw [endsWord, nextIsCased_eq_false skipped, ends.1]
    rfl
  · rwa [endsWord, nextIsCased_append_of_not skipped] at ends

theorem count_sigma (final other : Bool) :
    [sigma other].count (sigma final) = if other = final then 1 else 0 := by
  cases final <;> cases other <;> decide

theorem Favours.count_form_le (favours : Favours final before after outer beyond) (char : Char) :
    (form outer char beyond).count (sigma final) ≤
      (form before char after).count (sigma final) := by
  by_cases capital : char = 'Σ'
  · rw [form, form, if_pos capital, if_pos capital, count_sigma, count_sigma]
    by_cases ends : endsWord outer beyond = final
    · have own : endsWord before after = final := favours [] [] ends
      rw [if_pos ends, if_pos own]
    · rw [if_neg ends]
      exact Nat.zero_le _
  · rw [form, form, if_neg capital, if_neg capital]

theorem Favours.count_le (favours : Favours final before after outer beyond) (text : List Char) :
    (lowerBetween outer beyond text).count (sigma final) ≤
      (lowerBetween before after text).count (sigma final) := by
  induction text generalizing before outer with
  | nil => exact Nat.le_refl _
  | cons char rest ih =>
      rw [lowerBetween, lowerBetween, List.count_append, List.count_append]
      exact Nat.add_le_add ((favours.extend [] rest).count_form_le char)
        (ih (favours.extend [char] []))

theorem Favours.count_lt (favours : Favours final before after outer beyond)
    (own : endsWord (left.reverse ++ before) (right ++ after) = final)
    (turned : endsWord (left.reverse ++ outer) (right ++ beyond) ≠ final) :
    (lowerBetween outer beyond (left ++ 'Σ' :: right)).count (sigma final) <
      (lowerBetween before after (left ++ 'Σ' :: right)).count (sigma final) := by
  have front := (favours.extend [] ('Σ' :: right)).count_le left
  have back := (favours.extend ('Σ' :: left.reverse) []).count_le right
  have once : (form (left.reverse ++ before) 'Σ' (right ++ after)).count (sigma final) = 1 := by
    rw [form, if_pos rfl, count_sigma, if_pos own]
  have never : (form (left.reverse ++ outer) 'Σ' (right ++ beyond)).count (sigma final) = 0 := by
    rw [form, if_pos rfl, count_sigma, if_neg turned]
  simp only [List.nil_append, List.cons_append] at front back
  simp only [lowerBetween_append, lowerBetween, List.count_append, once, never, List.cons_append]
  omega

/-- A part with a sigma that loses its form is missed, unless that form comes up around it. -/
theorem Favours.missed (favours : Favours final [] [] before.reverse after)
    (own : endsWord left.reverse right = final)
    (turned : endsWord (left.reverse ++ before.reverse) (right ++ after) ≠ final)
    (front : sigma final ∉ lowerBetween [] ((left ++ 'Σ' :: right) ++ after) before)
    (back : sigma final ∉
      lowerBetween ((left ++ 'Σ' :: right).reverse ++ before.reverse) [] after) :
    ¬ lower (left ++ 'Σ' :: right) <:+: lower (before ++ (left ++ 'Σ' :: right) ++ after) := by
  intro occurs
  have fewer := favours.count_lt (by simpa using own) turned
  have more := occurs.count_le (sigma final)
  rw [lower_append, List.count_append, List.count_append, List.count_eq_zero.mpr front,
    List.count_eq_zero.mpr back, lower_eq_lowerBetween] at more
  omega

theorem lowerBetween_letter (before after : List Char) :
    lowerBetween before after ['a'] = ['a'] := by
  rw [lowerBetween, lowerBetween, form, if_neg (by decide)]
  rfl

theorem nextIsCased_letter : nextIsCased ['a'] = true := by decide +kernel

theorem missed_behind_letter (skipped : Skipped left.reverse) (last : nextIsCased right = false) :
    ¬ lower (left ++ 'Σ' :: right) <:+: lower (['a'] ++ (left ++ 'Σ' :: right) ++ []) := by
  have own : endsWord left.reverse right = false := by
    rw [endsWord, nextIsCased_eq_false skipped, Bool.false_and]
  have turned : endsWord (left.reverse ++ ['a']) (right ++ []) = true := by
    rw [endsWord, nextIsCased_append skipped, nextIsCased_letter, List.append_nil, last]
    rfl
  refine (favours_front ['a']).missed own ?_ ?_ ?_
  · rw [List.reverse_singleton, turned]
    decide
  · rw [lowerBetween_letter]
    decide
  · exact List.not_mem_nil

theorem missed_before_letter (skipped : Skipped right) (cased : nextIsCased left.reverse = true) :
    ¬ lower (left ++ 'Σ' :: right) <:+: lower ([] ++ (left ++ 'Σ' :: right) ++ ['a']) := by
  have own : endsWord left.reverse right = true := by
    rw [endsWord, cased, nextIsCased_eq_false skipped]
    rfl
  have turned : endsWord (left.reverse ++ []) (right ++ ['a']) = false := by
    rw [endsWord, nextIsCased_append skipped, nextIsCased_letter, Bool.not_true, Bool.and_false]
  refine (favours_back ['a']).missed own ?_ ?_ ?_
  · rw [List.reverse_nil, turned]
    decide
  · exact List.not_mem_nil
  · rw [lowerBetween_letter]
    decide

theorem settled_iff (part : List Char) :
    Settled part ↔ ∀ before after, lower part <:+: lower (before ++ part ++ after) := by
  constructor
  · exact fun settled before after => (settled.undisturbed before after).occurs
  · rintro found left right rfl
    constructor
    · intro skipped
      apply Bool.eq_true_of_not_eq_false
      exact fun last => missed_behind_letter skipped last (found ['a'] [])
    · intro skipped
      apply Bool.eq_false_of_not_eq_true
      exact fun cased => missed_before_letter skipped cased (found [] ['a'])

example : Settled ['Σ', 'Τ'] ∧ ¬ Settled ['Π', 'Α', 'Σ'] := by decide +kernel

end Missed

end Text.Casing

section Names

open Access Text.Casing

namespace PageArgs

theorem nodes_ofList_default {α : Type} (items : List α) :
    ∃ page, Connection.ofList items {} = .ok page ∧ page.nodes = items := by
  have window : ({} : PageArgs).window items.length = .ok (({} : PageArgs).cut 0 items.length) :=
    window_eq rfl rfl
  refine ⟨_, Connection.ofList_eq_ok window, ?_⟩
  simp [Connection.nodes_ofWindow, cut]

end PageArgs

theorem Shop.yields_categories {shop : Shop} {catalog : Catalog} (stored : shop.store = { catalog })
    (filter : CategoryFilter) : ∃ page, Yields (shop.categories filter {}) page ∧
      page.nodes = catalog.categories.filter filter.selects := by
  obtain ⟨page, listed, nodes⟩ :=
    PageArgs.nodes_ofList_default (catalog.categories.filter filter.selects)
  have asked : Yields (shop.ask .categories) catalog.categories := yields_ask stored rfl
  exact ⟨page, asked.bind (Takes.ofExcept listed).yields, nodes⟩

namespace CategoryFilter

theorem selects_name_iff {part : String} {category : Category} :
    selects { name := some part } category = true ↔
      lower part.toList <:+: lower category.name.toList := by
  rw [selects, Option.all_none, Option.all_some, Bool.true_and, nameContains, Text.occursIn_iff]

/-- A category is found by a part of its name if every sigma of the part has the form in the name
that it has in the part alone. Wherever they stand, those parts are found, and only those, of which
nothing around them could change that; all parts without a capital sigma are among them. Without
paging all categories that are found are listed. -/
theorem finds_settled_parts (part : String) :
    (∀ (category : Category) (before after : List Char),
      category.name.toList = before ++ part.toList ++ after →
        Undisturbed before part.toList after → selects { name := some part } category = true) ∧
    (Settled part.toList ↔ ∀ category : Category, part.toList <:+: category.name.toList →
      selects { name := some part } category = true) ∧
    ('Σ' ∉ part.toList → Settled part.toList) ∧
    ∀ (shop : Shop) (catalog : Catalog), shop.store = { catalog } →
      ∃ page, Yields (shop.categories { name := some part } {}) page ∧
        page.nodes = catalog.categories.filter (selects { name := some part }) := by
  refine ⟨?_, ?_, settled_of_not_mem, fun shop catalog stored => shop.yields_categories stored _⟩
  · intro category before after stands undisturbed
    rw [selects_name_iff, stands]
    exact undisturbed.occurs
  · rw [settled_iff]
    constructor
    · rintro found category ⟨before, after, stands⟩
      rw [selects_name_iff, ← stands]
      exact found before after
    · intro found before after
      let name := String.ofList (before ++ part.toList ++ after)
      have named := found { id := 1, name, slug := "" } ⟨before, after, String.toList_ofList.symm⟩
      rwa [selects_name_iff, String.toList_ofList] at named

end CategoryFilter

end Names

def Category.pasta : Category := { id := 1, name := "ΠΑΣΤΑ", slug := "pasta" }

def Category.cheese : Category := { id := 2, name := "ΤΥΡΟΣ ΦΕΤΑ", slug := "cheese" }

def Seed.trattoria : Seed where
  categories := [.pasta, .cheese]

namespace CategoryFilter

open Access Text.Casing

theorem finds_settled_parts_trattoria : ∃ catalog, Catalog.ofSeed .trattoria = .ok catalog ∧
    ∃ page, Yields (({ store := { catalog } } : Shop).categories { name := some "ΣΤ" } {}) page ∧
      page.nodes = [.pasta] ∧ selects { name := some "ΤΥΡΟΣ" } .cheese = true := by
  obtain ⟨catalog, accepted, rows⟩ := Catalog.exists_of_check .trattoria (by cbv) (by cbv)
  obtain ⟨-, settled, -, listed⟩ := finds_settled_parts "ΣΤ"
  have found : selects { name := some "ΣΤ" } .pasta = true :=
    settled.mp (by decide +kernel) .pasta ⟨['Π', 'Α'], ['Α'], by decide⟩
  have missed : selects { name := some "ΣΤ" } .cheese = false := by decide +kernel
  obtain ⟨page, yields, nodes⟩ := listed { store := { catalog } } catalog rfl
  refine ⟨catalog, accepted, page, yields, ?_, ?_⟩
  · rw [nodes, rows, Seed.trattoria, List.filter_cons_of_pos found, List.filter_cons, missed]
    rfl
  · exact (finds_settled_parts "ΤΥΡΟΣ").1 .cheese [] " ΦΕΤΑ".toList (by decide) (by decide +kernel)

/-- At the end of the part the sigma is a final one, and in the middle of the name it is not. -/
theorem misses_part_of_pasta : "ΠΑΣ".toList <:+: Category.pasta.name.toList ∧
    selects { name := some "ΠΑΣ" } .pasta = false :=
  ⟨⟨[], ['Τ', 'Α'], by decide⟩, by decide +kernel⟩

end CategoryFilter

end Storefront
