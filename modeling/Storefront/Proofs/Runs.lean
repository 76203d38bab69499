import Storefront.Proofs.Slugs
/-!
The runs of a text are its longest stretches of ASCII letters and digits. The slug of a text has
these runs, in small letters, with one hyphen between each two of them, and nothing else. So it is
tidy, and a tidy text is its own slug.
-/

namespace Storefront.Text.Slug

section Runs

/-- What stands between the characters that are neither letters nor digits. Where two of these
stand together there is no run. -/
def runs (text : List Char) : List (List Char) :=
  (text.splitOnP fun char => !char.isAlphanum).filter fun run => !run.isEmpty

variable {char : Char} {run : List Char}

theorem runs_append_cons (passed : ¬ char.isAlphanum = true) (front back : List Char) :
    runs (front ++ char :: back) = runs front ++ runs back := by
  unfold runs
  rw [List.splitOnP_append_cons front back (by simpa using passed), List.filter_append]

theorem runs_passed (passed : ¬ char.isAlphanum = true) (rest : List Char) :
    runs (char :: rest) = runs rest :=
  runs_append_cons passed [] rest

theorem runs_single (some : run ≠ []) (kept : ∀ char ∈ run, char.isAlphanum = true) :
    runs run = [run] := by
  have whole : run.splitOnP (fun char => !char.isAlphanum) = [run] :=
    List.splitOnP_eq_singleton fun char among => by simpa using kept char among
  rw [runs, whole]
  simpa using some

theorem runs_kept (kept : char.isAlphanum = true) (rest : List Char) :
    runs (char :: rest) = (char :: rest.takeWhile Char.isAlphanum) ::
      runs (rest.dropWhile Char.isAlphanum) := by
  have first : runs (char :: rest.takeWhile Char.isAlphanum) =
      [char :: rest.takeWhile Char.isAlphanum] := by
    refine runs_single (List.cons_ne_nil _ _) fun other among => ?_
    rcases List.mem_cons.mp among with rfl | later
    · exact kept
    · exact List.mem_takeWhile_imp later
  have whole := List.takeWhile_append_dropWhile (p := Char.isAlphanum) (l := rest)
  have ends := List.head?_dropWhile_not Char.isAlphanum rest
  cases left : rest.dropWhile Char.isAlphanum with
  | nil =>
      rw [left, List.append_nil] at whole
      rw [whole] at first
      rw [first, whole]
      rfl
  | cons next more =>
      rw [left] at whole ends
      have passed : ¬ next.isAlphanum = true := by simpa using ends
      conv_lhs => rw [← whole, ← List.cons_append]
      rw [runs_append_cons passed, first, runs_passed passed]
      rfl

end Runs

section Joined

def hyphenated (runs : List (List Char)) : List Char :=
  runs.flatMap fun run => '-' :: run.map Char.toLower

theorem intercalate_lower (first : List Char) (rest : List (List Char)) :
    ['-'].intercalate ((first :: rest).map (List.map Char.toLower)) =
      first.map Char.toLower ++ hyphenated rest := by
  induction rest generalizing first with
  | nil => simp [hyphenated]
  | cons next rest ih =>
      rw [List.map_cons, List.map_cons, List.intercalate_cons_cons, ← List.map_cons, ih]
      simp [hyphenated]

/-- Behind a run that may still go on, what goes on is written as it is; behind one that is over,
the next run brings its hyphen. -/
theorem slugFrom_started (text : List Char) :
    slugFrom true false text = (text.takeWhile Char.isAlphanum).map Char.toLower ++
      hyphenated (runs (text.dropWhile Char.isAlphanum)) ∧
    slugFrom true true text = hyphenated (runs text) := by
  -- A letter or a digit leads from both to the first, anything else to the second.
  induction text with
  | nil => exact ⟨rfl, rfl⟩
  | cons first rest ih =>
      by_cases kept : first.isAlphanum = true
      · rw [slugFrom_kept kept, slugFrom_kept kept, runs_kept kept, ih.1,
          List.takeWhile_cons_of_pos kept, List.dropWhile_cons_of_pos kept]
        exact ⟨rfl, rfl⟩
      · rw [slugFrom_passed kept, slugFrom_passed kept, ih.2, List.takeWhile_cons_of_neg kept,
          List.dropWhile_cons_of_neg kept, runs_passed kept]
        exact ⟨rfl, rfl⟩

theorem slugFrom_fresh (parted : Bool) (text : List Char) :
    slugFrom false parted text = ['-'].intercalate ((runs text).map (List.map Char.toLower)) := by
  induction text generalizing parted with
  | nil => rfl
  | cons first rest ih =>
      by_cases kept : first.isAlphanum = true
      · rw [slugFrom_kept kept, runs_kept kept, intercalate_lower, (slugFrom_started rest).1]
        rfl
      · rw [slugFrom_passed kept, runs_passed kept, ih]

theorem slug_eq_intercalate (text : String) : slug text =
    "-".intercalate ((runs text.toList).map fun run => (String.ofList run).toLower) := by
  rw [← String.toList_inj, String.toList_intercalate, slug, String.toList_ofList, slugFrom_fresh,
    List.map_map]
  refine congrArg (List.intercalate ['-']) (List.map_congr_left fun run _ => ?_)
  simp [String.toLower]

end Joined

section Tidiness

/-- Small ASCII letters and digits, with single hyphens between them. -/
structure Tidy (text : List Char) : Prop where
  plain : ∀ char ∈ text, char = '-' ∨ char.isLower = true ∨ char.isDigit = true
  start : text.head? ≠ some '-'
  stop : text.getLast? ≠ some '-'
  single : ¬ ['-', '-'] <:+: text

variable {started parted : Bool} {char : Char} {text : List Char}

theorem head_slugFrom : (slugFrom false parted text).head? ≠ some '-' := by
  induction text generalizing parted with
  | nil => simp [slugFrom]
  | cons first rest ih =>
      by_cases kept : first.isAlphanum = true
      · rw [slugFrom_kept kept]
        simpa using toLower_ne_hyphen kept
      · rw [slugFrom_passed kept]
        exact ih

theorem pair_infix_cons (other : char ≠ '-') :
    ['-', '-'] <:+: char :: text ↔ ['-', '-'] <:+: text := by
  rw [List.infix_cons_iff, List.cons_prefix_cons]
  exact or_iff_right fun same => other same.1.symm

theorem single_slugFrom : ¬ ['-', '-'] <:+: slugFrom started parted text := by
  induction text generalizing started parted with
  | nil => simp [slugFrom]
  | cons first rest ih =>
      by_cases kept : first.isAlphanum = true
      · have differs := toLower_ne_hyphen kept
        rw [slugFrom_kept kept]
        split
        · rw [List.singleton_append, List.infix_cons_iff, pair_infix_cons differs,
            List.cons_prefix_cons, List.cons_prefix_cons]
          rintro (⟨-, same, -⟩ | later)
          · exact differs same.symm
          · exact ih later
        · rw [List.nil_append, pair_infix_cons differs]
          exact ih
      · rw [slugFrom_passed kept]
        exact ih

theorem tidy_slug (text : String) : Tidy (slug text).toList := by
  rw [slug, String.toList_ofList]
  exact ⟨fun char among => mem_slugFrom among, head_slugFrom, getLast_slugFrom, single_slugFrom⟩

theorem kept_of_plain (plain : char = '-' ∨ char.isLower = true ∨ char.isDigit = true)
    (other : char ≠ '-') : char.isAlphanum = true ∧ char.toLower = char := by
  rcases plain.resolve_left other with lower | digit
  · exact ⟨by simp [Char.isAlphanum, Char.isAlpha, lower],
      Char.toLower_eq_of_not_isUpper (Char.not_isUpper_of_isLower lower)⟩
  · exact ⟨by simp [Char.isAlphanum, digit],
      Char.toLower_eq_of_not_isUpper (not_isUpper_of_isDigit digit)⟩

theorem slugFrom_parted (kept : char.isAlphanum = true) :
    slugFrom true true (char :: text) = '-' :: slugFrom true false (char :: text) := by
  rw [slugFrom_kept kept, slugFrom_kept kept]
  rfl

/-- The rest of a tidy text is written as it is; it may start with a hyphen. -/
theorem slugFrom_own (plain : ∀ char ∈ text, char = '-' ∨ char.isLower = true ∨ char.isDigit = true)
    (stop : text.getLast? ≠ some '-') (single : ¬ ['-', '-'] <:+: text) :
    slugFrom true false text = text := by
  induction text with
  | nil => rfl
  | cons first rest ih =>
      have tail : slugFrom true false rest = rest :=
        ih (fun char among => plain char (List.mem_cons_of_mem first among))
          (fun last => stop (by rw [List.getLast?_cons, last]; rfl))
          (fun later => single (List.infix_cons later))
      by_cases hyphen : first = '-'
      · subst hyphen
        cases rest with
        | nil => exact absurd rfl stop
        | cons second more =>
            have other : second ≠ '-' := by
              rintro rfl
              exact single ⟨[], more, rfl⟩
            obtain ⟨kept, -⟩ := kept_of_plain (plain second (by simp)) other
            rw [slugFrom_passed (by decide), slugFrom_parted kept, tail]
      · obtain ⟨kept, same⟩ := kept_of_plain (plain first List.mem_cons_self) hyphen
        rw [slugFrom_kept kept, same, tail]
        rfl

theorem slug_eq_self_iff {text : String} : slug text = text ↔ Tidy text.toList := by
  constructor
  · intro same
    exact same ▸ tidy_slug text
  · intro tidy
    have own := slugFrom_own tidy.plain tidy.stop tidy.single
    rw [← String.toList_inj, slug, String.toList_ofList]
    -- The first character is no hyphen, so it does not matter that nothing has been written yet.
    cases chars : text.toList with
    | nil => rfl
    | cons first rest =>
        rw [chars] at own tidy
        have other : first ≠ '-' := fun same => tidy.start (congrArg some same)
        obtain ⟨kept, -⟩ := kept_of_plain (tidy.plain first List.mem_cons_self) other
        rw [slugFrom_kept kept] at own ⊢
        exact own

end Tidiness

/-- The slug of a text is its runs of letters and digits, in small letters and joined by hyphens. It
is tidy, and it is its own slug. -/
theorem slug_exact (text : String) :
    slug text = "-".intercalate ((runs text.toList).map fun run => (String.ofList run).toLower) ∧
      Tidy (slug text).toList ∧ slug (slug text) = slug text :=
  ⟨slug_eq_intercalate text, tidy_slug text, slug_eq_self_iff.mpr (tidy_slug text)⟩

example : slug "  Mug -- 350ml!" = "mug-350ml" := by decide

end Storefront.Text.Slug
