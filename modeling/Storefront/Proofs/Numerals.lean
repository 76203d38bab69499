import Storefront.Proofs.Spelling
/-!
Numerals. An integer is read from every numeral for it that has one optional sign and at least one
digit, and from nothing else; where there are no negative numbers the sign is not a minus sign.
Among the numerals for one integer the one that is written is the canonical one: without a sign or
a zero that could be left out.
-/

namespace Storefront.Text.Numeral

structure Digits (chars : List Char) : Prop where
  filled : chars ≠ []
  all : ∀ char ∈ chars, char.isDigit = true

instance : DecidablePred Digits := fun chars =>
  decidable_of_iff (chars ≠ [] ∧ chars.all Char.isDigit = true)
    ⟨fun known => ⟨known.1, List.all_eq_true.mp known.2⟩,
      fun digits => ⟨digits.filled, List.all_eq_true.mpr digits.all⟩⟩

/-- The characters are a numeral for the integer: one optional sign, and digits. -/
inductive Denotes : List Char → Int → Prop where
  | unsigned {chars : List Char} (digits : Digits chars) :
      Denotes chars (Nat.ofDigitChars 10 chars 0)
  | plus {chars : List Char} (digits : Digits chars) :
      Denotes ('+' :: chars) (Nat.ofDigitChars 10 chars 0)
  | minus {chars : List Char} (digits : Digits chars) :
      Denotes ('-' :: chars) (-(Nat.ofDigitChars 10 chars 0 : Int))

/-- The characters are a numeral without a minus sign: a plus sign or none, and digits. -/
inductive Counts : List Char → Nat → Prop where
  | unsigned {chars : List Char} (digits : Digits chars) :
      Counts chars (Nat.ofDigitChars 10 chars 0)
  | plus {chars : List Char} (digits : Digits chars) :
      Counts ('+' :: chars) (Nat.ofDigitChars 10 chars 0)

theorem not_isDigit_plus : ¬ '+'.isDigit = true := by decide

theorem not_isDigit_minus : ¬ '-'.isDigit = true := by decide

/-- What was accumulated is the number of the digits, and never left the range. -/
theorem accumulate_eq_ok {low high : Int} {negative : Bool} {total : Nat} {chars : List Char}
    {value : Int} (above : low ≤ signed negative total) (below : signed negative total ≤ high)
    (read : accumulate low high negative (signed negative total) chars = .ok value) :
    (∀ char ∈ chars, char.isDigit = true) ∧
      value = signed negative (Nat.ofDigitChars 10 chars total) ∧ low ≤ value ∧ value ≤ high := by
  induction chars generalizing total with
  | nil =>
      cases read
      exact ⟨by simp, rfl, above, below⟩
  | cons char chars ih =>
      by_cases isDigit : char.isDigit = true
      · rw [accumulate, digit_of_isDigit isDigit] at read
        have moved : ∀ digit : Nat, (if negative then signed negative total * 10 - digit
            else signed negative total * 10 + digit) = signed negative (10 * total + digit) := by
          intro digit
          cases negative <;> simp [signed] <;> omega
        simp only [moved] at read
        split_ifs at read with beyond under
        obtain ⟨all, same, inside⟩ := ih (Int.not_lt.mp under) (Int.not_lt.mp beyond) read
        exact ⟨List.forall_mem_cons.mpr ⟨isDigit, all⟩, by rw [same, Nat.ofDigitChars_cons], inside⟩
      · simp [accumulate, digit?, isDigit] at read

section Range

variable {low high value : Int} {chars : List Char}

theorem accumulate_eq_ok_iff (least : low ≤ 0) (most : 0 ≤ high) (negative : Bool) :
    accumulate low high negative 0 chars = .ok value ↔ (∀ char ∈ chars, char.isDigit = true) ∧
      value = signed negative (Nat.ofDigitChars 10 chars 0) ∧ low ≤ value ∧ value ≤ high := by
  have zero : signed negative 0 = 0 := by cases negative <;> rfl
  constructor
  · intro read
    rw [← zero] at read
    exact accumulate_eq_ok (by simpa [zero] using least) (by simpa [zero] using most) read
  · rintro ⟨all, rfl, above, below⟩
    have read := accumulate_digits least most all negative 0 above below
    rwa [zero] at read

theorem readWithin_plus (filled : chars ≠ []) :
    readWithin low high ('+' :: chars) = accumulate low high false 0 chars := by
  cases chars with
  | nil => exact absurd rfl filled
  | cons digit rest => rfl

theorem readWithin_minus_eq (negatives : low < 0) (filled : chars ≠ []) :
    readWithin low high ('-' :: chars) = accumulate low high true 0 chars := by
  cases chars with
  | nil => exact absurd rfl filled
  | cons digit rest => exact if_pos negatives

theorem readWithin_minus_of_le (least : 0 ≤ low) :
    readWithin low high ('-' :: chars) = .error .invalidDigit := by
  cases chars with
  | nil => rfl
  | cons digit rest => exact if_neg (by omega)

theorem readWithin_unsigned {first : Char} {rest : List Char} (plus : first ≠ '+')
    (minus : first ≠ '-') :
    readWithin low high (first :: rest) = accumulate low high false 0 (first :: rest) := by
  unfold readWithin
  split <;> simp_all

/-- Exactly the numerals of the range are read, with a minus sign only where it has negative
numbers. -/
theorem readWithin_eq_ok_iff_of_le (least : low ≤ 0) (most : 0 ≤ high) :
    readWithin low high chars = .ok value ↔ Denotes chars value ∧
      (chars.head? = some '-' → low < 0) ∧ low ≤ value ∧ value ≤ high := by
  constructor
  · intro read
    rcases chars with _ | ⟨first, rest⟩
    · cases read
    · by_cases plus : first = '+'
      · subst plus
        by_cases alone : rest = []
        · subst alone
          cases read
        · rw [readWithin_plus alone, accumulate_eq_ok_iff least most] at read
          obtain ⟨all, rfl, inside⟩ := read
          exact ⟨.plus ⟨alone, all⟩, by simp, inside⟩
      · by_cases minus : first = '-'
        · subst minus
          by_cases alone : rest = []
          · subst alone
            cases read
          · by_cases negatives : low < 0
            · rw [readWithin_minus_eq negatives alone, accumulate_eq_ok_iff least most] at read
              obtain ⟨all, rfl, inside⟩ := read
              exact ⟨.minus ⟨alone, all⟩, fun _ => negatives, inside⟩
            · rw [readWithin_minus_of_le (by omega)] at read
              cases read
        · rw [readWithin_unsigned plus minus, accumulate_eq_ok_iff least most] at read
          obtain ⟨all, rfl, inside⟩ := read
          exact ⟨.unsigned ⟨by simp, all⟩, by simp [minus], inside⟩
  · rintro ⟨denotes, signed, inside⟩
    cases denotes with
    | unsigned digits =>
        rcases chars with _ | ⟨first, rest⟩
        · exact absurd rfl digits.filled
        · have digit := digits.all first List.mem_cons_self
          have plus : first ≠ '+' := by
            rintro rfl
            exact not_isDigit_plus digit
          have minus : first ≠ '-' := by
            rintro rfl
            exact not_isDigit_minus digit
          rw [readWithin_unsigned plus minus, accumulate_eq_ok_iff least most]
          exact ⟨digits.all, rfl, inside⟩
    | plus digits =>
        rw [readWithin_plus digits.filled, accumulate_eq_ok_iff least most]
        exact ⟨digits.all, rfl, inside⟩
    | minus digits =>
        rw [readWithin_minus_eq (signed rfl) digits.filled, accumulate_eq_ok_iff least most]
        exact ⟨digits.all, rfl, inside⟩

theorem readWithin_eq_ok_iff (negatives : low < 0) (most : 0 ≤ high) :
    readWithin low high chars = .ok value ↔ Denotes chars value ∧ low ≤ value ∧ value ≤ high := by
  rw [readWithin_eq_ok_iff_of_le (by omega) most]
  simp [negatives]

end Range

/-- The word of an integer in range is found by its digits, and every word is in range. -/
theorem readInt64_eq_ok_iff {text : String} {number : Int64} :
    readInt64 text = .ok number ↔ Denotes text.toList number.toInt := by
  rw [readInt64, map_eq_ok_iff]
  constructor
  · rintro ⟨value, read, rfl⟩
    obtain ⟨denotes, above, below⟩ := (readWithin_eq_ok_iff (by decide) (by decide)).mp read
    have low : Int64.minValue.toInt = -9223372036854775808 := by decide
    have high : Int64.maxValue.toInt = 9223372036854775807 := by decide
    rwa [Int64.toInt_ofInt_of_le (by omega) (by omega)]
  · intro denotes
    refine ⟨number.toInt, ?_, number.ofInt_toInt⟩
    rw [readWithin_eq_ok_iff (by decide) (by decide)]
    exact ⟨denotes, Int64.minValue_le_toInt number, Int64.toInt_le number⟩

theorem counts_iff {chars : List Char} {number : Nat} :
    Counts chars number ↔ Denotes chars number ∧ chars.head? ≠ some '-' := by
  constructor
  · intro counts
    cases counts with
    | unsigned digits =>
        refine ⟨.unsigned digits, fun signed => not_isDigit_minus ?_⟩
        exact digits.all '-' (List.mem_of_mem_head? signed)
    | plus digits => exact ⟨.plus digits, by simp⟩
  · rintro ⟨denotes, unsigned⟩
    generalize same : (number : Int) = value at denotes
    cases denotes with
    | unsigned digits =>
        obtain rfl := Int.natCast_inj.mp same
        exact .unsigned digits
    | plus digits =>
        obtain rfl := Int.natCast_inj.mp same
        exact .plus digits
    | minus digits => exact absurd rfl unsigned

theorem Counts.isDigit_of_mem {chars : List Char} {number : Nat} (counts : Counts chars number)
    {char : Char} (among : char ∈ chars) (unsigned : char ≠ '+') : char.isDigit = true := by
  cases counts with
  | unsigned digits => exact digits.all char among
  | plus digits => exact digits.all char ((List.mem_cons.mp among).resolve_left unsigned)

theorem Counts.digits_iff {chars : List Char} {number : Nat} (counts : Counts chars number) :
    Digits chars ↔ '+' ∉ chars := by
  constructor
  · intro digits among
    exact not_isDigit_plus (digits.all '+' among)
  · intro unsigned
    cases counts with
    | unsigned digits => exact digits
    | plus _ => exact absurd List.mem_cons_self unsigned

theorem Counts.unique {chars : List Char} {left right : Nat} (one : Counts chars left)
    (other : Counts chars right) : left = right := by
  cases one with
  | unsigned digits =>
      generalize same : chars = others at other
      cases other with
      | unsigned _ => rfl
      | plus _ => exact absurd (digits.all '+' (same ▸ List.mem_cons_self)) not_isDigit_plus
  | @plus chars digits =>
      generalize same : '+' :: chars = others at other
      cases other with
      | unsigned signed =>
          exact absurd (signed.all '+' (same ▸ List.mem_cons_self)) not_isDigit_plus
      | plus _ => rw [(List.cons.inj same).2]

theorem readNatBelow_eq_ok_iff {size number : Nat} {text : String} (positive : 0 < size) :
    readNatBelow size text = .ok number ↔ Counts text.toList number ∧ number < size := by
  have read_iff : ∀ value : Int, readWithin 0 (size - 1) text.toList = .ok value ↔
      Denotes text.toList value ∧ text.toList.head? ≠ some '-' ∧ 0 ≤ value ∧ value ≤ size - 1 := by
    intro value
    rw [readWithin_eq_ok_iff_of_le (Int.le_refl 0) (by omega)]
    simp
  rw [readNatBelow, map_eq_ok_iff, counts_iff]
  constructor
  · rintro ⟨value, read, rfl⟩
    obtain ⟨denotes, unsigned, above, below⟩ := (read_iff value).mp read
    refine ⟨⟨?_, unsigned⟩, by omega⟩
    rwa [Int.toNat_of_nonneg above]
  · rintro ⟨⟨denotes, unsigned⟩, small⟩
    exact ⟨number, (read_iff number).mpr ⟨denotes, unsigned, by omega, by omega⟩, by simp⟩

theorem readUInt64_eq_ok_iff {text : String} {number : UInt64} :
    readUInt64 text = .ok number ↔ Counts text.toList number.toNat := by
  rw [readUInt64, map_eq_ok_iff]
  constructor
  · rintro ⟨value, read, rfl⟩
    obtain ⟨counts, small⟩ := (readNatBelow_eq_ok_iff (by decide)).mp read
    rwa [UInt64.toNat_ofNat_of_lt' small]
  · intro counts
    refine ⟨number.toNat, ?_, UInt64.ofNat_toNat⟩
    exact (readNatBelow_eq_ok_iff (by decide)).mpr ⟨counts, number.toNat_lt_size⟩

theorem readUInt32_eq_ok_iff {text : String} {number : UInt32} :
    readUInt32 text = .ok number ↔ Counts text.toList number.toNat := by
  rw [readUInt32, map_eq_ok_iff]
  constructor
  · rintro ⟨value, read, rfl⟩
    obtain ⟨counts, small⟩ := (readNatBelow_eq_ok_iff (by decide)).mp read
    rwa [UInt32.toNat_ofNat_of_lt' small]
  · intro counts
    refine ⟨number.toNat, ?_, UInt32.ofNat_toNat⟩
    exact (readNatBelow_eq_ok_iff (by decide)).mpr ⟨counts, number.toNat_lt_size⟩

section Canonical

/-- No plus sign, no zero before other digits, no minus sign before zero. -/
inductive Canonical : List Char → Prop where
  | zero : Canonical ['0']
  | positive {first : Char} {rest : List Char} (digits : Digits (first :: rest))
      (leading : first ≠ '0') : Canonical (first :: rest)
  | negative {first : Char} {rest : List Char} (digits : Digits (first :: rest))
      (leading : first ≠ '0') : Canonical ('-' :: first :: rest)

theorem digit_bounds {char : Char} (digit : char.isDigit = true) :
    '0'.toNat ≤ char.toNat ∧ char.toNat - '0'.toNat < 10 := by
  obtain ⟨least, most⟩ := Char.isDigit_iff_toNat.mp digit
  have nine : '9'.toNat = '0'.toNat + 9 := rfl
  omega

theorem toDigits_digit {char : Char} (digit : char.isDigit = true) :
    Nat.toDigits 10 (char.toNat - '0'.toNat) = [char] := by
  obtain ⟨least, small⟩ := digit_bounds digit
  rw [Nat.toDigits_of_lt_base small, List.singleton_inj, ← Char.toNat_inj,
    Nat.toNat_digitChar_of_lt_ten small]
  exact Nat.add_sub_cancel' least

/-- Digits that are read behind a positive number are written behind it. -/
theorem toDigits_ofDigitChars {chars : List Char} (all : ∀ char ∈ chars, char.isDigit = true)
    {total : Nat} (positive : 0 < total) :
    Nat.toDigits 10 (Nat.ofDigitChars 10 chars total) = Nat.toDigits 10 total ++ chars := by
  induction chars generalizing total with
  | nil => simp
  | cons char chars ih =>
      obtain ⟨first, others⟩ := List.forall_mem_cons.mp all
      obtain ⟨-, small⟩ := digit_bounds first
      rw [Nat.ofDigitChars_cons, ih others (by omega),
        ← Nat.toDigits_append_toDigits (by decide) positive small, toDigits_digit first,
        List.append_assoc, List.singleton_append]

theorem eq_zero_of_toDigits {number : Nat} {rest : List Char}
    (written : Nat.toDigits 10 number = '0' :: rest) : number = 0 := by
  induction number using Nat.strong_induction_on generalizing rest with
  | _ number ih =>
    by_cases small : number < 10
    · rw [Nat.toDigits_of_lt_base small] at written
      simpa using (List.cons.inj written).1
    · rw [Nat.toDigits_of_base_le (by decide) (by omega)] at written
      cases front : Nat.toDigits 10 (number / 10) with
      | nil => exact absurd front Nat.toDigits_ne_nil
      | cons first others =>
          rw [front] at written
          obtain ⟨rfl, -⟩ := List.cons.inj written
          have none := ih (number / 10) (by omega) front
          omega

section Unsigned

variable {chars : List Char} (digits : Digits chars)

include digits

theorem toDigits_of_leading (leading : chars.head? ≠ some '0') :
    0 < Nat.ofDigitChars 10 chars 0 ∧
      Nat.toDigits 10 (Nat.ofDigitChars 10 chars 0) = chars := by
  rcases chars with _ | ⟨first, rest⟩
  · exact absurd rfl digits.filled
  · obtain ⟨digit, others⟩ := List.forall_mem_cons.mp digits.all
    have positive : 0 < first.toNat - '0'.toNat := by
      obtain ⟨least, -⟩ := digit_bounds digit
      have differs : first.toNat ≠ '0'.toNat := fun same =>
        leading (by simp [Char.toNat_inj.mp same])
      omega
    rw [Nat.ofDigitChars_cons, Nat.mul_zero, Nat.zero_add]
    refine ⟨Nat.lt_of_lt_of_le positive (le_ofDigitChars rest _), ?_⟩
    rw [toDigits_ofDigitChars others positive, toDigits_digit digit, List.singleton_append]

theorem canonical_unsigned_iff : Canonical chars ↔
    Nat.toDigits 10 (Nat.ofDigitChars 10 chars 0) = chars := by
  constructor
  · intro canonical
    cases canonical with
    | zero => rfl
    | positive _ leading => exact (toDigits_of_leading digits (by simpa using leading)).2
    | negative _ _ => exact absurd (digits.all '-' List.mem_cons_self) not_isDigit_minus
  · intro same
    rcases chars with _ | ⟨first, rest⟩
    · exact absurd rfl digits.filled
    · by_cases leading : first = '0'
      · subst leading
        rw [eq_zero_of_toDigits same, Nat.toDigits_zero] at same
        obtain ⟨-, rfl⟩ := List.cons.inj same
        exact .zero
      · exact .positive digits leading

theorem canonical_minus_iff : Canonical ('-' :: chars) ↔ chars.head? ≠ some '0' := by
  constructor
  · intro canonical
    cases canonical with
    | positive signed _ => exact absurd (signed.all '-' List.mem_cons_self) not_isDigit_minus
    | negative _ leading => simpa using leading
  · intro leading
    rcases chars with _ | ⟨first, rest⟩
    · exact absurd rfl digits.filled
    · exact .negative digits (by simpa using leading)

end Unsigned

theorem toList_toString_natCast (number : Nat) :
    (toString (number : Int)).toList = Nat.toDigits 10 number := by
  have text : toString (number : Int) = toString number := rfl
  rw [text, Nat.toString_eq_ofList_toDigits, String.toList_ofList]

theorem toList_toString_neg {number : Nat} (positive : 0 < number) :
    (toString (-(number : Int))).toList = '-' :: Nat.toDigits 10 number := by
  obtain ⟨less, rfl⟩ := Nat.exists_eq_succ_of_ne_zero (Nat.pos_iff_ne_zero.mp positive)
  have text : toString (-((less + 1 : Nat) : Int)) = "-" ++ toString (less + 1) := rfl
  have lead : "-".toList = ['-'] := rfl
  rw [Nat.succ_eq_add_one, text, String.toList_append, lead, Nat.toString_eq_ofList_toDigits,
    String.toList_ofList, List.singleton_append]

theorem toList_toString (value : Int) : (toString value).toList =
    (if value < 0 then ['-'] else []) ++ Nat.toDigits 10 value.natAbs := by
  rcases Int.lt_or_le value 0 with negative | positive
  · obtain ⟨number, rfl⟩ := Int.exists_eq_neg_ofNat (Int.le_of_lt negative)
    rw [toList_toString_neg (by omega), if_pos negative, Int.natAbs_neg, Int.natAbs_natCast,
      List.singleton_append]
  · obtain ⟨number, rfl⟩ := Int.eq_ofNat_of_zero_le positive
    rw [toList_toString_natCast, if_neg (by omega), Int.natAbs_natCast, List.nil_append]

/-- Of all numerals for an integer the canonical one is written. -/
theorem toList_toString_eq_iff {chars : List Char} {value : Int} (denotes : Denotes chars value) :
    (toString value).toList = chars ↔ Canonical chars := by
  cases denotes with
  | unsigned digits => rw [toList_toString_natCast, canonical_unsigned_iff digits]
  | @plus chars digits =>
      rw [toList_toString_natCast]
      constructor
      · intro same
        have digit : '+'.isDigit = true :=
          Nat.isDigit_of_mem_toDigits (by decide) (by decide) (same ▸ List.mem_cons_self)
        exact absurd digit not_isDigit_plus
      · intro canonical
        cases canonical with
        | positive signed _ => exact absurd (signed.all '+' List.mem_cons_self) not_isDigit_plus
  | @minus chars digits =>
      rw [canonical_minus_iff digits]
      constructor
      · intro same leading
        -- Zero is written without a sign, and any other number without a zero in front.
        rcases Nat.eq_zero_or_pos (Nat.ofDigitChars 10 chars 0) with zero | positive
        · rw [zero] at same
          cases same
        · rw [toList_toString_neg positive, List.cons.injEq] at same
          rcases chars with _ | ⟨first, rest⟩
          · exact absurd rfl digits.filled
          · obtain rfl : first = '0' := by simpa using leading
            exact absurd (eq_zero_of_toDigits same.2) (Nat.pos_iff_ne_zero.mp positive)
      · intro leading
        obtain ⟨positive, same⟩ := toDigits_of_leading digits leading
        rw [toList_toString_neg positive, same]

end Canonical

section Padded

variable (width number : Nat)

theorem toList_padded : (padded width number).toList =
    List.replicate (width - (Nat.toDigits 10 number).length) '0' ++ Nat.toDigits 10 number :=
  String.toList_ofList

theorem digits_padded : Digits (padded width number).toList := by
  rw [toList_padded]
  refine ⟨by simp [Nat.toDigits_ne_nil], fun char among => ?_⟩
  rcases List.mem_append.mp among with zero | digit
  · rw [List.eq_of_mem_replicate zero]
    rfl
  · exact Nat.isDigit_of_mem_toDigits (by decide) (by decide) digit

theorem ofDigitChars_padded : Nat.ofDigitChars 10 (padded width number).toList 0 = number := by
  rw [toList_padded, Nat.ofDigitChars_append, Nat.ofDigitChars_replicate_zero, Nat.mul_zero,
    Nat.ofDigitChars_ten_toDigits]

theorem length_padded {width number : Nat} (wide : 0 < width) (fits : number < Nat.pow 10 width) :
    (padded width number).toList.length = width := by
  have short := (Nat.length_toDigits_le_iff (by decide) wide).mpr fits
  rw [toList_padded, List.length_append, List.length_replicate]
  omega

end Padded

theorem not_mem_toDigits {mark : Char} (other : mark.isDigit = false) (number : Nat) :
    mark ∉ Nat.toDigits 10 number := by
  intro among
  have digit := Nat.isDigit_of_mem_toDigits (by decide) (by decide) among
  rw [other] at digit
  cases digit

theorem not_mem_toString {mark : Char} (other : mark.isDigit = false) (unsigned : mark ≠ '-')
    (value : Int) : mark ∉ (toString value).toList := by
  rw [toList_toString, List.mem_append, not_or]
  refine ⟨?_, not_mem_toDigits other _⟩
  split <;> simp [unsigned]

theorem toString_inj {left right : Int64} (same : toString left.toInt = toString right.toInt) :
    left = right := by
  have read := readInt64_toString left
  rw [same, readInt64_toString, Except.ok.injEq] at read
  exact read.symm

end Storefront.Text.Numeral
