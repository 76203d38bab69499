import Storefront.Calendar
import Storefront.Proofs.Numerals
/-!
Dates are read back from their texts, over all the years there are. A year without a sign is
written in four digits, which is as much as is read of it; a year with a sign has as many digits as
it needs, and all of them are read.
-/

namespace Storefront.Date

open Text

def Stops (rest : List Char) : Prop := ∀ char ∈ rest.head?, char.isDigit = false

theorem stops_nil : Stops [] := by simp [Stops]

theorem stops_hyphen (rest : List Char) : Stops ('-' :: rest) := by
  simp only [Stops, List.head?_cons, Option.mem_some_iff, forall_eq']
  rfl

theorem Stops.takeWhile {rest : List Char} (stops : Stops rest) (width : Nat) :
    (rest.take width).takeWhile Char.isDigit = [] := by
  cases rest with
  | nil => simp
  | cons char rest =>
      have other : char.isDigit = false := stops char rfl
      cases width <;> simp [other]

section Parts

variable {digits rest : List Char}

theorem takeNumber_append (run : Numeral.Digits digits) (stops : Stops rest) {width : Nat}
    (fits : digits.length ≤ width)
    (small : (Nat.ofDigitChars 10 digits 0 : Int) ≤ Int64.maxValue.toInt) :
    takeNumber width (digits ++ rest) = .ok (Nat.ofDigitChars 10 digits 0, rest) := by
  have taken : ((digits ++ rest).take width).takeWhile Char.isDigit = digits := by
    rw [List.take_append, List.take_of_length_le fits, List.takeWhile_append_of_pos run.all,
      stops.takeWhile, List.append_nil]
  rcases digits with _ | ⟨first, others⟩
  · exact absurd rfl run.filled
  · simp only [List.cons_append] at taken ⊢
    simp only [takeNumber, taken]
    rw [if_neg (by simp), if_neg (Int.not_lt.mpr small)]
    simp

theorem not_isBlank_of_isDigit {char : Char} (digit : char.isDigit = true) :
    isBlank char = false := by
  obtain ⟨least, most⟩ := Char.isDigit_iff_toNat.mp digit
  have zero : '0'.toNat = 48 := rfl
  have nine : '9'.toNat = 57 := rfl
  simp only [isBlank, Bool.or_eq_false_iff, Bool.and_eq_false_iff, decide_eq_false_iff_not,
    beq_eq_false_iff_ne, ne_eq]
  omega

theorem dropBlanks_digits (run : Numeral.Digits digits) :
    dropBlanks (digits ++ rest) = digits ++ rest := by
  rcases digits with _ | ⟨first, others⟩
  · exact absurd rfl run.filled
  · have shown := not_isBlank_of_isDigit (run.all first List.mem_cons_self)
    rw [dropBlanks, List.cons_append, List.dropWhile_cons_of_neg (by simp [shown])]

theorem dropBlanks_hyphen : dropBlanks ('-' :: rest) = '-' :: rest := rfl

theorem dropBlanks_plus : dropBlanks ('+' :: rest) = '+' :: rest := rfl

section Years

theorem year_fits {year : Int} (late : -262143 ≤ year) (early : year ≤ 262143) :
    ¬ (year < Int32.minValue.toInt ∨ Int32.maxValue.toInt < year) := by
  have low : Int32.minValue.toInt = -2147483648 := by decide
  have high : Int32.maxValue.toInt = 2147483647 := by decide
  omega

variable (run : Numeral.Digits digits) (stops : Stops rest)
  (early : Nat.ofDigitChars 10 digits 0 ≤ 262143)

include run stops early

theorem takeNumber_year {width : Nat} (fits : digits.length ≤ width) :
    takeNumber width (digits ++ rest) = .ok (Nat.ofDigitChars 10 digits 0, rest) := by
  have high : Int64.maxValue.toInt = 9223372036854775807 := by decide
  exact takeNumber_append run stops fits (by omega)

theorem takeYear_minus : takeYear ('-' :: (digits ++ rest)) =
    .ok (-(Nat.ofDigitChars 10 digits 0 : Int), rest) := by
  have fits : digits.length ≤ (digits ++ rest).length := by simp
  have taken := takeNumber_year run stops early fits
  simp only [takeYear, taken, Except.map, bind, Except.bind]
  rw [if_neg (year_fits (by omega) (by omega))]

theorem takeYear_plus : takeYear ('+' :: (digits ++ rest)) =
    .ok ((Nat.ofDigitChars 10 digits 0 : Int), rest) := by
  have fits : digits.length ≤ (digits ++ rest).length := by simp
  have taken := takeNumber_year run stops early fits
  simp only [takeYear, taken, Except.map, bind, Except.bind]
  rw [if_neg (year_fits (by omega) (by omega))]

theorem takeYear_unsigned (short : digits.length ≤ 4) : takeYear (digits ++ rest) =
    .ok ((Nat.ofDigitChars 10 digits 0 : Int), rest) := by
  have taken := takeNumber_year run stops early short
  rcases digits with _ | ⟨first, others⟩
  · exact absurd rfl run.filled
  · have digit := run.all first List.mem_cons_self
    -- The first digit is no sign, so the year is read as one without a sign.
    have plus : first ≠ '+' := by
      rintro rfl
      exact Numeral.not_isDigit_plus digit
    have minus : first ≠ '-' := by
      rintro rfl
      exact Numeral.not_isDigit_minus digit
    rw [List.cons_append] at taken ⊢
    simp only [takeYear, bind, Except.bind]
    split
    · rename_i same
      exact absurd (List.cons.inj same).1 minus
    · rename_i same
      exact absurd (List.cons.inj same).1 plus
    · simp only [taken, Except.map]
      rw [if_neg (year_fits (by omega) (by omega))]

end Years

theorem takePart_padded {number high : Nat} (stops : Stops rest) (least : 1 ≤ number)
    (most : number ≤ high) (short : number < 100) :
    takePart high ((Numeral.padded 2 number).toList ++ rest) = .ok (number, rest) := by
  have run := Numeral.digits_padded 2 number
  have whole := Numeral.ofDigitChars_padded 2 number
  have length : (Numeral.padded 2 number).toList.length = 2 :=
    Numeral.length_padded (by decide) short
  have word : Int64.maxValue.toInt = 9223372036854775807 := by decide
  have taken := takeNumber_append run stops (Nat.le_of_eq length) (by omega)
  rw [whole] at taken
  simp only [takePart, taken, bind, Except.bind]
  rw [if_neg (by omega)]

end Parts

def monthAndDay (date : Date) : List Char :=
  '-' :: ((Numeral.padded 2 date.month).toList ++ '-' :: (Numeral.padded 2 date.day).toList)

variable (date : Date)

theorem toList_write : date.write.toList =
    if date.year < 0 then '-' :: ((Numeral.padded 4 date.year.natAbs).toList ++ date.monthAndDay)
    else if 9999 < date.year then
      '+' :: ((Numeral.padded 4 date.year.natAbs).toList ++ date.monthAndDay)
    else (Numeral.padded 4 date.year.natAbs).toList ++ date.monthAndDay := by
  simp only [write, monthAndDay]
  split_ifs <;> simp

theorem takeYear_write :
    takeYear (dropBlanks date.write.toList) = .ok (date.year, date.monthAndDay) := by
  obtain ⟨late, early, -⟩ := date.inCalendar
  have run := Numeral.digits_padded 4 date.year.natAbs
  have whole := Numeral.ofDigitChars_padded 4 date.year.natAbs
  have stops : Stops date.monthAndDay := stops_hyphen _
  rw [toList_write]
  split_ifs with negative far
  · rw [dropBlanks_hyphen, takeYear_minus run stops (by omega), whole]
    simp only [Except.ok.injEq, Prod.mk.injEq, and_true]
    omega
  · rw [dropBlanks_plus, takeYear_plus run stops (by omega), whole]
    simp only [Except.ok.injEq, Prod.mk.injEq, and_true]
    omega
  · have fits : date.year.natAbs < 10000 := by omega
    have short : (Numeral.padded 4 date.year.natAbs).toList.length = 4 :=
      Numeral.length_padded (by decide) fits
    rw [dropBlanks_digits run, takeYear_unsigned run stops (by omega) (Nat.le_of_eq short), whole]
    simp only [Except.ok.injEq, Prod.mk.injEq, and_true]
    omega

theorem read_write : read date.write = .ok date := by
  obtain ⟨-, -, firstMonth, lastMonth, firstDay, lastDay⟩ := date.inCalendar
  have days := daysInMonth_le date.year date.month
  have month := takePart_padded (stops_hyphen (Numeral.padded 2 date.day).toList)
    firstMonth lastMonth (by omega)
  have day := takePart_padded stops_nil firstDay (Nat.le_trans lastDay days) (by omega)
  have digits := Numeral.digits_padded 2
  have dayAlone : dropBlanks ((Numeral.padded 2 date.day).toList ++ []) = _ :=
    dropBlanks_digits (digits date.day)
  simp only [List.append_nil] at day dayAlone
  have known : ofParts? date.year date.month date.day = some date := dif_pos date.inCalendar
  simp only [read, takeYear_write, monthAndDay, dropBlanks_hyphen, takeHyphen,
    dropBlanks_digits (digits date.month), month, dayAlone, day, bind, Except.bind]
  rw [if_neg (by simp [dropBlanks]), known]

end Storefront.Date
