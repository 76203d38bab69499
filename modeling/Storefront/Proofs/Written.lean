import Mathlib.Data.Nat.Basic
import Storefront.GlobalId
import Storefront.Page
/-!
What is written can be read. Base64 gives back the bytes that it was written for, decimal digits
the number, a global id the kind and the key, and a cursor its offset; so no two offsets have one
cursor.
-/

namespace Storefront

namespace Text

section Ascii

theorem utf8_ofList (chars : List Char) :
    utf8 (String.ofList chars) = chars.flatMap String.utf8EncodeChar := by
  rw [utf8, String.toByteArray_ofList, List.utf8Encode, List.toList_data_toByteArray]

theorem utf8EncodeChar_ascii {code : Nat} (ascii : code < 128) :
    String.utf8EncodeChar (Char.ofNat code) = [UInt8.ofNat code] := by
  revert code
  decide

theorem utf8_ofList_ascii {bytes : List UInt8} (ascii : ∀ byte ∈ bytes, byte.toNat < 128) :
    utf8 (String.ofList (bytes.map fun byte => Char.ofNat byte.toNat)) = bytes := by
  rw [utf8_ofList]
  induction bytes with
  | nil => rfl
  | cons byte bytes ih =>
      obtain ⟨first, others⟩ := List.forall_mem_cons.mp ascii
      rw [List.map_cons, List.flatMap_cons, utf8EncodeChar_ascii first, ih others,
        UInt8.ofNat_toNat]
      rfl

end Ascii

namespace Base64

theorem value_symbol {value : Nat} (small : value < 64) : value? (symbol value) = some value := by
  revert value
  decide

theorem symbol_ne_pad {value : Nat} (small : value < 64) : symbol value ≠ pad := by
  revert value
  decide

theorem tailValues_padding (start : Nat) {place : Nat} (late : 2 ≤ place) (padded : Option Nat)
    (padding : Nat) : tailValues start place padded (List.replicate padding pad) = .ok [] := by
  induction padding generalizing place padded with
  | zero => rfl
  | succ padding ih =>
      rw [List.replicate_succ, tailValues.eq_def]
      simp only [if_true, if_neg (show ¬ place < 2 by omega)]
      exact ih (by omega) _

theorem tailValues_symbols (start place : Nat) (values : List Nat)
    (small : ∀ value ∈ values, value < 64) (padding : Nat) (late : 2 ≤ place + values.length) :
    tailValues start place none (values.map symbol ++ List.replicate padding pad) =
      .ok values := by
  induction values generalizing place with
  | nil => exact tailValues_padding start late none padding
  | cons value values ih =>
      obtain ⟨first, others⟩ := List.forall_mem_cons.mp small
      have rest := ih (place + 1) others (by simp at late; omega)
      rw [List.map_cons, List.cons_append, tailValues, if_neg (symbol_ne_pad first)]
      simp only [valueAt, value_symbol first, rest]
      rfl

section Groups

variable (start : Nat) {v w x y : Nat}

theorem decodeTail_two (first : v < 64) (second : w < 64) (spare : w % 16 = 0) :
    decodeTail start [symbol v, symbol w, pad, pad] = .ok [UInt8.ofNat (v * 4 + w / 16)] := by
  have values : tailValues start 0 none [symbol v, symbol w, pad, pad] = .ok [v, w] :=
    tailValues_symbols start 0 [v, w] (by simp [first, second]) 2 (by simp)
  simp only [decodeTail, values, bind, Except.bind, spare]
  rfl

theorem decodeTail_three (first : v < 64) (second : w < 64) (third : x < 64) (spare : x % 4 = 0) :
    decodeTail start [symbol v, symbol w, symbol x, pad] =
      .ok [UInt8.ofNat (v * 4 + w / 16), UInt8.ofNat (w % 16 * 16 + x / 4)] := by
  have values : tailValues start 0 none [symbol v, symbol w, symbol x, pad] = .ok [v, w, x] :=
    tailValues_symbols start 0 [v, w, x] (by simp [first, second, third]) 1 (by simp)
  simp only [decodeTail, values, bind, Except.bind, spare]
  rfl

/-- A full group is read alike whether it is the last one or not. -/
theorem decodeGroups_full (first : v < 64) (second : w < 64) (third : x < 64) (fourth : y < 64)
    {rest : List UInt8} {bytes : List UInt8}
    (others : decodeGroups (start + 4) rest = .ok bytes) :
    decodeGroups start (symbol v :: symbol w :: symbol x :: symbol y :: rest) =
      .ok (UInt8.ofNat (v * 4 + w / 16) :: UInt8.ofNat (w % 16 * 16 + x / 4) ::
        UInt8.ofNat (x % 4 * 64 + y) :: bytes) := by
  cases rest with
  | nil =>
      cases others
      have values : tailValues start 0 none [symbol v, symbol w, symbol x, symbol y] =
          .ok [v, w, x, y] :=
        tailValues_symbols start 0 [v, w, x, y]
          (by simp [first, second, third, fourth]) 0 (by simp)
      simp only [decodeGroups, decodeTail, values, bind, Except.bind]
      rfl
  | cons e rest =>
      simp only [decodeGroups, valueAt, value_symbol first, value_symbol second,
        value_symbol third, value_symbol fourth, others, bind, Except.bind]
      rfl

end Groups

theorem ofNat_eq {number : Nat} (byte : UInt8) (same : number = byte.toNat) :
    UInt8.ofNat number = byte := by
  rw [same, UInt8.ofNat_toNat]

theorem decodeGroups_encode (start : Nat) (bytes : List UInt8) :
    decodeGroups start (encode bytes) = .ok bytes := by
  induction bytes using encode.induct generalizing start with
  | case1 => rfl
  | case2 a =>
      have bound : a.toNat < 256 := a.toNat_lt
      rw [encode]
      refine (decodeTail_two start (by omega) (by omega) (by omega)).trans ?_
      rw [ofNat_eq a (by omega)]
  | case3 a b =>
      have bound : a.toNat < 256 ∧ b.toNat < 256 := ⟨a.toNat_lt, b.toNat_lt⟩
      rw [encode]
      refine (decodeTail_three start (by omega) (by omega) (by omega) (by omega)).trans ?_
      rw [ofNat_eq a (by omega), ofNat_eq b (by omega)]
  | case4 a b c rest ih =>
      have bound : a.toNat < 256 ∧ b.toNat < 256 ∧ c.toNat < 256 :=
        ⟨a.toNat_lt, b.toNat_lt, c.toNat_lt⟩
      rw [encode, decodeGroups_full start (by omega) (by omega) (by omega) (by omega)
        (ih (start + 4)), ofNat_eq a (by omega), ofNat_eq b (by omega),
        ofNat_eq c (by omega)]

theorem length_encode (bytes : List UInt8) : (encode bytes).length % 4 = 0 := by
  induction bytes using encode.induct with
  | case1 => rfl
  | case2 a => simp [encode]
  | case3 a b => simp [encode]
  | case4 a b c rest ih => simp [encode]; omega

theorem decode_encode (bytes : List UInt8) : decode (encode bytes) = .ok bytes := by
  have stray : strayByte? (encode bytes) = none := by
    unfold strayByte?
    split
    · rw [if_neg (by rw [length_encode]; simp)]
    · rfl
  rw [decode, stray]
  exact decodeGroups_encode 0 bytes

theorem symbol_ascii (value : Nat) : (symbol value).toNat < 128 := by
  unfold symbol
  split_ifs <;> simp <;> omega

theorem encode_ascii (bytes : List UInt8) : ∀ byte ∈ encode bytes, byte.toNat < 128 := by
  induction bytes using encode.induct with
  | case1 => simp [encode]
  | case2 a => simp [encode, symbol_ascii, pad]
  | case3 a b => simp [encode, symbol_ascii, pad]
  | case4 a b c rest ih => simpa [encode, symbol_ascii] using ih

theorem bytes_ofText (text : String) : bytes (ofText text) = .ok (utf8 text) := by
  rw [bytes, ofText, utf8_ofList_ascii (encode_ascii (utf8 text))]
  exact decode_encode (utf8 text)

theorem ofText_injective {left right : String} (same : ofText left = ofText right) :
    left = right := by
  have read := congrArg bytes same
  rw [bytes_ofText, bytes_ofText] at read
  exact utf8_injective (Except.ok.inj read)

end Base64

namespace Numeral

theorem digit_of_isDigit {char : Char} (digit : char.isDigit = true) :
    digit? char = some (char.toNat - '0'.toNat) :=
  if_pos digit

theorem toDigits_injective : Function.Injective (Nat.toDigits 10) := by
  intro left right same
  have read := congrArg (Nat.ofDigitChars 10 · 0) same
  simpa only [Nat.ofDigitChars_ten_toDigits] using read

theorem le_ofDigitChars (chars : List Char) (total : Nat) :
    total ≤ Nat.ofDigitChars 10 chars total := by
  rw [Nat.ofDigitChars_eq_ofDigitChars_zero]
  exact Nat.le_add_right_of_le (Nat.le_mul_of_pos_left total (Nat.pow_pos (by decide)))

def signed (negative : Bool) (number : Nat) : Int := if negative then -number else number

/-- No digit leaves the range if the whole number is in it. -/
theorem accumulate_digits {low high : Int} (least : low ≤ 0) (most : 0 ≤ high) {chars : List Char}
    (digits : ∀ char ∈ chars, char.isDigit = true) (negative : Bool) (total : Nat)
    (above : low ≤ signed negative (Nat.ofDigitChars 10 chars total))
    (below : signed negative (Nat.ofDigitChars 10 chars total) ≤ high) :
    accumulate low high negative (signed negative total) chars =
      .ok (signed negative (Nat.ofDigitChars 10 chars total)) := by
  induction chars generalizing total with
  | nil => rfl
  | cons char chars ih =>
      obtain ⟨first, others⟩ := List.forall_mem_cons.mp digits
      rw [accumulate, digit_of_isDigit first]
      rw [Nat.ofDigitChars_cons] at above below ⊢
      generalize char.toNat - '0'.toNat = digit at above below ⊢
      have next := le_ofDigitChars chars (10 * total + digit)
      have moved : (if negative then signed negative total * 10 - digit
          else signed negative total * 10 + digit) = signed negative (10 * total + digit) := by
        cases negative <;> simp [signed] <;> omega
      have inside : ¬ high < signed negative (10 * total + digit) ∧
          ¬ signed negative (10 * total + digit) < low := by
        cases negative <;> simp [signed] at above below ⊢ <;> omega
      simp only [moved]
      rw [if_neg inside.1, if_neg inside.2]
      exact ih others _ above below

section Range

variable {low high : Int} {number : Nat}

theorem accumulate_toDigits (least : low ≤ 0) (most : 0 ≤ high) {negative : Bool}
    (above : low ≤ signed negative number) (below : signed negative number ≤ high) :
    accumulate low high negative 0 (Nat.toDigits 10 number) = .ok (signed negative number) := by
  have digits : ∀ char ∈ Nat.toDigits 10 number, char.isDigit = true :=
    fun char member => Nat.isDigit_of_mem_toDigits (by decide) (by decide) member
  have whole := @Nat.ofDigitChars_ten_toDigits number
  have zero : signed negative 0 = 0 := by cases negative <;> rfl
  have read := accumulate_digits least most digits negative 0 (whole.symm ▸ above)
    (whole.symm ▸ below)
  rwa [whole, zero] at read

theorem readWithin_digits (least : low ≤ 0) (fits : (number : Int) ≤ high) :
    readWithin low high (Nat.toDigits 10 number) = .ok number := by
  have read : accumulate low high false 0 (Nat.toDigits 10 number) = .ok (number : Int) :=
    accumulate_toDigits least (by omega) (by simp [signed]; omega) (by simpa [signed] using fits)
  have digits : ∀ char ∈ Nat.toDigits 10 number, char.isDigit = true :=
    fun char member => Nat.isDigit_of_mem_toDigits (by decide) (by decide) member
  -- A numeral starts with a digit, so neither with a sign nor with nothing.
  unfold readWithin
  split
  · exact absurd ‹_› Nat.toDigits_ne_nil
  · simp_all
  · simp_all
  · simp_all
  · simp_all
  · exact read

theorem readWithin_minus (negatives : low < 0) (most : 0 ≤ high) (fits : low ≤ -(number : Int)) :
    readWithin low high ('-' :: Nat.toDigits 10 number) = .ok (-(number : Int)) := by
  have read : accumulate low high true 0 (Nat.toDigits 10 number) = .ok (-(number : Int)) :=
    accumulate_toDigits (by omega) most (by simpa [signed] using fits) (by simp [signed]; omega)
  unfold readWithin
  split
  · simp_all
  · simp_all
  · simp_all [Nat.toDigits_ne_nil]
  · simp_all
  · rename_i same
    cases same
    rw [if_pos negatives, read]
  · simp_all

end Range

theorem readInt64_toString (number : Int64) : readInt64 (toString number.toInt) = .ok number := by
  have within : readWithin Int64.minValue.toInt Int64.maxValue.toInt
      (toString number.toInt).toList = .ok number.toInt := by
    have least := Int64.minValue_le_toInt number
    have most := Int64.toInt_le number
    generalize number.toInt = value at least most ⊢
    cases value with
    | ofNat size =>
        have text : toString (Int.ofNat size) = toString size := rfl
        rw [text, Nat.toString_eq_ofList_toDigits, String.toList_ofList]
        exact readWithin_digits (by decide) most
    | negSucc size =>
        have text : toString (Int.negSucc size) = "-" ++ toString (size + 1) := rfl
        have minus : Int.negSucc size = -((size + 1 : Nat) : Int) := rfl
        have lead : "-".toList = ['-'] := rfl
        rw [text, minus, String.toList_append, lead, Nat.toString_eq_ofList_toDigits,
          String.toList_ofList, List.singleton_append]
        rw [minus] at least
        exact readWithin_minus (by decide) (by decide) least
  rw [readInt64, within]
  exact congrArg Except.ok number.ofInt_toInt

theorem readUInt64_toString {number : Nat} (fits : number < UInt64.size) :
    readUInt64 (toString number) = .ok (UInt64.ofNat number) := by
  rw [readUInt64, readNatBelow, Nat.toString_eq_ofList_toDigits, String.toList_ofList,
    readWithin_digits (by omega) (by omega)]
  rfl

end Numeral

theorem cutFirst_append {mark : Char} {before : List Char} (absent : mark ∉ before)
    (rest : List Char) : cutFirst mark (before ++ mark :: rest) = some (before, rest) := by
  induction before with
  | nil => simp [cutFirst]
  | cons char before ih =>
      rw [List.mem_cons, not_or] at absent
      obtain ⟨differs, others⟩ := absent
      rw [List.cons_append, cutFirst, if_neg (Ne.symm differs), ih others]
      rfl

theorem splitFirst_append {mark : Char} {before : String} (absent : mark ∉ before.toList)
    (rest : String) : splitFirst mark (before ++ String.singleton mark ++ rest) =
      some (before, rest) := by
  rw [splitFirst, String.toList_append, String.toList_append, String.toList_singleton,
    List.append_assoc, List.singleton_append, cutFirst_append absent]
  simp only [Option.map_some, String.ofList_toList]

end Text

namespace GlobalId

theorem colon_not_mem_name (kind : EntityKind) : ':' ∉ kind.name.toList := by
  cases kind <;> decide

theorem decode_encode (id : GlobalId) : decode id.encode = .ok id := by
  have parts : Text.splitFirst ':' id.plain = some (id.kind.name, toString id.key.toInt) :=
    Text.splitFirst_append (colon_not_mem_name id.kind) _
  have kind : EntityKind.read id.kind.name = .ok id.kind := by
    rw [EntityKind.read, EntityKind.ofName?_name]
  simp only [decode, encode, Text.Base64.bytes_ofText, Text.ofUtf8?_utf8, parts,
    Text.Numeral.readInt64_toString, kind, Except.mapError, bind, Except.bind]
  rfl

end GlobalId

namespace Cursor

theorem stripLead_append (lead rest : List Char) :
    Text.stripLead? lead (lead ++ rest) = some rest := by
  induction lead with
  | nil => rfl
  | cons mark marks ih => simpa [Text.stripLead?] using ih

theorem decode_encode {offset : Nat} (fits : offset < UInt64.size) :
    decode (encode offset) = .ok (UInt64.ofNat offset) := by
  have read : decode? (encode offset) = some (UInt64.ofNat offset) := by
    rw [decode?, encode, Text.Base64.bytes_ofText]
    simp only [Except.toOption, Option.bind_eq_bind, Option.bind_some, Text.ofUtf8?_utf8,
      String.toList_append, stripLead_append, String.ofList_toList]
    rw [Text.Numeral.readUInt64_toString fits]
  rw [decode, read]

theorem encode_injective : Function.Injective encode := by
  intro left right same
  have texts := congrArg String.toList (Text.Base64.ofText_injective same)
  rw [String.toList_append, String.toList_append, List.append_right_inj,
    Nat.toString_eq_ofList_toDigits, Nat.toString_eq_ofList_toDigits, String.toList_ofList,
    String.toList_ofList] at texts
  exact Text.Numeral.toDigits_injective texts

end Cursor

end Storefront
