import Storefront.Money
import Storefront.Proofs.Nearest
import Storefront.Proofs.Numerals
/-!
Prices as they are displayed. An amount becomes a floating-point number, its hundredth part another
one, and that is shown in two decimal places. Amounts that leave seven binary digits behind the
point come through exactly; of greater ones the last digits can be wrong.
-/

namespace Storefront

open Text Number

namespace Text.Numeral

def hundredths (count : Nat) : List Char :=
  Nat.toDigits 10 (count / 100) ++ '.' :: (padded 2 (count % 100)).toList

def ofHundredths (negative : Bool) (count : Nat) : String :=
  (if negative then "-" else "") ++ toString (count / 100) ++ "." ++ padded 2 (count % 100)

theorem toList_repr (number : Nat) : number.repr.toList = Nat.toDigits 10 number := by
  rw [Nat.repr_eq_ofList_toDigits, String.toList_ofList]

theorem repr_append_repr {rest : Nat} (two : rest < 100) :
    (rest / 10).repr ++ (rest % 10).repr = padded 2 rest := by
  have unit := Nat.toDigits_of_lt_base (show rest % 10 < 10 by omega)
  have ten := Nat.toDigits_of_lt_base (show rest / 10 < 10 by omega)
  rw [← String.toList_inj, String.toList_append, toList_padded, toList_repr, toList_repr, unit, ten]
  by_cases one : rest < 10
  · rw [Nat.div_eq_of_lt one, Nat.mod_eq_of_lt one, Nat.toDigits_of_lt_base one]
    rfl
  · rw [Nat.toDigits_of_base_le (by decide) (by omega), ten]
    simp

theorem toList_ofHundredths (negative : Bool) (count : Nat) :
    (ofHundredths negative count).toList =
      if negative then '-' :: hundredths count else hundredths count := by
  cases negative <;> simp [ofHundredths, hundredths]

theorem hundredths_inj {left right : Nat} (same : hundredths left = hundredths right) :
    left = right := by
  have noPoint := not_mem_toDigits (show '.'.isDigit = false by decide)
  have cut := congrArg (cutFirst '.') same
  rw [hundredths, hundredths, cutFirst_append (noPoint _), cutFirst_append (noPoint _),
    Option.some.injEq, Prod.mk.injEq] at cut
  obtain ⟨whole, rest⟩ := cut
  have sameWhole := toDigits_injective whole
  have sameRest := congrArg (Nat.ofDigitChars 10 · 0) rest
  simp only [ofDigitChars_padded] at sameRest
  omega

theorem hundredths_unsigned (left right : Nat) : '-' :: hundredths left ≠ hundredths right := by
  intro same
  have digit : '-' ∈ Nat.toDigits 10 (right / 100) := by
    rw [hundredths.eq_def right] at same
    rcases List.cons_eq_append_iff.mp same with ⟨none, -⟩ | ⟨others, front, -⟩
    · exact absurd none Nat.toDigits_ne_nil
    · rw [front]
      exact List.mem_cons_self
  exact not_isDigit_minus (Nat.isDigit_of_mem_toDigits (by decide) (by decide) digit)

theorem ofHundredths_inj {left right : Nat} {negative other : Bool}
    (same : ofHundredths negative left = ofHundredths other right) :
    negative = other ∧ left = right := by
  rw [← String.toList_inj, toList_ofHundredths, toList_ofHundredths] at same
  cases negative <;> cases other
  · exact ⟨rfl, hundredths_inj same⟩
  · exact absurd same.symm (hundredths_unsigned right left)
  · exact absurd same (hundredths_unsigned left right)
  · exact ⟨rfl, hundredths_inj (List.cons.inj same).2⟩

end Text.Numeral

namespace Number.Binary64

open Numeral (ofHundredths)

def shownHundredths (significand : Nat) (exponent : Int) : Nat :=
  quotientHalfEven (100 * (significand * powerTop exponent)) (powerBottom exponent)

theorem twoPlaces_finite (negative : Bool) (significand : Nat) (exponent : Int) :
    (finite negative significand exponent).twoPlaces =
      ofHundredths negative (shownHundredths significand exponent) := by
  have two := Nat.mod_lt (shownHundredths significand exponent) (show 0 < 100 by decide)
  rw [ofHundredths, ← Numeral.repr_append_repr two]
  cases negative <;> simp [twoPlaces, shownHundredths, String.append_assoc]

theorem shownHundredths_near (significand : Nat) (exponent : Int) :
    |(shownHundredths significand exponent : ℚ) - 100 * (significand * 2 ^ exponent)| ≤ 1 / 2 := by
  have near := quotientHalfEven_near (100 * (significand * powerTop exponent))
    (powerBottom_pos exponent)
  rw [← powerTop_div_powerBottom]
  push_cast at near
  rwa [mul_div_assoc, mul_div_assoc] at near

/-- A whole number is rounded before it is divided, and its hundredth part once more. -/
theorem hundredth_rounds {number : Int} (apart : number ≠ 0) (small : number.natAbs ≤ 2 ^ 63) :
    ∃ (held : ℚ) (significand : Nat) (exponent : Int),
      (ofInt number).divNat 100 = finite (decide (number < 0)) significand exponent ∧
      |held - number.natAbs| ≤ number.natAbs / 2 ^ 53 ∧
      (number.natAbs < 2 ^ 53 → held = number.natAbs) ∧
      Rounds (held / 100) significand exponent := by
  have least : (1 : ℚ) ≤ number.natAbs := by exact_mod_cast Int.natAbs_pos.mpr apart
  have most : (number.natAbs : ℚ) ≤ 2 ^ 63 := by exact_mod_cast small
  obtain ⟨whole, place, made, rounds⟩ := ofInt_rounds apart small
  have near := rounds.within
  obtain ⟨lower, upper⟩ := abs_le.mp near
  obtain ⟨significand, exponent, divided, again⟩ :=
    divNat_rounds (decide (number < 0)) (show 0 < 100 by decide)
      (show 1 / 128 ≤ (whole * 2 ^ place / (100 : Nat) : ℚ) by push_cast; linarith)
      (by push_cast; linarith)
  rw [Nat.cast_ofNat] at again
  refine ⟨whole * 2 ^ place, significand, exponent, by rw [made, divided], near, ?_, again⟩
  intro few
  have below : place + 52 < 53 := rounds.exponent_lt (by exact_mod_cast few)
  have onGrid : (number.natAbs : ℚ) = number.natAbs * 2 ^ (0 : Int) := by simp
  exact rounds.value_eq (by omega) onGrid

theorem twoPlaces_zero : ((ofInt 0).divNat 100).twoPlaces = ofHundredths false 0 := by
  decide +kernel

theorem twoPlaces_near {number : Int} (small : number.natAbs ≤ 2 ^ 63) :
    ∃ shown : Nat,
      ((ofInt number).divNat 100).twoPlaces = ofHundredths (decide (number < 0)) shown ∧
      |(shown : ℚ) - number.natAbs| ≤ number.natAbs / 2 ^ 52 + 1 := by
  by_cases apart : number = 0
  · subst apart
    exact ⟨0, twoPlaces_zero, by simp⟩
  · obtain ⟨held, significand, exponent, divided, whole, -, rounds⟩ := hundredth_rounds apart small
    refine ⟨shownHundredths significand exponent, by rw [divided, twoPlaces_finite], ?_⟩
    have most : (number.natAbs : ℚ) ≤ 2 ^ 63 := by exact_mod_cast small
    have part := rounds.within
    have shown := shownHundredths_near significand exponent
    rw [abs_le] at whole part shown ⊢
    constructor <;> linarith

/-- Hundredths are told apart while the grid of their number has seven binary digits behind the
point. -/
theorem shownHundredths_eq {count significand : Nat} {exponent : Int}
    (rounds : Rounds (count / 100) significand exponent) (few : count ≤ 100 * 2 ^ 46) :
    shownHundredths significand exponent = count := by
  have close : |significand * 2 ^ exponent - (count : ℚ) / 100| < 1 / 200 := by
    rcases Nat.lt_or_eq_of_le few with less | same
    · have small : (count : ℚ) < 2 ^ 46 * 100 := by exact_mod_cast less
      have below : exponent + 52 < 46 := rounds.exponent_lt ((div_lt_iff₀ (by norm_num)).mpr small)
      have step : (2 : ℚ) ^ exponent ≤ 2 ^ (-7 : Int) :=
        zpow_le_zpow_right₀ one_le_two (by omega)
      have near := rounds.near
      norm_num at step
      linarith
    -- The bound itself is on a coarser grid, but it is a whole number of units there.
    · have power : (count : ℚ) / 100 = (1 : Nat) * 2 ^ (46 : Int) := by
        rw [same]
        norm_num
      have below : exponent + 52 < 47 := rounds.exponent_lt (by rw [power]; norm_num)
      rw [rounds.value_eq (by omega) power]
      simp
  have shown := shownHundredths_near significand exponent
  rw [abs_le] at shown
  rw [abs_lt] at close
  exact eq_of_near (abs_lt.mpr (by constructor <;> linarith))

theorem twoPlaces_exact {number : Int} (few : number.natAbs ≤ 100 * 2 ^ 46) :
    ((ofInt number).divNat 100).twoPlaces =
      ofHundredths (decide (number < 0)) number.natAbs := by
  by_cases apart : number = 0
  · subst apart
    exact twoPlaces_zero
  · obtain ⟨held, significand, exponent, divided, -, kept, rounds⟩ :=
      hundredth_rounds apart (by omega)
    rw [kept (by omega)] at rounds
    rw [divided, twoPlaces_finite, shownHundredths_eq rounds few]

theorem twoPlaces_beyond :
    ((ofInt 7036874417766401).divNat 100).twoPlaces = ofHundredths false 7036874417766402 := by
  decide +kernel

end Number.Binary64

namespace Price

def spelledOut (price : Price) : String :=
  price.currency.code ++ " " ++
    Numeral.ofHundredths (decide (price.amount.toInt < 0)) price.amount.toInt.natAbs

variable {currency : Currency}

theorem display_mk (two : currency.decimalPlaces = 2) (amount : Int64) :
    (Price.mk amount currency).display =
      currency.code ++ " " ++ ((Binary64.ofInt amount.toInt).divNat 100).twoPlaces := by
  have hundred : currency.unitSize = 100 := by rw [Currency.unitSize, two]
  simp only [display, decimal, hundred, two]
  rfl

theorem spelledOut_inj {left right : Int64}
    (same : (Price.mk left currency).spelledOut = (Price.mk right currency).spelledOut) :
    left = right := by
  rw [spelledOut, spelledOut, String.append_right_inj] at same
  obtain ⟨side, count⟩ := Numeral.ofHundredths_inj same
  simp only [decide_eq_decide] at side count
  exact Int64.toInt_inj.mp (by omega)

theorem display_exact (two : currency.decimalPlaces = 2) {amount : Int64}
    (few : amount.toInt.natAbs ≤ 100 * 2 ^ 46) :
    (Price.mk amount currency).display = (Price.mk amount currency).spelledOut := by
  rw [display_mk two, Binary64.twoPlaces_exact few, spelledOut]

theorem display_beyond (two : currency.decimalPlaces = 2) :
    (Price.mk 7036874417766401 currency).display =
      (Price.mk 7036874417766402 currency).spelledOut := by
  rw [display_mk two, spelledOut]
  exact congrArg (currency.code ++ " " ++ ·) Binary64.twoPlaces_beyond

theorem natAbs_toInt_le (amount : Int64) : amount.toInt.natAbs ≤ 2 ^ 63 := by
  have low := amount.le_toInt
  have high := amount.toInt_lt
  omega

/-- A price with hundredths is shown as an amount that differs by at most a hundredth and a
rounding of 52 digits. It is shown exactly, and not as another price is, up to the bound from which
a hundredth part has fewer than seven binary digits behind the point. -/
theorem display_within (currency : Currency) (two : currency.decimalPlaces = 2) :
    (∀ amount : Int64, ∃ shown : Nat,
      (Price.mk amount currency).display = currency.code ++ " " ++
        Numeral.ofHundredths (decide (amount.toInt < 0)) shown ∧
      |(shown : ℚ) - amount.toInt.natAbs| ≤ amount.toInt.natAbs / 2 ^ 52 + 1) ∧
    (∀ bound : Nat,
      (∀ amount : Int64, amount.toInt.natAbs ≤ bound →
        (Price.mk amount currency).display = (Price.mk amount currency).spelledOut) ↔
      bound ≤ 100 * 2 ^ 46) ∧
    ∀ left right : Int64, left.toInt.natAbs ≤ 100 * 2 ^ 46 → right.toInt.natAbs ≤ 100 * 2 ^ 46 →
      (Price.mk left currency).display = (Price.mk right currency).display → left = right := by
  refine ⟨fun amount => ?_, fun bound => ⟨fun exact => ?_, fun low amount within => ?_⟩,
    fun left right fewLeft fewRight same => ?_⟩
  · obtain ⟨shown, told, near⟩ := Binary64.twoPlaces_near (natAbs_toInt_le amount)
    exact ⟨shown, by rw [display_mk two, told], near⟩
  · by_contra beyond
    have within : (7036874417766401 : Int64).toInt.natAbs ≤ bound := by
      have next : (7036874417766401 : Int64).toInt.natAbs = 100 * 2 ^ 46 + 1 := by decide
      omega
    have same := exact 7036874417766401 within
    rw [display_beyond two] at same
    exact absurd (spelledOut_inj same) (by decide)
  · exact display_exact two (Nat.le_trans within low)
  · rw [display_exact two fewLeft, display_exact two fewRight] at same
    exact spelledOut_inj same

theorem display_within_usd :
    Currency.usd.decimalPlaces = 2 ∧
      (Price.mk (-2999) .usd).display = "USD -29.99" ∧
      (Price.mk 7036874417766400 .usd).display = "USD 70368744177664.00" := by
  have exact := (display_within .usd rfl).2.1 (100 * 2 ^ 46) |>.mpr (Nat.le_refl _)
  exact ⟨rfl, (exact (-2999) (by decide)).trans (by decide +kernel),
    (exact 7036874417766400 (by decide)).trans (by decide +kernel)⟩

/-- Two prices are shown alike, and one of them as the other. -/
theorem display_not_exact :
    (Price.mk 7036874417766401 .usd).spelledOut = "USD 70368744177664.01" ∧
      (Price.mk 7036874417766401 .usd).display = "USD 70368744177664.02" ∧
      (Price.mk 7036874417766402 .usd).display = "USD 70368744177664.02" := by
  decide +kernel

end Price

end Storefront
