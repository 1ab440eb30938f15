import GasReport.Json.Number

namespace GasReport.Json

open Decimal

/-- Digits that follow make no number smaller. -/
theorem le_foldl_appendDigit (value : Nat) (digits : List Char) :
    value ≤ digits.foldl appendDigit value := by
  induction digits generalizing value with
  | nil => exact Nat.le_refl value
  | cons digit rest ih =>
      have appended : value ≤ appendDigit value digit := by
        simp only [appendDigit]
        omega
      exact Nat.le_trans appended (ih (appendDigit value digit))

namespace Significand

/-- What is taken stays within the word. -/
theorem take_lt {value : Nat} (within : value < Nat.pow 2 64) (digits : List Char) :
    (take value digits).1 < Nat.pow 2 64 := by
  induction digits generalizing value with
  | nil => exact within
  | cons digit rest ih =>
      simp only [take]
      split
      case isTrue longer => exact ih longer
      case isFalse => exact within

/-- All digits are taken when their value fits. -/
theorem take_of_fits {value : Nat} {digits : List Char}
    (fits : digits.foldl appendDigit value < Nat.pow 2 64) :
    take value digits = (digits.foldl appendDigit value, []) := by
  induction digits generalizing value with
  | nil => rfl
  | cons digit rest ih =>
      rw [List.foldl_cons] at fits ⊢
      have longer := Nat.lt_of_le_of_lt (le_foldl_appendDigit _ rest) fits
      simp only [take, if_pos longer]
      exact ih fits

/-- A significand is a word of 64 bits. -/
theorem value_lt (numeral : Numeral) : (ofNumeral numeral).value < Nat.pow 2 64 :=
  take_lt (take_lt (by decide) numeral.whole) numeral.decimals

/-- No digit is lost from a numeral whose digits fit the word. -/
theorem ofNumeral_of_fits {numeral : Numeral} (fits : numeral.digits < Nat.pow 2 64) :
    ofNumeral numeral = ⟨numeral.digits, numeral.power - numeral.decimals.length⟩ := by
  have joined : numeral.digits = numeral.decimals.foldl appendDigit (natural numeral.whole) :=
    List.foldl_append
  rw [joined] at fits ⊢
  have wholeFits := Nat.lt_of_le_of_lt (le_foldl_appendDigit _ numeral.decimals) fits
  have wholeTaken : take 0 numeral.whole = (natural numeral.whole, []) := take_of_fits wholeFits
  simp [ofNumeral, wholeTaken, take_of_fits fits]

/-- These digits fit, and still the number is read one place above the nearest double. -/
example :
    (Numeral.ofText? "51.248178375505404".toList).map (fun numeral =>
      ((ofNumeral numeral).toFloat?.map Float.toBits, numeral.toFloat.toBits)) =
      some (some 4632409357216853857, 4632409357216853856) := by
  decide +kernel

end Significand

end GasReport.Json
