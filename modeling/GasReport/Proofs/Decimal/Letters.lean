import GasReport.Decimal.Layout

namespace GasReport

/-- Control characters come before the blank, and these letters have none. -/
def Text.Visible (letters : List Char) : Prop := ∀ letter ∈ letters, ' ' ≤ letter

namespace Text

instance (letters : List Char) : Decidable (Visible letters) :=
  List.decidableBAll (' ' ≤ ·) letters

theorem Visible.append {first second : List Char} (visible : Visible first)
    (others : Visible second) : Visible (first ++ second) :=
  List.forall_mem_append.mpr ⟨visible, others⟩

theorem Visible.cons {letter : Char} {rest : List Char} (visible : ' ' ≤ letter)
    (others : Visible rest) : Visible (letter :: rest) :=
  List.forall_mem_cons.mpr ⟨visible, others⟩

/-- Part of a visible text is visible. -/
theorem Visible.sublist {part whole : List Char} (visible : Visible whole)
    (inside : part.Sublist whole) : Visible part :=
  fun letter given => visible letter (inside.subset given)

/-- No control character stands in a visible text. -/
theorem Visible.not_mem {letters : List Char} (visible : Visible letters) {letter : Char}
    (control : letter < ' ') : letter ∉ letters :=
  fun inside => absurd (visible letter inside) (Char.not_le.mpr control)

/-- A digit is no control character. -/
theorem le_of_isDigit {letter : Char} (digit : letter.isDigit = true) : ' ' ≤ letter := by
  rw [Char.isDigit, Bool.and_eq_true, decide_eq_true_eq] at digit
  exact Char.le_trans (by decide : ' ' ≤ '0') digit.1

/-- A natural number is written with digits. -/
theorem visible_repr (count : Nat) : Visible count.repr.toList := by
  intro letter inside
  rw [Nat.toList_repr] at inside
  exact le_of_isDigit (Nat.isDigit_of_mem_toDigits (by decide) (by decide) inside)

end Text

namespace Decimal

open Text

theorem visible_zeros (count : Nat) : Visible (zeros count) := by
  intro letter inside
  rw [List.eq_of_mem_replicate inside]
  decide

/-- Of the digits only zeros at the end are left out. -/
theorem Digits.visible_trim (number : Digits) : Visible number.trim.1 := by
  refine (visible_repr number.digits).sublist ?_
  have kept := (List.dropWhile_sublist (· == '0') (l := number.digits.repr.toList.reverse)).reverse
  rw [List.reverse_reverse] at kept
  exact kept

/-- A point and further zeros are visible, too. -/
theorem visible_positional {written : List Char} (visible : Visible written) (power : Int) :
    Visible (positional written power) := by
  rw [positional]
  split
  · exact visible.append (visible_zeros _)
  · split
    · exact (visible.sublist (List.take_sublist _ _)).append
        (.cons (by decide) (visible.sublist (List.drop_sublist _ _)))
    · exact .append (.cons (by decide) (.cons (by decide) (visible_zeros _))) visible

theorem visible_withSign (negative : Bool) {written : List Char} (visible : Visible written) :
    Visible (withSign negative written).toList := by
  rw [withSign, String.toList_ofList]
  split
  · exact .cons (by decide) visible
  · exact visible

theorem visible_nonFinite (negative : Bool) : Visible (nonFinite negative).toList := by
  cases negative <;> decide

/-- Every double is written without control characters. -/
theorem visible_plain (value : Float) : Visible (plain value).toList := by
  rw [plain]
  cases Binary.ofFloat value with
  | notANumber => decide
  | infinite negative => exact visible_nonFinite negative
  | finite negative mantissa exponent =>
      cases mantissa with
      | zero => exact visible_withSign negative (by decide)
      | succ below =>
          exact visible_withSign negative
            (visible_positional (Digits.visible_trim (shortest .up (below + 1) exponent)) _)

/-- A double with a fixed number of places is written without control characters. -/
theorem visible_fixed (places : Nat) (value : Float) : Visible (fixed places value).toList := by
  rw [fixed]
  cases Binary.ofFloat value with
  | notANumber => exact (by decide : Visible "NaN".toList)
  | infinite negative => exact visible_nonFinite negative
  | finite negative mantissa exponent =>
      apply visible_withSign
      have fraction := fun count => (visible_zeros count).cons (by decide : ' ' ≤ '.')
      exact ((visible_repr _).append (fraction _)).append (visible_repr _)

end Decimal

end GasReport
