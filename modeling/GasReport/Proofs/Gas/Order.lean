import GasReport.Gas.Percentage
import Mathlib

/-!
The order of amounts of gas. Every double that is a number has a place on a line, and numbers are
compared by their places; nothing is before or after a double that is no number. Main statements:
the comparisons of doubles told by the places, and that a lower amount excludes a higher one.
-/

namespace GasReport.Gas

open Float.Model (UnpackedFloat Format)
open Float.Model.UnpackedFloat

/-- This is the place of a double on the line of numbers, counted in doubles from zero. Both zeros
stand at zero. -/
def position (gas : Gas) : Int :=
  let bits := gas.toBits.toNat
  if bits < Nat.pow 2 63 then bits else -((bits - Nat.pow 2 63 : Nat) : Int)

/-- This says where a number stands, by its sign, its mantissa and its exponent. -/
inductive Placed : UnpackedFloat → Int → Prop
  | zero (sign : Sign) : Placed (.zero sign) (sign.apply 0)
  | infinite (sign : Sign) : Placed (.infinity sign) (sign.apply (2047 * 2 ^ 52))
  | finite (sign : Sign) {mantissa steps : Nat} {exponent : Int} (positive : 0 < mantissa)
      (short : mantissa < 2 ^ 53) (full : steps = 0 ∨ 2 ^ 52 ≤ mantissa) (below : steps < 2046)
      (scaled : exponent = steps - 1074) :
      Placed (.finite sign mantissa exponent positive) (sign.apply (steps * 2 ^ 52 + mantissa))

/-- The exponent stands above 52 bits, 11 bits wide. -/
theorem toNat_unpackExponent (bits : BitVec 64) :
    (@unpackExponent Format.binary64 bits).toNat = bits.toNat / 2 ^ 52 % 2 ^ 11 := by
  simp [unpackExponent, Nat.shiftRight_eq_div_pow]

/-- The mantissa is the lowest 52 bits. -/
theorem toNat_unpackMantissa (bits : BitVec 64) :
    (@unpackMantissa Format.binary64 bits).toNat = bits.toNat % 2 ^ 52 := by
  simp [unpackMantissa]

theorem toNat_whole (mantissa : BitVec 52) : (1#1 ++ mantissa).toNat = 2 ^ 52 + mantissa.toNat := by
  rw [BitVec.toNat_append, ← Nat.shiftLeft_add_eq_or_of_lt mantissa.isLt]
  rfl

/-- The highest bit is the sign. -/
theorem ofBitVec_unpackSign (bits : BitVec 64) :
    Sign.ofBitVec (@unpackSign Format.binary64 bits) =
      if bits.toNat < 2 ^ 63 then .positive else .negative := by
  have bound := bits.isLt
  have sign : (@unpackSign Format.binary64 bits).toNat = bits.toNat / 2 ^ 63 % 2 := by
    simp [unpackSign, Nat.shiftRight_eq_div_pow]
  have positive : @unpackSign Format.binary64 bits = 0#1 ↔ bits.toNat < 2 ^ 63 := by
    rw [← BitVec.toNat_inj, sign, BitVec.toNat_ofNat]
    omega
  rw [Sign.ofBitVec, if_congr positive rfl rfl]

/-- The bits below the sign are the distance from zero. -/
theorem position_eq (gas : Gas) (distance : Int)
    (same : distance = (gas.toBits.toNat % 2 ^ 63 : Nat)) :
    position gas =
      (Sign.ofBitVec (@unpackSign Format.binary64 gas.toBits.toBitVec)).apply distance := by
  have bound := gas.toBits.toNat_lt
  rw [ofBitVec_unpackSign, UInt64.toNat_toBitVec]
  change (if gas.toBits.toNat < 2 ^ 63 then (gas.toBits.toNat : Int)
    else -((gas.toBits.toNat - 2 ^ 63 : Nat) : Int)) = _
  split <;> simp only [Sign.apply] <;> omega

/-- Every number has its place. -/
theorem placed {gas : Gas} (number : gas.isNaN = false) :
    Placed gas.toModel.unpack (position gas) := by
  have exponent := toNat_unpackExponent gas.toBits.toBitVec
  have mantissa := toNat_unpackMantissa gas.toBits.toBitVec
  have short := (@unpackMantissa Format.binary64 gas.toBits.toBitVec).isLt
  rw [UInt64.toNat_toBitVec] at exponent mantissa
  change (unpack Format.binary64 gas.toBits.toBitVec).isNaN = false at number
  change Placed (unpack Format.binary64 gas.toBits.toBitVec) _
  rw [unpack] at number ⊢
  -- The exponent is the highest, the least or one between, and only the last has the hidden bit.
  split at number
  case isTrue infinite =>
      rw [infinite] at exponent
      change 2047 = _ at exponent
      split at number
      case isTrue bare =>
          rw [bare] at mantissa
          change 0 = _ at mantissa
          rw [if_pos infinite, if_pos bare, position_eq gas (2047 * 2 ^ 52) (by omega)]
          exact .infinite _
      case isFalse => cases number
  case isFalse finite =>
      rw [if_neg finite]
      split
      case isTrue least =>
          rw [least] at exponent
          change 0 = _ at exponent
          split
          case isTrue bare =>
              rw [bare] at mantissa
              change 0 = _ at mantissa
              rw [position_eq gas (0) (by omega)]
              exact .zero _
          case isFalse filled =>
              rw [position_eq gas ((0 : Nat) * 2 ^ 52 +
                (@unpackMantissa Format.binary64 gas.toBits.toBitVec).toNat) (by omega)]
              exact .finite _ _ (by omega) (Or.inl rfl) (by omega) (by rw [least]; rfl)
      case isFalse normal =>
          have positive : (@unpackExponent Format.binary64 gas.toBits.toBitVec).toNat ≠ 0 :=
            fun none => normal (BitVec.eq_of_toNat_eq none)
          have below : (@unpackExponent Format.binary64 gas.toBits.toBitVec).toNat ≠ 2047 :=
            fun all => finite (BitVec.eq_of_toNat_eq all)
          have whole := toNat_whole (@unpackMantissa Format.binary64 gas.toBits.toBitVec)
          rw [position_eq gas (
            ((@unpackExponent Format.binary64 gas.toBits.toBitVec).toNat - 1 : Nat) * 2 ^ 52 +
              (1#1 ++ @unpackMantissa Format.binary64 gas.toBits.toBitVec).toNat) (by omega)]
          refine .finite _ _ (by omega) (Or.inr (by omega)) (by omega) ?_
          change _ - (1023 + 52) = _
          omega

/-- Mantissas count only where the exponents are equal. -/
theorem compares_finite {mantissa otherMantissa steps otherSteps : Nat}
    (short : mantissa < 2 ^ 53) (otherShort : otherMantissa < 2 ^ 53)
    (full : steps = 0 ∨ 2 ^ 52 ≤ mantissa) (otherFull : otherSteps = 0 ∨ 2 ^ 52 ≤ otherMantissa) :
    ((compare ((steps : Int) - 1074) ((otherSteps : Int) - 1074)).then
      (compare mantissa otherMantissa)).Compares
        ((steps : Int) * 2 ^ 52 + mantissa) ((otherSteps : Int) * 2 ^ 52 + otherMantissa) := by
  cases exponents : compare ((steps : Int) - 1074) ((otherSteps : Int) - 1074) with
  | lt =>
      rw [Int.compare_eq_lt] at exponents
      change _ < _
      omega
  | gt =>
      rw [Int.compare_eq_gt] at exponents
      change _ < _
      omega
  | eq =>
      rw [Int.compare_eq_eq] at exponents
      cases mantissas : compare mantissa otherMantissa with
      | lt =>
          rw [Nat.compare_eq_lt] at mantissas
          change _ < _
          omega
      | gt =>
          rw [Nat.compare_eq_gt] at mantissas
          change _ < _
          omega
      | eq =>
          rw [Nat.compare_eq_eq] at mantissas
          change _ = _
          omega

/-- The order turns when both places are mirrored. -/
theorem compares_neg {order : Ordering} {here there : Int} (compares : order.Compares here there) :
    order.swap.Compares (-here) (-there) := by
  cases order with
  | lt => exact Int.neg_lt_neg compares
  | eq => exact congrArg Neg.neg compares
  | gt => exact Int.neg_lt_neg compares

/-- Numbers are compared by their places. -/
theorem compares_of_placed {first second : UnpackedFloat} {here there : Int}
    (firstPlaced : Placed first here) (secondPlaced : Placed second there) :
    ∃ order, first.compare second = some order ∧ order.Compares here there := by
  -- Kinds and signs decide, except between two finite numbers of one sign.
  cases firstPlaced with
  | zero sign =>
      cases secondPlaced with
      | zero other => exact ⟨.eq, rfl, by cases sign <;> cases other <;> rfl⟩
      | infinite other | finite other positive =>
          cases sign <;> cases other
          all_goals exact ⟨_, rfl, by simp only [Ordering.Compares, Sign.apply]; omega⟩
  | infinite sign =>
      cases secondPlaced with
      | infinite other =>
          refine ⟨compare sign other, by cases sign <;> cases other <;> rfl, ?_⟩
          cases sign <;> cases other
          case negative.negative => exact rfl
          case positive.positive => exact rfl
          all_goals
            simp only [compare, Ordering.Compares, Sign.apply]
            omega
      | zero other | finite other positive =>
          cases sign <;> cases other
          all_goals exact ⟨_, rfl, by simp only [Ordering.Compares, Sign.apply]; omega⟩
  | finite sign positive short full below scaled =>
      cases secondPlaced with
      | zero other | infinite other =>
          cases sign <;> cases other
          all_goals exact ⟨_, rfl, by simp only [Ordering.Compares, Sign.apply]; omega⟩
      | finite other otherPositive otherShort otherFull otherBelow otherScaled =>
          have magnitudes := compares_finite short otherShort full otherFull
          subst scaled otherScaled
          cases sign <;> cases other
          case positive.positive => exact ⟨_, rfl, magnitudes⟩
          case negative.negative => exact ⟨_, rfl, compares_neg magnitudes⟩
          all_goals exact ⟨_, rfl, by simp only [Ordering.Compares, Sign.apply]; omega⟩

/-- What is no number has no order. -/
theorem numbers_of_compare {first second : Gas} {order : Ordering}
    (compared : first.toModel.unpack.compare second.toModel.unpack = some order) :
    first.isNaN = false ∧ second.isNaN = false := by
  change first.toModel.unpack.isNaN = false ∧ second.toModel.unpack.isNaN = false
  cases firstForm : first.toModel.unpack with
  | notANumber =>
      rw [firstForm] at compared
      cases compared
  | infinity | zero | finite =>
      cases secondForm : second.toModel.unpack with
      | notANumber =>
          rw [firstForm, secondForm] at compared
          simp [UnpackedFloat.compare] at compared
      | infinity | zero | finite => exact ⟨rfl, rfl⟩

/-- Two doubles are in order as their places are, if both are numbers. -/
theorem compare_eq_some_iff {first second : Gas} {order : Ordering} :
    first.toModel.unpack.compare second.toModel.unpack = some order ↔
      (first.isNaN = false ∧ second.isNaN = false) ∧
        order.Compares (position first) (position second) := by
  constructor
  · intro compared
    have numbers := numbers_of_compare compared
    obtain ⟨other, same, places⟩ := compares_of_placed (placed numbers.1) (placed numbers.2)
    cases same.symm.trans compared
    exact ⟨numbers, places⟩
  · intro ⟨numbers, places⟩
    obtain ⟨other, same, otherPlaces⟩ := compares_of_placed (placed numbers.1) (placed numbers.2)
    rw [same, otherPlaces.inj places]

/-- An amount is lower when both are numbers and its place is before the other. -/
theorem lt_iff {first second : Gas} :
    first < second ↔ (first.isNaN = false ∧ second.isNaN = false) ∧
      position first < position second := by
  have compared : first < second ↔
      first.toModel.unpack.compare second.toModel.unpack = some .lt := by
    change decide ((_ == some Ordering.lt) = true) = true ↔ _
    rw [decide_eq_true_iff, beq_iff_eq]
  exact compared.trans compare_eq_some_iff

/-- Two numbers are equal at the same place, so both zeros are equal. -/
theorem beq_iff {first second : Gas} :
    (first == second) = true ↔ (first.isNaN = false ∧ second.isNaN = false) ∧
      position first = position second := by
  have compared : (first == second) = true ↔
      first.toModel.unpack.compare second.toModel.unpack = some .eq := by
    change (_ == some Ordering.eq) = true ↔ _
    rw [beq_iff_eq]
  exact compared.trans compare_eq_some_iff

/-- An amount is at most another when its place is not behind. -/
theorem le_iff {first second : Gas} :
    first ≤ second ↔ (first.isNaN = false ∧ second.isNaN = false) ∧
      position first ≤ position second := by
  have compared : first ≤ second ↔
      (first.toModel.unpack.compare second.toModel.unpack).any (·.isLE) = true := by
    change decide (_ = true) = true ↔ _
    rw [decide_eq_true_iff]
    rfl
  rw [compared, Option.any_eq_true]
  constructor
  · intro ⟨order, found, least⟩
    obtain ⟨numbers, places⟩ := compare_eq_some_iff.mp found
    refine ⟨numbers, ?_⟩
    cases order with
    | lt => exact Int.le_of_lt places
    | eq => exact Int.le_of_eq places
    | gt => cases least
  · intro ⟨numbers, atMost⟩
    rcases Int.lt_or_eq_of_le atMost with less | same
    · exact ⟨.lt, compare_eq_some_iff.mpr ⟨numbers, less⟩, rfl⟩
    · exact ⟨.eq, compare_eq_some_iff.mpr ⟨numbers, same⟩, rfl⟩

/-- A lower amount excludes a higher one. -/
theorem lt_asymm {first second : Gas} (less : first < second) : ¬ second < first := by
  intro greater
  have places := (lt_iff.mp less).2
  have otherPlaces := (lt_iff.mp greater).2
  omega

/-- Nothing that costs less than zero gas is admitted, so whatever costs more than something is not
free. -/
theorem nonzero_of_lt {first second : Gas} (less : first < second) (admitted : ¬ first < 0.0) :
    (second == 0.0) = false := by
  have zero : position 0.0 = 0 := by decide +kernel
  obtain ⟨⟨firstNumber, secondNumber⟩, places⟩ := lt_iff.mp less
  rw [Bool.eq_false_iff]
  intro free
  have same := (beq_iff.mp free).2
  exact admitted (lt_iff.mpr ⟨⟨firstNumber, by decide +kernel⟩, by omega⟩)

end GasReport.Gas
