import GasReport.Proofs.Gas.Order

namespace GasReport

open Float.Model (UnpackedFloat Format)
open Float.Model.UnpackedFloat

namespace Gas

/-- Rounding gives a number. -/
theorem isNaN_roundWithAccuracy (sign : Sign) (mantissa : Nat) (exponent : Int)
    (accuracy : Accuracy) :
    (roundWithAccuracy Format.binary64 sign mantissa exponent accuracy).isNaN = false := by
  rw [roundWithAccuracy]
  dsimp only
  split <;> rfl

theorem isNaN_normalize (mantissa exponent : Int) (sign : Sign) :
    (UnpackedFloat.normalize Format.binary64 mantissa exponent sign).isNaN = false := by
  rw [UnpackedFloat.normalize]
  split
  · exact isNaN_roundWithAccuracy _ _ _ _
  · rfl
  · exact isNaN_roundWithAccuracy _ _ _ _

/-- The double that stands for no number has the highest exponent and a mantissa that is not zero.
-/
theorem pack_ne_packedNaN {result : UnpackedFloat} (number : result.isNaN = false) :
    pack Format.binary64 result ≠ packedNaN Format.binary64 := by
  intro same
  have exponents := congrArg (@unpackExponent Format.binary64) same
  have mantissas := congrArg (@unpackMantissa Format.binary64) same
  rw [packedNaN, unpackExponent_packComponents] at exponents
  rw [packedNaN, unpackMantissa_packComponents] at mantissas
  cases result with
  | notANumber => cases number
  | infinity sign =>
      rw [pack, packedInfinity, unpackMantissa_packComponents] at mantissas
      exact absurd mantissas (by decide)
  | zero sign =>
      rw [pack, packedZero, unpackExponent_packComponents] at exponents
      exact absurd exponents (by decide)
  | finite sign mantissa exponent positive =>
      rw [pack] at exponents mantissas
      dsimp only at exponents mantissas
      split at exponents
      case isTrue above =>
          rw [if_pos above, packedInfinity, unpackMantissa_packComponents] at mantissas
          exact absurd mantissas (by decide)
      case isFalse below =>
          split at exponents
          case isTrue =>
              rw [unpackExponent_packComponents] at exponents
              have places := congrArg BitVec.toNat exponents
              rw [BitVec.toNat_ofNat] at places
              change _ % 2 ^ 11 = 2047 at places
              change ¬ 2 ^ 11 ≤ _ at below
              omega
          case isFalse =>
              rw [unpackExponent_packComponents] at exponents
              exact absurd exponents (by decide)

/-- A number is still one when it is packed into bits. -/
theorem isNaN_unpack_pack {result : UnpackedFloat} (number : result.isNaN = false) :
    (unpack Format.binary64 (pack Format.binary64 result)).isNaN = false := by
  rw [Bool.eq_false_iff, Ne, isNaN_unpack_iff_of_valid valid_pack]
  exact pack_ne_packedNaN number

/-- This is a finite amount apart from zero. -/
def IsDivisor (gas : Gas) : Prop :=
  ∃ sign mantissa exponent positive,
    gas.toModel.unpack = .finite sign mantissa exponent positive

/-- A finite double other than zero may be divided by. -/
theorem isDivisor {gas : Gas} (finite : gas.isFinite = true) (nonzero : (gas == 0.0) = false) :
    gas.IsDivisor := by
  change gas.toModel.unpack.isFinite = true at finite
  cases form : gas.toModel.unpack with
  | notANumber | infinity =>
      rw [form] at finite
      cases finite
  | zero sign =>
      have compared : gas.toModel.unpack.compare (0.0 : Gas).toModel.unpack = some .eq := by
        rw [form]
        rfl
      rw [beq_iff.mpr (compare_eq_some_iff.mp compared)] at nonzero
      cases nonzero
  | finite sign mantissa exponent positive => exact ⟨sign, mantissa, exponent, positive, form⟩

/-- The difference of finite amounts is a number. -/
theorem isNaN_sub {first second : Gas} (finite : first.isFinite = true)
    (otherFinite : second.isFinite = true) : (first - second).isNaN = false := by
  change first.toModel.unpack.isFinite = true at finite
  change second.toModel.unpack.isFinite = true at otherFinite
  apply isNaN_unpack_pack
  cases firstForm : first.toModel.unpack with
  | notANumber | infinity =>
      rw [firstForm] at finite
      cases finite
  | zero sign =>
      cases secondForm : second.toModel.unpack with
      | notANumber | infinity =>
          rw [secondForm] at otherFinite
          cases otherFinite
      | zero other => cases sign <;> cases other <;> rfl
      | finite => rfl
  | finite =>
      cases secondForm : second.toModel.unpack with
      | notANumber | infinity =>
          rw [secondForm] at otherFinite
          cases otherFinite
      | zero => rfl
      | finite => exact isNaN_normalize _ _ _

/-- A quotient by a divisor is a number. -/
theorem isNaN_div {first second : Gas} (number : first.isNaN = false) (divisor : second.IsDivisor) :
    (first / second).isNaN = false := by
  change first.toModel.unpack.isNaN = false at number
  obtain ⟨sign, mantissa, exponent, positive, secondForm⟩ := divisor
  apply isNaN_unpack_pack
  rw [secondForm]
  cases firstForm : first.toModel.unpack with
  | notANumber =>
      rw [firstForm] at number
      cases number
  | infinity | zero => rfl
  | finite => exact isNaN_roundWithAccuracy _ _ _ _

/-- A product with a divisor is a number. -/
theorem isNaN_mul {first second : Gas} (number : first.isNaN = false) (divisor : second.IsDivisor) :
    (first * second).isNaN = false := by
  change first.toModel.unpack.isNaN = false at number
  obtain ⟨sign, mantissa, exponent, positive, secondForm⟩ := divisor
  apply isNaN_unpack_pack
  rw [secondForm]
  cases firstForm : first.toModel.unpack with
  | notANumber =>
      rw [firstForm] at number
      cases number
  | infinity | zero => rfl
  | finite => exact isNaN_roundWithAccuracy _ _ _ _

theorem isNaN_neg {gas : Gas} (number : gas.isNaN = false) : (-gas).isNaN = false := by
  change gas.toModel.unpack.isNaN = false at number
  apply isNaN_unpack_pack
  cases form : gas.toModel.unpack with
  | notANumber =>
      rw [form] at number
      cases number
  | infinity | zero | finite => rfl

theorem isNaN_scientific (digits : Nat) (power : Int) :
    (ofScientific Format.binary64 digits power).isNaN = false := by
  rw [ofScientific]
  split
  · rfl
  split
  · rfl
  split
  · rfl
  split
  · exact isNaN_roundWithAccuracy _ _ _ _
  · exact isNaN_roundWithAccuracy _ _ _ _

/-- A natural number is read as a number. -/
theorem isNaN_ofScientific (digits : Nat) : (Float.ofScientific digits false 0).isNaN = false := by
  rw [Float.ofScientific]
  -- Short numbers are converted as words of 64 bits, and the others by the general rule.
  split
  case isTrue =>
      have one : IsDivisor (Float.ofBits 0x3FF0000000000000) :=
        isDivisor (by decide +kernel) (by decide +kernel)
      exact isNaN_mul (isNaN_unpack_pack (isNaN_normalize _ _ _)) one
  case isFalse => exact isNaN_unpack_pack (isNaN_scientific _ _)

/-- Rounding to a whole number keeps numbers numbers. -/
theorem isNaN_roundWhole {gas : Gas} (number : gas.isNaN = false) :
    (Decimal.roundWhole gas).isNaN = false := by
  rw [Decimal.roundWhole]
  split
  case h_1 =>
      split
      · exact number
      · rw [Decimal.ofNat]
        split
        · exact isNaN_neg (isNaN_ofScientific _)
        · exact isNaN_ofScientific _
  case h_2 => exact number

end Gas

namespace Percentage

/-- This is a number other than the negative zero. -/
structure Proper (percentage : Percentage) : Prop where
  number : percentage.value.isNaN = false
  unsigned : percentage.value.toBits.toNat ≠ Nat.pow 2 63

/-- A rounded percentage is a number and no negative zero. -/
theorem proper_round {value : Float} (number : value.isNaN = false) : (round value).Proper := by
  have hundred : Gas.IsDivisor 100.0 :=
    Gas.isDivisor (by decide +kernel) (by decide +kernel)
  have rounded : (Decimal.roundWhole (value * 100.0) / 100.0).isNaN = false :=
    Gas.isNaN_div (Gas.isNaN_roundWhole (Gas.isNaN_mul number hundred)) hundred
  rw [round]
  split
  case isTrue => exact ⟨by decide +kernel, by decide +kernel⟩
  case isFalse nonzero =>
      refine ⟨rounded, ?_⟩
      intro bits
      apply nonzero
      rw [Gas.beq_iff]
      refine ⟨⟨rounded, by decide +kernel⟩, ?_⟩
      rw [Gas.position, bits]
      decide +kernel

/-- Only the values below zero stand one place lower. -/
theorem order_eq {percentage : Percentage} (proper : percentage.Proper) :
    percentage.order =
      if 0 ≤ Gas.position percentage.value then Gas.position percentage.value
      else Gas.position percentage.value - 1 := by
  have unsigned := proper.unsigned
  simp only [Gas.position, order]
  split
  case isTrue => rw [if_pos (by omega)]
  case isFalse => rw [if_neg (by omega)]

/-- Proper percentages are ordered as their values are. -/
theorem le_iff_order_le {first second : Percentage} (proper : first.Proper)
    (otherProper : second.Proper) : first.value ≤ second.value ↔ first.order ≤ second.order := by
  rw [Gas.le_iff, and_iff_right ⟨proper.number, otherProper.number⟩, order_eq proper,
    order_eq otherProper]
  split <;> split <;> omega

/-- Percentages of one value stand at one place of the order. -/
theorem order_eq_of_beq {first second : Percentage} {value : Float} (proper : first.Proper)
    (otherProper : second.Proper) (same : (first.value == value) = true)
    (otherSame : (second.value == value) = true) : first.order = second.order := by
  have places := (Gas.beq_iff.mp same).2.trans (Gas.beq_iff.mp otherSame).2.symm
  rw [order_eq proper, order_eq otherProper, places]

end Percentage

/-- A difference of finite amounts is a number. -/
theorem proper_of_difference? {gas base : Gas} {difference : Percentage}
    (finite : gas.isFinite = true) (baseFinite : base.isFinite = true)
    (found : difference? gas base = some difference) : difference.Proper := by
  rw [difference?] at found
  split at found
  case isTrue => cases found
  case isFalse nonzero =>
      cases found
      apply Percentage.proper_round
      apply Gas.isNaN_mul
      · exact Gas.isNaN_div (Gas.isNaN_sub finite baseFinite)
          (Gas.isDivisor baseFinite (Bool.eq_false_iff.mpr nonzero))
      · exact Gas.isDivisor (by decide +kernel) (by decide +kernel)

end GasReport
