import GasReport.Decimal.Binary

namespace GasReport.Decimal

/-- This says where a value goes that lies exactly between its two neighbours. -/
inductive Tie where
  | toEven
  | up
deriving DecidableEq

def Tie.roundsUp (tie : Tie) (below : Nat) : Bool :=
  match tie with
  | .toEven => below % 2 == 1
  | .up => true

/-- The nearer neighbour of the quotient wins, and a half goes where `tie` says. -/
def roundDiv (tie : Tie) (numerator denominator : Nat) : Nat :=
  let below := numerator / denominator
  let twice := 2 * (numerator % denominator)
  if twice < denominator then below
  else if twice = denominator then if tie.roundsUp below then below + 1 else below
  else below + 1

def Ratio.round (tie : Tie) (ratio : Ratio) : Nat :=
  roundDiv tie ratio.numerator ratio.denominator

/-- The rounded quotient is within half a unit of the quotient. -/
theorem roundDiv_within (tie : Tie) (numerator denominator : Nat) (positive : 0 < denominator) :
    2 * numerator ≤ 2 * (roundDiv tie numerator denominator * denominator) + denominator ∧
      2 * (roundDiv tie numerator denominator * denominator) ≤ 2 * numerator + denominator := by
  have split := Nat.div_add_mod numerator denominator
  have below := Nat.mod_lt numerator positive
  have next : (numerator / denominator + 1) * denominator =
      denominator * (numerator / denominator) + denominator := by
    rw [Nat.add_mul, Nat.one_mul, Nat.mul_comm]
  have same := Nat.mul_comm (numerator / denominator) denominator
  simp only [roundDiv]
  split
  · omega
  · split
    · split <;> omega
    · omega

def ofNat (negative : Bool) (value : Nat) : Float :=
  let magnitude := Float.ofScientific value false 0
  if negative then -magnitude else magnitude

/-- A whole number is its own result, and a half goes away from zero. -/
def roundWhole (value : Float) : Float :=
  match Binary.ofFloat value with
  | .finite negative mantissa exponent =>
    if 0 ≤ exponent then value
    else ofNat negative ((Ratio.ofPower 2 mantissa exponent).round .up)
  | _ => value

end GasReport.Decimal
