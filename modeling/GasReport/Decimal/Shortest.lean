import GasReport.Decimal.Rounding

/-!
The shortest decimal that reads back as a given double. Of all decimals inside the interval of reals
that round to the double, the one on the coarsest decimal grid is taken, and of two such the nearer.
-/

namespace GasReport.Decimal

/-- This is the number `digits · 10 ^ power`. -/
structure Digits where
  digits : Nat
  power : Int
deriving DecidableEq

/-- These are the value and the two ends of the interval that rounds to it, in one unit. -/
structure Interval where
  low : Nat
  value : Nat
  high : Nat
  inclusive : Bool
  unit : Int

/-- The ends lie halfway to the neighbouring doubles, and below a power of two the neighbour is
twice as near. An end rounds to an even mantissa. -/
def Interval.around (mantissa : Nat) (exponent : Int) : Interval where
  low := 4 * mantissa - (if mantissa = Nat.pow 2 52 ∧ -1074 < exponent then 1 else 2)
  value := 4 * mantissa
  high := 4 * mantissa + 2
  inclusive := mantissa % 2 == 0
  unit := exponent - 2

def Interval.holds (interval : Interval) (scale : Ratio) (candidate : Nat) : Bool :=
  let point := candidate * scale.denominator
  let low := interval.low * scale.numerator
  let high := interval.high * scale.numerator
  if interval.inclusive then low ≤ point && point ≤ high else low < point && point < high

/-- This is the least number of places before the point, negative when zeros follow the point. -/
def magnitude (mantissa : Nat) (exponent : Int) : Int :=
  let value := Ratio.ofPower 2 mantissa exponent
  if value.denominator ≤ value.numerator then value.floor.repr.length
  else 1 - ((value.denominator - 1) / value.numerator).repr.length

/-- Of the two grid neighbours of the value, this is the one inside the interval, or the nearer one
when both are. -/
def Interval.onGrid? (tie : Tie) (interval : Interval) (power : Int) : Option Nat :=
  let scale := (Ratio.ofPower 2 1 interval.unit).scale 10 (-power)
  let below := interval.value * scale.numerator / scale.denominator
  match interval.holds scale below, interval.holds scale (below + 1) with
  | true, true => some (roundDiv tie (interval.value * scale.numerator) scale.denominator)
  | true, false => some below
  | false, true => some (below + 1)
  | false, false => none

def Interval.firstGrid (tie : Tie) (interval : Interval) (top : Int) : List Nat → Digits
  | [] => ⟨interval.value, 0⟩
  | count :: rest =>
    match interval.onGrid? tie (top - count) with
    | some digits => ⟨digits, top - count⟩
    | none => interval.firstGrid tie top rest

/-- Seventeen digits tell any two doubles apart. -/
def shortest (tie : Tie) (mantissa : Nat) (exponent : Int) : Digits :=
  if mantissa = 0 then ⟨0, 0⟩
  else (Interval.around mantissa exponent).firstGrid tie (magnitude mantissa exponent)
    (List.range' 1 17)

end GasReport.Decimal
