import GasReport.Decimal.Numeral

/-!
Numbers of a document. A number that is not kept as an integer is read in two rounded steps: its
digits to a double, then one product or quotient with a power of ten. The result may lie a last
place off the nearest double.
-/

namespace GasReport.Json

/-- An integer keeps its value, and any other number is a double. -/
inductive Number where
  | integer (value : Int)
  | float (value : Float)

def Number.toFloat : Number → Float
  | .integer value => Decimal.ofNat (value < 0) value.natAbs
  | .float value => value

/-- These are the digits of a number that fit a word of 64 bits, and the power of ten that goes with
them. -/
structure Significand where
  value : Nat
  exponent : Int

/-- Digits are taken up to the first that does not fit the word, and the rest is given back. -/
def Significand.take (value : Nat) : List Char → Nat × List Char
  | [] => (value, [])
  | digit :: rest =>
    let longer := Decimal.appendDigit value digit
    if longer < Nat.pow 2 64 then take longer rest else (value, digit :: rest)

/-- A digit before the point that is not taken still counts as a place, and one after the point is
ignored. -/
def Significand.ofNumeral (numeral : Decimal.Numeral) : Significand :=
  let (high, beyond) := take 0 numeral.whole
  let (value, ignored) := take high numeral.decimals
  ⟨value, numeral.power + beyond.length - (numeral.decimals.length - ignored.length)⟩

/-- This is the greatest power of ten that a double holds. -/
def greatestPower : Nat := 308

def tenTo (places : Nat) : Float := Float.ofScientific 1 false places

/-- Two divisions by the greatest power leave nothing of a word, and zero is not divided further. -/
def divideOut (value : Float) : Nat → Float
  | 0 => value
  | times + 1 => if value == 0.0 then value else divideOut (value / tenTo greatestPower) times

/-- A number beyond the greatest double is refused. -/
def Significand.toFloat? (significand : Significand) : Option Float :=
  let value := Decimal.ofNat false significand.value
  if significand.exponent < 0 then
    let places := significand.exponent.natAbs
    let times := (places - 1) / greatestPower
    some (divideOut value times / tenTo (places - times * greatestPower))
  else if significand.exponent ≤ greatestPower then
    let product := value * tenTo significand.exponent.toNat
    if product.isFinite then some product else none
  else if significand.value = 0 then some value
  else none

/-- Integers are kept from the least signed to the greatest unsigned word of 64 bits. -/
def Number.ofNumeral? (numeral : Decimal.Numeral) : Option Number :=
  let other := (Significand.ofNumeral numeral).toFloat?.map fun magnitude =>
    Number.float (if numeral.negative then -magnitude else magnitude)
  match numeral.toInt? with
  | some value =>
    if -(Nat.pow 2 63 : Int) ≤ value ∧ value < Nat.pow 2 64 then some (.integer value) else other
  | none => other

end GasReport.Json
