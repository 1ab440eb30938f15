namespace GasReport.Decimal

/-- This is the exact value that a double holds. -/
inductive Binary where
  | notANumber
  | infinite (negative : Bool)
  | finite (negative : Bool) (mantissa : Nat) (exponent : Int)

/-- A double is 1 sign bit, 11 bits of biased exponent and 52 bits of fraction. -/
def Binary.ofFloat (value : Float) : Binary :=
  let bits := value.toBits.toNat
  let negative := decide (Nat.pow 2 63 ≤ bits)
  let biased : Nat := bits / Nat.pow 2 52 % Nat.pow 2 11
  let fraction := bits % Nat.pow 2 52
  if biased = 2047 then
    if fraction = 0 then .infinite negative else .notANumber
  else if biased = 0 then .finite negative fraction (-1074)
  else .finite negative (Nat.pow 2 52 + fraction) ((biased : Int) - 1075)

/-- This is a natural number over a natural number, such as `mantissa · 2 ^ exponent`. -/
structure Ratio where
  numerator : Nat
  denominator : Nat

def Ratio.ofPower (base mantissa : Nat) (exponent : Int) : Ratio :=
  ⟨mantissa * Nat.pow base exponent.toNat, Nat.pow base (-exponent).toNat⟩

def Ratio.scale (ratio : Ratio) (base : Nat) (exponent : Int) : Ratio :=
  ⟨ratio.numerator * Nat.pow base exponent.toNat,
    ratio.denominator * Nat.pow base (-exponent).toNat⟩

def Ratio.floor (ratio : Ratio) : Nat :=
  ratio.numerator / ratio.denominator

end GasReport.Decimal
