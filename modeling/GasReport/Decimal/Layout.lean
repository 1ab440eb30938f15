import GasReport.Decimal.Shortest

namespace GasReport.Decimal

/-- Digits are written without the zeros that end them, which move into the power. -/
def Digits.trim (number : Digits) : List Char × Int :=
  let written := number.digits.repr.toList
  let kept := (written.reverse.dropWhile (· == '0')).reverse
  (kept, number.power + (written.length - kept.length))

def zeros (count : Nat) : List Char := List.replicate count '0'

/-- This places the point before the digits, among them or after them. -/
def positional (written : List Char) (power : Int) : List Char :=
  let point := written.length + power
  if 0 ≤ power then written ++ zeros power.toNat
  else if 0 < point then written.take point.toNat ++ '.' :: written.drop point.toNat
  else '0' :: '.' :: zeros (-point).toNat ++ written

def withSign (negative : Bool) (written : List Char) : String :=
  String.ofList (if negative then '-' :: written else written)

def nonFinite (negative : Bool) : String :=
  if negative then "-inf" else "inf"

/-- Amounts are written by their shortest digits, all of them positional, and a whole amount has no
point. -/
def plain (value : Float) : String :=
  match Binary.ofFloat value with
  | .notANumber => "NaN"
  | .infinite negative => nonFinite negative
  | .finite negative 0 _ => withSign negative ['0']
  | .finite negative mantissa exponent =>
    let (written, power) := (shortest .up mantissa exponent).trim
    withSign negative (positional written power)

/-- A fixed number of places is cut from the exact value, with a half going to the even neighbour.
-/
def fixed (places : Nat) (value : Float) : String :=
  match Binary.ofFloat value with
  | .notANumber => "NaN"
  | .infinite negative => nonFinite negative
  | .finite negative mantissa exponent =>
    let units := ((Ratio.ofPower 2 mantissa exponent).scale 10 places).round .toEven
    let whole := (units / Nat.pow 10 places).repr.toList
    let part := (units % Nat.pow 10 places).repr.toList
    withSign negative (whole ++ '.' :: zeros (places - part.length) ++ part)

def exponentText (exponent : Int) : List Char :=
  (if exponent < 0 then '-' else '+') :: exponent.natAbs.repr.toList

def scientific (written : List Char) (exponent : Int) : List Char :=
  let leading := written.take 1
  let rest := written.drop 1
  leading ++ (if rest.isEmpty then [] else '.' :: rest) ++ 'e' :: exponentText exponent

/-- Document numbers are positional from `1e-5` up to `1e16` and scientific outside, and always show
that they are not integers. A double that is no number is written `null`. -/
def document (value : Float) : String :=
  match Binary.ofFloat value with
  | .notANumber => "null"
  | .infinite _ => "null"
  | .finite negative 0 _ => withSign negative ['0', '.', '0']
  | .finite negative mantissa exponent =>
    let (written, power) := (shortest .toEven mantissa exponent).trim
    let lead := written.length + power - 1
    if -5 ≤ lead ∧ lead < 16 then
      withSign negative (positional written power ++ if 0 ≤ power then ['.', '0'] else [])
    else withSign negative (scientific written lead)

end GasReport.Decimal
