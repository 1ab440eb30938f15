import GasReport.Decimal.Rounding

namespace GasReport.Decimal

/-- This is a numeral as written: a sign, digits with an optional point, and an optional power of
ten with a sign of its own. -/
structure Numeral where
  negative : Bool
  whole : List Char
  fraction : Option (List Char)
  exponent : Option (Bool × List Char)
deriving DecidableEq

def infinity : Float := 1.0 / 0.0

def digitValue (digit : Char) : Nat := digit.toNat - '0'.toNat

def appendDigit (value : Nat) (digit : Char) : Nat := 10 * value + digitValue digit

def natural (digits : List Char) : Nat := digits.foldl appendDigit 0

/-- Only a numeral with neither a point nor an exponent counts as integral. -/
def Numeral.integral (numeral : Numeral) : Bool :=
  numeral.fraction.isNone && numeral.exponent.isNone

def Numeral.decimals (numeral : Numeral) : List Char := numeral.fraction.getD []

/-- These digits are read as if the point were not there. -/
def Numeral.digits (numeral : Numeral) : Nat := natural (numeral.whole ++ numeral.decimals)

def Numeral.power (numeral : Numeral) : Int :=
  let (below, digits) := numeral.exponent.getD (false, [])
  if below then -(natural digits : Int) else natural digits

/-- This is the nearest double. Beyond 400 places either side of the point the magnitude alone
decides, so no huge power is computed. -/
def Numeral.magnitude (numeral : Numeral) : Float :=
  let exponent := numeral.power - numeral.decimals.length
  let places : Int := numeral.digits.repr.length + exponent
  if numeral.digits = 0 ∨ places < -400 then 0.0
  else if 400 < places then infinity
  else Float.ofScientific numeral.digits (exponent < 0) exponent.natAbs

def Numeral.toFloat (numeral : Numeral) : Float :=
  if numeral.negative then -numeral.magnitude else numeral.magnitude

/-- An integer value exists for integral numerals, except for a negative zero. -/
def Numeral.toInt? (numeral : Numeral) : Option Int :=
  if !numeral.integral || (numeral.negative && numeral.digits == 0) then none
  else some (if numeral.negative then -(numeral.digits : Int) else numeral.digits)

def Numeral.cutSign : List Char → Bool × List Char
  | '-' :: rest => (true, rest)
  | rest => (false, rest)

def Numeral.cutExponent (digits : List Char) : Bool × List Char :=
  match digits with
  | '-' :: rest => (true, rest)
  | '+' :: rest => (false, rest)
  | rest => (false, rest)

/-- This cuts a text at its marks, whatever stands between them. -/
def Numeral.cut (text : List Char) : Numeral :=
  let (negative, unsigned) := cutSign text
  let isMark := fun letter : Char => letter == 'e' || letter == 'E'
  let mantissa := unsigned.takeWhile (!isMark ·)
  let exponent := (unsigned.dropWhile (!isMark ·)).tail?
  let whole := mantissa.takeWhile (· != '.')
  let fraction := (mantissa.dropWhile (· != '.')).tail?
  ⟨negative, whole, fraction, exponent.map cutExponent⟩

def isDigits (digits : List Char) : Bool := !digits.isEmpty && digits.all Char.isDigit

/-- A numeral has at least one digit on each side of its point and after its exponent mark. -/
def Numeral.wellFormed (numeral : Numeral) : Bool :=
  isDigits numeral.whole && numeral.fraction.all isDigits && numeral.exponent.all (isDigits ·.2)

/-- The digits before the point start with no needless zero. -/
def Numeral.strict (numeral : Numeral) : Bool :=
  numeral.wellFormed && (numeral.whole.length == 1 || numeral.whole.head? != some '0')

def Numeral.ofText? (text : List Char) : Option Numeral :=
  let numeral := cut text
  if numeral.strict then some numeral else none

/-- Amounts are also named by the texts of the values that are not numbers. -/
def readFloat? (text : String) : Option Float :=
  match text with
  | "inf" => some infinity
  | "-inf" => some (-infinity)
  | "NaN" => some (0.0 / 0.0)
  | _ => (Numeral.ofText? text.toList).map Numeral.toFloat

end GasReport.Decimal
