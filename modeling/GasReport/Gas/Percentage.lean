import GasReport.Decimal.Layout

namespace GasReport

/-- Means of several calls may be fractional. -/
abbrev Gas := Float

/-- This is a signed percentage with two decimal places. -/
structure Percentage where
  value : Float

namespace Percentage

/-- A percentage that rounds to zero has no sign. -/
def round (value : Float) : Percentage :=
  let rounded := Decimal.roundWhole (value * 100.0) / 100.0
  ⟨if rounded == 0.0 then 0.0 else rounded⟩

def text (percentage : Percentage) : String := Decimal.fixed 2 percentage.value

/-- This orders all doubles, also the negative zero before the positive one. -/
def order (percentage : Percentage) : Int :=
  let bits := percentage.value.toBits.toNat
  if bits < Nat.pow 2 63 then bits else -((bits - Nat.pow 2 63 : Nat) : Int) - 1

/-- The mean is summed from the first value to the last. -/
def mean? (percentages : List Percentage) : Option Percentage :=
  if percentages.isEmpty then none
  else
    let total := percentages.foldl (fun total percentage => total + percentage.value) 0.0
    some (round (total / Decimal.ofNat false percentages.length))

end Percentage

/-- There is no difference relative to zero. -/
def difference? (gas base : Gas) : Option Percentage :=
  if base == 0.0 then none else some (.round ((gas - base) / base * 100.0))

end GasReport
