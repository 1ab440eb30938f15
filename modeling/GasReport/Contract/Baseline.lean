import GasReport.Contract.Group

namespace GasReport

structure Baseline where
  measurement : Measurement
  eligible : Nat

/-- The first eligible measurement is selected, and all of them are counted. -/
def Baseline.select? (measurements : List Measurement) : Option Baseline :=
  match measurements.filter (·.build.isBaselineCandidate) with
  | [] => none
  | first :: rest => some ⟨first, rest.length + 1⟩

def Baseline.isAmbiguous (baseline : Baseline) : Bool := baseline.eligible > 1

end GasReport
