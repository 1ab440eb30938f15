import GasReport.Contract.Function

namespace GasReport

inductive Notice where
  | malformedRecord (index : Nat) (error : Record.Error)
  | noBaseline (contract : String)
  | droppedAmbiguous (contract : String) (eligible : Nat)
  | ambiguousBaseline (contract : String) (eligible : Nat) (selected : Build)
  | skippedFunction (signature : String) (baseline : Build) (reason : FunctionSkip)

namespace Notice

/-- Only what concerns a single function is a detail. -/
def isDetail : Notice → Bool
  | .skippedFunction .. => true
  | _ => false

def message : Notice → String
  | .malformedRecord .. => "Skipping malformed record"
  | .noBaseline _ => "Dropping contract without a default pipeline solx measurement"
  | .droppedAmbiguous .. => "Dropping contract with ambiguous function baseline"
  | .ambiguousBaseline .. => "Ambiguous function baseline, using the first one"
  | .skippedFunction _ _ .notMeasured => "Skipping function without a baseline measurement"
  | .skippedFunction _ _ .zeroGas => "Skipping function with zero baseline gas"

end Notice

end GasReport
