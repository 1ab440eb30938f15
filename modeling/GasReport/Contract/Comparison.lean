import GasReport.Contract.Report

namespace GasReport

structure ComparisonOptions where
  strictBaseline : Bool

inductive ComparisonError where
  | emptyInput (toolchain : Toolchain)
deriving DecidableEq

def ComparisonError.message : ComparisonError → String
  | .emptyInput toolchain => "No valid `" ++ toolchain.name ++ "` records to compare"

/-- This is what becomes of a contract. -/
inductive Verdict where
  | dropped (notice : Notice)
  | reported (report : ContractReport) (notices : List Notice)

namespace Verdict

def report? : Verdict → Option ContractReport
  | .dropped _ => none
  | .reported report _ => some report

def notices : Verdict → List Notice
  | .dropped notice => [notice]
  | .reported _ notices => notices

/-- The choice among several eligible measurements is noted before the functions are compared. -/
def ofGroup (options : ComparisonOptions) (group : ContractGroup) : Verdict :=
  match Baseline.select? group.measurements with
  | none => .dropped (.noBaseline group.contract)
  | some baseline =>
    let build := baseline.measurement.build
    if baseline.isAmbiguous && options.strictBaseline then
      .dropped (.droppedAmbiguous group.contract baseline.eligible)
    else
      let chosen : List Notice :=
        if baseline.isAmbiguous then [.ambiguousBaseline group.contract baseline.eligible build]
        else []
      .reported (.ofGroup group baseline) (chosen ++ ContractReport.skipped group build)

end Verdict

/-- Reference records are visited first. -/
def verdicts (options : ComparisonOptions) (reference candidate : List Record) : List Verdict :=
  (ContractGroup.ofRecords (reference ++ candidate)).map (Verdict.ofGroup options)

/-- Both lists must hold records. -/
def judge (options : ComparisonOptions) (reference candidate : List Record) :
    Except ComparisonError (List Verdict) :=
  if reference.isEmpty then .error (.emptyInput .solc)
  else if candidate.isEmpty then .error (.emptyInput .solx)
  else .ok (verdicts options reference candidate)

def compareRecords (options : ComparisonOptions) (reference candidate : List Record) :
    Except ComparisonError (List ContractReport) :=
  (judge options reference candidate).map (·.filterMap Verdict.report?)

end GasReport
