import GasReport.Contract.Report

namespace GasReport

/-- An empty version stands for a toolchain that has none. -/
structure VersionPair where
  candidate : String
  reference : String
deriving DecidableEq

def VersionPair.label (pair : VersionPair) : String :=
  "solx " ++ pair.candidate ++ " vs solc " ++ pair.reference

/-- This is a function as measured with both versions of a pair. -/
structure MethodRow where
  name : String
  candidate : Option Gas
  reference : Option Gas
  difference : Option Percentage

namespace MethodRow

def ofGas (name : String) (candidate reference : Option Gas) : MethodRow where
  name := name
  candidate := candidate
  reference := reference
  difference := do difference? (← candidate) (← reference)

/-- Both versions measured the function, and their gas is related. -/
def relates (relation : Gas → Gas → Bool) (candidate reference : Option Gas) : Bool :=
  match candidate, reference with
  | some candidate, some reference => relation candidate reference
  | _, _ => false

def isCompared (row : MethodRow) : Bool := row.candidate.isSome && row.reference.isSome

def isImproved (row : MethodRow) : Bool :=
  relates (fun candidate reference => candidate < reference) row.candidate row.reference

def isRegressed (row : MethodRow) : Bool :=
  relates (fun candidate reference => reference < candidate) row.candidate row.reference

end MethodRow

namespace ContractReport

def firstVersion (report : ContractReport) (toolchain : Toolchain) : String :=
  match report.measurements.find? (·.build.toolchain = toolchain) with
  | some measurement => measurement.build.version
  | none => ""

/-- The version of each toolchain that was discovered first is compared by default. -/
def defaultPair (report : ContractReport) : VersionPair :=
  ⟨report.firstVersion .solx, report.firstVersion .solc⟩

def methodRows (report : ContractReport) (pair : VersionPair) : List MethodRow :=
  report.results.map fun function =>
    .ofGas function.name (function.gas? .solx pair.candidate) (function.gas? .solc pair.reference)

/-- This counts the functions that cost less with the candidate version. -/
def efficiencyCount (report : ContractReport) (pair : VersionPair) : Nat :=
  report.results.countP fun function =>
    match function.version? .solx pair.candidate, function.version? .solc pair.reference with
    | some candidate, some reference => candidate.sample.gas < reference.sample.gas
    | _, _ => false

end ContractReport

end GasReport
