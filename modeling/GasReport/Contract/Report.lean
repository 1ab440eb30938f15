import GasReport.Contract.Notice

/-!
The report of a contract. There are two points of reference: functions are compared with the
baseline, and deployments with the first ranked deployment.
-/

namespace GasReport

structure ContractReport where
  contract : String
  baseline : Build
  results : List FunctionComparison
  deployment : List Sample
  methodCount : Nat
  measurements : List Measurement

/-- This is the gas of a deployment, with no difference when the first one is free. -/
structure DeploymentDifference where
  build : Build
  gas : Gas
  difference : Option Percentage

namespace ContractReport

def results? (group : ContractGroup) (baseline : Build) : List FunctionComparison :=
  group.functions.filterMap fun function => (function.compare baseline).toOption

/-- Each function that is left out is noted. -/
def skipped (group : ContractGroup) (baseline : Build) : List Notice :=
  group.functions.filterMap fun function =>
    match function.compare baseline with
    | .error reason => some (.skippedFunction function.signature baseline reason)
    | .ok _ => none

def ofGroup (group : ContractGroup) (baseline : Baseline) : ContractReport :=
  let results := results? group baseline.measurement.build
  { contract := group.contract
    baseline := baseline.measurement.build
    results := results
    deployment := group.deployments
    methodCount := results.length
    measurements := group.measurements }

def deploymentBaseline? (report : ContractReport) : Option Sample := report.deployment.head?

def deploymentDifferences (report : ContractReport) : List DeploymentDifference :=
  match report.deploymentBaseline? with
  | none => []
  | some first => report.deployment.map fun sample =>
      ⟨sample.build, sample.gas, difference? sample.gas first.gas⟩

/-- These are the builds of a toolchain in the order of discovery, each once. -/
def versions (report : ContractReport) (toolchain : Toolchain) : List Build :=
  firsts Build.name
    ((report.measurements.map Measurement.build).filter (·.toolchain = toolchain))

end ContractReport

end GasReport
