import GasReport.Project.Report
import GasReport.Record.Printer
import GasReport.Json.Printer

namespace GasReport

open Json (Value)

def Percentage.toValue (percentage : Percentage) : Value := .text percentage.text

def Sample.toValue (sample : Sample) : Value :=
  .object [
    ("compiler", sample.build.toValue),
    ("gas", Gas.toValue sample.gas),
    ("compilerSettings", Settings.toValue sample.settings)]

def RelativeSample.toValue (relative : RelativeSample) : Value :=
  .object [
    ("compiler", relative.sample.build.toValue),
    ("gas", Gas.toValue relative.sample.gas),
    ("compilerSettings", Settings.toValue relative.sample.settings),
    ("baseGas", Gas.toValue relative.base),
    ("difference", relative.difference.toValue)]

def FunctionComparison.toValue (function : FunctionComparison) : Value :=
  .object [
    ("name", .text function.name),
    ("versions", .array (function.versions.map RelativeSample.toValue))]

def DeploymentDifference.toValue (entry : DeploymentDifference) : Value :=
  .object [
    ("compiler", entry.build.toValue),
    ("gas", Gas.toValue entry.gas),
    ("difference", Value.optional Percentage.toValue entry.difference)]

def VersionPair.toValue (pair : VersionPair) : Value :=
  .object [("candidate", .text pair.candidate), ("reference", .text pair.reference)]

def MethodRow.toValue (row : MethodRow) : Value :=
  .object [
    ("name", .text row.name),
    ("shortName", .text (shortName row.name)),
    ("candidateGas", Value.optional Gas.toValue row.candidate),
    ("referenceGas", Value.optional Gas.toValue row.reference),
    ("difference", Value.optional Percentage.toValue row.difference)]

def PairStatistics.toValue (statistics : PairStatistics) : Value :=
  .object [
    ("total", Value.count statistics.total),
    ("compared", Value.count statistics.compared),
    ("improved", Value.count statistics.improved),
    ("regressed", Value.count statistics.regressed),
    ("averageDifference", Value.optional Percentage.toValue statistics.average)]

def FunctionDelta.toValue (delta : FunctionDelta) : Value :=
  .object [
    ("contract", .text delta.contract),
    ("function", .text delta.function),
    ("difference", delta.difference.toValue)]

def Summary.toValue (summary : Summary) : Value :=
  .object [
    ("statistics", summary.statistics.toValue),
    ("improvements", .array (summary.improvements.map FunctionDelta.toValue)),
    ("regressions", .array (summary.regressions.map FunctionDelta.toValue))]

def ContractReport.members (report : ContractReport) : List (String × Value) := [
  ("contractName", .text report.contract),
  ("functionBaseline", report.baseline.toValue),
  ("results", .array (report.results.map FunctionComparison.toValue)),
  ("deployment", .array (report.deployment.map Sample.toValue)),
  ("methodCount", Value.count report.methodCount),
  ("contractObjects", .array (report.measurements.map Measurement.toValue))]

def ContractReport.toValue (report : ContractReport) : Value := .object report.members

/-- What was measured comes first, and what the selected versions make of it follows. -/
def ContractReport.selectedValue (report : ContractReport) (pair : VersionPair) : Value :=
  .object (report.members ++ [
    ("deploymentDifferences",
      .array (report.deploymentDifferences.map DeploymentDifference.toValue)),
    ("selectedVersions", pair.toValue),
    ("methodRows", .array ((report.methodRows pair).map MethodRow.toValue)),
    ("statistics", (report.pairStatistics pair).toValue),
    ("efficiencyCount", Value.count (report.efficiencyCount pair))])

def ProjectReport.toValue (report : ProjectReport) : Value :=
  .object [
    ("project", .text report.project),
    ("contracts",
      .array (report.contracts.map fun contract => contract.selectedValue (report.pair contract))),
    ("summary", report.summary.toValue)]

def ProjectReport.document (reports : List ProjectReport) : String :=
  (Value.array (reports.map ProjectReport.toValue)).pretty

end GasReport
