import GasReport.Versions.Statistics

namespace GasReport

/-- This is the change of one function of a contract. -/
structure FunctionDelta where
  contract : String
  function : String
  difference : Percentage

structure Summary where
  statistics : PairStatistics
  improvements : List FunctionDelta
  regressions : List FunctionDelta

namespace Summary

def rows (reports : List ContractReport) (select : ContractReport → VersionPair) :
    List (String × MethodRow) :=
  reports.flatMap fun report =>
    (report.methodRows (select report)).map fun row => (report.contract, row)

/-- Only a row with a difference has a delta. -/
def delta? (entry : String × MethodRow) : Option FunctionDelta :=
  entry.2.difference.map fun difference => ⟨entry.1, entry.2.name, difference⟩

def deltas (changed : MethodRow → Bool) (entries : List (String × MethodRow)) :
    List FunctionDelta :=
  (entries.filter (changed ·.2)).filterMap delta?

def mostImprovedFirst (deltas : List FunctionDelta) : List FunctionDelta :=
  deltas.mergeSort fun first second => first.difference.order ≤ second.difference.order

def mostRegressedFirst (deltas : List FunctionDelta) : List FunctionDelta :=
  deltas.mergeSort fun first second => second.difference.order ≤ first.difference.order

def ofReports (reports : List ContractReport) (select : ContractReport → VersionPair) : Summary :=
  let entries := rows reports select
  let total := reports.foldl (fun total report => total + report.methodCount) 0
  { statistics := .ofRows total (entries.map (·.2))
    improvements := mostImprovedFirst (deltas MethodRow.isImproved entries)
    regressions := mostRegressedFirst (deltas MethodRow.isRegressed entries) }

end Summary

end GasReport
