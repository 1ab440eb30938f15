import GasReport.Versions.Pair

namespace GasReport

structure PairStatistics where
  total : Nat
  compared : Nat
  improved : Nat
  regressed : Nat
  average : Option Percentage

def PairStatistics.ofRows (total : Nat) (rows : List MethodRow) : PairStatistics where
  total := total
  compared := rows.countP MethodRow.isCompared
  improved := rows.countP MethodRow.isImproved
  regressed := rows.countP MethodRow.isRegressed
  average := Percentage.mean? (rows.filterMap MethodRow.difference)

def ContractReport.pairStatistics (report : ContractReport) (pair : VersionPair) : PairStatistics :=
  .ofRows report.methodCount (report.methodRows pair)

end GasReport
