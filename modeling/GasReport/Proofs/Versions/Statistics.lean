import GasReport.Proofs.Gas.Order
import GasReport.Proofs.Versions.MethodRows
import GasReport.Versions.Summary

namespace GasReport

namespace MethodRow

theorem relates_eq_true {relation : Gas → Gas → Bool} {candidate reference : Option Gas} :
    relates relation candidate reference = true ↔
      ∃ gas base, candidate = some gas ∧ reference = some base ∧ relation gas base = true := by
  cases candidate with
  | none => simp [relates]
  | some gas => cases reference <;> simp [relates]

/-- A row is improved when the candidate costs less. -/
theorem isImproved_iff {row : MethodRow} :
    row.isImproved = true ↔
      ∃ gas base, row.candidate = some gas ∧ row.reference = some base ∧ gas < base := by
  rw [isImproved, relates_eq_true]
  simp only [decide_eq_true_eq]

/-- A row is regressed when the candidate costs more. -/
theorem isRegressed_iff {row : MethodRow} :
    row.isRegressed = true ↔
      ∃ gas base, row.candidate = some gas ∧ row.reference = some base ∧ base < gas := by
  rw [isRegressed, relates_eq_true]
  simp only [decide_eq_true_eq]

/-- An improved row is compared. -/
theorem isCompared_of_isImproved {row : MethodRow} (improved : row.isImproved = true) :
    row.isCompared = true := by
  obtain ⟨gas, base, candidate, reference, -⟩ := isImproved_iff.mp improved
  rw [isCompared, candidate, reference]
  rfl

/-- A regressed row is compared. -/
theorem isCompared_of_isRegressed {row : MethodRow} (regressed : row.isRegressed = true) :
    row.isCompared = true := by
  obtain ⟨gas, base, candidate, reference, -⟩ := isRegressed_iff.mp regressed
  rw [isCompared, candidate, reference]
  rfl

/-- Gas is not lower and higher at once. -/
theorem not_isRegressed_of_isImproved {row : MethodRow} (improved : row.isImproved = true) :
    row.isRegressed = false := by
  rw [Bool.eq_false_iff]
  intro regressed
  obtain ⟨gas, base, candidate, reference, less⟩ := isImproved_iff.mp improved
  obtain ⟨otherGas, otherBase, sameGas, sameBase, greater⟩ := isRegressed_iff.mp regressed
  cases candidate.symm.trans sameGas
  cases reference.symm.trans sameBase
  exact Gas.lt_asymm less greater

/-- Every compared row is counted as improved or as regressed at most once. -/
theorem countP_changed_le (rows : List MethodRow) :
    rows.countP isImproved + rows.countP isRegressed ≤ rows.countP isCompared := by
  induction rows with
  | nil => exact Nat.le_refl 0
  | cons row rest ih =>
      simp only [List.countP_cons]
      -- A row adds at most one to the left side, and then it adds one to the right side.
      cases improved : row.isImproved with
      | true =>
          rw [not_isRegressed_of_isImproved improved, isCompared_of_isImproved improved]
          simp only [Bool.false_eq_true, if_true, if_false]
          omega
      | false =>
          cases regressed : row.isRegressed with
          | true =>
              rw [isCompared_of_isRegressed regressed]
              simp only [Bool.false_eq_true, if_true, if_false]
              omega
          | false =>
              simp only [Bool.false_eq_true, if_false]
              omega

end MethodRow

namespace ContractReport

/-- These are the figures of a report that count the rows of a pair. -/
structure CountsRows (report : ContractReport) (pair : VersionPair) : Prop where
  total : (report.pairStatistics pair).total = report.methodCount
  rows : (report.methodRows pair).length = report.methodCount
  improved : (report.pairStatistics pair).improved = report.efficiencyCount pair
  changed : (report.pairStatistics pair).improved + (report.pairStatistics pair).regressed ≤
    (report.pairStatistics pair).compared
  compared : (report.pairStatistics pair).compared ≤ (report.pairStatistics pair).total

/-- The figures of a report count its rows. -/
theorem MadeFrom.countsRows {records : List Record} {first : Measurement} {report : ContractReport}
    (made : report.MadeFrom records first) (pair : VersionPair) : report.CountsRows pair := by
  have rows : (report.methodRows pair).length = report.methodCount := by
    rw [methodRows, List.length_map, made.methodCount]
  constructor
  case total => rfl
  case rows => exact rows
  case improved => exact (report.efficiencyCount_eq pair).symm
  case changed => exact MethodRow.countP_changed_le _
  case compared =>
    change (report.methodRows pair).countP MethodRow.isCompared ≤ report.methodCount
    rw [← rows]
    exact List.countP_le_length

end ContractReport

namespace Summary

/-- The statistics of the summary are the sums over the contracts. -/
structure AddsUp (reports : List ContractReport) (select : ContractReport → VersionPair) :
    Prop where
  total : (ofReports reports select).statistics.total =
    (reports.map fun report => (report.pairStatistics (select report)).total).sum
  compared : (ofReports reports select).statistics.compared =
    (reports.map fun report => (report.pairStatistics (select report)).compared).sum
  improved : (ofReports reports select).statistics.improved =
    (reports.map fun report => (report.pairStatistics (select report)).improved).sum
  regressed : (ofReports reports select).statistics.regressed =
    (reports.map fun report => (report.pairStatistics (select report)).regressed).sum

/-- The rows of the summary are those of the reports, one after the other. -/
theorem map_rows (reports : List ContractReport) (select : ContractReport → VersionPair) :
    (rows reports select).map (·.2) =
      reports.flatMap fun report => report.methodRows (select report) := by
  simp only [rows, List.map_flatMap, List.map_map, Function.comp_def, List.map_id']

/-- What is counted over all rows is the sum of the counts of the reports. -/
theorem countP_rows (reports : List ContractReport) (select : ContractReport → VersionPair)
    (test : MethodRow → Bool) :
    ((rows reports select).map (·.2)).countP test =
      (reports.map fun report => (report.methodRows (select report)).countP test).sum := by
  rw [map_rows, List.countP_flatMap]
  rfl

/-- The figures of the summary are the sums of those of the reports. -/
theorem addsUp (reports : List ContractReport) (select : ContractReport → VersionPair) :
    AddsUp reports select := by
  constructor
  case total =>
    change reports.foldl (fun total report => total + report.methodCount) 0 =
      (reports.map (·.methodCount)).sum
    rw [List.sum_eq_foldl_nat, List.foldl_map]
  case compared => exact countP_rows reports select MethodRow.isCompared
  case improved => exact countP_rows reports select MethodRow.isImproved
  case regressed => exact countP_rows reports select MethodRow.isRegressed

end Summary

/-- Whatever pair is selected, the figures of a contract agree with its rows, and the figures of the
summary with those of the contracts. -/
theorem statistics_agree {options : ComparisonOptions} {reference candidate : List Record}
    {reports : List ContractReport}
    (compared : compareRecords options reference candidate = .ok reports)
    (select : ContractReport → VersionPair) :
    (∀ report ∈ reports, ∀ pair, report.CountsRows pair) ∧ Summary.AddsUp reports select := by
  constructor
  · intro report inside pair
    obtain ⟨first, made⟩ := exists_madeFrom compared inside
    exact made.countsRows pair
  · exact Summary.addsUp reports select

/-- Functions of two contracts cost less, more or the same, and some are not measured. -/
def twoContracts : List Record × List Record :=
  ([.measurement ⟨.tagged .standard ⟨.solc, "0.8.30"⟩, "Token", 1000.0,
      [("f()", 100.0), ("g()", 50.0), ("h()", 10.0)]⟩,
    .measurement ⟨.tagged .standard ⟨.solc, "0.8.29"⟩, "Vault", 2000.0, [("open()", 70.0)]⟩],
   [.measurement ⟨.tagged .standard ⟨.solx, "0.1.0"⟩, "Token", 900.0,
      [("f()", 90.0), ("g()", 60.0), ("h()", 10.0), ("k()", 5.0)]⟩,
    .measurement ⟨.tagged .standard ⟨.solx, "0.1.0"⟩, "Vault", 1800.0,
      [("open()", 65.0), ("close()", 20.0)]⟩])

theorem statistics_agree_twoContracts :
    ∃ reports, compareRecords ⟨false⟩ twoContracts.1 twoContracts.2 = .ok reports ∧
      ((∀ report ∈ reports, ∀ pair, report.CountsRows pair) ∧
        Summary.AddsUp reports ContractReport.defaultPair) ∧
      reports.map (fun report => (report.contract, report.methodCount,
        report.efficiencyCount report.defaultPair)) = [("Token", 4, 1), ("Vault", 2, 1)] ∧
      (Summary.ofReports reports ContractReport.defaultPair).statistics.compared = 4 ∧
      (Summary.ofReports reports ContractReport.defaultPair).statistics.regressed = 1 := by
  have compared := compareRecords_eq ⟨false⟩ (List.cons_ne_nil _ _ : twoContracts.1 ≠ [])
    (List.cons_ne_nil _ _ : twoContracts.2 ≠ [])
  refine ⟨_, compared, statistics_agree compared ContractReport.defaultPair, ?_⟩
  decide +kernel

end GasReport
