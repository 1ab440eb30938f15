import GasReport.Proofs.Record.Ingest
import GasReport.Proofs.Versions.Deltas

namespace GasReport.Summary

open Record

/-- A candidate that costs less than its reference costs less than something, and nothing admitted
costs less than zero, so the reference is not free. -/
theorem isSome_difference_of_isImproved {reports : List ContractReport}
    {select : ContractReport → VersionPair} {entry : String × MethodRow}
    (inside : entry ∈ rows reports select)
    (admitted : ∀ gas, entry.2.candidate = some gas → ¬ gas < 0.0)
    (improved : entry.2.isImproved = true) : entry.2.difference.isSome = true := by
  obtain ⟨gas, base, candidate, reference, less⟩ := MethodRow.isImproved_iff.mp improved
  rw [difference_of_mem_rows inside candidate reference, isSome_difference?]
  exact Gas.nonzero_of_lt less (admitted gas candidate)

/-- The deltas before they are sorted: no improved row is left out. -/
theorem forall₂_improved {reports : List ContractReport} {select : ContractReport → VersionPair}
    (admitted : ∀ entry ∈ rows reports select, ∀ gas,
      entry.2.candidate = some gas → ¬ gas < 0.0) :
    List.Forall₂ FunctionDelta.Describes (deltas MethodRow.isImproved (rows reports select))
      ((rows reports select).filter (·.2.isImproved)) := by
  have kept : ((rows reports select).filter (·.2.isImproved)).filter (·.2.difference.isSome) =
      (rows reports select).filter (·.2.isImproved) := by
    rw [List.filter_eq_self]
    intro entry found
    obtain ⟨inside, improved⟩ := List.mem_filter.mp found
    exact isSome_difference_of_isImproved inside (admitted entry inside) improved
  rw [← kept]
  exact forall₂_filterMap_delta? _

/-- All improvements are listed and ranked, and the statistics of the contracts count them. -/
theorem improvements_ranked {markers : Markers} {options : ComparisonOptions}
    {solcValues solxValues : List Json.Value} {reports : List ContractReport}
    (finite : EachMean (·.isFinite = true)
      (ingest markers solcValues ++ ingest markers solxValues))
    (compared : compareRecords options (ingest markers solcValues) (ingest markers solxValues) =
      .ok reports)
    (select : ContractReport → VersionPair) :
    Ranks (· ≤ ·) (ofReports reports select).improvements
      ((rows reports select).filter (·.2.isImproved)) ∧
    (ofReports reports select).improvements.length =
      (ofReports reports select).statistics.improved ∧
    (ofReports reports select).statistics.improved =
      (reports.map fun report => report.efficiencyCount (select report)).sum := by
  have called : EachMean (¬ · < 0.0)
      (ingest markers solcValues ++ ingest markers solxValues) := by
    intro measurement given
    rw [← ingest_append] at given
    exact (admitted_of_mem_ingest given).called
  have admitted : ∀ entry ∈ rows reports select, ∀ gas,
      entry.2.candidate = some gas → ¬ gas < 0.0 := by
    intro entry inside gas paid
    exact gas_of_mem_rows compared called inside (Or.inl paid)
  have ranked : Ranks (· ≤ ·) (ofReports reports select).improvements
      ((rows reports select).filter (·.2.isImproved)) := by
    apply ranks_mostImprovedFirst (forall₂_improved admitted)
    exact proper_deltas finite compared MethodRow.isImproved
  have counted : (ofReports reports select).statistics.improved =
      (rows reports select).countP (·.2.isImproved) := List.countP_map
  refine ⟨ranked, ?_, ?_⟩
  · rw [ranked.complete.length_eq, counted, List.countP_eq_length_filter]
  · rw [(addsUp reports select).improved]
    simp only [ContractReport.efficiencyCount_eq]
    rfl

/-- Two functions of different contracts improve equally, and another one improves more. -/
def equallyImproved : List Json.Value × List Json.Value :=
  ([measurementValue "solc" "0.8.30" "Token" [("f()", 100), ("g()", 50), ("h()", 200)],
    measurementValue "solc" "0.8.30" "Vault" [("open()", 10), ("close()", 0)]],
   [measurementValue "solx" "0.1.0" "Token" [("f()", 90), ("g()", 60), ("h()", 150)],
    measurementValue "solx" "0.1.0" "Vault" [("open()", 9), ("close()", 5)]])

theorem improvements_ranked_equallyImproved :
    EachMean (·.isFinite = true)
      (ingest .standard equallyImproved.1 ++ ingest .standard equallyImproved.2) ∧
    ∃ reports, compareRecords ⟨false⟩ (ingest .standard equallyImproved.1)
        (ingest .standard equallyImproved.2) = .ok reports ∧
      (Ranks (· ≤ ·) (ofReports reports ContractReport.defaultPair).improvements
        ((rows reports ContractReport.defaultPair).filter (·.2.isImproved)) ∧
      (ofReports reports ContractReport.defaultPair).improvements.length =
        (ofReports reports ContractReport.defaultPair).statistics.improved ∧
      (ofReports reports ContractReport.defaultPair).statistics.improved =
        (reports.map fun report => report.efficiencyCount report.defaultPair).sum) ∧
      ((rows reports ContractReport.defaultPair).filter (·.2.isImproved)).map
          (fun entry => (entry.1, entry.2.name, entry.2.difference.map Percentage.text)) =
        [("Token", "f()", some "-10.00"), ("Token", "h()", some "-25.00"),
          ("Vault", "open()", some "-10.00")] := by
  have finite : EachMean (·.isFinite = true)
      (ingest .standard equallyImproved.1 ++ ingest .standard equallyImproved.2) := by
    decide +kernel
  have referenceGiven : ingest .standard equallyImproved.1 ≠ [] :=
    List.ne_nil_of_length_pos (by decide +kernel)
  have candidateGiven : ingest .standard equallyImproved.2 ≠ [] :=
    List.ne_nil_of_length_pos (by decide +kernel)
  have compared := compareRecords_eq ⟨false⟩ referenceGiven candidateGiven
  refine ⟨finite, _, compared, ?_, by decide +kernel⟩
  exact improvements_ranked finite compared ContractReport.defaultPair

end GasReport.Summary
