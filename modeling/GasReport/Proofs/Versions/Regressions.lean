import GasReport.Proofs.Record.Ingest
import GasReport.Proofs.Versions.Deltas

/-!
The regressions of the summary against its statistics. The statistics count every row that costs
more with the candidate, but a row whose reference is free has no difference and is missing from the
list.
-/

namespace GasReport

open Record

/-- Nothing was paid for the function with the reference version. -/
def MethodRow.isFree (row : MethodRow) : Bool := row.reference.any (· == 0.0)

/-- What is counted is counted on one side or on the other. -/
theorem countP_and_not_add {A : Type} (counted side : A → Bool) (elements : List A) :
    elements.countP (fun element => counted element && !side element) +
      elements.countP (fun element => counted element && side element) =
        elements.countP counted := by
  induction elements with
  | nil => rfl
  | cons first rest ih =>
      simp only [List.countP_cons]
      cases counted first <;> cases side first
      all_goals
        simp only [Bool.not_false, Bool.not_true, Bool.and_true, Bool.and_false, if_true, if_false,
          Bool.false_eq_true]
        omega

namespace Summary

/-- A regressed row has a difference unless its reference is free. -/
theorem isSome_difference_of_isRegressed {reports : List ContractReport}
    {select : ContractReport → VersionPair} {entry : String × MethodRow}
    (inside : entry ∈ rows reports select) (regressed : entry.2.isRegressed = true) :
    entry.2.difference.isSome = !entry.2.isFree := by
  obtain ⟨gas, base, candidate, reference, -⟩ := MethodRow.isRegressed_iff.mp regressed
  rw [difference_of_mem_rows inside candidate reference, difference?, MethodRow.isFree, reference,
    Option.any_some]
  cases base == 0.0 <;> rfl

/-- The deltas before they are sorted. -/
theorem forall₂_regressed (reports : List ContractReport) (select : ContractReport → VersionPair) :
    List.Forall₂ FunctionDelta.Describes (deltas MethodRow.isRegressed (rows reports select))
      ((rows reports select).filter fun entry => entry.2.isRegressed && !entry.2.isFree) := by
  have kept : ((rows reports select).filter (·.2.isRegressed)).filter (·.2.difference.isSome) =
      (rows reports select).filter fun entry => entry.2.isRegressed && !entry.2.isFree := by
    rw [List.filter_filter]
    apply List.filter_congr
    intro entry inside
    cases regressed : entry.2.isRegressed with
    | false => rw [Bool.and_false, Bool.false_and]
    | true => rw [isSome_difference_of_isRegressed inside regressed, Bool.and_true, Bool.true_and]
  rw [← kept]
  exact forall₂_filterMap_delta? _

/-- The listed regressions are ranked, those that regressed most first. -/
theorem regressions_ranked {options : ComparisonOptions} {reference candidate : List Record}
    {reports : List ContractReport}
    (finite : EachMean (·.isFinite = true) (reference ++ candidate))
    (compared : compareRecords options reference candidate = .ok reports)
    (select : ContractReport → VersionPair) :
    Ranks (· ≥ ·) (ofReports reports select).regressions
      ((rows reports select).filter fun entry => entry.2.isRegressed && !entry.2.isFree) := by
  apply ranks_mostRegressedFirst (forall₂_regressed reports select)
  exact proper_deltas finite compared MethodRow.isRegressed

/-- A regression is listed unless its reference is free, and the statistics count it in both cases.
-/
theorem regressions_omit_free (reports : List ContractReport)
    (select : ContractReport → VersionPair) :
    Lists (ofReports reports select).regressions
      ((rows reports select).filter fun entry => entry.2.isRegressed && !entry.2.isFree) ∧
    (ofReports reports select).regressions.length +
      (rows reports select).countP (fun entry => entry.2.isRegressed && entry.2.isFree) =
        (ofReports reports select).statistics.regressed := by
  have lists : Lists (ofReports reports select).regressions
      ((rows reports select).filter fun entry => entry.2.isRegressed && !entry.2.isFree) :=
    lists_mergeSort (forall₂_regressed reports select) _
  have counted : (ofReports reports select).statistics.regressed =
      (rows reports select).countP (·.2.isRegressed) := List.countP_map
  refine ⟨lists, ?_⟩
  rw [counted, lists.length_eq, ← List.countP_eq_length_filter]
  exact countP_and_not_add _ _ _

/-- Two functions cost more with the candidate, and the first of them is free with the reference. -/
def freeReference : List Json.Value × List Json.Value :=
  ([measurementValue "solc" "0.8.30" "Token" [("f()", 0), ("g()", 100)]],
   [measurementValue "solx" "0.1.0" "Token" [("f()", 90), ("g()", 110)]])

theorem not_lists_regressed_freeReference :
    ∃ reports, compareRecords ⟨false⟩ (ingest .standard freeReference.1)
        (ingest .standard freeReference.2) = .ok reports ∧
      (ofReports reports ContractReport.defaultPair).statistics.regressed = 2 ∧
      (ofReports reports ContractReport.defaultPair).regressions.map (·.function) = ["g()"] ∧
      ¬ Lists (ofReports reports ContractReport.defaultPair).regressions
        ((rows reports ContractReport.defaultPair).filter (·.2.isRegressed)) := by
  have referenceGiven : ingest .standard freeReference.1 ≠ [] :=
    List.ne_nil_of_length_pos (by decide +kernel)
  have candidateGiven : ingest .standard freeReference.2 ≠ [] :=
    List.ne_nil_of_length_pos (by decide +kernel)
  refine ⟨_, compareRecords_eq ⟨false⟩ referenceGiven candidateGiven, by decide +kernel,
    by decide +kernel, ?_⟩
  intro lists
  exact absurd lists.length_eq (by decide +kernel)

end Summary

end GasReport
