import GasReport.Proofs.Record.Ingest
import GasReport.Proofs.Versions.DefaultPair
import GasReport.Proofs.Versions.Deltas

/-!
Pairs with an empty version. The empty version stands for a toolchain that has none and then selects
nothing, but a build may be read with an empty version too, and is selected by it like any other.
-/

namespace GasReport

open Record Measurement

/-- No measurement of the contract has this build. -/
def ContractReport.Lacks (report : ContractReport) (toolchain : Toolchain) (version : String) :
    Prop :=
  ∀ measurement ∈ report.measurements, measurement.build.name ≠ ⟨toolchain, version⟩

/-- The empty version selects the builds that are read with it, and nothing when there are none. -/
structure ContractReport.SelectsUnversioned (report : ContractReport) (pair : VersionPair) :
    Prop where
  candidate : pair.candidate = "" →
    List.Forall₂ (fun function row => row.candidate.isSome ↔
      ∃ measurement ∈ report.measurements, Build.CandidateAt report.baseline "" measurement.build ∧
        (measurement.mean? function.name).isSome) report.results (report.methodRows pair)
  reference : pair.reference = "" →
    List.Forall₂ (fun function row => row.reference.isSome ↔ report.Measures .solc "" function.name)
      report.results (report.methodRows pair)
  unmeasuredCandidate : pair.candidate = "" → report.Lacks .solx "" →
    ∀ row ∈ report.methodRows pair, row.candidate = none
  unmeasuredReference : pair.reference = "" → report.Lacks .solc "" →
    ∀ row ∈ report.methodRows pair, row.reference = none
  nothing : (pair.candidate = "" ∧ report.Lacks .solx "") ∨
      (pair.reference = "" ∧ report.Lacks .solc "") →
    report.efficiencyCount pair = 0 ∧ (report.pairStatistics pair).compared = 0 ∧
      (report.pairStatistics pair).improved = 0 ∧ (report.pairStatistics pair).regressed = 0

/-- Rows that are not compared are not counted. -/
theorem ContractReport.counts_eq_zero {report : ContractReport} {pair : VersionPair}
    (apart : ∀ row ∈ report.methodRows pair, row.isCompared = false) :
    report.efficiencyCount pair = 0 ∧ (report.pairStatistics pair).compared = 0 ∧
      (report.pairStatistics pair).improved = 0 ∧ (report.pairStatistics pair).regressed = 0 := by
  have compared : (report.methodRows pair).countP MethodRow.isCompared = 0 := by
    rw [List.countP_eq_zero]
    intro row inside
    exact Bool.eq_false_iff.mp (apart row inside)
  have changed := MethodRow.countP_changed_le (report.methodRows pair)
  rw [compared] at changed
  rw [report.efficiencyCount_eq]
  change _ ∧ (report.methodRows pair).countP _ = 0 ∧ (report.methodRows pair).countP _ = 0 ∧
    (report.methodRows pair).countP _ = 0
  omega

namespace ContractReport.MadeFrom

variable {records : List Record} {first : Measurement} {report : ContractReport}

/-- A version that was not measured has no gas. -/
theorem gas?_eq_none (made : report.MadeFrom records first) {function : FunctionComparison}
    (inside : function ∈ report.results) {toolchain : Toolchain} {version : String}
    (lacks : report.Lacks toolchain version) : function.gas? toolchain version = none := by
  rw [← Option.not_isSome_iff_eq_none, made.isSome_gas? inside
    fun measurement given named => absurd named (lacks measurement given)]
  rintro ⟨measurement, given, named, -⟩
  exact lacks measurement given named

/-- Candidate builds are found among those that the function table keeps. -/
theorem isSome_candidate (made : report.MadeFrom records first) {function : FunctionComparison}
    (inside : function ∈ report.results) (version : String) :
    (function.gas? .solx version).isSome ↔
      ∃ measurement ∈ report.measurements,
        Build.CandidateAt report.baseline version measurement.build ∧
          (measurement.mean? function.name).isSome := by
  rw [made.gas?_eq inside, isSome_firstThrough?]
  simp only [Build.compared_and_solx, decide_eq_true_eq]

/-- An empty version selects the builds without version text, and nothing when there are none. -/
theorem selectsUnversioned (made : report.MadeFrom records first) (pair : VersionPair) :
    report.SelectsUnversioned pair := by
  have candidate (empty : pair.candidate = "") (lacks : report.Lacks .solx "") :
      ∀ row ∈ report.methodRows pair, row.candidate = none := by
    rw [methodRows, List.forall_mem_map, empty]
    exact fun function given => made.gas?_eq_none given lacks
  have reference (empty : pair.reference = "") (lacks : report.Lacks .solc "") :
      ∀ row ∈ report.methodRows pair, row.reference = none := by
    rw [methodRows, List.forall_mem_map, empty]
    exact fun function given => made.gas?_eq_none given lacks
  constructor
  case candidate =>
    intro empty
    rw [methodRows, List.forall₂_map_right_iff, List.forall₂_same, empty]
    exact fun function given => made.isSome_candidate given ""
  case reference =>
    intro empty
    rw [methodRows, List.forall₂_map_right_iff, List.forall₂_same, empty]
    intro function given
    refine made.isSome_gas? given fun measurement _ named => ?_
    exact .inr (.inl (congrArg BuildName.toolchain named))
  case unmeasuredCandidate => exact candidate
  case unmeasuredReference => exact reference
  case nothing =>
    rintro (⟨empty, lacks⟩ | ⟨empty, lacks⟩)
    · apply counts_eq_zero
      intro row inside
      rw [MethodRow.isCompared, candidate empty lacks row inside]
      rfl
    · apply counts_eq_zero
      intro row inside
      rw [MethodRow.isCompared, reference empty lacks row inside]
      exact Bool.and_false _

end ContractReport.MadeFrom

/-- Whatever pair is selected, an empty version in it selects the builds that were read with an
empty version, and nothing without such a build. -/
theorem emptyVersion_selects {options : ComparisonOptions} {reference candidate : List Record}
    {reports : List ContractReport}
    (compared : compareRecords options reference candidate = .ok reports) :
    ∀ report ∈ reports, ∀ pair, report.SelectsUnversioned pair := by
  intro report inside pair
  obtain ⟨first, made⟩ := exists_madeFrom compared inside
  exact made.selectsUnversioned pair

/-- One contract has a reference without a version, and the other one a candidate. -/
def unversioned : List Json.Value × List Json.Value :=
  ([measurementValue "solc" "" "Token" [("f()", 100)],
    measurementValue "solc" "0.8.30" "Vault" [("open()", 70)]],
   [measurementValue "solx" "0.1.0" "Token" [("f()", 90)],
    measurementValue "solx" "" "Vault" [("open()", 65)]])

theorem given_unversioned :
    ingest .standard unversioned.1 ≠ [] ∧ ingest .standard unversioned.2 ≠ [] :=
  ⟨List.ne_nil_of_length_pos (by decide +kernel), List.ne_nil_of_length_pos (by decide +kernel)⟩

theorem emptyVersion_selects_unversioned :
    ∃ reports, compareRecords ⟨false⟩ (ingest .standard unversioned.1)
        (ingest .standard unversioned.2) = .ok reports ∧
      (∀ report ∈ reports, ∀ pair, report.SelectsUnversioned pair) ∧
      reports.map (fun report => (report.methodRows ⟨"", ""⟩).map fun row =>
        (row.name, row.candidate.isSome, row.reference.isSome)) =
        [[("f()", false, true)], [("open()", true, false)]] := by
  have compared := compareRecords_eq ⟨false⟩ given_unversioned.1 given_unversioned.2
  exact ⟨_, compared, emptyVersion_selects compared, by decide +kernel⟩

/-- The default pair of each contract has an empty version, which selects a build whose gas is
counted. -/
theorem not_selectsNothing_unversioned :
    ∃ reports, compareRecords ⟨false⟩ (ingest .standard unversioned.1)
        (ingest .standard unversioned.2) = .ok reports ∧
      reports.map (fun report => (report.defaultPair, report.efficiencyCount report.defaultPair,
        (report.methodRows report.defaultPair).map fun row =>
          (row.candidate.isSome, row.reference.isSome))) =
        [(⟨"0.1.0", ""⟩, 1, [(true, true)]), (⟨"", "0.8.30"⟩, 1, [(true, true)])] ∧
      ¬ ∀ report ∈ reports, ∀ pair, pair.reference = "" →
        report.efficiencyCount pair = 0 ∧ ∀ row ∈ report.methodRows pair, row.reference = none := by
  have figures : ((contracts (ingest .standard unversioned.1 ++
      ingest .standard unversioned.2)).filterMap (reportOf? ⟨false⟩
        (ingest .standard unversioned.1 ++ ingest .standard unversioned.2))).map
          (fun report => (report.defaultPair, report.efficiencyCount report.defaultPair,
            (report.methodRows report.defaultPair).map fun row =>
              (row.candidate.isSome, row.reference.isSome))) =
        [(⟨"0.1.0", ""⟩, 1, [(true, true)]), (⟨"", "0.8.30"⟩, 1, [(true, true)])] := by
    decide +kernel
  refine ⟨_, compareRecords_eq ⟨false⟩ given_unversioned.1 given_unversioned.2, figures, ?_⟩
  intro claimed
  have token : ((⟨"0.1.0", ""⟩, 1, [(true, true)]) : VersionPair × Nat × List (Bool × Bool)) ∈
      [(⟨"0.1.0", ""⟩, 1, [(true, true)]), (⟨"", "0.8.30"⟩, 1, [(true, true)])] :=
    List.mem_cons_self
  rw [← figures] at token
  obtain ⟨report, inside, same⟩ := List.mem_map.mp token
  simp only [Prod.mk.injEq] at same
  obtain ⟨pair, one, -⟩ := same
  have zero := (claimed report inside report.defaultPair (by rw [pair])).1
  rw [one] at zero
  cases zero

end GasReport
