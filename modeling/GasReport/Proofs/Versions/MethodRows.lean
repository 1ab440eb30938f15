import GasReport.Proofs.Contract.FunctionTable
import GasReport.Versions.Pair
import Mathlib.Data.List.Forall2

namespace GasReport

open Record Measurement

/-- Candidate builds of the default pipeline are left out, except the baseline. -/
def Build.CandidateAt (baseline : Build) (version : String) (build : Build) : Prop :=
  build.name = ⟨.solx, version⟩ ∧ (build.pipeline = .viaIR ∨ build.name = baseline.name)

instance (baseline : Build) (version : String) (build : Build) :
    Decidable (Build.CandidateAt baseline version build) :=
  inferInstanceAs (Decidable (_ ∧ (_ ∨ _)))

/-- This says what a row tells of a function, measurement by measurement. -/
structure MethodRow.Reflects (report : ContractReport) (pair : VersionPair) (name : String)
    (row : MethodRow) : Prop where
  named : row.name = name
  reference : row.reference =
    (firstThrough? (fun build => build.name = ⟨.solc, pair.reference⟩) name
      report.measurements).bind (·.mean? name)
  candidate : row.candidate =
    (firstThrough? (fun build => Build.CandidateAt report.baseline pair.candidate build) name
      report.measurements).bind (·.mean? name)
  compared : row.difference.isSome ↔ ∃ candidate reference, row.candidate = some candidate ∧
    row.reference = some reference ∧ (reference == 0.0) = false
  related : ∀ {candidate reference}, row.candidate = some candidate →
    row.reference = some reference → row.difference = difference? candidate reference

/-- Two amounts have a difference unless the base is zero. -/
theorem isSome_difference? (gas base : Gas) :
    (difference? gas base).isSome ↔ (base == 0.0) = false := by
  rw [difference?]
  cases base == 0.0 <;> simp

theorem MethodRow.difference_ofGas (name : String) {candidate reference : Option Gas}
    {gas base : Gas} (candidateGas : candidate = some gas) (referenceGas : reference = some base) :
    (ofGas name candidate reference).difference = difference? gas base := by
  rw [candidateGas, referenceGas]
  rfl

/-- A row has a difference when both amounts are known and the reference is not zero. -/
theorem MethodRow.isSome_difference_ofGas (name : String) (candidate reference : Option Gas) :
    (ofGas name candidate reference).difference.isSome ↔ ∃ gas base, candidate = some gas ∧
      reference = some base ∧ (base == 0.0) = false := by
  cases candidate with
  | none => simp [ofGas]
  | some gas =>
      cases reference with
      | none => simp [ofGas]
      | some base => simpa [ofGas] using isSome_difference? gas base

/-- The rows tell which functions cost less with the candidate version. -/
theorem ContractReport.efficiencyCount_eq (report : ContractReport) (pair : VersionPair) :
    report.efficiencyCount pair = (report.methodRows pair).countP MethodRow.isImproved := by
  rw [efficiencyCount, methodRows, List.countP_map]
  congr 1
  funext function
  simp only [Function.comp_apply, MethodRow.isImproved, MethodRow.ofGas, FunctionComparison.gas?]
  cases function.version? .solx pair.candidate with
  | none => rfl
  | some candidate => cases function.version? .solc pair.reference <;> rfl

/-- A version is looked up among the compared builds. -/
theorem ContractReport.MadeFrom.gas?_eq {records : List Record} {first : Measurement}
    {report : ContractReport} (made : report.MadeFrom records first)
    {function : FunctionComparison} (inside : function ∈ report.results) (toolchain : Toolchain)
    (version : String) :
    function.gas? toolchain version =
      (firstThrough? (fun build =>
        Build.Compared report.baseline build ∧ build.name = ⟨toolchain, version⟩) function.name
          report.measurements).bind (·.mean? function.name) := by
  obtain ⟨base, -, -, versions⟩ := made.exists_base inside
  rw [FunctionComparison.gas?, FunctionComparison.version?, versions, List.find?_map,
    List.find?_filter, Option.map_map, ← find?_means_build]
  simp only [Function.comp_def, ContractGroup.sample, decide_eq_true_eq, Bool.decide_and]

/-- Whatever a version costs was measured. -/
theorem ContractReport.MadeFrom.exists_measured {records : List Record} {first : Measurement}
    {report : ContractReport} (made : report.MadeFrom records first)
    {function : FunctionComparison} (inside : function ∈ report.results) {toolchain : Toolchain}
    {version : String} {gas : Gas} (found : function.gas? toolchain version = some gas) :
    ∃ measurement ∈ Record.measurements records,
      ∃ mean ∈ measurement.functions, mean.2 = gas := by
  rw [made.gas?_eq inside, Option.bind_eq_some_iff] at found
  obtain ⟨measurement, through, measured⟩ := found
  have given : measurement ∈ report.measurements := List.mem_of_find?_eq_some through
  rw [made.measurements, measurementsOf, List.mem_filter] at given
  rw [mean?, Option.map_eq_some_iff] at measured
  obtain ⟨mean, same, amount⟩ := measured
  exact ⟨measurement, given.1, mean, List.mem_of_find?_eq_some same, amount⟩

/-- Every build of the reference is compared. -/
theorem Build.compared_and_solc (baseline build : Build) (version : String) :
    Compared baseline build ∧ build.name = ⟨.solc, version⟩ ↔ build.name = ⟨.solc, version⟩ := by
  constructor
  · exact And.right
  · intro named
    exact ⟨.inr (.inl (congrArg BuildName.toolchain named)), named⟩

/-- A build of the candidate is compared unless it is another default build. -/
theorem Build.compared_and_solx (baseline build : Build) (version : String) :
    Compared baseline build ∧ build.name = ⟨.solx, version⟩ ↔
      CandidateAt baseline version build := by
  constructor
  · rintro ⟨same | reference | ⟨-, viaIR⟩, named⟩
    · exact ⟨named, .inr same⟩
    · rw [toolchain, named] at reference
      cases reference
    · exact ⟨named, .inl viaIR⟩
  · rintro ⟨named, viaIR | same⟩
    · exact ⟨.inr (.inr ⟨congrArg BuildName.toolchain named, viaIR⟩), named⟩
    · exact ⟨.inl same, named⟩

/-- There is one row for each result, and it reflects the measurements of the contract. -/
theorem methodRows_reflect {options : ComparisonOptions} {reference candidate : List Record}
    {reports : List ContractReport} {report : ContractReport}
    (compared : compareRecords options reference candidate = .ok reports)
    (inside : report ∈ reports) (pair : VersionPair) :
    List.Forall₂ (fun function row => MethodRow.Reflects report pair function.name row)
      report.results (report.methodRows pair) := by
  obtain ⟨first, made⟩ := exists_madeFrom compared inside
  rw [ContractReport.methodRows, List.forall₂_map_right_iff, List.forall₂_same]
  intro function given
  constructor
  case named => rfl
  case reference =>
    change function.gas? .solc pair.reference = _
    rw [made.gas?_eq given]
    simp only [Build.compared_and_solc]
  case candidate =>
    change function.gas? .solx pair.candidate = _
    rw [made.gas?_eq given]
    simp only [Build.compared_and_solx]
  case compared => exact MethodRow.isSome_difference_ofGas _ _ _
  case related =>
    intro candidate reference candidateGas referenceGas
    exact MethodRow.difference_ofGas _ candidateGas referenceGas

/-- One candidate version is left out, and the others are measured twice or with other functions. -/
def manyVersions : List Record × List Record :=
  ([.measurement ⟨.tagged .standard ⟨.solc, "0.8.30"⟩, "Token", 1000.0, [("g()", 0.0)]⟩,
    .measurement ⟨.tagged .standard ⟨.solc, "0.8.30"⟩, "Token", 1000.0,
      [("f()", 100.0), ("g()", 50.0)]⟩],
   [.measurement ⟨.tagged .standard ⟨.solx, "0.1.0"⟩, "Token", 900.0,
      [("f()", 90.0), ("g()", 80.0)]⟩,
    .measurement ⟨.tagged .standard ⟨.solx, "0.2.0"⟩, "Token", 800.0, [("f()", 70.0)]⟩,
    .measurement ⟨.tagged .standard ⟨.solx, "0.1.0-via-ir"⟩, "Token", 950.0, [("f()", 95.0)]⟩])

theorem methodRows_reflect_manyVersions :
    ∃ reports, compareRecords ⟨false⟩ manyVersions.1 manyVersions.2 = .ok reports ∧
      (∀ report ∈ reports, ∀ pair,
        List.Forall₂ (fun function row => MethodRow.Reflects report pair function.name row)
          report.results (report.methodRows pair)) ∧
      reports.map (fun report =>
        ["0.1.0", "0.2.0", "0.1.0-via-ir"].map fun version =>
          (report.methodRows ⟨version, "0.8.30"⟩).map fun row =>
            (row.name, row.candidate.isSome, row.difference.isSome)) =
        [[[("g()", true, false), ("f()", true, true)],
          [("g()", false, false), ("f()", false, false)],
          [("g()", false, false), ("f()", true, true)]]] := by
  have compared := compareRecords_eq ⟨false⟩ (List.cons_ne_nil _ _ : manyVersions.1 ≠ [])
    (List.cons_ne_nil _ _ : manyVersions.2 ≠ [])
  refine ⟨_, compared, ?_, by decide +kernel⟩
  intro report inside pair
  exact methodRows_reflect compared inside pair

end GasReport
