import GasReport.Proofs.Collection.Repetition
import GasReport.Proofs.Compiler.Ranking
import GasReport.Proofs.Contract.Results
import GasReport.Proofs.Versions.MethodRows
import GasReport.Versions.Statistics
import Mathlib.Data.List.Forall2

namespace GasReport

open Record Measurement

/-- These are the figures that two reports agree on. -/
structure SameFigures (report other : ContractReport) : Prop where
  contract : other.contract = report.contract
  baseline : other.baseline = report.baseline
  methodCount : other.methodCount = report.methodCount
  names : other.results.map (·.name) = report.results.map (·.name)
  bases : List.Forall₂ (fun function otherFunction =>
    ∃ base, function.HasBase base ∧ otherFunction.HasBase base) report.results other.results
  deploymentBaseline : other.deploymentBaseline? = report.deploymentBaseline?
  versions : ∀ toolchain, other.versions toolchain = report.versions toolchain
  defaultPair : other.defaultPair = report.defaultPair
  methodRows : ∀ pair, other.methodRows pair = report.methodRows pair
  efficiencyCount : ∀ pair, other.efficiencyCount pair = report.efficiencyCount pair
  pairStatistics : ∀ pair, other.pairStatistics pair = report.pairStatistics pair

/-! The records. -/

namespace Record

variable {once twice : List Record}

/-- The measurements of a contract are repeated with the records. -/
theorem measurementsOf_repeated (repeated : Repeated once twice) (contract : String) :
    Repeated (measurementsOf contract once) (measurementsOf contract twice) :=
  (repeated.filterMap measurement?).filter _

/-- No contract is new. -/
theorem contracts_repeated (repeated : Repeated once twice) : contracts twice = contracts once :=
  ((repeated.filterMap measurement?).map (·.contract)).firsts_eq id

/-- The first settings of every build stay the same. -/
theorem allSettings_repeated (repeated : Repeated once twice) :
    ContractGroup.allSettings twice = ContractGroup.allSettings once :=
  (repeated.filterMap settings?).firsts_eq (·.build.name)

end Record

/-- The measurements of a group are repeated, and the settings are not. -/
structure ContractGroup.Doubled (once twice : ContractGroup) : Prop where
  contract : twice.contract = once.contract
  measurements : Repeated once.measurements twice.measurements
  settings : twice.settings = once.settings

/-- The versions of a function are repeated. -/
structure FunctionComparison.Doubled (once twice : FunctionComparison) : Prop where
  name : twice.name = once.name
  based : ∃ base, once.HasBase base
  versions : Repeated once.versions twice.versions

/-- A doubled function keeps its base. -/
theorem FunctionComparison.Doubled.hasBase {once twice : FunctionComparison}
    (doubled : once.Doubled twice) {base : Gas} (based : once.HasBase base) :
    twice.HasBase base := by
  obtain ⟨given, all⟩ := based
  obtain ⟨entry, inside⟩ := List.exists_mem_of_ne_nil _ given
  constructor
  · exact List.ne_nil_of_mem (doubled.versions.mem_iff.mpr inside)
  · intro other found
    exact all other (doubled.versions.mem_iff.mp found)

namespace ContractGroup

/-- The group of a contract is doubled. -/
theorem doubled_ofContract {once twice : List Record} (repeated : Repeated once twice)
    (contract : String) : Doubled (ofContract once contract) (ofContract twice contract) where
  contract := rfl
  measurements := measurementsOf_repeated repeated contract
  settings := by
    have measured := measurementsOf_repeated repeated contract
    simp only [ofContract, attach, allSettings_repeated repeated, measured.any_eq]

namespace Doubled

variable {once twice : ContractGroup}

/-- A doubled group makes the same samples. -/
theorem sample_eq (doubled : Doubled once twice) : twice.sample = once.sample := by
  funext build gas
  rw [sample, settingsOf, doubled.settings, sample, settingsOf]

/-- The means of a function are repeated. -/
theorem repeated_means (doubled : Doubled once twice) (signature : String) :
    Repeated (Measurement.means signature once.measurements)
      (Measurement.means signature twice.measurements) :=
  doubled.measurements.flatMap _

/-- The base of a function stays the same. -/
theorem firstMean?_eq (doubled : Doubled once twice) (name : BuildName) (signature : String) :
    firstMean? name signature twice.measurements = firstMean? name signature once.measurements :=
  (doubled.measurements.filter _).findSome?_eq _

/-- A function has a result in both groups or in neither. -/
theorem rel_comparison? (doubled : Doubled once twice) (baseline : Build) (signature : String) :
    Option.Rel FunctionComparison.Doubled (once.comparison? baseline signature)
      (twice.comparison? baseline signature) := by
  cases based : (firstMean? baseline.name signature once.measurements).filter (· != 0.0) with
  | none =>
      rw [ContractGroup.comparison?, ContractGroup.comparison?, doubled.firstMean?_eq, based]
      exact Option.Rel.none
  | some base =>
      rw [ContractGroup.comparison?, ContractGroup.comparison?, doubled.firstMean?_eq, based,
        doubled.sample_eq]
      obtain ⟨measured, positive⟩ := Option.filter_eq_some_iff.mp based
      have found : once.comparison? baseline signature = some _ :=
        comparison?_eq_some.mpr ⟨base, measured, by simpa [bne] using positive, rfl⟩
      exact Option.Rel.some
        ⟨rfl, ⟨base, hasBase_of_comparison? found measured⟩,
          ((doubled.repeated_means signature).filter _).map _⟩

/-- The results are doubled one by one. -/
theorem forall₂_results? (doubled : Doubled once twice) (baseline : Build) :
    List.Forall₂ FunctionComparison.Doubled (ContractReport.results? once baseline)
      (ContractReport.results? twice baseline) := by
  have signatures_eq : firsts id (signatures twice.measurements) =
      firsts id (signatures once.measurements) :=
    (doubled.measurements.flatMap _).firsts_eq id
  rw [results?_eq, results?_eq, signatures_eq]
  refine List.rel_filterMap (R := Eq) ?_ (List.forall₂_refl _)
  rintro signature _ rfl
  exact doubled.rel_comparison? baseline signature

/-- The first deployment of the highest priority is the same. -/
theorem head?_deployments (doubled : Doubled once twice) :
    twice.deployments.head? = once.deployments.head? := by
  have samples : Repeated
      (once.measurements.map fun measurement => once.sample measurement.build measurement.gas)
      (twice.measurements.map fun measurement =>
        twice.sample measurement.build measurement.gas) := by
    rw [doubled.sample_eq]
    exact doubled.measurements.map _
  rw [deployments, deployments, head?_rankBy, head?_rankBy]
  simp only [samples.find?_eq]

end Doubled

end ContractGroup

/-! The reports. -/

/-- The versions of each function are repeated, and what is told once is told as before. -/
structure ContractReport.Doubled (once twice : ContractReport) : Prop where
  contract : twice.contract = once.contract
  baseline : twice.baseline = once.baseline
  results : List.Forall₂ FunctionComparison.Doubled once.results twice.results
  methodCount : twice.methodCount = once.methodCount
  deploymentBaseline : twice.deploymentBaseline? = once.deploymentBaseline?
  measurements : Repeated once.measurements twice.measurements

namespace ContractReport

/-- The report of a doubled group is a doubled report. -/
theorem doubled_ofGroup {once twice : ContractGroup} (doubled : once.Doubled twice)
    (first : Measurement) (eligible otherEligible : Nat) :
    Doubled (.ofGroup once ⟨first, eligible⟩) (.ofGroup twice ⟨first, otherEligible⟩) where
  contract := doubled.contract
  baseline := rfl
  results := doubled.forall₂_results? first.build
  methodCount := (doubled.forall₂_results? first.build).length_eq.symm
  deploymentBaseline := doubled.head?_deployments
  measurements := doubled.measurements

end ContractReport

/-- Without the strict option every contract with an eligible measurement is reported. -/
theorem reportOf?_lenient (records : List Record) (contract : String) :
    reportOf? ⟨false⟩ records contract =
      (eligible (measurementsOf contract records)).head?.map fun first =>
        ContractReport.ofGroup (.ofContract records contract)
          ⟨first, (eligible (measurementsOf contract records)).length⟩ := by
  rw [reportOf?_eq]
  split
  · rfl
  · rename_i refused
    have none : eligible (measurementsOf contract records) = [] := by
      by_contra some
      exact refused ⟨some, fun strict => absurd strict Bool.false_ne_true⟩
    rw [none]
    rfl

/-- Each contract is reported in both runs or in neither. -/
theorem doubled_reportOf? {once twice : List Record} (repeated : Repeated once twice)
    (contract : String) :
    Option.Rel ContractReport.Doubled (reportOf? ⟨false⟩ once contract)
      (reportOf? ⟨false⟩ twice contract) := by
  have first_eq := ((measurementsOf_repeated repeated contract).filter
    (·.build.isBaselineCandidate)).head?_eq
  change (eligible (measurementsOf contract twice)).head? =
    (eligible (measurementsOf contract once)).head? at first_eq
  rw [reportOf?_lenient, reportOf?_lenient, first_eq]
  cases (eligible (measurementsOf contract once)).head? with
  | none => exact Option.Rel.none
  | some first =>
      exact Option.Rel.some (ContractReport.doubled_ofGroup
        (ContractGroup.doubled_ofContract repeated contract) first _ _)

namespace ContractReport

namespace Doubled

variable {once twice : ContractReport}

/-- What is told of each function by itself is told in the same order. -/
theorem map_results {A : Type} (doubled : Doubled once twice) (tell : FunctionComparison → A)
    (same : ∀ {first second : FunctionComparison},
      first.Doubled second → tell second = tell first) :
    twice.results.map tell = once.results.map tell := by
  have related : List.Forall₂ (fun first second => tell second = tell first) once.results
      twice.results := doubled.results.imp fun _ _ => same
  rw [← List.forall₂_eq_eq_eq, List.forall₂_map_left_iff, List.forall₂_map_right_iff]
  exact related.flip

/-- The rows of any pair of versions are the same. -/
theorem methodRows_eq (doubled : Doubled once twice) (pair : VersionPair) :
    twice.methodRows pair = once.methodRows pair := by
  apply doubled.map_results
  intro first second same
  have gas_eq (toolchain : Toolchain) (version : String) :
      second.gas? toolchain version = first.gas? toolchain version :=
    congrArg _ (same.versions.find?_eq _)
  rw [same.name, gas_eq, gas_eq]

theorem versions_eq (doubled : Doubled once twice) (toolchain : Toolchain) :
    twice.versions toolchain = once.versions toolchain :=
  ((doubled.measurements.map Measurement.build).filter _).firsts_eq Build.name

/-- The same pair is compared by default. -/
theorem defaultPair_eq (doubled : Doubled once twice) : twice.defaultPair = once.defaultPair := by
  simp only [defaultPair, firstVersion, doubled.measurements.find?_eq]

/-- All figures that are told of a doubled report are the same. -/
theorem sameFigures (doubled : Doubled once twice) : SameFigures once twice where
  contract := doubled.contract
  baseline := doubled.baseline
  methodCount := doubled.methodCount
  names := doubled.map_results _ fun same => same.name
  bases := by
    apply doubled.results.imp
    intro first second same
    obtain ⟨base, based⟩ := same.based
    exact ⟨base, based, same.hasBase based⟩
  deploymentBaseline := doubled.deploymentBaseline
  versions := doubled.versions_eq
  defaultPair := doubled.defaultPair_eq
  methodRows := doubled.methodRows_eq
  efficiencyCount pair := by
    rw [efficiencyCount_eq, efficiencyCount_eq, doubled.methodRows_eq]
  pairStatistics pair := by
    rw [pairStatistics, pairStatistics, doubled.methodRows_eq, doubled.methodCount]

end Doubled

end ContractReport

/-- Records that are loaded twice on each side give reports with the same figures. -/
theorem compareRecords_doubled {reference candidate : List Record} (referenceGiven : reference ≠ [])
    (candidateGiven : candidate ≠ []) :
    ∃ reports otherReports,
      compareRecords ⟨false⟩ reference candidate = .ok reports ∧
      compareRecords ⟨false⟩ (reference ++ reference) (candidate ++ candidate) =
        .ok otherReports ∧
      List.Forall₂ SameFigures reports otherReports := by
  have repeated : Repeated (reference ++ candidate)
      ((reference ++ reference) ++ (candidate ++ candidate)) := ⟨reference, candidate, rfl, rfl⟩
  have doubled : List.Forall₂ ContractReport.Doubled
      ((contracts (reference ++ candidate)).filterMap (reportOf? ⟨false⟩ (reference ++ candidate)))
      ((contracts (reference ++ candidate)).filterMap
        (reportOf? ⟨false⟩ ((reference ++ reference) ++ (candidate ++ candidate)))) := by
    refine List.rel_filterMap (R := Eq) ?_ (List.forall₂_refl _)
    rintro contract _ rfl
    exact doubled_reportOf? repeated contract
  refine ⟨_, _, compareRecords_eq ⟨false⟩ referenceGiven candidateGiven,
    compareRecords_eq ⟨false⟩ (by simpa using referenceGiven) (by simpa using candidateGiven), ?_⟩
  rw [contracts_repeated repeated]
  exact doubled.imp fun _ _ same => same.sameFigures

/-- Two builds may be the baseline, and the optimized reference is measured after another one. -/
def ambiguousBuilds : List Record × List Record :=
  ([.measurement ⟨⟨⟨.solc, "0.8.30"⟩, .default, false⟩, "Token", 1000.0,
      [("f()", 100.0), ("g()", 50.0)]⟩,
    .measurement ⟨⟨⟨.solc, "0.8.30-opt"⟩, .default, true⟩, "Token", 800.0, [("f()", 80.0)]⟩],
   [.measurement ⟨⟨⟨.solx, "0.1.0"⟩, .default, false⟩, "Token", 900.0,
      [("f()", 90.0), ("g()", 60.0)]⟩,
    .measurement ⟨⟨⟨.solx, "0.2.0"⟩, .default, false⟩, "Token", 850.0, [("f()", 70.0)]⟩])

theorem compareRecords_doubled_ambiguousBuilds :
    ambiguousBuilds.1 ≠ [] ∧ ambiguousBuilds.2 ≠ [] ∧
    ∃ reports otherReports,
      compareRecords ⟨false⟩ ambiguousBuilds.1 ambiguousBuilds.2 = .ok reports ∧
      compareRecords ⟨false⟩ (ambiguousBuilds.1 ++ ambiguousBuilds.1)
        (ambiguousBuilds.2 ++ ambiguousBuilds.2) = .ok otherReports ∧
      List.Forall₂ SameFigures reports otherReports ∧
      reports.map (fun report => report.results.map fun function =>
        (function.name, function.versions.length)) = [[("f()", 3), ("g()", 2)]] ∧
      otherReports.map (fun report => report.results.map fun function =>
        (function.name, function.versions.length)) = [[("f()", 6), ("g()", 4)]] := by
  have referenceGiven : ambiguousBuilds.1 ≠ [] := List.cons_ne_nil _ _
  have candidateGiven : ambiguousBuilds.2 ≠ [] := List.cons_ne_nil _ _
  obtain ⟨reports, otherReports, compared, otherCompared, same⟩ :=
    compareRecords_doubled referenceGiven candidateGiven
  refine ⟨referenceGiven, candidateGiven, reports, otherReports, compared, otherCompared, same,
    ?_, ?_⟩
  · rw [eq_of_compareRecords compared]
    decide +kernel
  · rw [eq_of_compareRecords otherCompared]
    decide +kernel

end GasReport
