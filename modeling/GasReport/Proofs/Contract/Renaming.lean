import GasReport.Proofs.Collection.Rekeying
import GasReport.Proofs.Compiler.Ranking
import GasReport.Proofs.Contract.Results

namespace GasReport

open Record Measurement

/-- Different names are replaced by different names; the versions of each toolchain are replaced
apart. -/
structure Renaming where
  version : Toolchain → String → String
  contract : String → String
  signature : String → String
  version_injective : ∀ toolchain, (version toolchain).Injective
  contract_injective : contract.Injective
  signature_injective : signature.Injective

namespace Renaming

variable (naming : Renaming)

def name (name : BuildName) : BuildName :=
  ⟨name.toolchain, naming.version name.toolchain name.version⟩

/-- The tags stay as they are, whatever the new version says. -/
def build (build : Build) : Build := { build with name := naming.name build.name }

def function (function : String × Gas) : String × Gas :=
  (naming.signature function.1, function.2)

def measurement (measurement : Measurement) : Measurement where
  build := naming.build measurement.build
  contract := naming.contract measurement.contract
  gas := measurement.gas
  functions := measurement.functions.map naming.function

/-- This is what a mean of a function becomes. -/
def mean (mean : Build × Gas) : Build × Gas := (naming.build mean.1, mean.2)

def settings (record : BuildSettings) : BuildSettings :=
  { record with build := naming.build record.build }

def record : Record → Record
  | .settings record => .settings (naming.settings record)
  | .measurement record => .measurement (naming.measurement record)

def group (group : ContractGroup) : ContractGroup where
  contract := naming.contract group.contract
  measurements := group.measurements.map naming.measurement
  settings := group.settings.map naming.settings

def sample (sample : Sample) : Sample := { sample with build := naming.build sample.build }

def relative (entry : RelativeSample) : RelativeSample :=
  { entry with sample := naming.sample entry.sample }

def comparison (comparison : FunctionComparison) : FunctionComparison where
  name := naming.signature comparison.name
  versions := comparison.versions.map naming.relative

def report (report : ContractReport) : ContractReport where
  contract := naming.contract report.contract
  baseline := naming.build report.baseline
  results := report.results.map naming.comparison
  deployment := report.deployment.map naming.sample
  methodCount := report.methodCount
  measurements := report.measurements.map naming.measurement

/-- Different builds keep different names. -/
theorem name_injective : naming.name.Injective := by
  intro first second same
  obtain ⟨toolchain, version⟩ := first
  obtain ⟨otherToolchain, otherVersion⟩ := second
  obtain ⟨toolchains, versions⟩ := BuildName.mk.inj same
  change toolchain = otherToolchain at toolchains
  subst toolchains
  have equal : version = otherVersion := naming.version_injective toolchain versions
  rw [equal]

theorem name_eq_iff {first second : Build} :
    (naming.build first).name = (naming.build second).name ↔ first.name = second.name :=
  naming.name_injective.eq_iff

/-- A renamed build is compared exactly when the build is. -/
theorem compared_iff (baseline build : Build) :
    Build.Compared (naming.build baseline) (naming.build build) ↔
      Build.Compared baseline build :=
  or_congr naming.name_eq_iff Iff.rfl

/-- Tags and toolchains alone tell which builds may be the baseline. -/
theorem isBaselineCandidate_build (build : Build) :
    (naming.build build).isBaselineCandidate = build.isBaselineCandidate := rfl

/-- Tags and toolchains alone tell how builds are ranked. -/
theorem priority_build (build : Build) :
    Priority.ofBuild (naming.build build) = Priority.ofBuild build := rfl

theorem rekeyed_settings :
    Rekeyed (fun record => record.build.name) (fun record => record.build.name) naming.settings
      naming.name :=
  ⟨naming.name_injective, fun _ => rfl⟩

theorem rekeyed_build :
    Rekeyed (fun measurement => measurement.build.name) (fun measurement => measurement.build.name)
      naming.measurement naming.name :=
  ⟨naming.name_injective, fun _ => rfl⟩

theorem rekeyed_contract :
    Rekeyed Measurement.contract Measurement.contract naming.measurement naming.contract :=
  ⟨naming.contract_injective, fun _ => rfl⟩

theorem rekeyed_signature : Rekeyed Prod.fst Prod.fst naming.function naming.signature :=
  ⟨naming.signature_injective, fun _ => rfl⟩

/-! The records. -/

/-- The measurements are renamed one by one. -/
theorem measurements_map_record (records : List Record) :
    measurements (records.map naming.record) =
      (measurements records).map naming.measurement := by
  rw [measurements, List.filterMap_map, measurements, List.map_filterMap]
  congr 1
  funext record
  cases record <;> rfl

/-- The first settings of renamed builds are the renamed first settings. -/
theorem allSettings_map_record (records : List Record) :
    ContractGroup.allSettings (records.map naming.record) =
      (ContractGroup.allSettings records).map naming.settings := by
  have converted : (records.map naming.record).filterMap settings? =
      (records.filterMap settings?).map naming.settings := by
    rw [List.filterMap_map, List.map_filterMap]
    congr 1
    funext record
    cases record <;> rfl
  rw [ContractGroup.allSettings, converted]
  exact naming.rekeyed_settings.firsts_map (records.filterMap settings?)

/-- Contracts are renamed in their order. -/
theorem contracts_map_record (records : List Record) :
    contracts (records.map naming.record) = (contracts records).map naming.contract := by
  have converted : contractNames (records.map naming.record) =
      (contractNames records).map naming.contract := by
    rw [contractNames, measurements_map_record, contractNames, List.map_map, List.map_map]
    rfl
  rw [contracts, converted, firsts_id_map naming.contract_injective, contracts]

/-- A renamed contract has the renamed measurements of the contract. -/
theorem measurementsOf_map_record (contract : String) (records : List Record) :
    measurementsOf (naming.contract contract) (records.map naming.record) =
      (measurementsOf contract records).map naming.measurement := by
  rw [measurementsOf, measurements_map_record]
  exact naming.rekeyed_contract.filter_map contract (measurements records)

/-! The group of a contract. -/

/-- The settings of a toolchain are attached whatever the versions are called. -/
theorem ofContract_map_record (records : List Record) (contract : String) :
    ContractGroup.ofContract (records.map naming.record) (naming.contract contract) =
      naming.group (.ofContract records contract) := by
  rw [ContractGroup.ofContract, allSettings_map_record, measurementsOf_map_record,
    ContractGroup.attach, List.filter_map]
  simp only [List.any_map]
  rfl

/-- A renamed build has the settings of the build. -/
theorem settingsOf_group (group : ContractGroup) (build : Build) :
    (naming.group group).settingsOf (naming.build build) = group.settingsOf build := by
  have found : (naming.group group).settings.find? (·.build.name = (naming.build build).name) =
      (group.settings.find? (·.build.name = build.name)).map naming.settings :=
    naming.rekeyed_settings.find?_map build.name group.settings
  rw [ContractGroup.settingsOf, found, ContractGroup.settingsOf]
  cases group.settings.find? (·.build.name = build.name) <;> rfl

theorem sample_group (group : ContractGroup) (build : Build) (gas : Gas) :
    (naming.group group).sample (naming.build build) gas =
      naming.sample (group.sample build gas) := by
  rw [ContractGroup.sample, settingsOf_group]
  rfl

/-! The functions of a contract. -/

/-- Signatures are renamed in their order. -/
theorem signatures_map_measurement (measurements : List Measurement) :
    signatures (measurements.map naming.measurement) =
      (signatures measurements).map naming.signature := by
  simp only [signatures, List.flatMap_map, List.map_flatMap, measurement, List.map_map]
  rfl

/-- A renamed function has the same means, under renamed builds. -/
theorem means_map_measurement (signature : String) (measurements : List Measurement) :
    means (naming.signature signature) (measurements.map naming.measurement) =
      (means signature measurements).map naming.mean := by
  have filtered (functions : List (String × Gas)) :=
    naming.rekeyed_signature.filter_map signature functions
  simp only [means, List.flatMap_map, List.map_flatMap, measurement, filtered, List.map_map]
  rfl

/-- A mean is found under the renamed signature. -/
theorem mean?_measurement (signature : String) (measurement : Measurement) :
    (naming.measurement measurement).mean? (naming.signature signature) =
      measurement.mean? signature := by
  have found := naming.rekeyed_signature.find?_map signature measurement.functions
  change ((measurement.functions.map naming.function).find? (·.1 = naming.signature signature)).map
    Prod.snd = (measurement.functions.find? (·.1 = signature)).map Prod.snd
  rw [found, Option.map_map]
  rfl

/-- The base of a function is not changed. -/
theorem firstMean?_map_measurement (name : BuildName) (signature : String)
    (measurements : List Measurement) :
    firstMean? (naming.name name) (naming.signature signature)
      (measurements.map naming.measurement) = firstMean? name signature measurements := by
  have same := naming.rekeyed_build.filter_map name measurements
  rw [firstMean?, same, List.findSome?_map, firstMean?]
  congr 1
  funext measurement
  exact naming.mean?_measurement signature measurement

/-- The means of compared builds are renamed with their builds. -/
theorem filter_compared_map_mean (baseline : Build) (means : List (Build × Gas)) :
    (means.map naming.mean).filter (fun mean => Build.Compared (naming.build baseline) mean.1) =
      (means.filter fun mean => Build.Compared baseline mean.1).map naming.mean := by
  rw [List.filter_map]
  congr 2
  funext mean
  exact decide_eq_decide.mpr (naming.compared_iff baseline mean.1)

/-- A renamed function is compared as the function is. -/
theorem comparison?_group (group : ContractGroup) (baseline : Build) (signature : String) :
    (naming.group group).comparison? (naming.build baseline) (naming.signature signature) =
      (group.comparison? baseline signature).map naming.comparison := by
  have base := naming.firstMean?_map_measurement baseline.name signature group.measurements
  have retained : (means (naming.signature signature) (naming.group group).measurements).filter
      (fun mean => Build.Compared (naming.build baseline) mean.1) =
        ((means signature group.measurements).filter fun mean =>
          Build.Compared baseline mean.1).map naming.mean := by
    rw [← filter_compared_map_mean, ← means_map_measurement]
    rfl
  rw [ContractGroup.comparison?, retained, ContractGroup.comparison?, Option.map_map]
  change ((firstMean? (naming.name baseline.name) _ (group.measurements.map _)).filter _).map _ = _
  rw [base]
  congr 1
  funext base
  rw [Function.comp_apply, comparison, List.map_map, List.map_map]
  congr 2
  funext mean
  change RelativeSample.mk ((naming.group group).sample (naming.build mean.1) mean.2) _ _ = _
  rw [sample_group]
  rfl

/-- Results are renamed in their order. -/
theorem results?_group (group : ContractGroup) (baseline : Build) :
    ContractReport.results? (naming.group group) (naming.build baseline) =
      (ContractReport.results? group baseline).map naming.comparison := by
  have named : firsts id (signatures (naming.group group).measurements) =
      (firsts id (signatures group.measurements)).map naming.signature := by
    rw [← firsts_id_map naming.signature_injective, ← signatures_map_measurement]
    rfl
  rw [results?_eq, results?_eq, named, List.filterMap_map, List.map_filterMap]
  congr 1
  funext signature
  exact naming.comparison?_group group baseline signature

/-- Ranked deployments are renamed in their order. -/
theorem deployments_group (group : ContractGroup) :
    (naming.group group).deployments = group.deployments.map naming.sample := by
  rw [ContractGroup.deployments, ContractGroup.deployments,
    map_rankBy Sample.build Sample.build naming.sample fun _ => naming.priority_build _,
    List.map_map]
  change rankBy _ ((group.measurements.map naming.measurement).map _) = _
  rw [List.map_map]
  congr 2
  funext measurement
  exact naming.sample_group group measurement.build measurement.gas

/-! The reports. -/

/-- Renamed measurements are eligible when the measurements are. -/
theorem eligible_map_measurement (measurements : List Measurement) :
    eligible (measurements.map naming.measurement) =
      (eligible measurements).map naming.measurement := by
  have kept : (fun measurement : Measurement => measurement.build.isBaselineCandidate) ∘
      naming.measurement = fun measurement => measurement.build.isBaselineCandidate :=
    funext fun measurement => naming.isBaselineCandidate_build measurement.build
  rw [eligible, List.filter_map, kept, eligible]

/-- A contract is accepted under any names. -/
theorem accepts_map_measurement (options : ComparisonOptions) (measurements : List Measurement) :
    options.Accepts (measurements.map naming.measurement) ↔ options.Accepts measurements := by
  rw [ComparisonOptions.Accepts, ComparisonOptions.Accepts, eligible_map_measurement,
    List.length_map,
    ne_eq, List.map_eq_nil_iff]

/-- The report of a renamed group is the renamed report. -/
theorem ofGroup_group (group : ContractGroup) (first : Measurement) (eligible : Nat) :
    ContractReport.ofGroup (naming.group group) ⟨naming.measurement first, eligible⟩ =
      naming.report (ContractReport.ofGroup group ⟨first, eligible⟩) := by
  have results := naming.results?_group group first.build
  have count := congrArg List.length results
  rw [List.length_map] at count
  simp only [ContractReport.ofGroup, report, deployments_group]
  change ContractReport.mk _ _ (ContractReport.results? _ (naming.build first.build)) _
    (ContractReport.results? _ (naming.build first.build)).length _ = _
  rw [count, results]
  rfl

/-- The same contracts are reported, with the same choice of the baseline. -/
theorem reportOf?_map_record (options : ComparisonOptions) (records : List Record)
    (contract : String) :
    reportOf? options (records.map naming.record) (naming.contract contract) =
      (reportOf? options records contract).map naming.report := by
  rw [reportOf?_eq, reportOf?_eq, measurementsOf_map_record, ofContract_map_record,
    if_congr (naming.accepts_map_measurement options _) rfl rfl, eligible_map_measurement,
    List.length_map, List.head?_map, Option.map_map]
  split
  · rw [Option.map_map]
    congr 1
    funext first
    exact naming.ofGroup_group _ first _
  · rfl

/-- The reports of renamed records are the renamed reports. -/
theorem reports_map_record (options : ComparisonOptions) (records : List Record) :
    (contracts (records.map naming.record)).filterMap
        (reportOf? options (records.map naming.record)) =
      ((contracts records).filterMap (reportOf? options records)).map naming.report := by
  rw [contracts_map_record, List.filterMap_map, List.map_filterMap]
  congr 1
  funext contract
  exact naming.reportOf?_map_record options records contract

end Renaming

/-- A comparison of renamed records gives the renamed reports, or the same error. -/
theorem compareRecords_rename (naming : Renaming) (options : ComparisonOptions)
    (reference candidate : List Record) :
    compareRecords options (reference.map naming.record) (candidate.map naming.record) =
      (compareRecords options reference candidate).map fun reports =>
        reports.map naming.report := by
  cases reference with
  | nil => rfl
  | cons first rest =>
      cases candidate with
      | nil => rfl
      | cons second others =>
          have renamedReference : (first :: rest).map naming.record ≠ [] := List.cons_ne_nil _ _
          have renamedCandidate : (second :: others).map naming.record ≠ [] := List.cons_ne_nil _ _
          rw [compareRecords_eq options renamedReference renamedCandidate, ← List.map_append,
            naming.reports_map_record,
            compareRecords_eq options (List.cons_ne_nil _ _) (List.cons_ne_nil _ _)]
          rfl

/-- The new versions say what is not true of the builds. -/
def misleadingNaming : Renaming where
  version
    | .solc, version => "opt-" ++ version
    | .solx, version => "via-ir-" ++ version
  contract := ("Old" ++ ·)
  signature := ("_" ++ ·)
  version_injective toolchain first second same := by
    cases toolchain with
    | solc => exact (String.append_right_inj _).mp same
    | solx => exact (String.append_right_inj _).mp same
  contract_injective _ _ same := (String.append_right_inj _).mp same
  signature_injective _ _ same := (String.append_right_inj _).mp same

/-- One contract is measured with three builds, one of them described by settings. -/
def namedBuilds : List Record × List Record :=
  ([.measurement ⟨⟨⟨.solc, "0.8.30"⟩, .default, true⟩, "Token", 1000.0, [("f()", 100.0)]⟩,
    .settings ⟨⟨⟨.solc, "0.8.30"⟩, .default, true⟩, .ofList [("optimizer", .truth true)]⟩],
   [.measurement ⟨⟨⟨.solx, "0.1.0"⟩, .viaIR, false⟩, "Token", 950.0, [("f()", 95.0)]⟩,
    .measurement ⟨⟨⟨.solx, "0.2.0"⟩, .default, false⟩, "Token", 900.0, [("f()", 90.0)]⟩])

/-- The baseline is still told by the tags of the builds. -/
theorem compareRecords_rename_misleading :
    ∃ reports, compareRecords ⟨false⟩ (namedBuilds.1.map misleadingNaming.record)
        (namedBuilds.2.map misleadingNaming.record) = .ok reports ∧
      reports.map (fun report => (report.contract, report.baseline.version)) =
        [("OldToken", "via-ir-0.2.0")] ∧
      reports.map (fun report => report.results.map fun function =>
        function.versions.map (·.sample.build.version)) =
          [[["opt-0.8.30", "via-ir-0.1.0", "via-ir-0.2.0"]]] := by
  have referenceGiven : namedBuilds.1 ≠ [] := List.cons_ne_nil _ _
  have candidateGiven : namedBuilds.2 ≠ [] := List.cons_ne_nil _ _
  have renamed := compareRecords_rename misleadingNaming ⟨false⟩ namedBuilds.1 namedBuilds.2
  rw [compareRecords_eq ⟨false⟩ referenceGiven candidateGiven] at renamed
  exact ⟨_, renamed, by decide +kernel, by decide +kernel⟩

end GasReport
