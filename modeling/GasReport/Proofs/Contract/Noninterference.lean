import GasReport.Proofs.Compiler.Ranking
import GasReport.Proofs.Contract.Results

/-!
Settings do not interfere with a comparison. A report with its settings blanked is the report of a
group without settings, so that it depends on the measurements alone.
-/

namespace GasReport

open Record Measurement

def Sample.blank (sample : Sample) : Sample := { sample with settings := Dictionary.empty }

def RelativeSample.blank (entry : RelativeSample) : RelativeSample :=
  { entry with sample := entry.sample.blank }

def FunctionComparison.blank (function : FunctionComparison) : FunctionComparison :=
  { function with versions := function.versions.map RelativeSample.blank }

/-- All else stays in the report: names, gas, differences, order and measurements. -/
def ContractReport.blank (report : ContractReport) : ContractReport :=
  { report with
    results := report.results.map FunctionComparison.blank
    deployment := report.deployment.map Sample.blank }

namespace ContractGroup

def withoutSettings (group : ContractGroup) : ContractGroup := { group with settings := [] }

theorem blank_sample (group : ContractGroup) (build : Build) (gas : Gas) :
    (group.sample build gas).blank = group.withoutSettings.sample build gas := rfl

/-- A blanked comparison of a function is that of the group without settings. -/
theorem blank_comparison? (group : ContractGroup) (baseline : Build) (signature : String) :
    (group.comparison? baseline signature).map FunctionComparison.blank =
      group.withoutSettings.comparison? baseline signature := by
  rw [comparison?, Option.map_map, comparison?]
  congr 1
  funext base
  simp only [Function.comp_apply, FunctionComparison.blank, List.map_map, ← blank_sample]
  rfl

/-- Blanked results are those of the group without settings. -/
theorem blank_results? (group : ContractGroup) (baseline : Build) :
    (ContractReport.results? group baseline).map FunctionComparison.blank =
      ContractReport.results? group.withoutSettings baseline := by
  rw [results?_eq, results?_eq, List.map_filterMap]
  congr 1
  funext signature
  exact group.blank_comparison? baseline signature

/-- The ranking does not look at settings. -/
theorem blank_deployments (group : ContractGroup) :
    group.deployments.map Sample.blank = group.withoutSettings.deployments := by
  rw [deployments, map_rankBy Sample.build Sample.build Sample.blank fun _ => rfl, List.map_map,
    deployments]
  simp only [← blank_sample]
  rfl

/-- Blanking a report blanks its group, and the baseline is chosen as before. -/
theorem blank_ofGroup (group : ContractGroup) (baseline : Baseline) :
    (ContractReport.ofGroup group baseline).blank =
      ContractReport.ofGroup group.withoutSettings baseline := by
  have results := group.blank_results? baseline.measurement.build
  have count := congrArg List.length results
  rw [List.length_map] at count
  simp only [ContractReport.ofGroup, ContractReport.blank, results, blank_deployments, count]
  rfl

end ContractGroup

open ContractGroup

/-- A blanked report is that of the group without settings, with either option. -/
theorem blank_report? (options : ComparisonOptions) (group : ContractGroup) :
    (Verdict.ofGroup options group).report?.map ContractReport.blank =
      (Verdict.ofGroup options group.withoutSettings).report? := by
  rw [Verdict.report?_ofGroup, Verdict.report?_ofGroup]
  change _ = if options.Accepts group.measurements then
    (eligible group.measurements).head?.map _ else none
  split
  · rw [Option.map_map]
    congr 1
    funext first
    exact blank_ofGroup group ⟨first, _⟩
  · rfl

/-- Groups of the same measurements differ in their settings at most. -/
theorem withoutSettings_ofContract {records otherRecords : List Record}
    (same : measurements records = measurements otherRecords) (contract : String) :
    (ofContract records contract).withoutSettings =
      (ofContract otherRecords contract).withoutSettings := by
  simp only [withoutSettings, ofContract, attach, measurementsOf, same]

/-- Two lists with the same measurements have the same blanked reports. -/
theorem blank_reports {records otherRecords : List Record}
    (same : measurements records = measurements otherRecords)
    (options : ComparisonOptions) :
    ((contracts records).filterMap (reportOf? options records)).map ContractReport.blank =
      ((contracts otherRecords).filterMap (reportOf? options otherRecords)).map
        ContractReport.blank := by
  rw [List.map_filterMap, List.map_filterMap, contracts, contracts, contractNames, contractNames,
    same]
  congr 1
  funext contract
  rw [reportOf?, reportOf?, blank_report?, blank_report?, withoutSettings_ofContract same]

/-- Comparisons of the same measurements differ in the settings that are reported at most, whatever
settings records stand among the measurements. -/
theorem compareRecords_blank (options : ComparisonOptions)
    {reference candidate otherReference otherCandidate : List Record}
    (referenceGiven : reference ≠ []) (candidateGiven : candidate ≠ [])
    (otherReferenceGiven : otherReference ≠ []) (otherCandidateGiven : otherCandidate ≠ [])
    (same : measurements (reference ++ candidate) =
      measurements (otherReference ++ otherCandidate)) :
    ∃ reports otherReports,
      compareRecords options reference candidate = .ok reports ∧
      compareRecords options otherReference otherCandidate = .ok otherReports ∧
      reports.map ContractReport.blank = otherReports.map ContractReport.blank :=
  ⟨_, _, compareRecords_eq options referenceGiven candidateGiven,
    compareRecords_eq options otherReferenceGiven otherCandidateGiven, blank_reports same options⟩

/-- The measurements are made with described builds, and the settings of a build are written twice.
-/
def describedRun : List Record × List Record :=
  ([.settings ⟨⟨⟨.solc, "0.8.30"⟩, .default, false⟩, .ofList [("optimizer", .truth true)]⟩,
    .measurement ⟨⟨⟨.solc, "0.8.30"⟩, .default, false⟩, "Token", 1000.0, [("f()", 100.0)]⟩],
   [.measurement ⟨⟨⟨.solx, "0.1.0"⟩, .default, false⟩, "Token", 900.0, [("f()", 90.0)]⟩,
    .settings ⟨⟨⟨.solc, "0.8.30"⟩, .default, false⟩, .ofList [("debug", .truth true)]⟩])

/-- The same measurements are made, and another build is described. -/
def undescribedRun : List Record × List Record :=
  ([.settings ⟨⟨⟨.solx, "0.2.0"⟩, .default, false⟩, .ofList [("runs", .null)]⟩],
   [.measurement ⟨⟨⟨.solc, "0.8.30"⟩, .default, false⟩, "Token", 1000.0, [("f()", 100.0)]⟩,
    .measurement ⟨⟨⟨.solx, "0.1.0"⟩, .default, false⟩, "Token", 900.0, [("f()", 90.0)]⟩])

/-- These are the keys of all settings in the results of the reports. -/
def ContractReport.settingsKeys (reports : List ContractReport) : List (List String) :=
  reports.flatMap fun report => report.results.flatMap fun function =>
    function.versions.map (·.sample.settings.keys)

theorem compareRecords_blank_described :
    measurements (describedRun.1 ++ describedRun.2) =
      measurements (undescribedRun.1 ++ undescribedRun.2) ∧
    ∃ reports otherReports,
      compareRecords ⟨false⟩ describedRun.1 describedRun.2 = .ok reports ∧
      compareRecords ⟨false⟩ undescribedRun.1 undescribedRun.2 = .ok otherReports ∧
      reports.map ContractReport.blank = otherReports.map ContractReport.blank ∧
      ContractReport.settingsKeys reports = [["optimizer"], []] ∧
      ContractReport.settingsKeys otherReports = [[], []] := by
  have same : measurements (describedRun.1 ++ describedRun.2) =
      measurements (undescribedRun.1 ++ undescribedRun.2) := rfl
  obtain ⟨reports, otherReports, compared, otherCompared, blank⟩ :=
    compareRecords_blank ⟨false⟩ (List.cons_ne_nil _ _ : describedRun.1 ≠ [])
      (List.cons_ne_nil _ _ : describedRun.2 ≠ []) (List.cons_ne_nil _ _ : undescribedRun.1 ≠ [])
      (List.cons_ne_nil _ _ : undescribedRun.2 ≠ []) same
  refine ⟨same, reports, otherReports, compared, otherCompared, blank, ?_, ?_⟩
  · rw [eq_of_compareRecords compared]
    decide +kernel
  · rw [eq_of_compareRecords otherCompared]
    decide +kernel

end GasReport
