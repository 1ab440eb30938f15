import GasReport.Proofs.Contract.Results
import GasReport.Proofs.Record.Ingest

namespace GasReport

open Record Measurement

/-- This says what a report tells of the functions, measurement by measurement. -/
structure ReflectsMeasurements (report : ContractReport) : Prop where
  distinct : (report.results.map (·.name)).Nodup
  ordered : (report.results.map (·.name)).Pairwise fun first second =>
    (signatures report.measurements).idxOf first < (signatures report.measurements).idxOf second
  named : ∀ signature, signature ∈ report.results.map (·.name) ↔
    ∃ base, firstMean? report.baseline.name signature report.measurements = some base ∧
      (base == 0.0) = false
  based : ∀ function ∈ report.results, ∀ entry ∈ function.versions,
    firstMean? report.baseline.name function.name report.measurements = some entry.base
  complete : ∀ function ∈ report.results,
    function.versions.map (fun entry => (entry.sample.build, entry.sample.gas)) =
      (means function.name report.measurements).filter fun mean =>
        Build.Compared report.baseline mean.1
  related : ∀ function ∈ report.results, ∀ entry ∈ function.versions,
    difference? entry.sample.gas entry.base = some entry.difference
  exclusive : ∀ function ∈ report.results, ∀ entry ∈ function.versions,
    entry.sample.build.isBaselineCandidate = true → entry.sample.build = report.baseline

/-- Builds that measured a function are builds of the measurements. -/
theorem exists_of_mem_means {signature : String} {measurements : List Measurement}
    {mean : Build × Gas} (inside : mean ∈ means signature measurements) :
    ∃ measurement ∈ measurements, measurement.build = mean.1 := by
  obtain ⟨measurement, given, found⟩ := List.mem_flatMap.mp inside
  obtain ⟨function, -, rfl⟩ := List.mem_map.mp found
  exact ⟨measurement, given, rfl⟩

theorem mem_of_selected {measurements : List Measurement} {first : Measurement}
    (selected : (eligible measurements).head? = some first) :
    first ∈ measurements ∧ first.build.isBaselineCandidate = true := by
  have inside := List.mem_of_head? selected
  rw [eligible, List.mem_filter] at inside
  exact inside

/-- The results are named by the functions with a base, in the order of their discovery. -/
theorem ContractReport.MadeFrom.map_name {records : List Record} {first : Measurement}
    {report : ContractReport} (made : report.MadeFrom records first) :
    report.results.map (·.name) = (firsts id (signatures report.measurements)).filter
      fun signature => ((ContractGroup.ofContract records report.contract).comparison?
        report.baseline signature).isSome := by
  rw [made.results, map_name_results?, ContractGroup.ofContract_measurements, made.measurements]

/-- Only functions with a base that is not zero have a result. -/
theorem ContractReport.MadeFrom.mem_names {records : List Record} {first : Measurement}
    {report : ContractReport} (made : report.MadeFrom records first) (signature : String) :
    signature ∈ report.results.map (·.name) ↔
      ∃ base, firstMean? report.baseline.name signature report.measurements = some base ∧
        (base == 0.0) = false := by
  rw [made.map_name, List.mem_filter, mem_firsts_id, Option.isSome_iff_exists]
  constructor
  · rintro ⟨-, result, found⟩
    obtain ⟨base, measured, positive, -⟩ := comparison?_eq_some.mp found
    rw [ContractGroup.ofContract_measurements, ← made.measurements] at measured
    exact ⟨base, measured, positive⟩
  · rintro ⟨base, measured, positive⟩
    refine ⟨mem_signatures_of_firstMean? measured, _, comparison?_eq_some.mpr
      ⟨base, ?_, positive, rfl⟩⟩
    rw [ContractGroup.ofContract_measurements, ← made.measurements]
    exact measured

/-- Tags that were found in the version are the same for one name. -/
theorem ContractReport.MadeFrom.build_eq_of_name {markers : Markers} {records : List Record}
    {first : Measurement} {report : ContractReport} (made : report.MadeFrom records first)
    (tagged : TaggedBy markers records) {measurement : Measurement}
    (inside : measurement ∈ report.measurements)
    (named : measurement.build.name = report.baseline.name) :
    measurement.build = report.baseline := by
  have firstInside := (mem_of_selected made.selected).1
  rw [made.measurements] at inside firstInside
  have firstTags := tagged.of_measurementsOf firstInside
  rw [← made.baseline] at firstTags
  rw [tagged.of_measurementsOf inside, named, ← firstTags]

/-- No other candidate of the default pipeline stands beside the baseline. -/
theorem ContractReport.MadeFrom.build_eq_baseline {markers : Markers} {records : List Record}
    {first : Measurement} {report : ContractReport} (made : report.MadeFrom records first)
    (tagged : TaggedBy markers records) {function : FunctionComparison}
    (inside : function ∈ report.results) {entry : RelativeSample}
    (given : entry ∈ function.versions)
    (candidate : entry.sample.build.isBaselineCandidate = true) :
    entry.sample.build = report.baseline := by
  obtain ⟨base, -, -, versions⟩ := made.exists_base inside
  rw [versions] at given
  obtain ⟨mean, found, rfl⟩ := List.mem_map.mp given
  obtain ⟨measured, compared⟩ := List.mem_filter.mp found
  have named : mean.1.name = report.baseline.name :=
    Build.name_eq_of_compared (of_decide_eq_true compared) candidate
  obtain ⟨measurement, other, build⟩ := exists_of_mem_means measured
  rw [← build] at named
  change mean.1 = report.baseline
  rw [← build]
  exact made.build_eq_of_name tagged other named

/-- The function table of each report reflects the measurements of the contract. -/
theorem reflectsMeasurements_of_compareRecords {markers : Markers} {options : ComparisonOptions}
    {reference candidate : List Record} {reports : List ContractReport} {report : ContractReport}
    (tagged : TaggedBy markers (reference ++ candidate))
    (compared : compareRecords options reference candidate = .ok reports)
    (inside : report ∈ reports) : ReflectsMeasurements report := by
  obtain ⟨first, made⟩ := exists_madeFrom compared inside
  constructor
  case distinct =>
    rw [made.map_name]
    exact (nodup_firsts_id _).filter _
  case ordered =>
    rw [made.map_name]
    exact (firsts_id_pairwise _).filter _
  case named => exact made.mem_names
  case based =>
    intro function given entry found
    obtain ⟨base, measured, -, versions⟩ := made.exists_base given
    rw [versions] at found
    obtain ⟨mean, -, rfl⟩ := List.mem_map.mp found
    exact measured
  case complete =>
    intro function given
    obtain ⟨base, -, -, versions⟩ := made.exists_base given
    rw [versions, List.map_map]
    exact List.map_id _
  case related =>
    intro function given entry found
    obtain ⟨base, -, positive, versions⟩ := made.exists_base given
    rw [versions] at found
    obtain ⟨mean, -, rfl⟩ := List.mem_map.mp found
    change difference? mean.2 base = _
    rw [difference?, if_neg (by rw [positive]; exact Bool.false_ne_true)]
  case exclusive =>
    intro function given entry found candidate
    exact made.build_eq_baseline tagged given found candidate

/-- The baseline build is measured twice, and not every build measured every function. -/
def repeatedBaseline : List Record × List Record :=
  ([.measurement ⟨.tagged .standard ⟨.solc, "0.8.30"⟩, "Token", 1000.0,
      [("f()", 100.0), ("g()", 50.0), ("h()", 10.0)]⟩],
   [.measurement ⟨.tagged .standard ⟨.solx, "0.1.0"⟩, "Token", 900.0,
      [("h()", 0.0), ("f()", 90.0)]⟩,
    .measurement ⟨.tagged .standard ⟨.solx, "0.1.0"⟩, "Token", 890.0,
      [("g()", 80.0), ("h()", 5.0)]⟩,
    .measurement ⟨.tagged .standard ⟨.solx, "0.2.0"⟩, "Token", 800.0, [("f()", 70.0)]⟩,
    .measurement ⟨.tagged .standard ⟨.solx, "0.1.0-via-ir"⟩, "Token", 950.0,
      [("f()", 95.0), ("z()", 1.0)]⟩])

theorem reflectsMeasurements_of_compareRecords_repeatedBaseline :
    TaggedBy .standard (repeatedBaseline.1 ++ repeatedBaseline.2) ∧
    ∃ reports, compareRecords ⟨false⟩ repeatedBaseline.1 repeatedBaseline.2 = .ok reports ∧
      reports.map (fun report => report.results.map (·.name)) = [["f()", "g()"]] ∧
      ∀ report ∈ reports, ReflectsMeasurements report := by
  have tagged : TaggedBy .standard (repeatedBaseline.1 ++ repeatedBaseline.2) := by
    intro record inside
    simp only [repeatedBaseline, List.cons_append, List.nil_append, List.mem_cons,
      List.not_mem_nil, or_false] at inside
    rcases inside with rfl | rfl | rfl | rfl | rfl
    all_goals rfl
  have compared := compareRecords_eq ⟨false⟩ (List.cons_ne_nil _ _ : repeatedBaseline.1 ≠ [])
    (List.cons_ne_nil _ _ : repeatedBaseline.2 ≠ [])
  refine ⟨tagged, _, compared, by decide +kernel, ?_⟩
  intro report inside
  exact reflectsMeasurements_of_compareRecords tagged compared inside

end GasReport
