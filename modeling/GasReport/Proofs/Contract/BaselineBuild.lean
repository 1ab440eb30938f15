import GasReport.Proofs.Contract.FunctionTable

/-!
The baseline of a report is a build and not one measurement. The base of a function comes from the
first measurement of the build that goes through the function, and every measurement of the build
that goes through it stands among the versions.
-/

namespace GasReport

open Record Measurement

/-- These measurements of the baseline build go through the function. -/
def ContractReport.measuring (report : ContractReport) (signature : String) : List Measurement :=
  report.measurements.filter fun measurement =>
    measurement.build.name = report.baseline.name ∧ (measurement.mean? signature).isSome

/-- These versions were built by the default pipeline of the candidate. -/
def FunctionComparison.candidates (function : FunctionComparison) : List RelativeSample :=
  function.versions.filter (·.sample.build.isBaselineCandidate)

/-- The selected measurement gives the base itself and is the only candidate among the versions. -/
def FollowsSelected (first : Measurement) (function : FunctionComparison) : Prop :=
  ∃ base, first.mean? function.name = some base ∧
    (∀ entry ∈ function.versions, entry.base = base) ∧
    function.candidates.map (fun entry => (entry.sample.build, entry.sample.gas)) =
      [(first.build, base)]

/-- All measurements of the baseline build that go through the function are followed. -/
structure FollowsBuild (report : ContractReport) (first : Measurement)
    (function : FunctionComparison) : Prop where
  measured : report.measuring function.name ≠ []
  based : ∀ entry ∈ function.versions,
    (report.measuring function.name).head?.bind (·.mean? function.name) = some entry.base
  selected : (first.mean? function.name).isSome →
    (report.measuring function.name).head? = some first
  candidates : function.candidates.map (fun entry => (entry.sample.build, some entry.sample.gas)) =
    (report.measuring function.name).map fun measurement =>
      (report.baseline, measurement.mean? function.name)
  single : FollowsSelected first function ↔ report.measuring function.name = [first]

/-- The first mean is a mean of the first measurement that has one. -/
theorem head?_filter_bind (name : BuildName) (signature : String)
    (measurements : List Measurement) :
    (measurements.filter fun measurement => measurement.build.name = name ∧
      (measurement.mean? signature).isSome).head?.bind (·.mean? signature) =
        firstMean? name signature measurements := by
  rw [firstMean?_eq, firstThrough?, List.head?_filter]
  simp only [Bool.decide_and, Bool.decide_eq_true]

/-- The compared means of candidates are the means of the baseline build. -/
theorem filter_means {baseline : Build} (candidate : baseline.isBaselineCandidate = true)
    {measurements : List Measurement}
    (distinct : ∀ measurement ∈ measurements, (measurement.functions.map Prod.fst).Nodup)
    (same : ∀ measurement ∈ measurements,
      measurement.build.name = baseline.name → measurement.build = baseline)
    (signature : String) :
    ((means signature measurements).filter fun mean =>
      mean.1.isBaselineCandidate && decide (Build.Compared baseline mean.1)).map
        (fun mean => (mean.1, some mean.2)) =
      (measurements.filter fun measurement => measurement.build.name = baseline.name ∧
        (measurement.mean? signature).isSome).map fun measurement =>
          (baseline, measurement.mean? signature) := by
  rw [means_eq_filterMap distinct]
  clear distinct
  induction measurements with
  | nil => rfl
  | cons measurement rest ih =>
      have others := ih fun other inside => same other (List.mem_cons_of_mem _ inside)
      cases found : measurement.mean? signature with
      | none => simpa [found] using others
      | some mean =>
          by_cases named : measurement.build.name = baseline.name
          · have equal := same measurement List.mem_cons_self named
            have compared : Build.Compared baseline baseline := .inl rfl
            simpa [found, equal, candidate, compared] using others
          · have refused : (measurement.build.isBaselineCandidate &&
                decide (Build.Compared baseline measurement.build)) = false := by
              rw [Bool.and_eq_false_imp]
              intro eligible
              rw [decide_eq_false_iff_not]
              exact fun compared => named (Build.name_eq_of_compared compared eligible)
            simpa [found, named, refused] using others

namespace ContractReport.MadeFrom

variable {markers : Markers} {records : List Record} {first : Measurement}
  {report : ContractReport}

/-- Measurements of the baseline build are eligible. -/
theorem isBaselineCandidate_of_name (made : report.MadeFrom records first)
    (tagged : TaggedBy markers records) {measurement : Measurement}
    (inside : measurement ∈ report.measurements)
    (named : measurement.build.name = report.baseline.name) :
    measurement.build.isBaselineCandidate = true := by
  rw [made.build_eq_of_name tagged inside named, made.baseline]
  exact (mem_of_selected made.selected).2

/-- The measurements of the baseline build that go through a function are all eligible. -/
theorem measuring_eq (made : report.MadeFrom records first) (tagged : TaggedBy markers records)
    (signature : String) :
    report.measuring signature = (eligible report.measurements).filter fun measurement =>
      measurement.build.name = report.baseline.name ∧ (measurement.mean? signature).isSome := by
  rw [ContractReport.measuring, eligible, List.filter_filter]
  apply List.filter_congr
  intro measurement inside
  by_cases named : measurement.build.name = report.baseline.name
  · rw [made.isBaselineCandidate_of_name tagged inside named, Bool.and_true]
  · simp [named]

/-- The selected measurement comes first if it goes through the function. -/
theorem head?_measuring (made : report.MadeFrom records first) (tagged : TaggedBy markers records)
    {signature : String} (measured : (first.mean? signature).isSome) :
    (report.measuring signature).head? = some first := by
  obtain ⟨rest, chosen⟩ := List.head?_eq_some_iff.mp made.selected
  rw [made.measuring_eq tagged, chosen, List.filter_cons_of_pos, List.head?_cons]
  simp [made.baseline, measured]

/-- One candidate version stands for each measurement of the baseline build. -/
theorem map_candidates (made : report.MadeFrom records first) (tagged : TaggedBy markers records)
    (distinct : ∀ measurement ∈ Record.measurements records,
      (measurement.functions.map Prod.fst).Nodup)
    {function : FunctionComparison} (inside : function ∈ report.results) :
    function.candidates.map (fun entry => (entry.sample.build, some entry.sample.gas)) =
      (report.measuring function.name).map fun measurement =>
        (report.baseline, measurement.mean? function.name) := by
  obtain ⟨base, -, -, versions⟩ := made.exists_base inside
  have candidate : report.baseline.isBaselineCandidate = true := by
    rw [made.baseline]
    exact (mem_of_selected made.selected).2
  have here : ∀ measurement ∈ report.measurements,
      (measurement.functions.map Prod.fst).Nodup := by
    intro measurement given
    rw [made.measurements] at given
    exact distinct measurement (List.mem_filter.mp given).1
  have kept := filter_means candidate here
    (fun _ given named => made.build_eq_of_name tagged given named) function.name
  rw [FunctionComparison.candidates, versions, List.filter_map, List.filter_filter, List.map_map]
  exact kept

/-- A result has a measurement of the baseline build that gives its base. -/
theorem exists_chosen (made : report.MadeFrom records first) {function : FunctionComparison}
    (inside : function ∈ report.results) :
    ∃ base chosen rest, report.measuring function.name = chosen :: rest ∧
      chosen.mean? function.name = some base ∧
      ∀ entry ∈ function.versions, entry.base = base := by
  obtain ⟨base, measured, -, versions⟩ := made.exists_base inside
  rw [← head?_filter_bind] at measured
  obtain ⟨chosen, selected, mean⟩ := Option.bind_eq_some_iff.mp measured
  obtain ⟨rest, chosenFirst⟩ := List.head?_eq_some_iff.mp selected
  refine ⟨base, chosen, rest, chosenFirst, mean, ?_⟩
  intro entry given
  rw [versions] at given
  obtain ⟨other, -, rfl⟩ := List.mem_map.mp given
  rfl

/-- The selected measurement is followed alone exactly when it is the only one to go through the
function. -/
theorem followsSelected_iff (made : report.MadeFrom records first)
    (tagged : TaggedBy markers records)
    (distinct : ∀ measurement ∈ Record.measurements records,
      (measurement.functions.map Prod.fst).Nodup)
    {function : FunctionComparison} (inside : function ∈ report.results) :
    FollowsSelected first function ↔ report.measuring function.name = [first] := by
  have candidates := made.map_candidates tagged distinct inside
  constructor
  · rintro ⟨base, mean, -, alone⟩
    have selected := made.head?_measuring tagged (by rw [mean]; rfl)
    obtain ⟨rest, chosen⟩ := List.head?_eq_some_iff.mp selected
    have count : function.candidates.length = (report.measuring function.name).length := by
      simpa using congrArg List.length candidates
    have one : function.candidates.length = 1 := by
      simpa using congrArg List.length alone
    rw [chosen, List.length_cons, one] at count
    rw [chosen, List.eq_nil_of_length_eq_zero (by omega : rest.length = 0)]
  · intro only
    obtain ⟨base, chosen, rest, listed, mean, bases⟩ := made.exists_chosen inside
    rw [only, List.cons.injEq] at listed
    obtain ⟨rfl, -⟩ := listed
    refine ⟨base, mean, bases, ?_⟩
    rw [only, List.map_singleton, mean, List.map_eq_singleton_iff] at candidates
    obtain ⟨entry, alone, same⟩ := candidates
    rw [Prod.mk.injEq, Option.some.injEq] at same
    rw [alone, List.map_singleton, same.1, same.2, made.baseline]

/-- Every result of a report follows the baseline build. -/
theorem followsBuild (made : report.MadeFrom records first) (tagged : TaggedBy markers records)
    (distinct : ∀ measurement ∈ Record.measurements records,
      (measurement.functions.map Prod.fst).Nodup)
    {function : FunctionComparison} (inside : function ∈ report.results) :
    FollowsBuild report first function := by
  obtain ⟨base, chosen, rest, listed, mean, bases⟩ := made.exists_chosen inside
  constructor
  case measured =>
    rw [listed]
    exact List.cons_ne_nil _ _
  case based =>
    intro entry given
    rw [listed, List.head?_cons, Option.bind_some, mean, bases entry given]
  case selected => exact fun measured => made.head?_measuring tagged measured
  case candidates => exact made.map_candidates tagged distinct inside
  case single => exact made.followsSelected_iff tagged distinct inside

/-- A single eligible measurement is the only one of the baseline build. -/
theorem measuring_eq_singleton (made : report.MadeFrom records first)
    (tagged : TaggedBy markers records) (single : (eligible report.measurements).length = 1)
    {function : FunctionComparison} (inside : function ∈ report.results) :
    report.measuring function.name = [first] := by
  obtain ⟨base, chosen, rest, listed, -⟩ := made.exists_chosen inside
  obtain ⟨others, selected⟩ := List.head?_eq_some_iff.mp made.selected
  rw [selected, List.length_cons] at single
  rw [List.eq_nil_of_length_eq_zero (by omega : others.length = 0)] at selected
  have part : List.Sublist (report.measuring function.name) [first] := by
    rw [made.measuring_eq tagged, selected]
    exact List.filter_sublist
  rcases List.sublist_singleton.mp part with none | one
  · rw [listed] at none
    cases none
  · exact one

end ContractReport.MadeFrom

/-- Functions are compared with the build of the selected measurement, and with this measurement
alone when the baseline is not ambiguous. -/
theorem followsBuild_of_compareRecords {markers : Markers} {options : ComparisonOptions}
    {solcValues solxValues : List Json.Value} {reports : List ContractReport}
    {report : ContractReport}
    (compared : compareRecords options (ingest markers solcValues) (ingest markers solxValues) =
      .ok reports) (inside : report ∈ reports) :
    ∃ first, (eligible report.measurements).head? = some first ∧
      report.baseline = first.build ∧
      (∀ function ∈ report.results, FollowsBuild report first function ∧
        (options.strictBaseline = true → FollowsSelected first function)) ∧
      ∀ signature, report.measuring signature = [] →
        ∀ function ∈ report.results, function.name ≠ signature := by
  obtain ⟨first, made⟩ := exists_madeFrom compared inside
  rw [← ingest_append] at made
  have tagged := taggedBy_ingest markers (solcValues ++ solxValues)
  have distinct : ∀ measurement ∈ measurements (ingest markers (solcValues ++ solxValues)),
      (measurement.functions.map Prod.fst).Nodup :=
    fun _ given => nodup_signatures_of_ingest given
  refine ⟨first, made.selected, made.baseline, ?_, ?_⟩
  · intro function given
    refine ⟨made.followsBuild tagged distinct given, ?_⟩
    intro strict
    have accepted := (isSome_reportOf? options _ report.contract).mp
      (by rw [reportOf?_of_mem compared inside]; rfl)
    rw [← ingest_append, ← made.measurements] at accepted
    rw [made.followsSelected_iff tagged distinct given]
    exact made.measuring_eq_singleton tagged (accepted.2 strict) given
  · rintro _ unmeasured function given rfl
    exact (made.followsBuild tagged distinct given).measured unmeasured

/-- This is the document value of a measurement of one contract. -/
def tokenValue (toolchain version : String) (gas : Int) (functions : List (String × Int)) :
    Json.Value :=
  .object [
    ("compiler", .object [("type", .text toolchain), ("version", .text version)]),
    ("contract", .text "Token"),
    ("deployment", .object [("gas", .number (.integer gas))]),
    ("functions", .object (functions.map fun function =>
      (function.1, .object [("mean", .number (.integer function.2))])))]

/-- The baseline build is measured twice, with other functions each time. -/
def splitBaseline : List Json.Value × List Json.Value :=
  ([tokenValue "solc" "0.8.30" 1000 [("f()", 100), ("g()", 100)]],
   [tokenValue "solx" "0.1.0" 900 [("f()", 90)], tokenValue "solx" "0.1.0" 900 [("g()", 80)]])

/-- Both measurements of the baseline build are read, so there is a comparison. -/
theorem compareRecords_splitBaseline :
    compareRecords ⟨false⟩ (ingest .standard splitBaseline.1) (ingest .standard splitBaseline.2) =
      .ok ((contracts (ingest .standard splitBaseline.1 ++
        ingest .standard splitBaseline.2)).filterMap (reportOf? ⟨false⟩
          (ingest .standard splitBaseline.1 ++ ingest .standard splitBaseline.2))) := by
  have referenceGiven : ingest .standard splitBaseline.1 ≠ [] :=
    List.ne_nil_of_length_pos (by decide +kernel)
  have candidateGiven : ingest .standard splitBaseline.2 ≠ [] :=
    List.ne_nil_of_length_pos (by decide +kernel)
  exact compareRecords_eq ⟨false⟩ referenceGiven candidateGiven

theorem followsBuild_of_compareRecords_splitBaseline :
    ∃ reports, compareRecords ⟨false⟩ (ingest .standard splitBaseline.1)
        (ingest .standard splitBaseline.2) = .ok reports ∧
      reports.map (fun report => report.results.map (·.name)) = [["f()", "g()"]] ∧
      ∀ report ∈ reports, ∃ first, (eligible report.measurements).head? = some first ∧
        report.baseline = first.build ∧
        ∀ function ∈ report.results, FollowsBuild report first function := by
  refine ⟨_, compareRecords_splitBaseline, by decide +kernel, ?_⟩
  intro report inside
  obtain ⟨first, selected, baseline, follows, -⟩ :=
    followsBuild_of_compareRecords compareRecords_splitBaseline inside
  exact ⟨first, selected, baseline, fun function given => (follows function given).1⟩

/-- A function that the selected measurement does not go through may have a result. -/
theorem not_followsSelected_splitBaseline :
    ∃ reports, compareRecords ⟨false⟩ (ingest .standard splitBaseline.1)
        (ingest .standard splitBaseline.2) = .ok reports ∧
      ∃ report ∈ reports, ∃ first, (eligible report.measurements).head? = some first ∧
        ∃ function ∈ report.results, first.mean? function.name = none ∧
          ¬ FollowsSelected first function := by
  have unmeasured : ((contracts (ingest .standard splitBaseline.1 ++
      ingest .standard splitBaseline.2)).filterMap (reportOf? ⟨false⟩
        (ingest .standard splitBaseline.1 ++ ingest .standard splitBaseline.2))).any (fun report =>
          (eligible report.measurements).head?.any fun first =>
            report.results.any fun function => (first.mean? function.name).isNone) = true := by
    decide +kernel
  obtain ⟨report, inside, found⟩ := List.any_eq_true.mp unmeasured
  obtain ⟨first, selected, others⟩ := (Option.any_eq_true _ _).mp found
  obtain ⟨function, given, absent⟩ := List.any_eq_true.mp others
  have missing := Option.isNone_iff_eq_none.mp absent
  refine ⟨_, compareRecords_splitBaseline, report, inside, first, selected, function, given,
    missing, ?_⟩
  rintro ⟨base, measured, -⟩
  rw [missing] at measured
  cases measured

end GasReport
