import GasReport.Proofs.Versions.MethodRows

/-!
The pair of versions that is compared by default. The function table leaves out builds of the
candidate, but never the one that was discovered first: it is the baseline or a build of the other
pipeline.
-/

namespace GasReport

open Record Measurement

/-- A measurement of this version goes through the function. -/
def ContractReport.Measures (report : ContractReport) (toolchain : Toolchain)
    (version name : String) :
    Prop :=
  ∃ measurement ∈ report.measurements,
    measurement.build.name = ⟨toolchain, version⟩ ∧ (measurement.mean? name).isSome

/-- The default pair names the first version of each toolchain. Its candidate is a build that the
function table keeps, so the rows of the pair tell of every function that its versions measured. -/
structure ContractReport.SelectsFirst (report : ContractReport) : Prop where
  candidate : report.defaultPair.candidate =
    ((report.versions .solx).head?.map Build.version).getD ""
  reference : report.defaultPair.reference =
    ((report.versions .solc).head?.map Build.version).getD ""
  present : ∃ measurement ∈ report.measurements,
    measurement.build.name = ⟨.solx, report.defaultPair.candidate⟩
  kept : ∀ measurement ∈ report.measurements,
    measurement.build.name = ⟨.solx, report.defaultPair.candidate⟩ →
      measurement.build = report.baseline ∨ measurement.build.pipeline = .viaIR
  rows : List.Forall₂ (fun function row => row.name = function.name ∧
      (row.candidate.isSome ↔
        report.Measures .solx report.defaultPair.candidate function.name) ∧
      (row.reference.isSome ↔
        report.Measures .solc report.defaultPair.reference function.name))
    report.results (report.methodRows report.defaultPair)

theorem ContractReport.firstVersion_eq (report : ContractReport) (toolchain : Toolchain) :
    report.firstVersion toolchain =
      ((report.versions toolchain).head?.map Build.version).getD "" := by
  rw [versions, head?_firsts, List.head?_filter, List.find?_map, Option.map_map, firstVersion]
  simp only [Function.comp_def]
  cases report.measurements.find? (·.build.toolchain = toolchain) <;> rfl

/-- What comes first under a weaker test and passes a stronger one comes first under the stronger
one. -/
theorem find?_eq_some_of_imp {A : Type} {weak strong : A → Bool} {entries : List A} {first : A}
    (found : entries.find? weak = some first) (holds : strong first = true)
    (implies : ∀ entry, strong entry = true → weak entry = true) :
    entries.find? strong = some first := by
  obtain ⟨-, before, after, same, refused⟩ := List.find?_eq_some_iff_append.mp found
  refine List.find?_eq_some_iff_append.mpr ⟨holds, before, after, same, ?_⟩
  intro entry inside
  have earlier := refused entry inside
  rw [Bool.not_eq_true'] at earlier ⊢
  rw [Bool.eq_false_iff]
  intro passed
  rw [implies entry passed] at earlier
  cases earlier

/-- A function has a mean among the wanted builds when one of them goes through it. -/
theorem Measurement.isSome_firstThrough? (wanted : Build → Bool) (signature : String)
    (measurements : List Measurement) :
    ((firstThrough? wanted signature measurements).bind (·.mean? signature)).isSome ↔
      ∃ measurement ∈ measurements, wanted measurement.build = true ∧
        (measurement.mean? signature).isSome := by
  rw [firstThrough?]
  cases found : measurements.find? fun measurement =>
      wanted measurement.build && (measurement.mean? signature).isSome with
  | none =>
      have refused := List.find?_eq_none.mp found
      simpa [Bool.and_eq_true] using refused
  | some measurement =>
      have passed := List.find?_some found
      rw [Bool.and_eq_true] at passed
      rw [Option.bind_some]
      exact ⟨fun _ => ⟨measurement, List.mem_of_find?_eq_some found, passed⟩, fun _ => passed.2⟩

namespace ContractReport.MadeFrom

variable {markers : Markers} {records : List Record} {first : Measurement} {report : ContractReport}

/-- A version has gas when a compared build of its name goes through the function. -/
theorem isSome_gas? (made : report.MadeFrom records first) {function : FunctionComparison}
    (inside : function ∈ report.results) {toolchain : Toolchain} {version : String}
    (kept : ∀ measurement ∈ report.measurements, measurement.build.name = ⟨toolchain, version⟩ →
      Build.Compared report.baseline measurement.build) :
    (function.gas? toolchain version).isSome ↔
      report.Measures toolchain version function.name := by
  rw [made.gas?_eq inside, isSome_firstThrough?]
  refine exists_congr fun measurement => and_congr_right fun given => ?_
  rw [decide_eq_true_iff]
  constructor
  · rintro ⟨⟨-, named⟩, measured⟩
    exact ⟨named, measured⟩
  · rintro ⟨named, measured⟩
    exact ⟨⟨kept measurement given named, named⟩, measured⟩

/-- The first measurement of the candidate is the selected one, unless it is of the other pipeline.
-/
theorem exists_first_candidate (made : report.MadeFrom records first) :
    ∃ measurement ∈ report.measurements,
      measurement.build.name = ⟨.solx, report.defaultPair.candidate⟩ ∧
      (measurement.build = report.baseline ∨ measurement.build.pipeline = .viaIR) := by
  have selected := mem_of_selected made.selected
  have candidate (measurement : Measurement)
      (eligible : measurement.build.isBaselineCandidate = true) :
      decide (measurement.build.toolchain = .solx) = true :=
    decide_eq_true (Build.isBaselineCandidate_iff.mp eligible).1
  have present : (report.measurements.find? (·.build.toolchain = .solx)).isSome := by
    rw [List.find?_isSome]
    exact ⟨first, selected.1, candidate first selected.2⟩
  obtain ⟨measurement, found⟩ := Option.isSome_iff_exists.mp present
  have solx : measurement.build.toolchain = .solx := by simpa using List.find?_some found
  refine ⟨measurement, List.mem_of_find?_eq_some found, ?_, ?_⟩
  · have version : report.defaultPair.candidate = measurement.build.version := by
      change report.firstVersion .solx = _
      rw [firstVersion, found]
    rw [version, ← solx]
    rfl
  · cases pipeline : measurement.build.pipeline with
    | viaIR => exact .inr rfl
    | default =>
        have eligible : measurement.build.isBaselineCandidate = true :=
          Build.isBaselineCandidate_iff.mpr ⟨solx, pipeline⟩
        have chosen : report.measurements.find? (·.build.isBaselineCandidate) = some measurement :=
          find?_eq_some_of_imp found eligible candidate
        have same : first = measurement := by
          rw [← Option.some_inj, ← made.selected, Measurement.eligible, List.head?_filter, chosen]
        exact .inl (by rw [made.baseline, same])

/-- Builds with the name of the first candidate are the same build. -/
theorem kept_of_default (made : report.MadeFrom records first) (tagged : TaggedBy markers records)
    {measurement : Measurement} (inside : measurement ∈ report.measurements)
    (named : measurement.build.name = ⟨.solx, report.defaultPair.candidate⟩) :
    measurement.build = report.baseline ∨ measurement.build.pipeline = .viaIR := by
  obtain ⟨other, given, otherNamed, kept⟩ := made.exists_first_candidate
  rw [made.measurements] at inside given
  have same : measurement.build = other.build := by
    rw [tagged.of_measurementsOf inside, tagged.of_measurementsOf given, named, otherNamed]
  rw [same]
  exact kept

/-- The default pair has the first version of each toolchain. -/
theorem selectsFirst (made : report.MadeFrom records first) (tagged : TaggedBy markers records) :
    report.SelectsFirst where
  candidate := report.firstVersion_eq .solx
  reference := report.firstVersion_eq .solc
  present := by
    obtain ⟨measurement, inside, named, -⟩ := made.exists_first_candidate
    exact ⟨measurement, inside, named⟩
  kept measurement inside named := made.kept_of_default tagged inside named
  rows := by
    rw [methodRows, List.forall₂_map_right_iff, List.forall₂_same]
    intro function given
    refine ⟨rfl, made.isSome_gas? given ?_, made.isSome_gas? given ?_⟩
    · intro measurement inside named
      rcases made.kept_of_default tagged inside named with same | viaIR
      · exact .inl (congrArg Build.name same)
      · exact .inr (.inr ⟨congrArg BuildName.toolchain named, viaIR⟩)
    · intro measurement _ named
      exact .inr (.inl (congrArg BuildName.toolchain named))

end ContractReport.MadeFrom

/-- The first versions are selected, and what they measured stands in the function table. -/
theorem defaultPair_kept {markers : Markers} {options : ComparisonOptions}
    {reference candidate : List Record} {reports : List ContractReport}
    (tagged : TaggedBy markers (reference ++ candidate))
    (compared : compareRecords options reference candidate = .ok reports) :
    ∀ report ∈ reports, report.SelectsFirst := by
  intro report inside
  obtain ⟨first, made⟩ := exists_madeFrom compared inside
  exact made.selectsFirst tagged

/-- One contract is first built with the other pipeline, and another one without the reference. -/
def unusualFirsts : List Record × List Record :=
  ([.measurement ⟨.tagged .standard ⟨.solx, "0.1.0-via-ir"⟩, "Token", 950.0, [("f()", 95.0)]⟩,
    .measurement ⟨.tagged .standard ⟨.solc, "0.8.30"⟩, "Token", 1000.0, [("g()", 100.0)]⟩],
   [.measurement ⟨.tagged .standard ⟨.solx, "0.1.0"⟩, "Token", 900.0,
      [("f()", 90.0), ("g()", 80.0)]⟩,
    .measurement ⟨.tagged .standard ⟨.solx, "0.2.0"⟩, "Vault", 800.0, [("open()", 70.0)]⟩,
    .measurement ⟨.tagged .standard ⟨.solx, "0.1.0"⟩, "Vault", 810.0, [("close()", 60.0)]⟩])

theorem defaultPair_kept_unusualFirsts :
    TaggedBy .standard (unusualFirsts.1 ++ unusualFirsts.2) ∧
    ∃ reports, compareRecords ⟨false⟩ unusualFirsts.1 unusualFirsts.2 = .ok reports ∧
      (∀ report ∈ reports, report.SelectsFirst) ∧
      reports.map (·.defaultPair) = [⟨"0.1.0-via-ir", "0.8.30"⟩, ⟨"0.2.0", ""⟩] ∧
      reports.map (fun report => (report.methodRows report.defaultPair).map fun row =>
        (row.name, row.candidate.isSome, row.reference.isSome)) =
        [[("f()", true, false), ("g()", false, true)], [("open()", true, false)]] := by
  have tagged : TaggedBy .standard (unusualFirsts.1 ++ unusualFirsts.2) := by
    intro record inside
    simp only [unusualFirsts, List.cons_append, List.nil_append, List.mem_cons,
      List.not_mem_nil, or_false] at inside
    rcases inside with rfl | rfl | rfl | rfl | rfl <;> rfl
  have compared := compareRecords_eq ⟨false⟩ (List.cons_ne_nil _ _ : unusualFirsts.1 ≠ [])
    (List.cons_ne_nil _ _ : unusualFirsts.2 ≠ [])
  exact ⟨tagged, _, compared, defaultPair_kept tagged compared, by decide +kernel,
    by decide +kernel⟩

end GasReport
