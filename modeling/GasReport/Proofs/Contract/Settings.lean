import GasReport.Proofs.Compiler.Ranking
import GasReport.Proofs.Contract.FunctionTable

namespace GasReport

open Record Measurement

namespace Record

/-- No settings of the same build stand before this record. -/
def FirstSettings (records : List Record) (record : BuildSettings) : Prop :=
  ∃ before after, records = before ++ .settings record :: after ∧
    ∀ other, .settings other ∈ before → other.build.name ≠ record.build.name

/-- The first settings of a build are found by looking through the records. -/
theorem find?_settings_eq_some {records : List Record} {name : BuildName}
    {record : BuildSettings} :
    (records.filterMap settings?).find? (·.build.name = name) = some record ↔
      FirstSettings records record ∧ record.build.name = name := by
  rw [List.find?_filterMap, Option.bind_eq_some_iff]
  constructor
  · rintro ⟨found, first, same⟩
    obtain ⟨named, before, after, split, others⟩ := List.find?_eq_some_iff_append.mp first
    cases found with
    | measurement _ => cases same
    | settings _ =>
        cases same
        have equal : record.build.name = name := by simpa [settings?] using named
        refine ⟨⟨before, after, split, ?_⟩, equal⟩
        intro other inside
        simpa [settings?, equal] using others _ inside
  · rintro ⟨⟨before, after, split, others⟩, rfl⟩
    refine ⟨.settings record, ?_, rfl⟩
    rw [List.find?_eq_some_iff_append]
    refine ⟨by simp [settings?], before, after, split, ?_⟩
    intro other inside
    cases other with
    | measurement _ => rfl
    | settings _ => simpa [settings?] using others _ inside

/-- Nothing is found when no settings record is of the build. -/
theorem find?_settings_eq_none {records : List Record} {name : BuildName} :
    (records.filterMap settings?).find? (·.build.name = name) = none ↔
      ∀ record, .settings record ∈ records → record.build.name ≠ name := by
  rw [List.find?_eq_none]
  constructor
  · intro missing record inside named
    exact missing record (List.mem_filterMap.mpr ⟨_, inside, rfl⟩) (decide_eq_true named)
  · intro missing record inside named
    obtain ⟨given, found, same⟩ := List.mem_filterMap.mp inside
    cases given with
    | measurement _ => cases same
    | settings _ =>
        cases same
        exact missing record found (of_decide_eq_true named)

end Record

namespace ContractGroup

/-- Settings of a measured build are never left out. -/
theorem find?_settings_attach (settings : List BuildSettings) (contract : String)
    {measurements : List Measurement} {measurement : Measurement}
    (inside : measurement ∈ measurements) :
    (attach settings contract measurements).settings.find?
        (·.build.name = measurement.build.name) =
      settings.find? (·.build.name = measurement.build.name) := by
  rw [attach, List.find?_filter]
  congr 1
  funext record
  by_cases same : record.build.name = measurement.build.name
  · have measured : measurements.any (·.build.toolchain = record.build.toolchain) = true := by
      rw [List.any_eq_true]
      exact ⟨measurement, inside, decide_eq_true (congrArg BuildName.toolchain same.symm)⟩
    simp [measured]
  · simp [same]

/-- The group of a contract looks through all records. -/
theorem settingsOf_ofContract {records : List Record} {contract : String}
    {measurement : Measurement} (inside : measurement ∈ measurementsOf contract records) :
    (ofContract records contract).settingsOf measurement.build =
      (((records.filterMap settings?).find? (·.build.name = measurement.build.name)).map
        (·.settings)).getD Dictionary.empty := by
  have found : (ofContract records contract).settings.find?
      (·.build.name = measurement.build.name) =
        (records.filterMap settings?).find? (·.build.name = measurement.build.name) := by
    rw [ofContract, find?_settings_attach _ _ inside]
    exact find?_firsts (fun record => record.build.name) (records.filterMap settings?) _
  rw [settingsOf, found]
  cases (records.filterMap settings?).find? (·.build.name = measurement.build.name) <;> rfl

end ContractGroup

/-- The settings are those of the first settings record of the build, and empty when there is none.
-/
structure Sample.Resolved (records : List Record) (sample : Sample) : Prop where
  described : ∀ record, .settings record ∈ records → record.build.name = sample.build.name →
    ∃ first, FirstSettings records first ∧ first.build.name = sample.build.name
  found : ∀ record, FirstSettings records record → record.build.name = sample.build.name →
    sample.settings = record.settings
  empty : sample.settings = Dictionary.empty ↔
    (∀ record, .settings record ∈ records → record.build.name ≠ sample.build.name) ∨
      ∃ record, FirstSettings records record ∧ record.build.name = sample.build.name ∧
        record.settings = Dictionary.empty

/-- What is looked up among all settings records is resolved. -/
theorem Sample.resolved_of_settings {records : List Record} {sample : Sample}
    (settings : sample.settings =
      (((records.filterMap settings?).find? (·.build.name = sample.build.name)).map
        (·.settings)).getD Dictionary.empty) : sample.Resolved records := by
  constructor
  case described =>
    intro record inside named
    cases looked : (records.filterMap settings?).find? (·.build.name = sample.build.name) with
    | none => exact absurd named (find?_settings_eq_none.mp looked record inside)
    | some first => exact ⟨first, find?_settings_eq_some.mp looked⟩
  case found =>
    intro record first named
    rw [settings, find?_settings_eq_some.mpr ⟨first, named⟩]
    rfl
  case empty =>
    rw [settings, ← find?_settings_eq_none]
    cases looked : (records.filterMap settings?).find? (·.build.name = sample.build.name) with
    | none => simp
    | some record =>
        obtain ⟨first, named⟩ := find?_settings_eq_some.mp looked
        constructor
        · intro blank
          exact .inr ⟨record, first, named, blank⟩
        · rintro (missing | ⟨other, otherFirst, otherNamed, blank⟩)
          · cases missing
          · rw [find?_settings_eq_some.mpr ⟨otherFirst, otherNamed⟩, Option.some.injEq] at looked
            rw [← looked]
            exact blank

/-- A group makes its samples from its own measurements. -/
theorem ContractGroup.resolved_sample {records : List Record} {contract : String}
    {measurement : Measurement} (inside : measurement ∈ measurementsOf contract records)
    (gas : Gas) :
    ((ofContract records contract).sample measurement.build gas).Resolved records :=
  Sample.resolved_of_settings (settingsOf_ofContract inside)

/-- Every sample of a report has the settings of the first settings record of its build. -/
theorem resolved_of_compareRecords {options : ComparisonOptions}
    {reference candidate : List Record} {reports : List ContractReport} {report : ContractReport}
    (compared : compareRecords options reference candidate = .ok reports)
    (inside : report ∈ reports) :
    (∀ sample ∈ report.deployment, sample.Resolved (reference ++ candidate)) ∧
    ∀ function ∈ report.results, ∀ entry ∈ function.versions,
      entry.sample.Resolved (reference ++ candidate) := by
  obtain ⟨first, made⟩ := exists_madeFrom compared inside
  constructor
  · intro sample given
    rw [made.deployment, ContractGroup.deployments, mem_rankBy] at given
    obtain ⟨measurement, measured, rfl⟩ := List.mem_map.mp given
    exact ContractGroup.resolved_sample measured measurement.gas
  · intro function result entry given
    obtain ⟨base, -, -, versions⟩ := made.exists_base result
    rw [versions] at given
    obtain ⟨mean, found, rfl⟩ := List.mem_map.mp given
    obtain ⟨measurement, measured, build⟩ := exists_of_mem_means (List.mem_filter.mp found).1
    rw [made.measurements] at measured
    rw [← build]
    exact ContractGroup.resolved_sample measured mean.2

/-- One build has its settings twice, after its measurement, and another build has none. -/
def scatteredSettings : List Record × List Record :=
  ([.measurement ⟨⟨⟨.solc, "0.8.30"⟩, .default, false⟩, "Token", 1000.0, [("f()", 100.0)]⟩,
    .measurement ⟨⟨⟨.solx, "0.1.0"⟩, .default, false⟩, "Token", 900.0, [("f()", 90.0)]⟩],
   [.settings ⟨⟨⟨.solx, "0.2.0"⟩, .default, false⟩, .ofList [("runs", .null)]⟩,
    .settings ⟨⟨⟨.solc, "0.8.30"⟩, .default, false⟩, .ofList [("optimizer", .truth true)]⟩,
    .settings ⟨⟨⟨.solc, "0.8.30"⟩, .default, false⟩, .ofList [("debug", .truth true)]⟩])

theorem resolved_of_compareRecords_scatteredSettings :
    ∃ reports, compareRecords ⟨false⟩ scatteredSettings.1 scatteredSettings.2 = .ok reports ∧
      reports.map (fun report => report.results.map fun function =>
        function.versions.map (·.sample.settings.keys)) = [[[["optimizer"], []]]] ∧
      ∀ report ∈ reports,
        (∀ sample ∈ report.deployment,
          sample.Resolved (scatteredSettings.1 ++ scatteredSettings.2)) ∧
        ∀ function ∈ report.results, ∀ entry ∈ function.versions,
          entry.sample.Resolved (scatteredSettings.1 ++ scatteredSettings.2) := by
  have compared := compareRecords_eq ⟨false⟩ (List.cons_ne_nil _ _ : scatteredSettings.1 ≠ [])
    (List.cons_ne_nil _ _ : scatteredSettings.2 ≠ [])
  refine ⟨_, compared, by decide +kernel, ?_⟩
  intro report inside
  exact resolved_of_compareRecords compared inside

end GasReport
