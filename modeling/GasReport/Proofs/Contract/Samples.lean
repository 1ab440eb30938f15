import GasReport.Proofs.Contract.Group

namespace GasReport

/-- The settings of a sample are those of the first record of its build, and there are none without
such a record. -/
inductive Sample.SettledBy (settings : List BuildSettings) (sample : Sample) : Prop where
  | described {before after : List BuildSettings} {record : BuildSettings}
      (listed : settings = before ++ record :: after)
      (first : ∀ earlier ∈ before, earlier.build.name ≠ sample.build.name)
      (named : record.build.name = sample.build.name) (same : sample.settings = record.settings)
  | missing (unnamed : ∀ record ∈ settings, record.build.name ≠ sample.build.name)
      (empty : sample.settings = Dictionary.empty)

namespace ContractGroup

open Measurement

/-- A sample is settled by the settings of its group. -/
theorem settledBy_sample (group : ContractGroup) (build : Build) (gas : Gas) :
    (group.sample build gas).SettledBy group.settings := by
  cases looked : group.settings.find? (·.build.name = build.name) with
  | none =>
      refine .missing ?_ ?_
      · intro record inside named
        exact List.find?_eq_none.mp looked record inside (decide_eq_true named)
      · rw [sample, settingsOf, looked]
  | some record =>
      obtain ⟨named, before, after, listed, first⟩ := List.find?_eq_some_iff_append.mp looked
      refine .described listed ?_ (of_decide_eq_true named) ?_
      · intro earlier inside
        simpa [sample] using first earlier inside
      · rw [sample, settingsOf, looked]

/-- This says how measurements are gathered by function: with one entry for each signature in the
order of discovery, which holds all its means in the order of the measurements. -/
structure Gathers (group : ContractGroup) (functions : List FunctionSamples) : Prop where
  distinct : (functions.map (·.signature)).Nodup
  ordered : functions.Pairwise fun first second =>
    (signatures group.measurements).idxOf first.signature <
      (signatures group.measurements).idxOf second.signature
  measured : ∀ signature, signature ∈ functions.map (·.signature) ↔
    ∃ measurement ∈ group.measurements, ∃ mean, (signature, mean) ∈ measurement.functions
  samples : ∀ function ∈ functions, function.samples =
    group.measurements.flatMap fun measurement =>
      (measurement.functions.filter (·.1 = function.signature)).map fun entry =>
        ⟨measurement.build, entry.2, group.settingsOf measurement.build⟩
  settled : ∀ function ∈ functions, ∀ sample ∈ function.samples, sample.SettledBy group.settings
  whole : (functions.flatMap fun function =>
      function.samples.map fun sample => (function.signature, sample.build, sample.gas)).Perm
    (group.measurements.flatMap fun measurement =>
      measurement.functions.map fun entry => (entry.1, measurement.build, entry.2))
  counted : (functions.flatMap (·.samples)).length =
    (group.measurements.flatMap (·.functions)).length

theorem mem_signatures {measurements : List Measurement} {signature : String} :
    signature ∈ signatures measurements ↔
      ∃ measurement ∈ measurements, ∃ mean, (signature, mean) ∈ measurement.functions := by
  simp [signatures]

/-- The samples of a signature are those of its measurements, one after the other. -/
theorem map_means (group : ContractGroup) (signature : String) :
    (means signature group.measurements).map (fun mean => group.sample mean.1 mean.2) =
      group.measurements.flatMap fun measurement =>
        (measurement.functions.filter (·.1 = signature)).map fun entry =>
          ⟨measurement.build, entry.2, group.settingsOf measurement.build⟩ := by
  rw [means, List.map_flatMap]
  simp only [List.map_map]
  rfl

theorem mem_functions {group : ContractGroup} {function : FunctionSamples} :
    function ∈ group.functions ↔ ∃ signature ∈ firsts id (signatures group.measurements),
      ⟨signature, (means signature group.measurements).map fun mean => group.sample mean.1 mean.2⟩ =
        function := by
  rw [functions_eq, List.mem_map]

/-- No sample is lost or repeated. -/
theorem flatMap_functions (group : ContractGroup) :
    (group.functions.flatMap fun function =>
      function.samples.map fun sample => (function.signature, sample)).Perm
        group.functionSamples := by
  rw [functions, List.flatMap_map]
  exact gather_perm group.functionSamples

/-- The functions of a group gather its measurements. -/
theorem gathers_functions (group : ContractGroup) : group.Gathers group.functions := by
  have names : group.functions.map (·.signature) = firsts id (signatures group.measurements) := by
    rw [functions_eq, List.map_map]
    exact List.map_id _
  have whole : (group.functions.flatMap fun function =>
      function.samples.map fun sample => (function.signature, sample.build, sample.gas)).Perm
      (group.measurements.flatMap fun measurement =>
        measurement.functions.map fun entry => (entry.1, measurement.build, entry.2)) := by
    have kept := (flatMap_functions group).map fun entry => (entry.1, entry.2.build, entry.2.gas)
    rw [functionSamples, List.map_flatMap, List.map_flatMap] at kept
    simp only [List.map_map] at kept
    exact kept
  constructor
  case distinct =>
    rw [names]
    exact nodup_firsts_id (signatures group.measurements)
  case ordered =>
    rw [functions_eq, List.pairwise_map]
    exact firsts_id_pairwise (signatures group.measurements)
  case measured =>
    intro signature
    rw [names, mem_firsts_id, mem_signatures]
  case samples =>
    intro function inside
    obtain ⟨signature, -, rfl⟩ := mem_functions.mp inside
    exact map_means group signature
  case settled =>
    intro function inside sample given
    obtain ⟨signature, -, rfl⟩ := mem_functions.mp inside
    obtain ⟨mean, -, rfl⟩ := List.mem_map.mp given
    exact settledBy_sample group mean.1 mean.2
  case whole => exact whole
  case counted =>
    have lengths := whole.length_eq
    simp only [List.length_flatMap, List.length_map] at lengths ⊢
    exact lengths

end ContractGroup

end GasReport
