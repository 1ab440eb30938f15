import GasReport.Proofs.Contract.Function
import GasReport.Proofs.Contract.Verdict

namespace GasReport

open Record Measurement

/-- This is the result of a function that the baseline measured with gas that is not zero. -/
def ContractGroup.comparison? (group : ContractGroup) (baseline : Build) (signature : String) :
    Option FunctionComparison :=
  ((firstMean? baseline.name signature group.measurements).filter (· != 0.0)).map fun base =>
    ⟨signature, ((means signature group.measurements).filter
      fun mean => Build.Compared baseline mean.1).map fun mean =>
        ⟨group.sample mean.1 mean.2, base, .round ((mean.2 - base) / base * 100.0)⟩⟩

/-- The base of gathered samples is the first mean of the baseline build. -/
theorem base?_samples (group : ContractGroup) (baseline : Build) (signature : String) :
    FunctionSamples.base? ⟨signature, (means signature group.measurements).map fun mean =>
      group.sample mean.1 mean.2⟩ baseline =
        firstMean? baseline.name signature group.measurements := by
  rw [FunctionSamples.base?, List.find?_map, Option.map_map, ← find?_means]
  rfl

/-- Gathered samples are compared as the measurements tell. -/
theorem compare_samples (group : ContractGroup) (baseline : Build) (signature : String) :
    (FunctionSamples.compare ⟨signature, (means signature group.measurements).map fun mean =>
      group.sample mean.1 mean.2⟩ baseline).toOption = group.comparison? baseline signature := by
  rw [FunctionSamples.compare_toOption, base?_samples, ContractGroup.comparison?]
  congr 1
  funext base
  rw [List.filter_map, List.map_map]
  simp only [Function.comp_def, FunctionSamples.retains_eq]
  rfl

/-- Signatures without a result are left out, and the others keep their order. -/
theorem results?_eq (group : ContractGroup) (baseline : Build) :
    ContractReport.results? group baseline =
      (firsts id (signatures group.measurements)).filterMap (group.comparison? baseline) := by
  rw [ContractReport.results?, ContractGroup.functions_eq, List.filterMap_map]
  congr 1
  funext signature
  exact compare_samples group baseline signature

/-- A result is told in full by its base and by the means of compared builds. -/
theorem comparison?_eq_some {group : ContractGroup} {baseline : Build} {signature : String}
    {result : FunctionComparison} :
    group.comparison? baseline signature = some result ↔
      ∃ base, firstMean? baseline.name signature group.measurements = some base ∧
        (base == 0.0) = false ∧
        result = ⟨signature, ((means signature group.measurements).filter
          fun mean => Build.Compared baseline mean.1).map fun mean =>
            ⟨group.sample mean.1 mean.2, base, .round ((mean.2 - base) / base * 100.0)⟩⟩ := by
  rw [ContractGroup.comparison?, Option.map_eq_some_iff]
  constructor
  · rintro ⟨base, found, rfl⟩
    obtain ⟨measured, positive⟩ := Option.filter_eq_some_iff.mp found
    exact ⟨base, measured, by simpa [bne] using positive, rfl⟩
  · rintro ⟨base, measured, positive, rfl⟩
    exact ⟨base, Option.filter_eq_some_iff.mpr ⟨measured, by simpa [bne] using positive⟩, rfl⟩

/-- A result is named by its signature. -/
theorem name_of_comparison? {group : ContractGroup} {baseline : Build} {signature : String}
    {result : FunctionComparison} (found : group.comparison? baseline signature = some result) :
    result.name = signature := by
  obtain ⟨base, -, -, rfl⟩ := comparison?_eq_some.mp found
  rfl

/-- All versions of a function are compared with one base, and there are some. -/
def FunctionComparison.HasBase (function : FunctionComparison) (base : Gas) : Prop :=
  function.versions ≠ [] ∧ ∀ entry ∈ function.versions, entry.base = base

/-- What is compared has the base that the baseline build measured, also for the build itself. -/
theorem ContractGroup.hasBase_of_comparison? {group : ContractGroup} {baseline : Build}
    {signature : String} {result : FunctionComparison} {base : Gas}
    (found : group.comparison? baseline signature = some result)
    (measured : firstMean? baseline.name signature group.measurements = some base) :
    result.HasBase base := by
  obtain ⟨other, otherMeasured, -, rfl⟩ := comparison?_eq_some.mp found
  obtain rfl : other = base := Option.some.inj (otherMeasured.symm.trans measured)
  constructor
  · rw [← find?_means, Option.map_eq_some_iff] at measured
    obtain ⟨mean, first, -⟩ := measured
    have named : mean.1.name = baseline.name := by simpa using List.find?_some first
    have retained : mean ∈ (Measurement.means signature group.measurements).filter
        fun mean => Build.Compared baseline mean.1 :=
      List.mem_filter.mpr ⟨List.mem_of_find?_eq_some first, decide_eq_true (Or.inl named)⟩
    exact List.ne_nil_of_mem (List.mem_map_of_mem retained)
  · intro entry inside
    obtain ⟨mean, -, rfl⟩ := List.mem_map.mp inside
    rfl

/-- A function with a first mean is among the signatures. -/
theorem mem_signatures_of_firstMean? {name : BuildName} {signature : String}
    {measurements : List Measurement} {base : Gas}
    (measured : firstMean? name signature measurements = some base) :
    signature ∈ signatures measurements := by
  obtain ⟨measurement, inside, found⟩ := List.exists_of_findSome?_eq_some measured
  obtain ⟨function, given, -⟩ := Option.map_eq_some_iff.mp found
  have named : function.1 = signature := by simpa using List.find?_some given
  refine List.mem_flatMap.mpr ⟨measurement, (List.mem_filter.mp inside).1, ?_⟩
  exact named ▸ List.mem_map_of_mem (List.mem_of_find?_eq_some given)

/-- A result is found under its own name. -/
theorem mem_results? {group : ContractGroup} {baseline : Build} {result : FunctionComparison} :
    result ∈ ContractReport.results? group baseline ↔
      group.comparison? baseline result.name = some result := by
  rw [results?_eq, List.mem_filterMap]
  constructor
  · rintro ⟨signature, -, found⟩
    exact name_of_comparison? found ▸ found
  · intro found
    obtain ⟨base, measured, -⟩ := comparison?_eq_some.mp found
    exact ⟨result.name, (mem_firsts_id _ _).mpr (mem_signatures_of_firstMean? measured), found⟩

/-- The results keep the order in which the functions were discovered. -/
theorem map_name_results? (group : ContractGroup) (baseline : Build) :
    (ContractReport.results? group baseline).map (·.name) =
      (firsts id (signatures group.measurements)).filter fun signature =>
        (group.comparison? baseline signature).isSome := by
  rw [results?_eq, map_filterMap_key name_of_comparison?]

/-- A result has a base, and its versions are the means of the compared builds. -/
theorem ContractReport.MadeFrom.exists_base {records : List Record} {first : Measurement}
    {report : ContractReport} (made : report.MadeFrom records first)
    {function : FunctionComparison} (inside : function ∈ report.results) :
    ∃ base, firstMean? report.baseline.name function.name report.measurements = some base ∧
      (base == 0.0) = false ∧
      function.versions = ((means function.name report.measurements).filter
        fun mean => Build.Compared report.baseline mean.1).map fun mean =>
          ⟨(ContractGroup.ofContract records report.contract).sample mean.1 mean.2, base,
            .round ((mean.2 - base) / base * 100.0)⟩ := by
  rw [made.results, mem_results?] at inside
  obtain ⟨base, measured, positive, result⟩ := comparison?_eq_some.mp inside
  rw [ContractGroup.ofContract_measurements, ← made.measurements] at measured result
  exact ⟨base, measured, positive, congrArg FunctionComparison.versions result⟩

end GasReport
