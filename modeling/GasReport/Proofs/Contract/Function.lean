import GasReport.Contract.Function
import GasReport.Proofs.Contract.Group

namespace GasReport

/-- This is the mean in the first measurement of a build that goes through the function. -/
def Measurement.firstMean? (name : BuildName) (signature : String)
    (measurements : List Measurement) : Option Gas :=
  (measurements.filter (·.build.name = name)).findSome? (·.mean? signature)

/-- This is the first measurement of a wanted build that goes through the function. -/
def Measurement.firstThrough? (wanted : Build → Bool) (signature : String)
    (measurements : List Measurement) : Option Measurement :=
  measurements.find? fun measurement =>
    wanted measurement.build && (measurement.mean? signature).isSome

/-- These builds are compared: the baseline itself, the reference, and the candidate of the other
pipeline. -/
def Build.Compared (baseline build : Build) : Prop :=
  build.name = baseline.name ∨ build.toolchain = .solc ∨
    (build.toolchain = .solx ∧ build.pipeline = .viaIR)

instance (baseline build : Build) : Decidable (Build.Compared baseline build) :=
  inferInstanceAs (Decidable (_ ∨ _ ∨ (_ ∧ _)))

/-- The baseline is chosen among the default builds of `solx`. -/
theorem Build.isBaselineCandidate_iff {build : Build} :
    build.isBaselineCandidate = true ↔ build.toolchain = .solx ∧ build.pipeline = .default := by
  rw [isBaselineCandidate, Toolchain.isCandidate, Bool.and_eq_true, beq_iff_eq, beq_iff_eq]

/-- Of the baseline candidates, only the baseline is compared. -/
theorem Build.name_eq_of_compared {baseline build : Build} (compared : Compared baseline build)
    (candidate : build.isBaselineCandidate = true) : build.name = baseline.name := by
  obtain ⟨solx, pipeline⟩ := isBaselineCandidate_iff.mp candidate
  rcases compared with same | reference | ⟨-, viaIR⟩
  · exact same
  · rw [solx] at reference
    cases reference
  · rw [pipeline] at viaIR
    cases viaIR

theorem Measurement.means_cons (signature : String) (measurement : Measurement)
    (rest : List Measurement) :
    means signature (measurement :: rest) =
      (measurement.functions.filter (·.1 = signature)).map
        (fun function => (measurement.build, function.2)) ++ means signature rest := by
  rw [means, List.flatMap_cons, means]

/-- Among the means of wanted builds, the first one stands in the first measurement of such a build
that goes through the function. -/
theorem Measurement.find?_means_build (wanted : Build → Bool) (signature : String)
    (measurements : List Measurement) :
    ((means signature measurements).find? (wanted ·.1)).map Prod.snd =
      (firstThrough? wanted signature measurements).bind (·.mean? signature) := by
  induction measurements with
  | nil => rfl
  | cons measurement rest ih =>
      rw [means_cons, List.find?_append, firstThrough?, List.find?_cons]
      cases same : wanted measurement.build with
      | false =>
          have apart : ((measurement.functions.filter (·.1 = signature)).map fun function =>
              (measurement.build, function.2)).find? (wanted ·.1) = none := by
            simp [same]
          rw [apart, Option.none_or]
          exact ih
      | true =>
          have here : ((measurement.functions.filter (·.1 = signature)).map fun function =>
              (measurement.build, function.2)).find? (wanted ·.1) =
                (measurement.mean? signature).map fun mean => (measurement.build, mean) := by
            rw [List.find?_map, List.find?_filter, mean?, Option.map_map]
            simp only [Function.comp_def, same, and_true, Bool.decide_eq_true, beq_eq_decide]
          rw [here]
          cases found : measurement.mean? signature with
          | none => exact ih
          | some mean => simp [found]

/-- The first mean of a build is that of its first measurement through the function. -/
theorem Measurement.firstMean?_eq (name : BuildName) (signature : String)
    (measurements : List Measurement) :
    firstMean? name signature measurements =
      (firstThrough? (·.name = name) signature measurements).bind (·.mean? signature) := by
  rw [firstMean?, firstThrough?]
  induction measurements with
  | nil => rfl
  | cons measurement rest ih =>
      by_cases same : measurement.build.name = name
      · cases found : measurement.mean? signature with
        | none => simpa [same, found] using ih
        | some mean => simp [same, found]
      · simpa [same] using ih

/-- The first mean of a build is found measurement by measurement. -/
theorem Measurement.find?_means (name : BuildName) (signature : String)
    (measurements : List Measurement) :
    ((means signature measurements).find? (·.1.name = name)).map Prod.snd =
      firstMean? name signature measurements := by
  rw [firstMean?_eq]
  exact find?_means_build (·.name = name) signature measurements

/-- A measurement with distinct signatures has one mean of a function at most. -/
theorem Measurement.filter_functions {measurement : Measurement}
    (distinct : (measurement.functions.map Prod.fst).Nodup) (signature : String) :
    (measurement.functions.filter (·.1 = signature)).map Prod.snd =
      (measurement.mean? signature).toList := by
  rw [mean?]
  generalize measurement.functions = functions at distinct
  induction functions with
  | nil => rfl
  | cons function rest ih =>
      obtain ⟨absent, restDistinct⟩ := List.nodup_cons.mp distinct
      have others := ih restDistinct
      by_cases same : function.1 = signature
      · have none : rest.filter (·.1 = signature) = [] := by
          rw [List.filter_eq_nil_iff]
          intro other inside found
          have named : other.1 = function.1 := by simpa [same] using found
          exact absent (named ▸ List.mem_map_of_mem inside)
        simp [same, none]
      · simp only [List.filter_cons, same, decide_false, List.find?_cons, beq_false_of_ne same]
        exact others

/-- The means of a function stand measurement by measurement. -/
theorem Measurement.means_eq_filterMap {measurements : List Measurement}
    (distinct : ∀ measurement ∈ measurements, (measurement.functions.map Prod.fst).Nodup)
    (signature : String) :
    means signature measurements = measurements.filterMap fun measurement =>
      (measurement.mean? signature).map fun mean => (measurement.build, mean) := by
  induction measurements with
  | nil => rfl
  | cons measurement rest ih =>
      have here : (measurement.functions.filter (·.1 = signature)).map
          (fun function => (measurement.build, function.2)) =
            (measurement.mean? signature).toList.map fun mean => (measurement.build, mean) := by
        rw [← filter_functions (distinct measurement List.mem_cons_self), List.map_map]
        rfl
      rw [means_cons, here, ih fun other inside => distinct other (List.mem_cons_of_mem _ inside)]
      cases found : measurement.mean? signature with
      | none => simp [found]
      | some mean => simp [found]

namespace FunctionSamples

/-- The samples that are kept are those of compared builds. -/
theorem retains_eq (baseline : Build) (sample : Sample) :
    retains baseline sample = decide (Build.Compared baseline sample.build) := by
  rw [Bool.eq_iff_iff, decide_eq_true_iff]
  simp [retains, Build.Compared, Toolchain.isReference, Build.isCandidateViaIR,
    Toolchain.isCandidate, or_assoc]

/-- The zero test of the base is the only one. -/
theorem relative?_eq {base : Gas} (measured : (base == 0.0) = false) (sample : Sample) :
    relative? base sample =
      some ⟨sample, base, .round ((sample.gas - base) / base * 100.0)⟩ := by
  rw [relative?, difference?, if_neg (by rw [measured]; exact Bool.false_ne_true)]
  rfl

/-- A function is compared when its base exists and is not zero, and then no retained sample is
lost. -/
theorem compare_toOption (function : FunctionSamples) (baseline : Build) :
    (function.compare baseline).toOption =
      ((function.base? baseline).filter (· != 0.0)).map fun base =>
        ⟨function.signature, (function.samples.filter (retains baseline)).map fun sample =>
          ⟨sample, base, .round ((sample.gas - base) / base * 100.0)⟩⟩ := by
  rw [compare]
  cases function.base? baseline with
  | none => rfl
  | some base =>
      cases zero : base == 0.0 with
      | true => simp [zero, bne, Except.toOption, Option.filter]
      | false =>
          have relatives : (function.samples.filter (retains baseline)).filterMap (relative? base) =
              (function.samples.filter (retains baseline)).map fun sample =>
                ⟨sample, base, .round ((sample.gas - base) / base * 100.0)⟩ := by
            rw [← List.filterMap_eq_map]
            congr 1
            funext sample
            exact relative?_eq zero sample
          simp [zero, bne, relatives, Except.toOption, Option.filter]

end FunctionSamples

end GasReport
