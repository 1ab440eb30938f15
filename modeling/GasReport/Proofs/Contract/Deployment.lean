import GasReport.Proofs.Compiler.Ranking
import GasReport.Proofs.Contract.Verdict
import Mathlib.Data.List.Forall2

namespace GasReport

variable {A B : Type}

/-- These builds are ranked before all others. -/
def Build.OptimizedSolc (build : Build) : Prop :=
  build.toolchain = .solc ∧ build.optimized = true ∧ build.pipeline = .default

instance (build : Build) : Decidable build.OptimizedSolc :=
  inferInstanceAs (Decidable (_ ∧ _ ∧ _))

namespace Priority

/-- The priority of a build is told by its toolchain and by whether it is optimized. -/
theorem ofBuild_eq (build : Build) :
    ofBuild build = if build.OptimizedSolc then .optimizedReference
      else if build.toolchain = .solc then .reference else .candidate := by
  have optimized : build.isOptimizedReference = true ↔ build.OptimizedSolc := by
    simp [Build.isOptimizedReference, Build.OptimizedSolc, Toolchain.isReference, and_assoc]
  exact if_congr optimized rfl (if_congr beq_iff_eq rfl rfl)

theorem ofBuild_eq_optimizedReference {build : Build} :
    ofBuild build = .optimizedReference ↔ build.OptimizedSolc := by
  rw [ofBuild_eq]
  split
  case isTrue optimized => simp [optimized]
  case isFalse plain => split <;> simp [plain]

theorem ofBuild_eq_reference {build : Build} :
    ofBuild build = .reference ↔ build.toolchain = .solc ∧ ¬ build.OptimizedSolc := by
  rw [ofBuild_eq]
  split
  case isTrue optimized => simp [optimized]
  case isFalse plain => split <;> simp [*]

theorem ofBuild_eq_candidate {build : Build} :
    ofBuild build = .candidate ↔ build.toolchain = .solx := by
  rw [ofBuild_eq]
  split
  case isTrue optimized => simp [optimized.1]
  case isFalse plain => cases build.toolchain <;> simp

end Priority

/-- The optimized builds of `solc` come first, then its other builds, then the builds of `solx`.
Each part keeps the order of the entries, nothing is lost or repeated, and ranking again changes
nothing. -/
structure RankedFrom (build : A → Build) (entries ranked : List A) : Prop where
  parts : ranked =
    entries.filter (fun entry => (build entry).OptimizedSolc) ++
      (entries.filter
          (fun entry => (build entry).toolchain = .solc ∧ ¬ (build entry).OptimizedSolc) ++
        entries.filter (fun entry => (build entry).toolchain = .solx))
  complete : ranked.Perm entries
  settled : rankBy build ranked = ranked

/-- The ranking of any list has the parts, the entries and the head that are promised. -/
theorem rankedFrom_rankBy (build : A → Build) (entries : List A) :
    RankedFrom build entries (rankBy build entries) where
  parts := by
    simp only [rankBy_eq build entries, ofPriority, Priority.ofBuild_eq_optimizedReference,
      Priority.ofBuild_eq_reference, Priority.ofBuild_eq_candidate]
  complete := rankBy_perm build entries
  settled := by
    apply List.mergeSort_of_pairwise
    exact (rankBy_pairwise build entries).imp fun before => decide_eq_true before

/-- This is the first optimized entry of `solc`, else its first entry, else the first of all. -/
def foremost? (build : A → Build) (entries : List A) : Option A :=
  (entries.find? fun entry => (build entry).OptimizedSolc).or
    ((entries.find? fun entry => (build entry).toolchain = .solc).or entries.head?)

/-- A search for the foremost entry commutes with a change of entries that keeps their builds. -/
theorem foremost?_map (build : B → Build) (change : A → B) (entries : List A) :
    foremost? build (entries.map change) =
      (foremost? (fun entry => build (change entry)) entries).map change := by
  simp only [foremost?, List.find?_map, List.head?_map, Option.map_or, Function.comp_def]

/-- Some entry of a list is the foremost one. -/
theorem isSome_foremost? (build : A → Build) {entries : List A} (given : entries ≠ []) :
    (foremost? build entries).isSome := by
  simp [foremost?, List.isSome_head?, given]

/-- The entry that is ranked first does not depend on the rest of its part. -/
theorem head?_rankBy_eq_foremost? (build : A → Build) (entries : List A) :
    (rankBy build entries).head? = foremost? build entries := by
  rw [(rankedFrom_rankBy build entries).parts, foremost?, List.head?_append, List.head?_append,
    List.head?_filter]
  cases optimized : entries.find? fun entry => (build entry).OptimizedSolc with
  | some first => rfl
  | none =>
      have plain := List.find?_eq_none.mp optimized
      have others : entries.filter (fun entry =>
          (build entry).toolchain = .solc ∧ ¬ (build entry).OptimizedSolc) =
            entries.filter fun entry => (build entry).toolchain = .solc := by
        apply List.filter_congr
        intro entry inside
        have here : ¬ (build entry).OptimizedSolc := by simpa using plain entry inside
        simp [here]
      rw [others, List.head?_filter]
      cases reference : entries.find? fun entry => (build entry).toolchain = .solc with
      | some first => rfl
      | none =>
          have candidates :
              entries.filter (fun entry => (build entry).toolchain = .solx) = entries := by
            rw [List.filter_eq_self]
            intro entry inside
            have absent : (build entry).toolchain ≠ .solc := by
              simpa using List.find?_eq_none.mp reference entry inside
            rw [decide_eq_true_iff]
            cases toolchain : (build entry).toolchain with
            | solc => exact absurd toolchain absent
            | solx => rfl
          rw [candidates]

/-- This says how the deployments of a report follow from its measurements. -/
structure ContractReport.RanksDeployments (report : ContractReport) : Prop where
  ranked : ∃ entries : List Sample,
    List.Forall₂ (fun measurement entry =>
      entry.build = measurement.build ∧ entry.gas = measurement.gas) report.measurements entries ∧
    RankedFrom Sample.build entries report.deployment
  judged : ∃ first measurement, report.deploymentBaseline? = some first ∧
    foremost? Measurement.build report.measurements = some measurement ∧
    first.build = measurement.build ∧ first.gas = measurement.gas

/-- A report has measurements, since one of them is its baseline. -/
theorem ContractReport.MadeFrom.measurements_ne_nil {records : List Record} {first : Measurement}
    {report : ContractReport} (made : report.MadeFrom records first) :
    report.measurements ≠ [] := by
  intro none
  have selected := made.selected
  rw [none] at selected
  cases selected

/-- The deployments of a report are ranked from its measurements. -/
theorem ContractReport.MadeFrom.ranksDeployments {records : List Record} {first : Measurement}
    {report : ContractReport} (made : report.MadeFrom records first) : report.RanksDeployments := by
  have deployment : report.deployment = rankBy Sample.build (report.measurements.map
      fun measurement => (ContractGroup.ofContract records report.contract).sample
        measurement.build measurement.gas) := by
    rw [made.deployment, ContractGroup.deployments, ContractGroup.ofContract_measurements,
      made.measurements]
  constructor
  case ranked =>
    refine ⟨_, ?_, deployment ▸ rankedFrom_rankBy _ _⟩
    rw [List.forall₂_map_right_iff, List.forall₂_same]
    intro measurement inside
    exact ⟨rfl, rfl⟩
  case judged =>
    obtain ⟨measurement, foremost⟩ := Option.isSome_iff_exists.mp
      (isSome_foremost? Measurement.build made.measurements_ne_nil)
    refine ⟨(ContractGroup.ofContract records report.contract).sample measurement.build
      measurement.gas, measurement, ?_, foremost, rfl, rfl⟩
    rw [deploymentBaseline?, deployment, head?_rankBy_eq_foremost?, foremost?_map]
    change (foremost? Measurement.build report.measurements).map _ = _
    rw [foremost]
    rfl

/-- The deployments have the measured builds, ranked. -/
theorem ContractReport.MadeFrom.builds_deployment {records : List Record} {first : Measurement}
    {report : ContractReport} (made : report.MadeFrom records first) :
    report.deployment.map (·.build) = rankBy id (report.measurements.map (·.build)) := by
  rw [made.deployment, ContractGroup.deployments, map_rankBy Sample.build id _ fun _ => rfl,
    List.map_map, ContractGroup.ofContract_measurements, made.measurements]
  rfl

/-- The builds of all deployments are those of the measurements, priority by priority. -/
theorem builds_deployments {options : ComparisonOptions} {reference candidate : List Record}
    {reports : List ContractReport}
    (compared : compareRecords options reference candidate = .ok reports) :
    reports.map (fun report => report.deployment.map (·.build)) =
      reports.map fun report =>
        ofPriority id .optimizedReference (report.measurements.map (·.build)) ++
          (ofPriority id .reference (report.measurements.map (·.build)) ++
            ofPriority id .candidate (report.measurements.map (·.build))) := by
  apply List.map_congr_left
  intro report inside
  obtain ⟨first, made⟩ := exists_madeFrom compared inside
  rw [made.builds_deployment, rankBy_eq]

/-- Entries are ranked in three parts, whatever they are, and so are the deployments of every
report, one for each of its measurements. -/
theorem deployments_ranked {options : ComparisonOptions} {reference candidate : List Record}
    {reports : List ContractReport}
    (compared : compareRecords options reference candidate = .ok reports) :
    (∀ entries : List Sample, RankedFrom Sample.build entries (rankBy Sample.build entries)) ∧
      ∀ report ∈ reports, report.RanksDeployments := by
  constructor
  · exact rankedFrom_rankBy Sample.build
  · intro report inside
    obtain ⟨first, made⟩ := exists_madeFrom compared inside
    exact made.ranksDeployments

/-- The optimized reference is measured last on its side, and a build of the candidate before all
others. -/
def lateReference : List Record × List Record :=
  ([.measurement ⟨.tagged .standard ⟨.solx, "0.1.0"⟩, "Token", 900.0, [("f()", 90.0)]⟩,
    .measurement ⟨.tagged .standard ⟨.solc, "0.8.30"⟩, "Token", 1100.0, [("f()", 110.0)]⟩,
    .measurement ⟨.tagged .standard ⟨.solc, "0.8.30-opt"⟩, "Token", 1000.0, [("f()", 100.0)]⟩],
   [.measurement ⟨.tagged .standard ⟨.solx, "0.1.0-via-ir"⟩, "Token", 950.0, [("f()", 95.0)]⟩,
    .measurement ⟨.tagged .standard ⟨.solx, "0.2.0"⟩, "Vault", 700.0, []⟩])

theorem deployments_ranked_lateReference :
    ∃ reports, compareRecords ⟨false⟩ lateReference.1 lateReference.2 = .ok reports ∧
      ((∀ entries : List Sample, RankedFrom Sample.build entries (rankBy Sample.build entries)) ∧
        ∀ report ∈ reports, report.RanksDeployments) ∧
      reports.map (fun report => (report.measurements.map (·.build.version),
        (foremost? Measurement.build report.measurements).map (·.build.version))) =
        [(["0.1.0", "0.8.30", "0.8.30-opt", "0.1.0-via-ir"], some "0.8.30-opt"),
          (["0.2.0"], some "0.2.0")] := by
  have compared := compareRecords_eq ⟨false⟩ (List.cons_ne_nil _ _ : lateReference.1 ≠ [])
    (List.cons_ne_nil _ _ : lateReference.2 ≠ [])
  exact ⟨_, compared, deployments_ranked compared, by decide +kernel⟩

end GasReport
