import GasReport.Proofs.Contract.BaselineBuild
import GasReport.Proofs.Contract.Deployment
import GasReport.Proofs.Contract.Deserved
import GasReport.Proofs.Contract.Settings
import Mathlib.Data.List.Forall2

namespace GasReport

open Record Measurement

/-- These are the settings in the first settings record of a build. -/
def Record.firstSettings (records : List Record) (build : Build) : Settings :=
  (((records.filterMap settings?).find? (·.build.name = build.name)).map (·.settings)).getD
    Dictionary.empty

/-- The added measurement was read with the markers of the records, and its build is compared
without ever being the baseline. -/
structure Measurement.Joins (markers : Markers) (records : List Record) (added : Measurement) :
    Prop where
  tagged : TaggedBy markers records
  addedTagged : added.build = .tagged markers added.build.name
  distinct : (added.functions.map Prod.fst).Nodup
  beside : added.build.toolchain = .solc ∨
    (added.build.toolchain = .solx ∧ added.build.pipeline = .viaIR)

/-- The base stays, and a function that is measured gets one more version at the end. -/
structure FunctionComparison.ExtendedBy (settings : Settings) (added : Measurement)
    (function extended : FunctionComparison) : Prop where
  name : extended.name = function.name
  versions : ∃ base, function.HasBase base ∧ extended.HasBase base ∧
    extended.versions = function.versions ++
      ((added.mean? function.name).map fun mean =>
        ⟨⟨added.build, mean, settings⟩, base, .round ((mean - base) / base * 100.0)⟩).toList

/-- This is all that an added measurement changes in the report of its contract. -/
structure ContractReport.ExtendedBy (settings : Settings) (added : Measurement)
    (report extended : ContractReport) : Prop where
  contract : extended.contract = report.contract
  baseline : extended.baseline = report.baseline
  methodCount : extended.methodCount = report.methodCount
  results : List.Forall₂ (FunctionComparison.ExtendedBy settings added) report.results
    extended.results
  measurements : extended.measurements = report.measurements ++ [added]
  deployment : PlacedByRank Sample.build ⟨added.build, added.gas, settings⟩ report.deployment
    extended.deployment

/-- The report of the contract of the added measurement is extended, and another one stays. -/
def ExtendsContract (settings : Settings) (added : Measurement)
    (report extended : ContractReport) : Prop :=
  (report.contract = added.contract → report.ExtendedBy settings added extended) ∧
    (report.contract ≠ added.contract → extended = report)

/-! The records. -/

namespace Record

variable (records : List Record) (added : Measurement)

/-- An added measurement is the last one. -/
theorem measurements_concat :
    measurements (records ++ [.measurement added]) = measurements records ++ [added] := by
  rw [measurements, List.filterMap_append]
  rfl

/-- An added measurement brings no settings. -/
theorem settings_concat :
    (records ++ [measurement added]).filterMap settings? = records.filterMap settings? := by
  rw [List.filterMap_append]
  exact List.append_nil _

theorem measurementsOf_concat :
    measurementsOf added.contract (records ++ [.measurement added]) =
      measurementsOf added.contract records ++ [added] := by
  rw [measurementsOf, measurements_concat, List.filter_append, List.filter_singleton,
    decide_eq_true rfl]
  rfl

variable {added} in
/-- The measurements of other contracts stay as they are. -/
theorem measurementsOf_concat_of_ne {contract : String} (other : contract ≠ added.contract) :
    measurementsOf contract (records ++ [.measurement added]) =
      measurementsOf contract records := by
  rw [measurementsOf, measurements_concat, List.filter_append, List.filter_singleton,
    decide_eq_false other.symm]
  exact List.append_nil _

end Record

namespace Measurement

variable {measurements : List Measurement} {added : Measurement}

/-- A build that is no candidate is never chosen. -/
theorem eligible_concat (beside : added.build.isBaselineCandidate = false) :
    eligible (measurements ++ [added]) = eligible measurements := by
  rw [eligible, List.filter_append, List.filter_singleton, beside]
  exact List.append_nil _

/-- The first mean of another build is found as before. -/
theorem firstMean?_concat {name : BuildName} (apart : added.build.name ≠ name)
    (signature : String) :
    firstMean? name signature (measurements ++ [added]) =
      firstMean? name signature measurements := by
  rw [firstMean?, List.filter_append, List.filter_singleton, decide_eq_false apart]
  exact congrArg _ (List.append_nil _)

/-- A function gains at most one mean, at the end. -/
theorem means_concat (distinct : (added.functions.map Prod.fst).Nodup) (signature : String) :
    means signature (measurements ++ [added]) =
      means signature measurements ++
        ((added.mean? signature).map fun mean => (added.build, mean)).toList := by
  have each : ∀ measurement ∈ [added], (measurement.functions.map Prod.fst).Nodup :=
    List.forall_mem_singleton.mpr distinct
  have here := means_eq_filterMap each signature
  rw [means, List.flatMap_append]
  change _ ++ means signature [added] = _
  rw [here]
  cases measured : added.mean? signature with
  | none => simp [measured, means]
  | some mean => simp [measured, means]

end Measurement

namespace ContractGroup

variable {records : List Record} {added : Measurement} {baseline : Build}

/-- The groups of other contracts stay as they are. -/
theorem ofContract_concat_of_ne {contract : String} (other : contract ≠ added.contract) :
    ofContract (records ++ [.measurement added]) contract = ofContract records contract := by
  rw [ofContract, allSettings, settings_concat, measurementsOf_concat_of_ne records other,
    ofContract,
    allSettings]

/-- A sample carries the first settings of its build. -/
theorem sample_ofContract {contract : String} {measurement : Measurement}
    (inside : measurement ∈ measurementsOf contract records) (gas : Gas) :
    (ofContract records contract).sample measurement.build gas =
      ⟨measurement.build, gas, firstSettings records measurement.build⟩ := by
  rw [sample, settingsOf_ofContract inside, firstSettings]

/-- Samples that were made before are made again, although more settings may be attached. -/
theorem sample_concat {measurement : Measurement}
    (inside : measurement ∈ measurementsOf added.contract records) (gas : Gas) :
    (ofContract (records ++ [.measurement added]) added.contract).sample measurement.build gas =
      (ofContract records added.contract).sample measurement.build gas := by
  have later : measurement ∈ measurementsOf added.contract (records ++ [.measurement added]) := by
    rw [measurementsOf_concat]
    exact List.mem_append_left _ inside
  rw [sample_ofContract later, sample_ofContract inside, firstSettings, settings_concat,
    firstSettings]

theorem sample_added (gas : Gas) :
    (ofContract (records ++ [.measurement added]) added.contract).sample added.build gas =
      ⟨added.build, gas, firstSettings records added.build⟩ := by
  have inside : added ∈ measurementsOf added.contract (records ++ [.measurement added]) := by
    rw [measurementsOf_concat]
    exact List.mem_append_right _ (List.mem_singleton_self _)
  rw [sample_ofContract inside, firstSettings, settings_concat, firstSettings]

/-- What is made of the earlier samples is made again. -/
theorem map_sample_concat {A : Type} (records : List Record) (added : Measurement)
    (make : Sample → A) (signature : String) (keep : Build × Gas → Bool) :
    ((means signature (measurementsOf added.contract records)).filter keep).map (fun mean =>
        make ((ofContract (records ++ [.measurement added]) added.contract).sample mean.1 mean.2)) =
      ((means signature (measurementsOf added.contract records)).filter keep).map fun mean =>
        make ((ofContract records added.contract).sample mean.1 mean.2) := by
  refine List.map_congr_left fun mean inside => ?_
  obtain ⟨measurement, given, build⟩ := exists_of_mem_means (List.mem_filter.mp inside).1
  rw [← build, sample_concat given]

/-- A measurement of another build changes no base. -/
theorem base?_concat (records : List Record) (apart : added.build.name ≠ baseline.name)
    (signature : String) :
    firstMean? baseline.name signature
        (measurementsOf added.contract (records ++ [.measurement added])) =
      firstMean? baseline.name signature (measurementsOf added.contract records) := by
  rw [measurementsOf_concat, firstMean?_concat apart]

/-- A function that is only found in the added measurement has no base. -/
theorem comparison?_concat_eq_none (apart : added.build.name ≠ baseline.name) {signature : String}
    (new : signature ∉ signatures (measurementsOf added.contract records)) :
    (ofContract (records ++ [.measurement added]) added.contract).comparison? baseline signature =
      none := by
  cases found : (ofContract (records ++ [.measurement added]) added.contract).comparison? baseline
    signature with
  | none => rfl
  | some result =>
      obtain ⟨base, measured, -⟩ := comparison?_eq_some.mp found
      rw [ofContract_measurements, base?_concat records apart] at measured
      exact absurd (mem_signatures_of_firstMean? measured) new

/-- The base of a function stays, and the mean of an added build is compared with it. -/
theorem rel_comparison?_concat (distinct : (added.functions.map Prod.fst).Nodup)
    (apart : added.build.name ≠ baseline.name) (compared : Build.Compared baseline added.build)
    (signature : String) :
    Option.Rel (FunctionComparison.ExtendedBy (firstSettings records added.build) added)
      ((ofContract records added.contract).comparison? baseline signature)
      ((ofContract (records ++ [.measurement added]) added.contract).comparison? baseline
        signature) := by
  have base_eq := base?_concat records apart signature
  cases found : (ofContract records added.contract).comparison? baseline signature with
  | none =>
      have unbased : (firstMean? baseline.name signature
          (measurementsOf added.contract records)).filter (· != 0.0) = none :=
        Option.map_eq_none_iff.mp found
      rw [comparison?, ofContract_measurements, base_eq, unbased]
      exact Option.Rel.none
  | some result =>
      obtain ⟨base, measured, positive, rfl⟩ := comparison?_eq_some.mp found
      have later :
          (ofContract (records ++ [.measurement added]) added.contract).comparison? baseline
          signature = some ⟨signature, _⟩ :=
        comparison?_eq_some.mpr ⟨base, base_eq.trans measured, positive, rfl⟩
      rw [later]
      refine Option.Rel.some ⟨rfl, base, hasBase_of_comparison? found measured,
        hasBase_of_comparison? later (base_eq.trans measured), ?_⟩
      have earlier := map_sample_concat records added
        (fun sample => RelativeSample.mk sample base (.round ((sample.gas - base) / base * 100.0)))
        signature fun mean => Build.Compared baseline mean.1
      rw [ofContract_measurements, measurementsOf_concat, means_concat distinct, List.filter_append,
        List.map_append]
      refine congr (congrArg _ earlier) ?_
      cases mean : added.mean? signature with
      | none => rfl
      | some value => simp [compared, sample_added]

/-- The functions are those of before, each with its base. -/
theorem forall₂_results?_concat (distinct : (added.functions.map Prod.fst).Nodup)
    (apart : added.build.name ≠ baseline.name) (compared : Build.Compared baseline added.build) :
    List.Forall₂ (FunctionComparison.ExtendedBy (firstSettings records added.build) added)
      (ContractReport.results? (ofContract records added.contract) baseline)
      (ContractReport.results? (ofContract (records ++ [.measurement added]) added.contract)
        baseline) := by
  have discovered : signatures (measurementsOf added.contract (records ++ [.measurement added])) =
      signatures (measurementsOf added.contract records) ++ added.functions.map Prod.fst := by
    rw [measurementsOf_concat, signatures, List.flatMap_append, List.flatMap_singleton, signatures]
  rw [results?_eq, results?_eq, ofContract_measurements, ofContract_measurements, discovered,
    firsts_append, List.filterMap_append]
  have skipped : ((firsts id (added.functions.map Prod.fst)).filter fun signature =>
      id signature ∉ (signatures (measurementsOf added.contract records)).map id).filterMap
        ((ofContract (records ++ [.measurement added]) added.contract).comparison? baseline) =
          [] := by
    rw [List.filterMap_eq_nil_iff]
    intro signature inside
    exact comparison?_concat_eq_none apart (by simpa using (List.mem_filter.mp inside).2)
  rw [skipped, List.append_nil]
  refine List.rel_filterMap (R := Eq) ?_ (List.forall₂_refl _)
  rintro signature _ rfl
  exact rel_comparison?_concat distinct apart compared signature

/-- The added deployment is placed by its rank, and the others keep their order. -/
theorem placedByRank_deployments :
    PlacedByRank Sample.build ⟨added.build, added.gas, firstSettings records added.build⟩
      (ofContract records added.contract).deployments
      (ofContract (records ++ [.measurement added]) added.contract).deployments := by
  rw [deployments, deployments, ofContract_measurements, ofContract_measurements,
    measurementsOf_concat, List.map_append, List.map_singleton, sample_added]
  have kept : (measurementsOf added.contract records).map (fun measurement =>
        (ofContract (records ++ [.measurement added]) added.contract).sample measurement.build
          measurement.gas) =
      (measurementsOf added.contract records).map fun measurement =>
        (ofContract records added.contract).sample measurement.build measurement.gas :=
    List.map_congr_left fun measurement inside => sample_concat inside measurement.gas
  rw [kept]
  exact placedByRank_rankBy Sample.build _ _

end ContractGroup

/-! The reports. -/

/-- A build that is compared and is not the baseline extends a report and changes nothing else. -/
theorem ContractReport.extendedBy_ofGroup (records : List Record) {added : Measurement}
    (distinct : (added.functions.map Prod.fst).Nodup) {first : Measurement} (count : Nat)
    (apart : added.build.name ≠ first.build.name)
    (compared : Build.Compared first.build added.build) :
    ContractReport.ExtendedBy (firstSettings records added.build) added
      (.ofGroup (.ofContract records added.contract) ⟨first, count⟩)
      (.ofGroup (.ofContract (records ++ [.measurement added]) added.contract) ⟨first, count⟩) where
  contract := rfl
  baseline := rfl
  methodCount :=
    (ContractGroup.forall₂_results?_concat distinct apart compared).length_eq.symm
  results := ContractGroup.forall₂_results?_concat distinct apart compared
  measurements := measurementsOf_concat records added
  deployment := ContractGroup.placedByRank_deployments

namespace Measurement.Joins

variable {markers : Markers} {options : ComparisonOptions} {records : List Record}
  {added : Measurement}

/-- A build that joins the records is no candidate for the baseline. -/
theorem isBaselineCandidate_eq_false (joins : added.Joins markers records) :
    added.build.isBaselineCandidate = false := by
  rw [Build.isBaselineCandidate, Toolchain.isCandidate]
  rcases joins.beside with reference | ⟨-, viaIR⟩
  · rw [reference]
    rfl
  · rw [viaIR]
    exact Bool.and_false _

/-- One pair of markers gave the tags, so the baseline has another name. -/
theorem name_ne (joins : added.Joins markers records) {first : Measurement}
    (selected : (eligible (measurementsOf added.contract records)).head? = some first) :
    added.build.name ≠ first.build.name := by
  obtain ⟨inside, candidate⟩ := mem_of_selected selected
  intro same
  have beside := joins.isBaselineCandidate_eq_false
  rw [joins.addedTagged, same, ← joins.tagged.of_measurementsOf inside, candidate] at beside
  cases beside

/-- The contract of the added measurement keeps its report, extended. -/
theorem rel_reportOf?_contract (joins : added.Joins markers records) :
    Option.Rel (ExtendsContract (firstSettings records added.build) added)
      (reportOf? options records added.contract)
      (reportOf? options (records ++ [.measurement added]) added.contract) := by
  have eligible_eq : eligible (measurementsOf added.contract records ++ [added]) =
      eligible (measurementsOf added.contract records) :=
    eligible_concat joins.isBaselineCandidate_eq_false
  have accepts_iff : options.Accepts (measurementsOf added.contract records ++ [added]) ↔
      options.Accepts (measurementsOf added.contract records) := by
    rw [ComparisonOptions.Accepts, eligible_eq, ComparisonOptions.Accepts]
  rw [reportOf?_eq, reportOf?_eq, measurementsOf_concat, eligible_eq, if_congr accepts_iff rfl rfl]
  split
  · cases selected : (eligible (measurementsOf added.contract records)).head? with
    | none => exact Option.Rel.none
    | some first =>
        have extended := ContractReport.extendedBy_ofGroup records joins.distinct
          (eligible (measurementsOf added.contract records)).length (joins.name_ne selected)
          (Or.inr joins.beside)
        exact Option.Rel.some ⟨fun _ => extended, fun other => absurd rfl other⟩
  · exact Option.Rel.none

/-- Every contract keeps its report, extended or as it is. -/
theorem rel_reportOf? (joins : added.Joins markers records) (contract : String) :
    Option.Rel (ExtendsContract (firstSettings records added.build) added)
      (reportOf? options records contract)
      (reportOf? options (records ++ [.measurement added]) contract) := by
  by_cases same : contract = added.contract
  · exact same ▸ joins.rel_reportOf?_contract
  · have unchanged : reportOf? options (records ++ [.measurement added]) contract =
        reportOf? options records contract := by
      rw [reportOf?, ContractGroup.ofContract_concat_of_ne same, reportOf?]
    rw [unchanged]
    cases reported : reportOf? options records contract with
    | none => exact Option.Rel.none
    | some report =>
        have named := contract_of_reportOf? reported
        exact Option.Rel.some ⟨fun other => absurd (named.symm.trans other) same, fun _ => rfl⟩

/-- A contract that is first measured by the added measurement has no candidate, hence no report. -/
theorem filterMap_contracts (joins : added.Joins markers records) :
    (contracts (records ++ [.measurement added])).filterMap
        (reportOf? options (records ++ [.measurement added])) =
      (contracts records).filterMap (reportOf? options (records ++ [.measurement added])) := by
  have names : contractNames (records ++ [.measurement added]) =
      contractNames records ++ [added.contract] := by
    rw [contractNames, measurements_concat, List.map_append, List.map_singleton, contractNames]
  rw [contracts, names, firsts_id_concat]
  split
  · rfl
  · rename_i new
    have refused : ¬ options.Accepts
        (measurementsOf added.contract (records ++ [.measurement added])) := by
      intro accepted
      rw [measurementsOf_concat, ComparisonOptions.Accepts,
        eligible_concat joins.isBaselineCandidate_eq_false] at accepted
      have listed : added.contract ∈ contracts records := mem_contracts_of_accepts accepted
      exact new ((mem_firsts_id _ _).mp listed)
    have unreported :
        reportOf? options (records ++ [.measurement added]) added.contract = none := by
      rw [reportOf?_eq, if_neg refused]
    rw [List.filterMap_append, List.filterMap_cons_none unreported]
    exact List.append_nil _

/-- The reports are matched one by one, with none new and none lost. -/
theorem forall₂_reports (joins : added.Joins markers records) :
    List.Forall₂ (ExtendsContract (firstSettings records added.build) added)
      ((contracts records).filterMap (reportOf? options records))
      ((contracts (records ++ [.measurement added])).filterMap
        (reportOf? options (records ++ [.measurement added]))) := by
  rw [joins.filterMap_contracts]
  refine List.rel_filterMap (R := Eq) ?_ (List.forall₂_refl _)
  rintro contract _ rfl
  exact joins.rel_reportOf? contract

end Measurement.Joins

/-- A measurement of a build beside the baseline that is added at the end extends the report of its
contract, if there is one, and changes nothing else. -/
theorem compareRecords_concat {markers : Markers} (options : ComparisonOptions)
    {solcValues solxValues : List Json.Value} {value : Json.Value} {added : Measurement}
    (referenceGiven : ingest markers solcValues ≠ [])
    (candidateGiven : ingest markers solxValues ≠ [])
    (done : Record.read markers value = .ok (.measurement added))
    (beside : added.build.toolchain = .solc ∨
      (added.build.toolchain = .solx ∧ added.build.pipeline = .viaIR)) :
    ∃ reports laterReports,
      compareRecords options (ingest markers solcValues) (ingest markers solxValues) = .ok reports ∧
      compareRecords options (ingest markers solcValues)
        (ingest markers solxValues ++ [.measurement added]) = .ok laterReports ∧
      List.Forall₂ (ExtendsContract
        (firstSettings (ingest markers solcValues ++ ingest markers solxValues) added.build) added)
          reports laterReports := by
  have tagged := taggedBy_ingest markers (solcValues ++ solxValues)
  rw [ingest_append] at tagged
  have admitted : added.Admitted markers := admitted_of_read done
  have joins : added.Joins markers (ingest markers solcValues ++ ingest markers solxValues) :=
    ⟨tagged, admitted.tagged, admitted.distinct, beside⟩
  refine ⟨_, _, compareRecords_eq options referenceGiven candidateGiven,
    compareRecords_eq options referenceGiven (List.append_ne_nil_of_right_ne_nil _
      (List.cons_ne_nil _ _)), ?_⟩
  rw [← List.append_assoc]
  exact joins.forall₂_reports

/-- One contract is measured with candidates alone, and the settings of the added build are written
before it. The added measurement goes through a function that the baseline does not know, and its
deployment is ranked before all others. -/
def candidatesAlone : List Json.Value × List Json.Value × Json.Value :=
  ([.object [
      ("compiler", .object [("type", .text "solc"), ("version", .text "0.8.30-opt")]),
      ("compilerSettings", .object [("optimizer", .truth true)])]],
   [tokenValue "solx" "0.1.0" 900 [("f()", 90), ("g()", 80)],
    tokenValue "solx" "0.1.0-via-ir" 950 [("f()", 95)]],
   tokenValue "solc" "0.8.30-opt" 1000 [("h()", 10), ("f()", 100)])

theorem compareRecords_concat_candidatesAlone :
    ingest .standard candidatesAlone.1 ≠ [] ∧ ingest .standard candidatesAlone.2.1 ≠ [] ∧
    ∃ added, Record.read .standard candidatesAlone.2.2 = .ok (.measurement added) ∧
      added.build.toolchain = .solc ∧
    ∃ reports laterReports,
      compareRecords ⟨true⟩ (ingest .standard candidatesAlone.1)
        (ingest .standard candidatesAlone.2.1) = .ok reports ∧
      compareRecords ⟨true⟩ (ingest .standard candidatesAlone.1)
        (ingest .standard candidatesAlone.2.1 ++ [.measurement added]) = .ok laterReports ∧
      List.Forall₂ (ExtendsContract (firstSettings (ingest .standard candidatesAlone.1 ++
        ingest .standard candidatesAlone.2.1) added.build) added) reports laterReports ∧
      laterReports.map (fun report => report.results.map fun function =>
        (function.name, function.versions.map (·.sample.settings.keys))) =
          [[("f()", [[], [], ["optimizer"]]), ("g()", [[]])]] ∧
      reports.map (fun report => report.deployment.map (·.build)) =
        [[.tagged .standard ⟨.solx, "0.1.0"⟩, .tagged .standard ⟨.solx, "0.1.0-via-ir"⟩]] ∧
      laterReports.map (fun report => report.deployment.map (·.build)) =
        [[.tagged .standard ⟨.solc, "0.8.30-opt"⟩, .tagged .standard ⟨.solx, "0.1.0"⟩,
          .tagged .standard ⟨.solx, "0.1.0-via-ir"⟩]] := by
  have referenceGiven : ingest .standard candidatesAlone.1 ≠ [] :=
    List.ne_nil_of_length_pos (by decide +kernel)
  have candidateGiven : ingest .standard candidatesAlone.2.1 ≠ [] :=
    List.ne_nil_of_length_pos (by decide +kernel)
  refine ⟨referenceGiven, candidateGiven, _, rfl, rfl, ?_⟩
  obtain ⟨reports, laterReports, compared, laterCompared, extended⟩ :=
    compareRecords_concat ⟨true⟩ referenceGiven candidateGiven
      (rfl : Record.read .standard candidatesAlone.2.2 = .ok (.measurement _)) (Or.inl rfl)
  refine ⟨reports, laterReports, compared, laterCompared, extended, ?_⟩
  rw [builds_deployments compared, builds_deployments laterCompared,
    eq_of_compareRecords compared, eq_of_compareRecords laterCompared]
  decide +kernel

end GasReport
