import GasReport.Contract.Comparison
import GasReport.Proofs.Contract.Group

namespace GasReport

open Record

/-- These measurements may serve as the baseline. -/
def Measurement.eligible (measurements : List Measurement) : List Measurement :=
  measurements.filter (·.build.isBaselineCandidate)

/-- A contract is accepted when it has an eligible measurement, and with the strict option exactly
one. -/
def ComparisonOptions.Accepts (options : ComparisonOptions) (measurements : List Measurement) :
    Prop :=
  Measurement.eligible measurements ≠ [] ∧
    (options.strictBaseline = true → (Measurement.eligible measurements).length = 1)

instance (options : ComparisonOptions) (measurements : List Measurement) :
    Decidable (options.Accepts measurements) :=
  decidable_of_iff ((Measurement.eligible measurements).isEmpty = false ∧
      (options.strictBaseline = true → (Measurement.eligible measurements).length = 1))
    (and_congr_left' List.isEmpty_eq_false_iff)

/-- The baseline is the first eligible measurement. -/
theorem Baseline.select?_eq (measurements : List Measurement) :
    Baseline.select? measurements = (Measurement.eligible measurements).head?.map fun first =>
      ⟨first, (Measurement.eligible measurements).length⟩ := by
  rw [Baseline.select?, Measurement.eligible]
  cases measurements.filter (·.build.isBaselineCandidate) <;> rfl

/-- An ambiguous baseline is refused by the strict option alone. -/
theorem ComparisonOptions.accepts_iff (options : ComparisonOptions)
    {measurements rest : List Measurement} {first : Measurement}
    (eligible : Measurement.eligible measurements = first :: rest) :
    options.Accepts measurements ↔
      ¬ (Baseline.isAmbiguous ⟨first, (first :: rest).length⟩ &&
        options.strictBaseline) = true := by
  rw [Accepts, eligible, Baseline.isAmbiguous, Bool.and_eq_true, decide_eq_true_eq,
    List.length_cons]
  constructor
  · rintro ⟨-, single⟩ ⟨several, strict⟩
    have one := single strict
    change rest.length + 1 > 1 at several
    omega
  · intro kept
    refine ⟨List.cons_ne_nil _ _, fun strict => ?_⟩
    have one : ¬ rest.length + 1 > 1 := fun several => kept ⟨several, strict⟩
    omega

/-- The first eligible measurement makes the report of an accepted group. -/
theorem Verdict.report?_ofGroup (options : ComparisonOptions) (group : ContractGroup) :
    (Verdict.ofGroup options group).report? =
      if options.Accepts group.measurements then
        (Measurement.eligible group.measurements).head?.map fun first =>
          ContractReport.ofGroup group ⟨first, (Measurement.eligible group.measurements).length⟩
      else none := by
  rw [Verdict.ofGroup, Baseline.select?_eq]
  cases eligible : Measurement.eligible group.measurements with
  | nil =>
      rw [if_neg fun accepted => accepted.1 eligible]
      rfl
  | cons first rest =>
      have decided := options.accepts_iff eligible
      dsimp only [List.head?_cons, Option.map_some]
      split
      · rename_i ambiguous
        rw [if_neg fun accepted => decided.mp accepted ambiguous]
        rfl
      · rename_i kept
        rw [if_pos (decided.mpr kept)]
        rfl

/-- This is the report of a contract, if it has one. -/
def reportOf? (options : ComparisonOptions) (records : List Record) (contract : String) :
    Option ContractReport :=
  (Verdict.ofGroup options (.ofContract records contract)).report?

/-- An accepted contract is reported from its first eligible measurement. -/
theorem reportOf?_eq (options : ComparisonOptions) (records : List Record) (contract : String) :
    reportOf? options records contract =
      if options.Accepts (measurementsOf contract records) then
        (Measurement.eligible (measurementsOf contract records)).head?.map fun first =>
          ContractReport.ofGroup (.ofContract records contract)
            ⟨first, (Measurement.eligible (measurementsOf contract records)).length⟩
      else none :=
  Verdict.report?_ofGroup options (.ofContract records contract)

/-- Records on both sides are all that a comparison needs. -/
theorem compareRecords_eq (options : ComparisonOptions) {reference candidate : List Record}
    (referenceGiven : reference ≠ []) (candidateGiven : candidate ≠ []) :
    compareRecords options reference candidate =
      .ok ((contracts (reference ++ candidate)).filterMap
        (reportOf? options (reference ++ candidate))) := by
  rw [compareRecords, judge, if_neg (by simpa using referenceGiven),
    if_neg (by simpa using candidateGiven), verdicts, ContractGroup.ofRecords_eq, List.map_map]
  change Except.ok (List.filterMap _ (List.map _ _)) = _
  rw [List.filterMap_map]
  rfl

/-- A comparison with a result was given records on both sides. -/
theorem given_of_compareRecords {options : ComparisonOptions} {reference candidate : List Record}
    {reports : List ContractReport}
    (compared : compareRecords options reference candidate = .ok reports) :
    reference ≠ [] ∧ candidate ≠ [] := by
  cases reference with
  | nil => cases compared
  | cons first rest =>
      cases candidate with
      | nil => cases compared
      | cons second others => exact ⟨List.cons_ne_nil _ _, List.cons_ne_nil _ _⟩

/-- The reports are those of the contracts, in their order. -/
theorem eq_of_compareRecords {options : ComparisonOptions} {reference candidate : List Record}
    {reports : List ContractReport}
    (compared : compareRecords options reference candidate = .ok reports) :
    reports = (contracts (reference ++ candidate)).filterMap
      (reportOf? options (reference ++ candidate)) := by
  have given := given_of_compareRecords compared
  rw [compareRecords_eq options given.1 given.2] at compared
  exact (Except.ok.inj compared).symm

/-- A contract has a report exactly when it is accepted. -/
theorem isSome_reportOf? (options : ComparisonOptions) (records : List Record)
    (contract : String) :
    (reportOf? options records contract).isSome ↔
      options.Accepts (measurementsOf contract records) := by
  rw [reportOf?_eq]
  split
  · rename_i accepted
    rw [Option.isSome_map, List.isSome_head?]
    simpa [accepted] using accepted.1
  · rename_i refused
    simp [refused]

/-- The report of a contract is made from its group and its first eligible measurement. -/
theorem reportOf?_eq_some {options : ComparisonOptions} {records : List Record}
    {contract : String} {report : ContractReport}
    (found : reportOf? options records contract = some report) :
    ∃ first, (Measurement.eligible (measurementsOf contract records)).head? = some first ∧
      report = ContractReport.ofGroup (.ofContract records contract)
        ⟨first, (Measurement.eligible (measurementsOf contract records)).length⟩ := by
  rw [reportOf?_eq] at found
  split at found
  · obtain ⟨first, selected, made⟩ := Option.map_eq_some_iff.mp found
    exact ⟨first, selected, made.symm⟩
  · cases found

/-- A report carries the name of its contract. -/
theorem contract_of_reportOf? {options : ComparisonOptions} {records : List Record}
    {contract : String} {report : ContractReport}
    (found : reportOf? options records contract = some report) : report.contract = contract := by
  obtain ⟨first, -, rfl⟩ := reportOf?_eq_some found
  rfl

/-- A test of the contract keeps or drops its report as a whole. -/
theorem filter_reportOf? (options : ComparisonOptions) (records : List Record) (contract : String)
    (keep : String → Bool) :
    (reportOf? options records contract).filter (fun report => keep report.contract) =
      if keep contract = true then reportOf? options records contract else none := by
  cases found : reportOf? options records contract with
  | none => rw [Option.filter_none, ite_self]
  | some report => rw [Option.filter_some, contract_of_reportOf? found]

/-- A report of a comparison is the report of its own contract. -/
theorem reportOf?_of_mem {options : ComparisonOptions} {reference candidate : List Record}
    {reports : List ContractReport} {report : ContractReport}
    (compared : compareRecords options reference candidate = .ok reports)
    (inside : report ∈ reports) :
    reportOf? options (reference ++ candidate) report.contract = some report := by
  rw [eq_of_compareRecords compared] at inside
  obtain ⟨contract, -, found⟩ := List.mem_filterMap.mp inside
  rw [contract_of_reportOf? found]
  exact found

/-- This says what each part of a report is taken from. -/
structure ContractReport.MadeFrom (records : List Record) (first : Measurement)
    (report : ContractReport) : Prop where
  selected : (Measurement.eligible report.measurements).head? = some first
  baseline : report.baseline = first.build
  measurements : report.measurements = measurementsOf report.contract records
  results : report.results =
    ContractReport.results? (.ofContract records report.contract) report.baseline
  deployment : report.deployment = (ContractGroup.ofContract records report.contract).deployments
  methodCount : report.methodCount = report.results.length

/-- The parts of a report are taken from the group of its contract. -/
theorem exists_madeFrom {options : ComparisonOptions} {reference candidate : List Record}
    {reports : List ContractReport} {report : ContractReport}
    (compared : compareRecords options reference candidate = .ok reports)
    (inside : report ∈ reports) :
    ∃ first, report.MadeFrom (reference ++ candidate) first := by
  have found := reportOf?_of_mem compared inside
  generalize report.contract = contract at found
  obtain ⟨first, selected, rfl⟩ := reportOf?_eq_some found
  exact ⟨first, selected, rfl, rfl, rfl, rfl, rfl⟩

end GasReport
