import GasReport.Proofs.Contract.Verdict

namespace GasReport

open Record

/-- This says which contracts are reported, in which order, and what their reports are taken from.
-/
structure Deserved (options : ComparisonOptions) (records : List Record)
    (reports : List ContractReport) : Prop where
  once : ∀ contract, reports.countP (·.contract = contract) =
    if options.Accepts (measurementsOf contract records) then 1 else 0
  ordered : reports.Pairwise fun first second =>
    (contractNames records).idxOf first.contract < (contractNames records).idxOf second.contract
  measured : ∀ report ∈ reports, report.measurements = measurementsOf report.contract records
  selected : ∀ report ∈ reports,
    (Measurement.eligible report.measurements).head?.map (·.build) = some report.baseline
  counted : ∀ report ∈ reports, report.methodCount = report.results.length

/-- A contract is listed exactly when it is measured. -/
theorem mem_contracts (records : List Record) (contract : String) :
    contract ∈ contracts records ↔ measurementsOf contract records ≠ [] := by
  rw [contracts, mem_firsts_id, contractNames, List.mem_map, measurementsOf, ne_eq,
    List.filter_eq_nil_iff]
  simp

theorem mem_contracts_of_accepts {options : ComparisonOptions} {records : List Record}
    {contract : String} (accepted : options.Accepts (measurementsOf contract records)) :
    contract ∈ contracts records := by
  rw [mem_contracts]
  intro empty
  rw [empty] at accepted
  exact accepted.1 rfl

/-- The reported contracts are the accepted ones. -/
theorem map_contract_reports (options : ComparisonOptions) (records : List Record) :
    ((contracts records).filterMap (reportOf? options records)).map (·.contract) =
      (contracts records).filter fun contract =>
        options.Accepts (measurementsOf contract records) := by
  rw [map_filterMap_key contract_of_reportOf?]
  congr 1
  funext contract
  rw [Bool.eq_iff_iff, isSome_reportOf?, decide_eq_true_iff]

/-- An accepted contract has one report, any other has none. -/
theorem countP_reports (options : ComparisonOptions) (records : List Record) (contract : String) :
    ((contracts records).filterMap (reportOf? options records)).countP (·.contract = contract) =
      if options.Accepts (measurementsOf contract records) then 1 else 0 := by
  have counted (reports : List ContractReport) :
      reports.countP (·.contract = contract) = (reports.map (·.contract)).count contract := by
    rw [List.count, List.countP_map]
    rfl
  rw [counted, map_contract_reports]
  have distinct := (nodup_firsts_id (contractNames records)).filter fun contract =>
    options.Accepts (measurementsOf contract records)
  split
  · rename_i accepted
    refine List.count_eq_one_of_mem distinct (List.mem_filter.mpr ?_)
    exact ⟨mem_contracts_of_accepts accepted, by simpa using accepted⟩
  · rename_i refused
    refine List.count_eq_zero.mpr fun inside => refused ?_
    simpa using (List.mem_filter.mp inside).2

/-- The reports follow the first measurements of their contracts. -/
theorem pairwise_reports (options : ComparisonOptions) (records : List Record) :
    ((contracts records).filterMap (reportOf? options records)).Pairwise fun first second =>
      (contractNames records).idxOf first.contract <
        (contractNames records).idxOf second.contract := by
  have named := (firsts_id_pairwise (contractNames records)).filter fun contract =>
    options.Accepts (measurementsOf contract records)
  change ((contracts records).filter _).Pairwise _ at named
  rw [← map_contract_reports, List.pairwise_map] at named
  exact named

/-- Every report of a comparison is what its contract deserves. -/
theorem deserved_of_compareRecords {options : ComparisonOptions}
    {reference candidate : List Record} {reports : List ContractReport}
    (compared : compareRecords options reference candidate = .ok reports) :
    Deserved options (reference ++ candidate) reports where
  once := by
    rw [eq_of_compareRecords compared]
    exact countP_reports options (reference ++ candidate)
  ordered := by
    rw [eq_of_compareRecords compared]
    exact pairwise_reports options (reference ++ candidate)
  measured := by
    intro report inside
    obtain ⟨first, made⟩ := exists_madeFrom compared inside
    exact made.measurements
  selected := by
    intro report inside
    obtain ⟨first, made⟩ := exists_madeFrom compared inside
    rw [made.selected, made.baseline, Option.map_some]
  counted := by
    intro report inside
    obtain ⟨first, made⟩ := exists_madeFrom compared inside
    exact made.methodCount

/-- The strict option refuses what has several eligible measurements, and nothing else. -/
theorem accepts_strict (measurements : List Measurement) :
    (ComparisonOptions.mk true).Accepts measurements ↔
      (ComparisonOptions.mk false).Accepts measurements ∧
        (Measurement.eligible measurements).length < 2 := by
  rw [ComparisonOptions.Accepts, ComparisonOptions.Accepts, ← List.length_pos_iff]
  simp only [forall_const, Bool.false_eq_true, false_implies, and_true]
  omega

/-- The strict option drops the ambiguous contracts and changes no report. -/
theorem reportOf?_strict (records : List Record) (contract : String) :
    reportOf? ⟨true⟩ records contract =
      (reportOf? ⟨false⟩ records contract).filter fun report =>
        (Measurement.eligible (measurementsOf report.contract records)).length < 2 := by
  rw [filter_reportOf? ⟨false⟩ records contract fun contract =>
      (Measurement.eligible (measurementsOf contract records)).length < 2,
    reportOf?_eq, reportOf?_eq, if_congr (accepts_strict _) rfl rfl]
  by_cases single : (Measurement.eligible (measurementsOf contract records)).length < 2
  · rw [if_pos (decide_eq_true single), if_congr (and_iff_left single) rfl rfl]
  · rw [if_neg fun both => single both.2, if_neg fun few => single (of_decide_eq_true few)]

/-- A comparison of records gives the deserved reports, and the strict option takes out the
contracts with several eligible measurements. -/
theorem compareRecords_deserved (options : ComparisonOptions) {reference candidate : List Record}
    (referenceGiven : reference ≠ []) (candidateGiven : candidate ≠ []) :
    (∃ reports, compareRecords options reference candidate = .ok reports ∧
      Deserved options (reference ++ candidate) reports) ∧
    compareRecords ⟨true⟩ reference candidate =
      (compareRecords ⟨false⟩ reference candidate).map fun reports =>
        reports.filter fun report =>
          (Measurement.eligible
            (measurementsOf report.contract (reference ++ candidate))).length < 2 := by
  constructor
  · have compared := compareRecords_eq options referenceGiven candidateGiven
    exact ⟨_, compared, deserved_of_compareRecords compared⟩
  · rw [compareRecords_eq _ referenceGiven candidateGiven,
      compareRecords_eq _ referenceGiven candidateGiven]
    change _ = Except.ok (List.filter _ (List.filterMap _ _))
    rw [List.filter_filterMap]
    congr 2
    funext contract
    exact reportOf?_strict (reference ++ candidate) contract

/-- One contract is measured with two eligible builds, and another one with none. -/
def severalBuilds : List Record × List Record :=
  ([.measurement ⟨⟨⟨.solc, "0.8.30"⟩, .default, false⟩, "Vault", 2000.0, [("g()", 200.0)]⟩,
    .measurement ⟨⟨⟨.solc, "0.8.30"⟩, .default, false⟩, "Token", 1000.0, [("f()", 100.0)]⟩],
   [.measurement ⟨⟨⟨.solx, "0.1.0"⟩, .default, false⟩, "Token", 900.0, [("f()", 90.0)]⟩,
    .measurement ⟨⟨⟨.solx, "0.1.0"⟩, .default, false⟩, "Vault", 1900.0, [("g()", 190.0)]⟩,
    .measurement ⟨⟨⟨.solx, "0.1.0-via-ir"⟩, .viaIR, false⟩, "Router", 500.0, []⟩,
    .measurement ⟨⟨⟨.solx, "0.2.0"⟩, .default, false⟩, "Vault", 1800.0, [("g()", 180.0)]⟩])

theorem compareRecords_deserved_severalBuilds :
    severalBuilds.1 ≠ [] ∧ severalBuilds.2 ≠ [] ∧
    (∃ reports, compareRecords ⟨true⟩ severalBuilds.1 severalBuilds.2 = .ok reports ∧
      Deserved ⟨true⟩ (severalBuilds.1 ++ severalBuilds.2) reports ∧
      reports.map (·.contract) = ["Token"]) ∧
    compareRecords ⟨true⟩ severalBuilds.1 severalBuilds.2 =
      (compareRecords ⟨false⟩ severalBuilds.1 severalBuilds.2).map fun reports =>
        reports.filter fun report =>
          (Measurement.eligible
            (measurementsOf report.contract (severalBuilds.1 ++ severalBuilds.2))).length < 2 := by
  have referenceGiven : severalBuilds.1 ≠ [] := List.cons_ne_nil _ _
  have candidateGiven : severalBuilds.2 ≠ [] := List.cons_ne_nil _ _
  obtain ⟨⟨reports, compared, deserved⟩, strict⟩ :=
    compareRecords_deserved ⟨true⟩ referenceGiven candidateGiven
  refine ⟨referenceGiven, candidateGiven, ⟨reports, compared, deserved, ?_⟩, strict⟩
  rw [eq_of_compareRecords compared]
  decide +kernel

end GasReport
