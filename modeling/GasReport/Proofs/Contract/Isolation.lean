import GasReport.Proofs.Contract.Verdict

namespace GasReport

namespace Record

/-- Settings concern every contract, and a measurement concerns its own. -/
def concerns (contract : String) : Record → Bool
  | .settings _ => true
  | .measurement record => record.contract = contract

def keep (contract : String) (records : List Record) : List Record :=
  records.filter (concerns contract)

theorem keep_append (contract : String) (first second : List Record) :
    keep contract (first ++ second) = keep contract first ++ keep contract second :=
  List.filter_append first second

theorem given_of_keep {contract : String} {records : List Record}
    (kept : keep contract records ≠ []) : records ≠ [] := by
  rintro rfl
  exact kept rfl

/-- What is kept for a contract measures nothing else. -/
theorem measurements_keep (contract : String) (records : List Record) :
    measurements (keep contract records) = measurementsOf contract records := by
  rw [measurements, keep, measurementsOf, measurements, List.filterMap_filter,
    List.filter_filterMap]
  congr 1
  funext record
  cases record with
  | settings _ => rfl
  | measurement measurement =>
      by_cases same : measurement.contract = contract <;>
        simp [concerns, measurement?, Option.filter, same]

/-- No measurement of the contract is lost. -/
theorem measurementsOf_keep (contract : String) (records : List Record) :
    measurementsOf contract (keep contract records) = measurementsOf contract records := by
  rw [measurementsOf, measurements_keep, measurementsOf, List.filter_filter]
  simp only [Bool.and_self]

/-- All settings are kept. -/
theorem allSettings_keep (contract : String) (records : List Record) :
    ContractGroup.allSettings (keep contract records) = ContractGroup.allSettings records := by
  rw [ContractGroup.allSettings, ContractGroup.allSettings, keep, List.filterMap_filter]
  congr 2
  funext record
  cases record with
  | settings _ => rfl
  | measurement _ => simp [settings?]

/-- Only the contract itself is left. -/
theorem contracts_keep (contract : String) (records : List Record) :
    contracts (keep contract records) = (contracts records).filter (· = contract) := by
  have names : contractNames (keep contract records) =
      (contractNames records).filter (· = contract) := by
    rw [contractNames, measurements_keep, measurementsOf, contractNames, List.filter_map]
    rfl
  rw [contracts, names, contracts]
  exact firsts_filter id (· = contract) (contractNames records)

end Record

open Record

/-- The group of the contract is the same, with its settings. -/
theorem ofContract_keep (contract : String) (records : List Record) :
    ContractGroup.ofContract (keep contract records) contract =
      ContractGroup.ofContract records contract := by
  rw [ContractGroup.ofContract, allSettings_keep, measurementsOf_keep, ContractGroup.ofContract]

/-- The report of the contract is the same. -/
theorem reportOf?_keep (options : ComparisonOptions) (contract : String) (records : List Record) :
    reportOf? options (keep contract records) contract = reportOf? options records contract := by
  rw [reportOf?, ofContract_keep, reportOf?]

/-- What is reported of the kept records is what is reported of their contract. -/
theorem reports_keep (options : ComparisonOptions) (contract : String) (records : List Record) :
    (contracts (keep contract records)).filterMap (reportOf? options (keep contract records)) =
      ((contracts records).filterMap
        (reportOf? options records)).filter (·.contract = contract) := by
  rw [contracts_keep, List.filterMap_filter, List.filter_filterMap]
  congr 1
  funext other
  rw [filter_reportOf? options records other (· = contract)]
  by_cases same : other = contract
  · subst same
    rw [if_pos (decide_eq_true rfl), if_pos (decide_eq_true rfl), reportOf?_keep]
  · have apart : ¬ decide (other = contract) = true := by simpa using same
    rw [if_neg apart, if_neg apart]

/-- A contract is reported from its own measurements and the settings alone. -/
theorem compareRecords_keep (options : ComparisonOptions) (contract : String)
    {reference candidate : List Record} (referenceKept : keep contract reference ≠ [])
    (candidateKept : keep contract candidate ≠ []) :
    ∃ reports, compareRecords options reference candidate = .ok reports ∧
      compareRecords options (keep contract reference) (keep contract candidate) =
        .ok (reports.filter (·.contract = contract)) := by
  refine ⟨_, compareRecords_eq options (given_of_keep referenceKept)
    (given_of_keep candidateKept), ?_⟩
  rw [compareRecords_eq options referenceKept candidateKept, ← keep_append, reports_keep]

/-- The measurements of two contracts are mixed, and settings stand between them. -/
def mixedContracts : List Record × List Record :=
  ([.measurement ⟨⟨⟨.solc, "0.8.30"⟩, .default, false⟩, "Vault", 2000.0, [("f()", 200.0)]⟩,
    .settings ⟨⟨⟨.solx, "0.1.0"⟩, .default, false⟩, Dictionary.empty⟩,
    .measurement ⟨⟨⟨.solc, "0.8.30"⟩, .default, false⟩, "Token", 1000.0, [("f()", 100.0)]⟩],
   [.measurement ⟨⟨⟨.solx, "0.1.0"⟩, .default, false⟩, "Token", 900.0, [("f()", 90.0)]⟩,
    .settings ⟨⟨⟨.solc, "0.8.30"⟩, .default, false⟩, Dictionary.empty⟩,
    .measurement ⟨⟨⟨.solx, "0.1.0"⟩, .default, false⟩, "Vault", 1900.0, [("f()", 190.0)]⟩])

theorem compareRecords_keep_mixedContracts :
    keep "Token" mixedContracts.1 ≠ [] ∧ keep "Token" mixedContracts.2 ≠ [] ∧
    ∃ reports, compareRecords ⟨false⟩ mixedContracts.1 mixedContracts.2 = .ok reports ∧
      compareRecords ⟨false⟩ (keep "Token" mixedContracts.1) (keep "Token" mixedContracts.2) =
        .ok (reports.filter (·.contract = "Token")) ∧
      reports.map (·.contract) = ["Vault", "Token"] := by
  have referenceKept : keep "Token" mixedContracts.1 ≠ [] :=
    List.ne_nil_of_length_pos (by decide +kernel)
  have candidateKept : keep "Token" mixedContracts.2 ≠ [] :=
    List.ne_nil_of_length_pos (by decide +kernel)
  obtain ⟨reports, compared, kept⟩ :=
    compareRecords_keep ⟨false⟩ "Token" referenceKept candidateKept
  refine ⟨referenceKept, candidateKept, reports, compared, kept, ?_⟩
  rw [eq_of_compareRecords compared]
  decide +kernel

end GasReport
