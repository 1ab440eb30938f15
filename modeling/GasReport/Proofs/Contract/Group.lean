import GasReport.Contract.Group
import GasReport.Proofs.Collection.Gather

namespace GasReport

namespace Record

def measurements (records : List Record) : List Measurement := records.filterMap measurement?

/-- The measurements of a list are its measurement records. -/
theorem mem_measurements {records : List Record} {measurement : Measurement} :
    measurement ∈ measurements records ↔ .measurement measurement ∈ records := by
  rw [measurements, List.mem_filterMap]
  constructor
  · rintro ⟨record, inside, same⟩
    cases record with
    | settings _ => cases same
    | measurement _ =>
        cases same
        exact inside
  · intro inside
    exact ⟨_, inside, rfl⟩

def measurementsOf (contract : String) (records : List Record) : List Measurement :=
  (measurements records).filter (·.contract = contract)

/-- This names the contract of each measurement. -/
def contractNames (records : List Record) : List String := (measurements records).map (·.contract)

/-- These are the measured contracts in the order of their first measurements. -/
def contracts (records : List Record) : List String := firsts id (contractNames records)

end Record

namespace Measurement

/-- These are the signatures that the measurements go through, one by one. -/
def signatures (measurements : List Measurement) : List String :=
  measurements.flatMap fun measurement => measurement.functions.map Prod.fst

/-- These are the means of one function, each with its build. -/
def means (signature : String) (measurements : List Measurement) : List (Build × Gas) :=
  measurements.flatMap fun measurement =>
    (measurement.functions.filter (·.1 = signature)).map fun function =>
      (measurement.build, function.2)

end Measurement

namespace ContractGroup

open Record Measurement

/-- This is the group of one contract. -/
def ofContract (records : List Record) (contract : String) : ContractGroup :=
  attach (allSettings records) contract (measurementsOf contract records)

@[simp] theorem ofContract_measurements (records : List Record) (contract : String) :
    (ofContract records contract).measurements = measurementsOf contract records := rfl

/-- The values gathered under a contract are its measurements. -/
theorem valuesOf_contract (contract : String) (measured : List Measurement) :
    valuesOf contract (measured.map fun measurement => (measurement.contract, measurement)) =
      measured.filter (·.contract = contract) := by
  rw [valuesOf, List.filter_map, List.map_map]
  exact List.map_id _

/-- There is one group for each measured contract. -/
theorem ofRecords_eq (records : List Record) :
    ofRecords records = (contracts records).map (ofContract records) := by
  rw [ofRecords]
  simp only [gather_eq, List.map_map, Function.comp_def, valuesOf_contract]
  rfl

theorem functionSamples_fst (group : ContractGroup) :
    group.functionSamples.map Prod.fst = signatures group.measurements := by
  simp only [functionSamples, signatures, List.map_flatMap, List.map_map, Function.comp_def]

/-- The samples gathered under a signature are its means with their settings. -/
theorem valuesOf_functionSamples (group : ContractGroup) (signature : String) :
    valuesOf signature group.functionSamples =
      (means signature group.measurements).map fun mean => group.sample mean.1 mean.2 := by
  simp only [valuesOf, functionSamples, means, List.filter_flatMap, List.map_flatMap,
    List.filter_map, List.map_map, Function.comp_def]

/-- There is one entry for each measured signature, with all its means. -/
theorem functions_eq (group : ContractGroup) :
    group.functions = (firsts id (signatures group.measurements)).map fun signature =>
      ⟨signature, (means signature group.measurements).map fun mean =>
        group.sample mean.1 mean.2⟩ := by
  simp only [functions, gather_eq, List.map_map, Function.comp_def, functionSamples_fst,
    valuesOf_functionSamples]

end ContractGroup

end GasReport
