import GasReport.Proofs.Contract.Deserved
import GasReport.Proofs.Contract.Settings

namespace GasReport

open Record

namespace ContractGroup

/-- These are the settings that belong to a group: the first of each build of a measured toolchain,
in the order of the records. -/
structure Attached (records : List Record) (group : ContractGroup) : Prop where
  distinct : (group.settings.map (·.build.name)).Nodup
  chosen : ∀ record, record ∈ group.settings ↔ FirstSettings records record ∧
    ∃ measurement ∈ group.measurements, measurement.build.toolchain = record.build.toolchain
  ordered : group.settings.Pairwise fun first second =>
    ((records.filterMap settings?).map (·.build.name)).idxOf first.build.name <
      ((records.filterMap settings?).map (·.build.name)).idxOf second.build.name

/-- This says how records are parted by contract: into groups in the order of their first
measurements, with every measurement in the one group of its contract, as often as it was given and
in the order of the records. -/
structure StablePartition (records : List Record) (groups : List ContractGroup) : Prop where
  distinct : (groups.map (·.contract)).Nodup
  ordered : groups.Pairwise fun first second =>
    (contractNames records).idxOf first.contract < (contractNames records).idxOf second.contract
  measured : ∀ contract, contract ∈ groups.map (·.contract) ↔
    ∃ measurement, .measurement measurement ∈ records ∧ measurement.contract = contract
  nonempty : ∀ group ∈ groups, group.measurements ≠ []
  assigned : ∀ measurement, .measurement measurement ∈ records →
    ∃! group, group ∈ groups ∧ measurement ∈ group.measurements
  own : ∀ group ∈ groups,
    group.measurements = (Record.measurements records).filter (·.contract = group.contract)
  whole : (groups.flatMap (·.measurements)).Perm (Record.measurements records)
  attached : ∀ group ∈ groups, group.Attached records
  settingsAlone : (∀ record ∈ records, record.measurement? = none) → groups = []

/-- The settings of a list are the first settings of each build. -/
theorem mem_allSettings {records : List Record} {record : BuildSettings} :
    record ∈ allSettings records ↔ FirstSettings records record := by
  rw [allSettings, mem_firsts, find?_settings_eq_some]
  exact and_iff_left rfl

/-- A group has the first settings of its builds and no others. -/
theorem attached_ofContract (records : List Record) (contract : String) :
    (ofContract records contract).Attached records where
  distinct := by
    have all := nodup_map_firsts (fun record : BuildSettings => record.build.name)
      (records.filterMap settings?)
    exact all.sublist (List.filter_sublist.map _)
  chosen := by
    intro record
    rw [ofContract, attach, List.mem_filter, mem_allSettings]
    simp
  ordered := by
    have all := firsts_pairwise (fun record : BuildSettings => record.build.name)
      (records.filterMap settings?)
    exact all.filter _

theorem mem_ofRecords {records : List Record} {group : ContractGroup} :
    group ∈ ofRecords records ↔
      ∃ contract ∈ contracts records, ofContract records contract = group := by
  rw [ofRecords_eq, List.mem_map]

/-- No measurement is lost or repeated. -/
theorem flatMap_measurements (records : List Record) :
    ((ofRecords records).flatMap (·.measurements)).Perm (Record.measurements records) := by
  have gathered := gather_perm ((Record.measurements records).map fun measurement =>
    (measurement.contract, measurement))
  have values := gathered.map Prod.snd
  rw [entriesOf, List.map_flatMap, List.map_map] at values
  simp only [List.map_map, Function.comp_def, List.map_id'] at values
  rw [ofRecords, List.flatMap_map]
  exact values

/-- Records are parted into the groups of the measured contracts. -/
theorem ofRecords_stablePartition (records : List Record) :
    StablePartition records (ofRecords records) := by
  have names : (ofRecords records).map (·.contract) = contracts records := by
    rw [ofRecords_eq, List.map_map]
    exact List.map_id _
  have measured (contract : String) : contract ∈ contracts records ↔
      ∃ measurement, .measurement measurement ∈ records ∧ measurement.contract = contract := by
    rw [contracts, mem_firsts_id, contractNames, List.mem_map]
    simp only [mem_measurements]
  constructor
  case distinct =>
    rw [names]
    exact nodup_firsts_id (contractNames records)
  case ordered =>
    rw [ofRecords_eq, List.pairwise_map]
    exact firsts_id_pairwise (contractNames records)
  case measured =>
    rw [names]
    exact measured
  case nonempty =>
    intro group inside
    obtain ⟨contract, named, rfl⟩ := mem_ofRecords.mp inside
    exact (mem_contracts records contract).mp named
  case assigned =>
    intro measurement given
    have own : measurement ∈ measurementsOf measurement.contract records :=
      List.mem_filter.mpr ⟨mem_measurements.mpr given, decide_eq_true rfl⟩
    have named := (measured measurement.contract).mpr ⟨measurement, given, rfl⟩
    refine ⟨ofContract records measurement.contract, ⟨mem_ofRecords.mpr ⟨_, named, rfl⟩, own⟩, ?_⟩
    rintro group ⟨inside, held⟩
    obtain ⟨contract, -, rfl⟩ := mem_ofRecords.mp inside
    have same : measurement.contract = contract := of_decide_eq_true (List.mem_filter.mp held).2
    rw [same]
  case own =>
    intro group inside
    obtain ⟨contract, -, rfl⟩ := mem_ofRecords.mp inside
    rfl
  case whole => exact flatMap_measurements records
  case attached =>
    intro group inside
    obtain ⟨contract, -, rfl⟩ := mem_ofRecords.mp inside
    exact attached_ofContract records contract
  case settingsAlone =>
    intro alone
    rw [ofRecords_eq, List.map_eq_nil_iff, List.eq_nil_iff_forall_not_mem]
    intro contract named
    obtain ⟨measurement, given, -⟩ := (measured contract).mp named
    cases alone _ given

end ContractGroup

end GasReport
