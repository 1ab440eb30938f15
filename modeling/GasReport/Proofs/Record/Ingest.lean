import GasReport.Proofs.Contract.Group
import GasReport.Proofs.Json.Members
import GasReport.Proofs.Record.Reading
import GasReport.Record.Ingest

namespace GasReport

/-- This holds of the measurements that are read. -/
structure Measurement.Admitted (markers : Markers) (measurement : Measurement) : Prop where
  tagged : measurement.build = .tagged markers measurement.build.name
  deployed : ¬ measurement.gas < 0.0
  called : ∀ function ∈ measurement.functions, ¬ function.2 < 0.0
  distinct : (measurement.functions.map Prod.fst).Nodup

namespace Record

/-- All builds carry the tags that the markers find in their versions. -/
def TaggedBy (markers : Markers) (records : List Record) : Prop :=
  ∀ record ∈ records, record.build = Build.tagged markers record.build.name

/-- The measurements of a contract keep the tags of their builds. -/
theorem TaggedBy.of_measurementsOf {markers : Markers} {records : List Record}
    (tagged : TaggedBy markers records) {contract : String} {measurement : Measurement}
    (inside : measurement ∈ measurementsOf contract records) :
    measurement.build = Build.tagged markers measurement.build.name :=
  tagged _ (mem_measurements.mp (List.mem_filter.mp inside).1)

/-- Settings are kept as they are, so only their build is of a certain form. -/
def Admitted (markers : Markers) : Record → Prop
  | .settings record => record.build = .tagged markers record.build.name
  | .measurement record => record.Admitted markers

theorem Admitted.tagged {markers : Markers} {record : Record} (admitted : record.Admitted markers) :
    record.build = .tagged markers record.build.name := by
  cases record with
  | settings record => exact admitted
  | measurement record => exact Measurement.Admitted.tagged admitted

/-- Builds that are read are tagged. -/
theorem readBuild_tagged {markers : Markers} {compiler : Option CompilerDraft} {build : Build}
    (done : readBuild markers compiler = .ok build) : build = .tagged markers build.name := by
  obtain ⟨text, name, -, -, rfl⟩ := readBuild_eq_ok.mp done
  rfl

/-- The means are read under the signatures of the document. -/
theorem map_fst_readMeans {members : List (String × Json.Value)} {means : List (String × Gas)}
    (done : readMeans members = .ok means) : means.map Prod.fst = members.map Prod.fst := by
  have each := readMeans_eq_ok.mp done
  clear done
  induction each with
  | nil => rfl
  | cons first _ ih => rw [List.map_cons, List.map_cons, first.1, ih]

/-- No mean that is read is below zero. -/
theorem not_negative_of_readMeans {members : List (String × Json.Value)}
    {means : List (String × Gas)} (done : readMeans members = .ok means) :
    ∀ mean ∈ means, ¬ mean.2 < 0.0 := by
  have each := readMeans_eq_ok.mp done
  clear done
  induction each with
  | nil => exact List.forall_mem_nil _
  | cons first _ ih => exact List.forall_mem_cons.mpr ⟨(readMean_eq_ok.mp first.2).2, ih⟩

/-- A record that is read is admitted. -/
theorem admitted_of_read {markers : Markers} {value : Json.Value} {record : Record}
    (done : read markers value = .ok record) : record.Admitted markers := by
  cases record with
  | settings record =>
      obtain ⟨draft, members, -, built, -⟩ := read_settings_iff.mp done
      exact readBuild_tagged built
  | measurement record =>
      obtain ⟨draft, -, built, -, measured⟩ := read_measurement_iff.mp done
      obtain ⟨-, -, -, deployed, means⟩ := readMeasurement_eq_ok.mp measured
      constructor
      case tagged => exact readBuild_tagged built
      case deployed => exact deployed
      case called => exact not_negative_of_readMeans means
      case distinct =>
        rw [map_fst_readMeans means]
        exact Json.nodup_mergeMembers _

/-- Lists are read apart from each other. -/
theorem ingest_append (markers : Markers) (first second : List Json.Value) :
    ingest markers (first ++ second) = ingest markers first ++ ingest markers second := by
  simp only [ingest, kept, readAll, List.map_append, List.filterMap_append]

/-- Every record of a list is read from one of the values. -/
theorem exists_of_mem_ingest {markers : Markers} {values : List Json.Value} {record : Record}
    (inside : record ∈ ingest markers values) :
    ∃ value ∈ values, read markers value = .ok record := by
  obtain ⟨result, given, kept⟩ := List.mem_filterMap.mp inside
  obtain ⟨value, found, rfl⟩ := List.mem_map.mp given
  refine ⟨value, found, ?_⟩
  cases done : read markers value with
  | error cause =>
      rw [done] at kept
      cases kept
  | ok other =>
      rw [done] at kept
      cases kept
      rfl

/-- Every build that is read carries the tags of its version. -/
theorem taggedBy_ingest (markers : Markers) (values : List Json.Value) :
    TaggedBy markers (ingest markers values) := by
  intro record inside
  obtain ⟨value, -, done⟩ := exists_of_mem_ingest inside
  exact (admitted_of_read done).tagged

/-- Measurements that are kept were admitted. -/
theorem admitted_of_mem_ingest {markers : Markers} {values : List Json.Value}
    {measurement : Measurement} (inside : measurement ∈ measurements (ingest markers values)) :
    measurement.Admitted markers := by
  obtain ⟨value, -, done⟩ := exists_of_mem_ingest (mem_measurements.mp inside)
  exact admitted_of_read done

/-- A measurement that is read has each signature once. -/
theorem nodup_signatures_of_ingest {markers : Markers} {values : List Json.Value}
    {measurement : Measurement} (inside : measurement ∈ measurements (ingest markers values)) :
    (measurement.functions.map Prod.fst).Nodup :=
  (admitted_of_mem_ingest inside).distinct

end Record

end GasReport
