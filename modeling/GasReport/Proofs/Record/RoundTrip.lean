import GasReport.Proofs.Record.Ingest
import GasReport.Record.Printer

namespace GasReport

/-- The names of toolchains are in lower case. -/
theorem Toolchain.lowercase_name (toolchain : Toolchain) :
    Text.lowercase toolchain.name = toolchain.name := by
  cases toolchain with
  | solc => rfl
  | solx => rfl

namespace Record

/-- The written tags are passed over, and the version gives them again. -/
def writtenCompiler (name : BuildName) : CompilerDraft :=
  ⟨some name.toolchain.name, some name.version⟩

/-- A written compiler is read as the same build. -/
theorem readBuild_writtenCompiler (markers : Markers) (name : BuildName) :
    readBuild markers (some (writtenCompiler name)) = .ok (.tagged markers name) :=
  readBuild_eq_ok.mpr ⟨_, name, rfl, name.toolchain.lowercase_name, rfl⟩

def writtenFunction (function : String × Gas) : String × Json.Value :=
  (function.1, .object [("mean", Gas.toValue function.2)])

/-- A written measurement is drafted with all its fields. -/
theorem draft_measurement (measurement : Measurement) :
    Draft.read measurement.toValue = .ok
      ⟨some (writtenCompiler measurement.build.name), some measurement.contract,
        some (some measurement.gas), some (measurement.functions.map writtenFunction), none⟩ :=
  rfl

/-- A written settings record is drafted with its settings. -/
theorem draft_settings (record : BuildSettings) :
    Draft.read record.toValue = .ok
      ⟨some (writtenCompiler record.build.name), none, none, none, some record.settings.entries⟩ :=
  rfl

theorem map_fst_writtenFunction (functions : List (String × Gas)) :
    (functions.map writtenFunction).map Prod.fst = functions.map Prod.fst := by
  rw [List.map_map]
  rfl

/-- Written functions are read as the same functions. -/
theorem readMeans_written {functions : List (String × Gas)}
    (called : ∀ function ∈ functions, ¬ function.2 < 0.0) :
    readMeans (functions.map writtenFunction) = .ok functions := by
  rw [readMeans_eq_ok, List.forall₂_map_left_iff, List.forall₂_same]
  intro function inside
  exact ⟨rfl, readMean_eq_ok.mpr ⟨rfl, called function inside⟩⟩

/-- An admitted record is written to a value that is read as the same record. -/
theorem read_toValue_of_admitted {markers : Markers} {record : Record}
    (admitted : record.Admitted markers) : read markers record.toValue = .ok record := by
  have built := readBuild_writtenCompiler markers record.build.name
  rw [← admitted.tagged] at built
  cases record with
  | settings record =>
      exact read_settings_iff.mpr
        ⟨_, _, draft_settings record, built, rfl, rfl, (Dictionary.ofList_entries _).symm⟩
  | measurement record =>
      have merged : Json.mergeMembers (record.functions.map writtenFunction) =
          record.functions.map writtenFunction := by
        apply Json.mergeMembers_eq_self
        rw [map_fst_writtenFunction]
        exact admitted.distinct
      refine read_measurement_iff.mpr ⟨_, draft_measurement record, built, rfl, ?_⟩
      refine readMeasurement_eq_ok.mpr ⟨rfl, rfl, rfl, admitted.deployed, ?_⟩
      change readMeans (Json.mergeMembers (record.functions.map writtenFunction)) = _
      rw [merged]
      exact readMeans_written admitted.called

/-- Nothing but the admitted records can be read, and each of them from some document. -/
theorem admitted_iff_exists_read {markers : Markers} {record : Record} :
    record.Admitted markers ↔ ∃ value, read markers value = .ok record :=
  ⟨fun admitted => ⟨_, read_toValue_of_admitted admitted⟩, fun ⟨_, done⟩ => admitted_of_read done⟩

/-- A record that was read is written to a value that reads as the same record. -/
theorem read_toValue {markers : Markers} {value : Json.Value} {record : Record}
    (done : read markers value = .ok record) : read markers record.toValue = .ok record :=
  read_toValue_of_admitted (admitted_of_read done)

/-- The toolchain stands in mixed case under its other key, the deployment is an array, and there
are members that nobody reads. -/
def looseValue : Json.Value :=
  .object [
    ("functions", .object [
      ("g()", .object [("calls", .count 3), ("mean", .count 20)]),
      ("f(uint256)", .object [("mean", .number (.float 30.5)), ("max", .null)])]),
    ("compilerSettings", .object [("runs", .count 200)]),
    ("contract", .text "Token"),
    ("deployment", .array [.count 700]),
    ("compiler", .object [("version", .text "0.8.30-via-ir"), ("family", .text "SolC")])]

def looseRecord : Record :=
  .measurement ⟨.tagged .standard ⟨.solc, "0.8.30-via-ir"⟩, "Token", Decimal.ofNat false 700,
    [("g()", Decimal.ofNat false 20), ("f(uint256)", 30.5)]⟩

theorem read_toValue_looseRecord :
    read .standard looseValue = .ok looseRecord ∧
      read .standard looseRecord.toValue = .ok looseRecord := by
  have done : read .standard looseValue = .ok looseRecord := rfl
  exact ⟨done, read_toValue done⟩

end Record

end GasReport
