import Mathlib.Data.List.Forall2
import GasReport.Record.Basic

namespace GasReport

theorem bind_eq_ok {E A B : Type} {first : Except E A} {next : A → Except E B} {result : B} :
    (first >>= next) = .ok result ↔ ∃ value, first = .ok value ∧ next value = .ok result := by
  cases first with
  | error cause =>
      constructor
      · intro failed
        cases failed
      · rintro ⟨value, failed, -⟩
        cases failed
  | ok value =>
      constructor
      · intro done
        exact ⟨value, rfl, done⟩
      · rintro ⟨other, same, done⟩
        cases same
        exact done

theorem map_eq_ok {E A B : Type} {first : Except E A} {change : A → B} {result : B} :
    first.map change = .ok result ↔ ∃ value, first = .ok value ∧ change value = result := by
  cases first with
  | error cause =>
      constructor
      · intro failed
        cases failed
      · rintro ⟨value, failed, -⟩
        cases failed
  | ok value =>
      constructor
      · intro done
        cases done
        exact ⟨value, rfl, rfl⟩
      · rintro ⟨other, same, rfl⟩
        cases same
        rfl

/-- An exact name is that of the toolchain, letter by letter. -/
theorem Toolchain.ofExactName?_eq_some {text : String} {toolchain : Toolchain} :
    ofExactName? text = some toolchain ↔ text = toolchain.name := by
  constructor
  · intro found
    have equal := List.find?_some found
    exact (beq_iff_eq.mp equal).symm
  · rintro rfl
    cases toolchain <;> rfl

/-- A text is read as the toolchain whose name it is in lower case. -/
theorem Toolchain.ofName?_eq_some {text : String} {toolchain : Toolchain} :
    ofName? text = some toolchain ↔ Text.lowercase text = toolchain.name :=
  ofExactName?_eq_some

namespace Record

/-- Gas passes when it is not below zero. -/
theorem checkGas_eq_ok {place : String} {gas checked : Gas} :
    checkGas place gas = .ok checked ↔ checked = gas ∧ ¬ gas < 0.0 := by
  rw [checkGas]
  split
  · rename_i negative
    constructor
    · intro refused
      cases refused
    · rintro ⟨-, notNegative⟩
      exact absurd negative notNegative
  · rename_i notNegative
    constructor
    · intro done
      cases done
      exact ⟨rfl, notNegative⟩
    · rintro ⟨rfl, -⟩
      rfl

theorem need_eq_ok {A : Type} {field : RequiredField} {content : Option A} {value : A} :
    readBuild.need field content = .ok value ↔ content = some value := by
  cases content with
  | none =>
      constructor
      · intro missing
        cases missing
      · intro given
        cases given
  | some other =>
      constructor
      · intro done
        cases done
        rfl
      · intro given
        cases given
        rfl

/-- A build needs a known toolchain and a version, and is tagged by the markers. -/
theorem readBuild_eq_ok {markers : Markers} {compiler : Option CompilerDraft} {build : Build} :
    readBuild markers compiler = .ok build ↔
      ∃ text name, compiler = some ⟨some text, some name.version⟩ ∧
        Text.lowercase text = name.toolchain.name ∧ build = .tagged markers name := by
  constructor
  · intro done
    obtain ⟨⟨toolchain, version⟩, given, named⟩ := bind_eq_ok.mp done
    obtain ⟨text, written, known⟩ := bind_eq_ok.mp named
    split at known
    · cases known
    · rename_i toolchain found
      obtain ⟨version, carried, made⟩ := bind_eq_ok.mp known
      cases made
      rw [need_eq_ok] at given written carried
      cases written
      cases carried
      exact ⟨text, ⟨toolchain, version⟩, given, Toolchain.ofName?_eq_some.mp found, rfl⟩
  · rintro ⟨text, name, rfl, named, rfl⟩
    refine bind_eq_ok.mpr ⟨_, rfl, bind_eq_ok.mpr ⟨text, rfl, ?_⟩⟩
    rw [Toolchain.ofName?_eq_some.mpr named]
    rfl

/-- A mean is read when the function has one and it is not below zero. -/
theorem readMean_eq_ok {signature : String} {value : Json.Value} {mean : Gas} :
    readMean signature value = .ok mean ↔ readFunction value = .ok (some mean) ∧ ¬ mean < 0.0 := by
  rw [readMean]
  split
  · rename_i failed
    rw [failed]
    constructor
    · intro refused
      cases refused
    · rintro ⟨read, -⟩
      cases read
  · rename_i missing
    rw [missing]
    constructor
    · intro refused
      cases refused
    · rintro ⟨read, -⟩
      cases read
  · rename_i other read
    rw [read, checkGas_eq_ok]
    constructor
    · rintro ⟨rfl, notNegative⟩
      exact ⟨rfl, notNegative⟩
    · rintro ⟨same, notNegative⟩
      cases same
      exact ⟨rfl, notNegative⟩

/-- Every member gives the mean of its signature, in the same order. -/
theorem readMeans_eq_ok {members : List (String × Json.Value)} {means : List (String × Gas)} :
    readMeans members = .ok means ↔
      List.Forall₂ (fun member mean =>
        mean.1 = member.1 ∧ readMean member.1 member.2 = .ok mean.2) members means := by
  induction members generalizing means with
  | nil =>
      constructor
      · intro done
        cases done
        exact .nil
      · intro none
        cases none
        rfl
  | cons member rest ih =>
      constructor
      · intro done
        obtain ⟨mean, first, others⟩ := bind_eq_ok.mp done
        obtain ⟨tail, read, made⟩ := bind_eq_ok.mp others
        cases made
        exact .cons ⟨rfl, first⟩ (ih.mp read)
      · rintro (_ | ⟨⟨same, first⟩, others⟩)
        refine bind_eq_ok.mpr ⟨_, first, bind_eq_ok.mpr ⟨_, ih.mpr others, ?_⟩⟩
        rw [← same]

/-- A measurement is read when its deployment has gas and every function has a mean. -/
theorem readMeasurement_eq_ok {build : Build} {contract : String} {draft : Draft}
    {measurement : Measurement} :
    readMeasurement build contract draft = .ok measurement ↔
      measurement.build = build ∧ measurement.contract = contract ∧
        draft.deployment = some (some measurement.gas) ∧ ¬ measurement.gas < 0.0 ∧
          readMeans (Json.mergeMembers (draft.functions.getD [])) = .ok measurement.functions := by
  rw [readMeasurement]
  split
  · rename_i deployed given
    rw [given]
    constructor
    · intro done
      obtain ⟨gas, checked, means⟩ := bind_eq_ok.mp done
      obtain ⟨functions, read, made⟩ := bind_eq_ok.mp means
      obtain ⟨rfl, notNegative⟩ := checkGas_eq_ok.mp checked
      cases made
      exact ⟨rfl, rfl, rfl, notNegative, read⟩
    · rintro ⟨rfl, rfl, same, notNegative, read⟩
      cases same
      exact bind_eq_ok.mpr ⟨_, checkGas_eq_ok.mpr ⟨rfl, notNegative⟩,
        bind_eq_ok.mpr ⟨_, read, rfl⟩⟩
  · rename_i missing
    constructor
    · intro refused
      cases refused
    · rintro ⟨-, -, given, -⟩
      exact absurd given (missing _)

/-- A draft with a build and a contract is read as a measurement. -/
theorem read_measurement_iff {markers : Markers} {value : Json.Value} {measurement : Measurement} :
    read markers value = .ok (.measurement measurement) ↔
      ∃ draft, Draft.read value = .ok draft ∧
        readBuild markers draft.compiler = .ok measurement.build ∧
          draft.contract = some measurement.contract ∧
            readMeasurement measurement.build measurement.contract draft = .ok measurement := by
  rw [read]
  split
  · rename_i failed
    constructor
    · intro refused
      cases refused
    · rintro ⟨draft, drafted, -⟩
      rw [failed] at drafted
      cases drafted
  · rename_i draft drafted
    rw [drafted]
    constructor
    · intro done
      obtain ⟨build, built, made⟩ := bind_eq_ok.mp done
      split at made
      · rename_i contract settings named
        obtain ⟨other, measured, same⟩ := map_eq_ok.mp made
        cases same
        obtain ⟨rfl, rfl, -⟩ := readMeasurement_eq_ok.mp measured
        exact ⟨draft, rfl, built, named, measured⟩
      · cases made
      · cases made
    · rintro ⟨_, same, built, named, measured⟩
      cases same
      refine bind_eq_ok.mpr ⟨_, built, ?_⟩
      rw [named]
      exact map_eq_ok.mpr ⟨_, measured, rfl⟩

/-- A draft with a build and settings, but without a contract, is read as settings. -/
theorem read_settings_iff {markers : Markers} {value : Json.Value} {record : BuildSettings} :
    read markers value = .ok (.settings record) ↔
      ∃ draft members, Draft.read value = .ok draft ∧
        readBuild markers draft.compiler = .ok record.build ∧ draft.contract = none ∧
          draft.settings = some members ∧ record.settings = Dictionary.ofList members := by
  rw [read]
  split
  · rename_i failed
    constructor
    · intro refused
      cases refused
    · rintro ⟨draft, members, drafted, -⟩
      rw [failed] at drafted
      cases drafted
  · rename_i draft drafted
    rw [drafted]
    constructor
    · intro done
      obtain ⟨build, built, made⟩ := bind_eq_ok.mp done
      split at made
      · obtain ⟨other, -, same⟩ := map_eq_ok.mp made
        cases same
      · rename_i members unnamed carried
        cases made
        exact ⟨draft, members, rfl, built, unnamed, carried, rfl⟩
      · cases made
    · obtain ⟨build, settings⟩ := record
      rintro ⟨_, members, same, built, unnamed, carried, rfl⟩
      cases same
      refine bind_eq_ok.mpr ⟨_, built, ?_⟩
      rw [unnamed, carried]

/-- What is no draft is refused for its shape. -/
theorem read_of_draft_error (markers : Markers) {value : Json.Value} {cause : ShapeError}
    (unread : Draft.read value = .error cause) : read markers value = .error (.shape cause) := by
  rw [read, unread]

/-- The build of a record is read from the compiler of its draft. -/
theorem readBuild_of_read {markers : Markers} {value : Json.Value} {draft : Draft} {record : Record}
    (drafted : Draft.read value = .ok draft) (done : read markers value = .ok record) :
    readBuild markers draft.compiler = .ok record.build := by
  cases record with
  | measurement record =>
      obtain ⟨other, same, built, -⟩ := read_measurement_iff.mp done
      cases drafted.symm.trans same
      exact built
  | settings record =>
      obtain ⟨other, members, same, built, -⟩ := read_settings_iff.mp done
      cases drafted.symm.trans same
      exact built

end Record

end GasReport
