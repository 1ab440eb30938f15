import GasReport.Proofs.Record.Fields
import GasReport.Proofs.Record.Ingest

namespace GasReport.Record

open Json (Value)

/-! The shape of the fields. -/

def Absent (field : Option Value) : Prop := field = none ∨ field = some .null

/-- The field is absent, or else its value is of the kind. -/
def Optionally (kind : Value → Prop) (field : Option Value) : Prop :=
  Absent field ∨ ∃ value, field = some value ∧ kind value

def IsText (value : Value) : Prop := ∃ text, value = .text text

def IsNumber (value : Value) : Prop := ∃ number, value = .number number

/-- The member is a number that is not below zero. -/
def HoldsGas (value : Value) (key : String) (gas : Gas) : Prop :=
  ∃ number, value.member? key = some (.number number) ∧ number.toFloat = gas ∧ ¬ gas < 0.0

/-- The member of a function holds its mean. -/
def Measures (member : String × Value) (function : String × Gas) : Prop :=
  function.1 = member.1 ∧ HoldsGas member.2 "mean" function.2

/-- These are the functions, in the order of the document. -/
def functionMembers (value : Value) : List (String × Value) :=
  match value.member? "functions" with
  | some (.object members) => members
  | _ => []

/-- The compiler has a toolchain in any case under exactly one of its keys, and a version. -/
def Compiled (value : Value) (name : BuildName) : Prop :=
  ∃ compiler text, value.member? "compiler" = some compiler ∧ ToolchainText compiler text ∧
    Text.lowercase text = name.toolchain.name ∧
      compiler.member? "version" = some (.text name.version)

/-- The gas of a deployment may be absent, and else is a number. -/
def IsDeployment (value : Value) : Prop :=
  value.IsObject ∧ Optionally IsNumber (value.member? "gas")

/-- The other known fields may be absent, and else are of their kind, whatever the record is. -/
structure Shaped (value : Value) : Prop where
  contract : Optionally IsText (value.member? "contract")
  deployment : Optionally IsDeployment (value.member? "deployment")
  functions : Optionally Value.IsObject (value.member? "functions")
  settings : Optionally Value.IsObject (value.member? "compilerSettings")

/-- A value denotes a measurement or settings, and a contract makes it a measurement. -/
inductive Denotes (markers : Markers) (value : Value) : Record → Prop where
  | measurement {name : BuildName} {contract : String} {gas : Gas} {functions : List (String × Gas)}
      (compiled : Compiled value name) (shaped : Shaped value)
      (named : value.member? "contract" = some (.text contract))
      (deployed : ∃ deployment, value.member? "deployment" = some deployment ∧
        HoldsGas deployment "gas" gas)
      (called : List.Forall₂ Measures (functionMembers value) functions) :
      Denotes markers value (.measurement ⟨.tagged markers name, contract, gas, functions⟩)
  | settings {name : BuildName} {members : List (String × Value)}
      (compiled : Compiled value name) (shaped : Shaped value)
      (unnamed : Absent (value.member? "contract"))
      (given : value.member? "compilerSettings" = some (.object members)) :
      Denotes markers value (.settings ⟨.tagged markers name, .ofList members⟩)

/-- This is an object whose structures are objects too, and not arrays of their fields. Every value
of a document has each key once, by `Value.keysOnce_ofText?`. -/
structure Structured (value : Value) : Prop where
  object : value.IsObject
  once : value.keysOnce = true
  compiler : ∀ compiler ∈ value.member? "compiler", compiler.isArray = false
  deployment : ∀ deployment ∈ value.member? "deployment", deployment.isArray = false
  functions : ∀ member ∈ functionMembers value, member.2.isArray = false

/-! What the readers make of each field. -/

theorem exists_present {A : Type} {read : Value → Except ShapeError A} {field : Option Value} :
    (∃ content, present read field = .ok content) ↔
      Optionally (fun value => ∃ content, read value = .ok content) field := by
  cases field with
  | none => exact ⟨fun _ => .inl (.inl rfl), fun _ => ⟨none, rfl⟩⟩
  | some value =>
      by_cases empty : value = .null
      · subst empty
        exact ⟨fun _ => .inl (.inr rfl), fun _ => ⟨none, rfl⟩⟩
      · constructor
        · rintro ⟨content, done⟩
          rw [present, optional_eq empty, map_eq_ok] at done
          obtain ⟨read, given, -⟩ := done
          exact .inr ⟨value, rfl, read, given⟩
        · rintro ((missing | null) | ⟨_, same, content, given⟩)
          · cases missing
          · exact absurd (Option.some.inj null) empty
          · cases same
            refine ⟨some content, ?_⟩
            rw [present, optional_eq empty, given]
            rfl

theorem Optionally.congr {first second : Value → Prop} {field : Option Value}
    (same : ∀ value, field = some value → (first value ↔ second value)) :
    Optionally first field ↔ Optionally second field := by
  refine or_congr_right (exists_congr fun value => ?_)
  constructor
  · rintro ⟨given, kind⟩
    exact ⟨given, (same value given).mp kind⟩
  · rintro ⟨given, kind⟩
    exact ⟨given, (same value given).mpr kind⟩

/-- A text may be absent but not of another kind. -/
theorem exists_present_text {field : Option Value} :
    (∃ content, present readText field = .ok content) ↔ Optionally IsText field := by
  rw [exists_present]
  exact Optionally.congr fun value _ => exists_congr fun text => readText_eq_ok

/-- An object may be absent but not of another kind. -/
theorem exists_present_map {field : Option Value} :
    (∃ content, present readMap field = .ok content) ↔ Optionally Value.IsObject field := by
  rw [exists_present]
  exact Optionally.congr fun value _ => exists_congr fun members => readMap_eq_ok

/-- A number may be absent but not of another kind. -/
theorem exists_present_amount {field : Option Value} :
    (∃ content, present readAmount field = .ok content) ↔ Optionally IsNumber field := by
  rw [exists_present]
  refine Optionally.congr fun value _ => ?_
  constructor
  · rintro ⟨gas, read⟩
    obtain ⟨number, given, -⟩ := readAmount_eq_ok.mp read
    exact ⟨number, given⟩
  · rintro ⟨number, given⟩
    exact ⟨_, readAmount_eq_ok.mpr ⟨number, given, rfl⟩⟩

section

variable {value : Value}

/-- A build is read exactly when the record names a compiler. -/
theorem readBuild_iff_compiled (structured : Structured value)
    {markers : Markers} {build : Build} :
    (∃ compiler, present readCompiler (value.member? "compiler") = .ok compiler ∧
        readBuild markers compiler = .ok build) ↔
      ∃ name, Compiled value name ∧ build = .tagged markers name := by
  have refused : ∀ draft, readCompiler .null ≠ .ok draft := fun draft read => by cases read
  constructor
  · rintro ⟨compiler, done, built⟩
    obtain ⟨text, name, rfl, lowered, rfl⟩ := readBuild_eq_ok.mp built
    obtain ⟨compiler, given, read⟩ := (present_eq_some refused).mp done
    have described := (readCompiler_eq_ok (Value.keysOnce_member? structured.once given)
      (structured.compiler compiler given)).mp read
    exact ⟨name, ⟨compiler, text, given, described.1, lowered, described.2⟩, rfl⟩
  · rintro ⟨name, ⟨compiler, text, given, named, lowered, versioned⟩, rfl⟩
    have read := (readCompiler_eq_ok (Value.keysOnce_member? structured.once given)
      (structured.compiler compiler given)).mpr ⟨named, versioned⟩
    exact ⟨_, (present_eq_some refused).mpr ⟨compiler, given, read⟩,
      readBuild_eq_ok.mpr ⟨text, name, rfl, lowered, rfl⟩⟩

/-- A deployment may be absent but not of another kind. -/
theorem exists_present_deployment (structured : Structured value) :
    (∃ content, present readDeployment (value.member? "deployment") = .ok content) ↔
      Optionally IsDeployment (value.member? "deployment") := by
  rw [exists_present]
  refine Optionally.congr fun deployment given => ?_
  rw [IsDeployment, ← exists_present_amount, ← exists_and_left]
  exact exists_congr fun amount =>
    amountLayout_read_eq_ok (Value.keysOnce_member? structured.once given)
      (structured.deployment deployment given)

/-- Gas is read from a deployment that holds it and is not below zero. -/
theorem present_deployment (structured : Structured value) {gas : Gas} :
    present readDeployment (value.member? "deployment") = .ok (some (some gas)) ∧ ¬ gas < 0.0 ↔
      ∃ deployment, value.member? "deployment" = some deployment ∧
        HoldsGas deployment "gas" gas := by
  rw [present_eq_some fun content read => by cases read]
  constructor
  · rintro ⟨⟨deployment, given, read⟩, notNegative⟩
    obtain ⟨-, amount⟩ := (amountLayout_read_eq_ok (Value.keysOnce_member? structured.once given)
      (structured.deployment deployment given)).mp read
    obtain ⟨number, found, measured⟩ := present_amount.mp amount
    exact ⟨deployment, given, number, found, measured, notNegative⟩
  · rintro ⟨deployment, given, number, found, measured, notNegative⟩
    refine ⟨⟨deployment, given, ?_⟩, notNegative⟩
    exact (amountLayout_read_eq_ok (Value.keysOnce_member? structured.once given)
      (structured.deployment deployment given)).mpr
        ⟨Value.isObject_of_member? found, present_amount.mpr ⟨number, found, measured⟩⟩

/-- A mean is read when the function holds it. -/
theorem readMean_iff {function : Value} (once : function.keysOnce = true)
    (plain : function.isArray = false) {signature : String} {mean : Gas} :
    readMean signature function = .ok mean ↔ HoldsGas function "mean" mean := by
  rw [readMean_eq_ok, readFunction, amountLayout_read_eq_ok once plain, present_amount]
  constructor
  · rintro ⟨⟨-, number, found, measured⟩, notNegative⟩
    exact ⟨number, found, measured, notNegative⟩
  · rintro ⟨number, found, measured, notNegative⟩
    exact ⟨⟨Value.isObject_of_member? found, number, found, measured⟩, notNegative⟩

theorem keysOnce_functionMembers (once : value.keysOnce = true) :
    ((functionMembers value).map Prod.fst).Nodup ∧
      ∀ member ∈ functionMembers value, member.2.keysOnce = true := by
  rw [functionMembers]
  split
  · rename_i members given
    exact Value.keysOnce_object.mp (Value.keysOnce_member? once given)
  · exact ⟨List.nodup_nil, List.forall_mem_nil _⟩

/-- The functions are read one by one. -/
theorem readMeans_iff (structured : Structured value)
    {functions : List (String × Gas)} :
    readMeans (functionMembers value) = .ok functions ↔
      List.Forall₂ Measures (functionMembers value) functions := by
  have same : ∀ member ∈ functionMembers value, ∀ function : String × Gas,
      readMean member.1 member.2 = .ok function.2 ↔ HoldsGas member.2 "mean" function.2 :=
    fun member inside function =>
      readMean_iff ((keysOnce_functionMembers structured.once).2 member inside)
        (structured.functions member inside)
  rw [readMeans_eq_ok]
  constructor
  · intro read
    refine ((List.forall₂_and_left _ _).mpr ⟨same, read⟩).imp ?_
    rintro member function ⟨here, signature, mean⟩
    exact ⟨signature, (here function).mp mean⟩
  · intro called
    refine ((List.forall₂_and_left _ _).mpr ⟨same, called⟩).imp ?_
    rintro member function ⟨here, signature, mean⟩
    exact ⟨signature, (here function).mpr mean⟩

theorem getD_present_functions {functions : Option (List (String × Value))}
    (read : present readMap (value.member? "functions") = .ok functions) :
    functions.getD [] = functionMembers value := by
  rw [functionMembers]
  cases functions with
  | some members => rw [present_map.mp read, Option.getD_some]
  | none =>
      rcases present_eq_none.mp read with missing | null
      · rw [missing]
        rfl
      · rw [null]
        rfl

end

/-! Reading and denoting. -/

section

variable {markers : Markers} {value : Value}

/-- What is drafted has the kinds that the fields ask for. -/
theorem Draft.ReadFrom.shaped {draft : Draft} (each : draft.ReadFrom value)
    (structured : Structured value) : Shaped value where
  contract := exists_present_text.mp ⟨_, each.contract⟩
  deployment := (exists_present_deployment structured).mp ⟨_, each.deployment⟩
  functions := exists_present_map.mp ⟨_, each.functions⟩
  settings := exists_present_map.mp ⟨_, each.settings⟩

/-- A shaped value with a compiler has a draft. -/
theorem exists_draft (structured : Structured value) {name : BuildName}
    (compiled : Compiled value name) (shaped : Shaped value) :
    ∃ draft : Draft, draft.ReadFrom value ∧
      readBuild markers draft.compiler = .ok (.tagged markers name) := by
  obtain ⟨compiler, compilerRead, built⟩ :=
    (readBuild_iff_compiled structured).mpr ⟨name, compiled, rfl⟩
  obtain ⟨contract, contractRead⟩ := exists_present_text.mpr shaped.contract
  obtain ⟨deployment, deploymentRead⟩ :=
    (exists_present_deployment structured).mpr shaped.deployment
  obtain ⟨functions, functionsRead⟩ := exists_present_map.mpr shaped.functions
  obtain ⟨settings, settingsRead⟩ := exists_present_map.mpr shaped.settings
  exact ⟨⟨compiler, contract, deployment, functions, settings⟩,
    ⟨compilerRead, contractRead, deploymentRead, functionsRead, settingsRead⟩, built⟩

/-- What is read from a value is what the value denotes. -/
theorem denotes_of_read (structured : Structured value) {record : Record}
    (done : read markers value = .ok record) :
    Denotes markers value record := by
  cases record with
  | measurement record =>
      obtain ⟨build, contract, gas, functions⟩ := record
      obtain ⟨draft, drafted, built, named, measured⟩ := read_measurement_iff.mp done
      have each := (Draft.read_eq_ok structured.object structured.once).mp drafted
      obtain ⟨name, compiled, rfl⟩ := (readBuild_iff_compiled structured).mp
        ⟨draft.compiler, each.compiler, built⟩
      obtain ⟨-, -, deployed, notNegative, means⟩ := readMeasurement_eq_ok.mp measured
      rw [getD_present_functions each.functions,
        Json.mergeMembers_eq_self (keysOnce_functionMembers structured.once).1] at means
      refine .measurement compiled (each.shaped structured) ?_ ?_
        ((readMeans_iff structured).mp means)
      · exact present_text.mp (named ▸ each.contract)
      · exact (present_deployment structured).mp ⟨deployed ▸ each.deployment, notNegative⟩
  | settings record =>
      obtain ⟨build, settings⟩ := record
      obtain ⟨draft, members, drafted, built, unnamed, carried, rfl⟩ := read_settings_iff.mp done
      have each := (Draft.read_eq_ok structured.object structured.once).mp drafted
      obtain ⟨name, compiled, rfl⟩ := (readBuild_iff_compiled structured).mp
        ⟨draft.compiler, each.compiler, built⟩
      refine .settings compiled (each.shaped structured) ?_ ?_
      · exact present_eq_none.mp (unnamed ▸ each.contract)
      · exact present_map.mp (carried ▸ each.settings)

/-- What a value denotes is read from it. -/
theorem read_of_denotes (structured : Structured value) {record : Record}
    (denoted : Denotes markers value record) :
    read markers value = .ok record := by
  cases denoted with
  | @measurement name contract gas functions compiled shaped named deployed called =>
      obtain ⟨draft, each, built⟩ := exists_draft structured compiled shaped
      obtain ⟨gasRead, notNegative⟩ := (present_deployment structured).mpr deployed
      have contractGiven : draft.contract = some contract :=
        Except.ok.inj (each.contract.symm.trans (present_text.mpr named))
      have gasGiven : draft.deployment = some (some gas) :=
        Except.ok.inj (each.deployment.symm.trans gasRead)
      have drafted := (Draft.read_eq_ok structured.object structured.once).mpr each
      refine read_measurement_iff.mpr ⟨draft, drafted, built, contractGiven,
        readMeasurement_eq_ok.mpr ⟨rfl, rfl, gasGiven, notNegative, ?_⟩⟩
      rw [getD_present_functions each.functions,
        Json.mergeMembers_eq_self (keysOnce_functionMembers structured.once).1]
      exact (readMeans_iff structured).mpr called
  | @settings name members compiled shaped unnamed given =>
      obtain ⟨draft, each, built⟩ := exists_draft structured compiled shaped
      have contractMissing : draft.contract = none :=
        Except.ok.inj (each.contract.symm.trans (present_eq_none.mpr unnamed))
      have settingsGiven : draft.settings = some members :=
        Except.ok.inj (each.settings.symm.trans (present_map.mpr given))
      have drafted := (Draft.read_eq_ok structured.object structured.once).mpr each
      exact read_settings_iff.mpr
        ⟨draft, members, drafted, built, contractMissing, settingsGiven, rfl⟩

end

end GasReport.Record
