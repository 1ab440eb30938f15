import GasReport.Proofs.Record.Grammar

/-!
Document values with the same known members. Main statement: a record is read by its grammar, so
that neither the order of the members nor unknown ones matter.
-/

namespace GasReport.Record

open Json (Value)

/-! Values with the same known members. -/

/-- Both are objects with members that are related so, or they are one value. -/
inductive Matching (related : List (String × Value) → List (String × Value) → Prop) :
    Value → Value → Prop where
  | same (value : Value) : Matching related value value
  | objects {members others : List (String × Value)} (matched : related members others) :
      Matching related (.object members) (.object others)

/-- Other members than these may differ, and all may stand in another order. -/
def AgreeOn (keys : List String) : Value → Value → Prop :=
  Matching fun members others =>
    ∀ key ∈ keys, (Value.object members).member? key = (Value.object others).member? key

/-- Values that agree on a key have the same member there. -/
theorem AgreeOn.member? {keys : List String} {first second : Value}
    (agree : AgreeOn keys first second)
    {key : String} (known : key ∈ keys) : first.member? key = second.member? key := by
  cases agree with
  | same => rfl
  | objects matched => exact matched key known

def SameMean (member other : String × Value) : Prop :=
  member.1 = other.1 ∧ AgreeOn ["mean"] member.2 other.2

/-- Functions with the same means measure the same. -/
theorem Measures.of_sameMean {members others : List (String × Value)}
    (matched : List.Forall₂ SameMean members others) {functions : List (String × Gas)}
    (measured : List.Forall₂ Measures members functions) :
    List.Forall₂ Measures others functions := by
  induction matched generalizing functions with
  | nil => exact measured
  | cons head _ ih =>
      cases measured with
      | cons mean rest =>
          refine .cons ⟨mean.1.trans head.1, ?_⟩ (ih rest)
          rw [HoldsGas, ← head.2.member? (List.mem_singleton_self "mean")]
          exact mean.2

/-- Settings are kept in the order of their keys, whatever order they come in. -/
theorem ofList_perm {members others : List (String × Value)}
    (distinct : (members.map Prod.fst).Nodup) (permuted : members.Perm others) :
    Dictionary.ofList members = Dictionary.ofList others := by
  apply Dictionary.eq_of_get?
  intro key
  have distinctToo := (permuted.map Prod.fst).nodup_iff.mp distinct
  rw [Dictionary.get?_ofList distinct, Dictionary.get?_ofList distinctToo]
  exact Value.member?_perm distinct permuted key

/-- All that a record is read from is in both values, in any order and among other members. -/
structure SameFields (first second : Value) : Prop where
  compiler : Option.Rel (AgreeOn ["type", "family", "version"])
    (first.member? "compiler") (second.member? "compiler")
  contract : first.member? "contract" = second.member? "contract"
  deployment :
    Option.Rel (AgreeOn ["gas"]) (first.member? "deployment") (second.member? "deployment")
  functions : Option.Rel (Matching (List.Forall₂ SameMean))
    (first.member? "functions") (second.member? "functions")
  settings : Option.Rel (Matching List.Perm)
    (first.member? "compilerSettings") (second.member? "compilerSettings")

/-- What matches an object is an object. -/
theorem Matching.isObject {related : List (String × Value) → List (String × Value) → Prop}
    {first second : Value} (matching : Matching related first second) (object : first.IsObject) :
    second.IsObject := by
  cases matching with
  | same => exact object
  | objects _ => exact ⟨_, rfl⟩

theorem exists_of_rel {A : Type} {related : A → A → Prop} {first second : Option A} {content : A}
    (rel : Option.Rel related first second) (given : first = some content) :
    ∃ other, second = some other ∧ related content other := by
  subst given
  cases rel with
  | some matched => exact ⟨_, rfl, matched⟩

/-- A member that may be absent keeps its kind in the other value. -/
theorem Optionally.of_rel {kind : Value → Prop}
    {related : List (String × Value) → List (String × Value) → Prop} {first second : Option Value}
    (rel : Option.Rel (Matching related) first second)
    (keep : ∀ value other, Matching related value other → kind value → kind other)
    (shaped : Optionally kind first) : Optionally kind second := by
  rcases shaped with (missing | null) | ⟨value, given, kind⟩
  · subst missing
    cases rel
    exact .inl (.inl rfl)
  · obtain ⟨other, found, matching⟩ := exists_of_rel rel null
    cases matching
    exact .inl (.inr found)
  · obtain ⟨other, found, matching⟩ := exists_of_rel rel given
    exact .inr ⟨other, found, keep value other matching kind⟩

namespace SameFields

variable {first second : Value} (same : SameFields first second)
include same

/-- The other value names the same compiler. -/
theorem compiled {name : BuildName} (compiled : Compiled first name) : Compiled second name := by
  obtain ⟨compiler, text, given, named, lowered, versioned⟩ := compiled
  obtain ⟨other, found, agree⟩ := exists_of_rel same.compiler given
  refine ⟨other, text, found, ?_, lowered, ?_⟩
  · rw [ToolchainText, agree.member? (by decide), agree.member? (by decide)] at named
    exact named
  · rw [agree.member? (by decide)] at versioned
    exact versioned

/-- The other value has the same kinds of members. -/
theorem shaped (shaped : Shaped first) : Shaped second where
  contract := same.contract ▸ shaped.contract
  deployment := by
    refine Optionally.of_rel same.deployment ?_ shaped.deployment
    rintro deployment other agree ⟨object, gas⟩
    have gas_eq : deployment.member? "gas" = other.member? "gas" :=
      AgreeOn.member? agree (List.mem_singleton_self _)
    exact ⟨agree.isObject object, gas_eq ▸ gas⟩
  functions := Optionally.of_rel same.functions (fun _ _ => Matching.isObject) shaped.functions
  settings := Optionally.of_rel same.settings (fun _ _ => Matching.isObject) shaped.settings

/-- Both values have the same functions with the same means. -/
theorem forall₂_functionMembers :
    List.Forall₂ SameMean (functionMembers first) (functionMembers second) := by
  have rel := same.functions
  rw [functionMembers, functionMembers]
  generalize first.member? "functions" = one at rel
  generalize second.member? "functions" = other at rel
  cases rel with
  | none => exact .nil
  | some matching =>
      cases matching with
      | same value => exact List.forall₂_same.mpr fun _ _ => ⟨rfl, .same _⟩
      | objects matched => exact matched

/-- The other value denotes the same record. -/
theorem denotes {markers : Markers} {record : Record} (once : first.keysOnce = true)
    (denoted : Denotes markers first record) : Denotes markers second record := by
  cases denoted with
  | measurement compiled shaped named deployed called =>
      obtain ⟨deployment, given, amount⟩ := deployed
      obtain ⟨other, found, agree⟩ := exists_of_rel same.deployment given
      rw [HoldsGas, agree.member? (List.mem_singleton_self "gas")] at amount
      exact .measurement (same.compiled compiled) (same.shaped shaped) (same.contract ▸ named)
        ⟨other, found, amount⟩ (Measures.of_sameMean same.forall₂_functionMembers called)
  | settings compiled shaped unnamed given =>
      obtain ⟨other, found, matching⟩ := exists_of_rel same.settings given
      have unnamedToo := same.contract ▸ unnamed
      cases matching with
      | same => exact .settings (same.compiled compiled) (same.shaped shaped) unnamedToo found
      | objects permuted =>
          have distinct := (Value.keysOnce_object.mp (Value.keysOnce_member? once given)).1
          rw [ofList_perm distinct permuted]
          exact .settings (same.compiled compiled) (same.shaped shaped) unnamedToo found

end SameFields

/-! Members that are permuted, and unknown members. -/

/-- Members are found alike when the known ones are a permutation. -/
theorem member?_of_perm_filter {keys : List String} {members others : List (String × Value)}
    (distinct : (members.map Prod.fst).Nodup)
    (known : (members.filter (·.1 ∈ keys)).Perm (others.filter (·.1 ∈ keys))) :
    ∀ key ∈ keys, (Value.object members).member? key = (Value.object others).member? key := by
  intro key listed
  have filtered : ∀ entries : List (String × Value),
      (Value.object (entries.filter (·.1 ∈ keys))).member? key =
        (Value.object entries).member? key := by
    intro entries
    rw [Value.member?, Value.member?, List.find?_filter]
    congr 2
    funext member
    by_cases same : member.1 = key
    · simp [same, listed]
    · simp [same]
  rw [← filtered members, ← filtered others]
  refine Value.member?_perm ?_ known key
  exact distinct.sublist (List.filter_sublist.map Prod.fst)

/-- A structure may come in another order and with other unknown members. -/
theorem AgreeOn.of_perm {keys : List String} {members others : List (String × Value)}
    (distinct : (members.map Prod.fst).Nodup)
    (known : (members.filter (·.1 ∈ keys)).Perm (others.filter (·.1 ∈ keys))) :
    AgreeOn keys (.object members) (.object others) :=
  .objects (member?_of_perm_filter distinct known)

/-- A record may come in another order and with other unknown members. -/
theorem SameFields.of_perm {members others : List (String × Value)}
    (distinct : (members.map Prod.fst).Nodup)
    (known : (members.filter (·.1 ∈ Field.all.map Field.name)).Perm
      (others.filter (·.1 ∈ Field.all.map Field.name))) :
    SameFields (.object members) (.object others) := by
  have equal := member?_of_perm_filter distinct known
  have refl : ∀ related : List (String × Value) → List (String × Value) → Prop,
      ∀ field : Option Value, Option.Rel (Matching related) field field := by
    intro related field
    cases field with
    | none => exact .none
    | some value => exact .some (.same value)
  constructor
  case compiler => exact equal "compiler" (by decide) ▸ refl _ _
  case contract => exact equal "contract" (by decide)
  case deployment => exact equal "deployment" (by decide) ▸ refl _ _
  case functions => exact equal "functions" (by decide) ▸ refl _ _
  case settings => exact equal "compilerSettings" (by decide) ▸ refl _ _

/-! The grammar. -/

/-- A value is read as the record that it denotes and as no other, a measurement has each signature
once, and values with the same fields are read as the same record. -/
theorem read_grammar {markers : Markers} {value : Value} (structured : Structured value) :
    (∀ record, read markers value = .ok record ↔ Denotes markers value record) ∧
      (∀ measurement, Denotes markers value (.measurement measurement) →
        (measurement.functions.map Prod.fst).Nodup) ∧
      ∀ other, Structured other → SameFields value other →
        ∀ record, read markers value = .ok record → read markers other = .ok record := by
  have read_iff : ∀ record, read markers value = .ok record ↔ Denotes markers value record :=
    fun record => ⟨denotes_of_read structured, read_of_denotes structured⟩
  refine ⟨read_iff, ?_, ?_⟩
  · intro measurement denoted
    have admitted := admitted_of_read ((read_iff _).mpr denoted)
    exact Measurement.Admitted.distinct admitted
  · intro other otherStructured same record done
    exact read_of_denotes otherStructured (same.denotes structured.once ((read_iff record).mp done))

/-- Members stand in reverse, unknown ones are given at each level, and the settings are only
checked to be an object. -/
def scattered : Value :=
  .object [
    ("compilerSettings", .object [("runs", .count 200)]),
    ("functions", .object [
      ("g()", .object [("calls", .count 3), ("mean", .count 20)]),
      ("f(uint256)", .object [("mean", .number (.float 30.5)), ("max", .null)])]),
    ("date", .array [.count 2025]),
    ("deployment", .object [("size", .text "large"), ("gas", .count 700)]),
    ("contract", .text "Token"),
    ("compiler",
      .object [("commit", .null), ("version", .text "0.1.0-via-ir"), ("family", .text "SolX")])]

def gathered : Value :=
  .object [
    ("compiler", .object [("family", .text "SolX"), ("version", .text "0.1.0-via-ir")]),
    ("contract", .text "Token"),
    ("deployment", .object [("gas", .count 700)]),
    ("functions", .object [
      ("g()", .object [("mean", .count 20)]),
      ("f(uint256)", .object [("mean", .number (.float 30.5))])]),
    ("compilerSettings", .object [("runs", .count 200)])]

def gatheredRecord : Record :=
  .measurement ⟨.tagged .standard ⟨.solx, "0.1.0-via-ir"⟩, "Token", Decimal.ofNat false 700,
    [("g()", Decimal.ofNat false 20), ("f(uint256)", 30.5)]⟩

theorem sameFields_gathered : SameFields scattered gathered where
  compiler := .some (.of_perm (by decide) (.swap _ _ _))
  contract := rfl
  deployment := .some (.of_perm (by decide) (.refl _))
  functions := .some (.objects (.cons ⟨rfl, .of_perm (by decide) (.refl _)⟩
    (.cons ⟨rfl, .of_perm (by decide) (.refl _)⟩ .nil)))
  settings := .some (.same _)

/-- The settings come in another order, and the toolchain is written in capitals. -/
def scatteredOptimizer : Value :=
  .object [
    ("date", .null),
    ("compilerSettings", .object [("runs", .count 200), ("optimizer", .truth true)]),
    ("compiler",
      .object [("version", .text "0.8.30"), ("commit", .text "73712a01"), ("type", .text "SOLC")])]

def gatheredOptimizer : Value :=
  .object [
    ("compiler", .object [("type", .text "SOLC"), ("version", .text "0.8.30")]),
    ("compilerSettings", .object [("optimizer", .truth true), ("runs", .count 200)])]

def optimizerRecord : Record :=
  .settings ⟨.tagged .standard ⟨.solc, "0.8.30"⟩,
    .ofList [("optimizer", .truth true), ("runs", .count 200)]⟩

theorem sameFields_gatheredOptimizer : SameFields scatteredOptimizer gatheredOptimizer where
  compiler := .some (.of_perm (by decide) (.swap _ _ _))
  contract := rfl
  deployment := .none
  functions := .none
  settings := .some (.objects (.swap _ _ _))

theorem read_grammar_scattered :
    (Structured scattered ∧ Denotes .standard scattered gatheredRecord ∧ Structured gathered ∧
      SameFields scattered gathered ∧ read .standard gathered = .ok gatheredRecord) ∧
    Structured scatteredOptimizer ∧ Denotes .standard scatteredOptimizer optimizerRecord ∧
      Structured gatheredOptimizer ∧ SameFields scatteredOptimizer gatheredOptimizer ∧
      read .standard gatheredOptimizer = .ok optimizerRecord := by
  have structured : Structured scattered :=
    ⟨⟨_, rfl⟩, by decide +kernel, by decide, by decide, by decide⟩
  have gatheredStructured : Structured gathered :=
    ⟨⟨_, rfl⟩, by decide +kernel, by decide, by decide, by decide⟩
  have settingsStructured : Structured scatteredOptimizer :=
    ⟨⟨_, rfl⟩, by decide +kernel, by decide, by decide, by decide⟩
  have settingsGathered : Structured gatheredOptimizer :=
    ⟨⟨_, rfl⟩, by decide +kernel, by decide, by decide, by decide⟩
  have done : read .standard scattered = .ok gatheredRecord := rfl
  have settingsDone : read .standard scatteredOptimizer = .ok optimizerRecord := rfl
  obtain ⟨read_iff, -, unchanged⟩ := read_grammar structured
  obtain ⟨settings_iff, -, settingsUnchanged⟩ := read_grammar settingsStructured
  constructor
  · exact ⟨structured, (read_iff _).mp done, gatheredStructured, sameFields_gathered,
      unchanged gathered gatheredStructured sameFields_gathered _ done⟩
  · exact ⟨settingsStructured, (settings_iff _).mp settingsDone, settingsGathered,
      sameFields_gatheredOptimizer,
      settingsUnchanged gatheredOptimizer settingsGathered sameFields_gatheredOptimizer _
        settingsDone⟩

end GasReport.Record
