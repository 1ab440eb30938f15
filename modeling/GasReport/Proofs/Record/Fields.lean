import GasReport.Proofs.Record.Layout

namespace GasReport

namespace Json.Value

def IsObject (value : Value) : Prop := ∃ members, value = .object members

def isArray : Value → Bool
  | .array _ => true
  | _ => false

/-- Only an object has members. -/
theorem isObject_of_member? {value member : Value} {key : String}
    (found : value.member? key = some member) : value.IsObject := by
  cases value with
  | object members => exact ⟨members, rfl⟩
  | _ => cases found

end Json.Value

namespace Record

open Json (Value)

theorem bind_ok_eq_map {E A B : Type} (first : Except E A) (change : A → B) :
    (first >>= fun value => .ok (change value)) = first.map change := by
  cases first with
  | error cause => rfl
  | ok value => rfl

/-- Only objects and arrays are read as structures. -/
theorem Layout.isObject_of_read {F S : Type} [DecidableEq F] {layout : Layout F S} {start final : S}
    {value : Value} (plain : value.isArray = false) (done : layout.read start value = .ok final) :
    value.IsObject := by
  cases value with
  | object members => exact ⟨members, rfl⟩
  | array items => cases plain
  | _ => cases done

/-! Single values. -/

theorem readText_eq_ok {value : Value} {text : String} :
    readText value = .ok text ↔ value = .text text := by
  cases value with
  | text other =>
      constructor
      · intro done
        cases done
        rfl
      · intro same
        cases same
        rfl
  | _ =>
      constructor
      · intro refused
        cases refused
      · intro different
        cases different

theorem readMap_eq_ok {value : Value} {members : List (String × Value)} :
    readMap value = .ok members ↔ value = .object members := by
  cases value with
  | object others =>
      constructor
      · intro done
        cases done
        rfl
      · intro same
        cases same
        rfl
  | _ =>
      constructor
      · intro refused
        cases refused
      · intro different
        cases different

/-- An amount is any number. -/
theorem readAmount_eq_ok {value : Value} {gas : Gas} :
    readAmount value = .ok gas ↔ ∃ number, value = .number number ∧ number.toFloat = gas := by
  cases value with
  | number number =>
      constructor
      · intro done
        cases done
        exact ⟨number, rfl, rfl⟩
      · rintro ⟨_, same, rfl⟩
        cases same
        rfl
  | _ =>
      constructor
      · intro refused
        cases refused
      · rintro ⟨_, different, -⟩
        cases different

theorem present_text {field : Option Value} {text : String} :
    present readText field = .ok (some text) ↔ field = some (.text text) := by
  rw [present_eq_some fun content read => by cases read]
  simp only [readText_eq_ok, exists_eq_right]

theorem present_map {field : Option Value} {members : List (String × Value)} :
    present readMap field = .ok (some members) ↔ field = some (.object members) := by
  rw [present_eq_some fun content read => by cases read]
  simp only [readMap_eq_ok, exists_eq_right]

theorem present_amount {field : Option Value} {gas : Gas} :
    present readAmount field = .ok (some gas) ↔
      ∃ number, field = some (.number number) ∧ number.toFloat = gas := by
  rw [present_eq_some fun content read => by cases read]
  constructor
  · rintro ⟨value, given, read⟩
    obtain ⟨number, rfl, measured⟩ := readAmount_eq_ok.mp read
    exact ⟨number, given, measured⟩
  · rintro ⟨number, given, measured⟩
    exact ⟨_, given, readAmount_eq_ok.mpr ⟨number, rfl, measured⟩⟩

/-! Structures of one amount. -/

def amountParts (expected : Expected) (key : String) : (amountLayout expected key).Parts where
  Content _ := Gas
  get _ amount := amount
  set _ content _ := content
  read _ := readAmount
  get_set _ _ _ := rfl
  get_set_of_ne _ _ _ _ different := absurd rfl different
  ext _ _ same := same ()
  store_eq _ value _ := by
    change optional readAmount value = (optional readAmount value).map id
    cases optional readAmount value with
    | error cause => rfl
    | ok content => rfl

theorem amountLayout_named (expected : Expected) (key : String) :
    (amountLayout expected key).Named := by
  intro found field
  change (if found = key then some () else none) = some field ↔ found = key
  split
  · rename_i same
    exact ⟨fun _ => same, fun _ => rfl⟩
  · rename_i different
    constructor
    · intro missing
      cases missing
    · intro same
      exact absurd same different

theorem amountLayout_read_object {expected : Expected} {key : String}
    {members : List (String × Value)}
    (distinct : (members.map Prod.fst).Nodup) {amount : Option Gas} :
    (amountLayout expected key).read none (.object members) = .ok amount ↔
      present readAmount ((Value.object members).member? key) = .ok amount := by
  have named := amountLayout_named expected key
  rw [(amountParts expected key).read_object_eq_ok fun _ => rfl]
  constructor
  · rintro ⟨-, read⟩
    have here := read ()
    rw [named.value?_eq] at here
    exact here
  · intro read
    refine ⟨named.nodup_given distinct, fun field => ?_⟩
    rw [named.value?_eq]
    exact read

/-- An amount is read from the member under its key. -/
theorem amountLayout_read_eq_ok {expected : Expected} {key : String} {value : Value}
    (once : value.keysOnce = true) (plain : value.isArray = false) {amount : Option Gas} :
    (amountLayout expected key).read none value = .ok amount ↔
      value.IsObject ∧ present readAmount (value.member? key) = .ok amount := by
  constructor
  · intro done
    obtain ⟨members, rfl⟩ := Layout.isObject_of_read plain done
    exact ⟨⟨members, rfl⟩, (amountLayout_read_object (Value.keysOnce_object.mp once).1).mp done⟩
  · rintro ⟨⟨members, rfl⟩, read⟩
    exact (amountLayout_read_object (Value.keysOnce_object.mp once).1).mpr read

/-! The compiler. -/

def compilerParts : compilerLayout.Parts where
  Content _ := String
  get
    | .toolchain, draft => draft.toolchain
    | .version, draft => draft.version
  set
    | .toolchain, content, draft => { draft with toolchain := content }
    | .version, content, draft => { draft with version := content }
  read _ := readText
  get_set field _ _ := by
    cases field with
    | toolchain => rfl
    | version => rfl
  get_set_of_ne field _ _ other different := by
    cases field with
    | toolchain =>
        cases other with
        | toolchain => exact absurd rfl different
        | version => rfl
    | version =>
        cases other with
        | toolchain => rfl
        | version => exact absurd rfl different
  ext first second same := by
    cases first
    cases second
    exact congrArg₂ CompilerDraft.mk (same .toolchain) (same .version)
  store_eq field _ _ := by
    cases field with
    | toolchain => exact bind_ok_eq_map _ _
    | version => exact bind_ok_eq_map _ _

/-- The toolchain may be written under two keys. -/
theorem compilerField_toolchain {key : String} :
    CompilerField.ofKey? key = some .toolchain ↔ key = "type" ∨ key = "family" := by
  constructor
  · intro known
    unfold CompilerField.ofKey? at known
    split at known
    · exact .inl rfl
    · exact .inr rfl
    · cases known
    · cases known
  · rintro (rfl | rfl)
    · rfl
    · rfl

theorem compilerField_version {key : String} :
    CompilerField.ofKey? key = some .version ↔ key = "version" := by
  constructor
  · intro known
    unfold CompilerField.ofKey? at known
    split at known
    · cases known
    · cases known
    · rfl
    · cases known
  · rintro rfl
    rfl

/-- The toolchain is a text under exactly one of its two keys. -/
def ToolchainText (compiler : Value) (text : String) : Prop :=
  (compiler.member? "type" = some (.text text) ∧ compiler.member? "family" = none) ∨
    (compiler.member? "type" = none ∧ compiler.member? "family" = some (.text text))

/-- Keys stand once, so only the two keys of the toolchain can meet. -/
theorem nodup_given_compiler {members : List (String × Value)}
    (distinct : (members.map Prod.fst).Nodup)
    (one : "type" ∉ members.map Prod.fst ∨ "family" ∉ members.map Prod.fst) :
    (compilerLayout.given members).Nodup := by
  rw [Layout.given, List.Nodup, List.pairwise_filterMap]
  refine (List.pairwise_map.mp distinct).imp_of_mem ?_
  rintro first second firstInside secondInside apart field firstKnown _ secondKnown rfl
  have firstListed := List.mem_map_of_mem (f := Prod.fst) firstInside
  have secondListed := List.mem_map_of_mem (f := Prod.fst) secondInside
  cases field with
  | version =>
      exact apart ((compilerField_version.mp firstKnown).trans
        (compilerField_version.mp secondKnown).symm)
  | toolchain =>
      rcases compilerField_toolchain.mp firstKnown with firstType | firstFamily
      · rcases compilerField_toolchain.mp secondKnown with secondType | secondFamily
        · exact apart (firstType.trans secondType.symm)
        · rcases one with untyped | unfamilied
          · exact untyped (firstType ▸ firstListed)
          · exact unfamilied (secondFamily ▸ secondListed)
      · rcases compilerField_toolchain.mp secondKnown with secondType | secondFamily
        · rcases one with untyped | unfamilied
          · exact untyped (secondType ▸ secondListed)
          · exact unfamilied (firstFamily ▸ firstListed)
        · exact apart (firstFamily.trans secondFamily.symm)

/-- One of the two keys names the toolchain, and not both. -/
theorem value?_toolchain_iff {members : List (String × Value)}
    (distinct : (members.map Prod.fst).Nodup) {text : String} :
    ((compilerLayout.given members).Nodup ∧
        compilerLayout.value? .toolchain members = some (.text text)) ↔
      ToolchainText (.object members) text := by
  constructor
  · rintro ⟨once, found⟩
    obtain ⟨key, known, inside⟩ := (Layout.value?_eq_some once).mp found
    have alone : ∀ other, CompilerField.ofKey? other = some .toolchain → other ≠ key →
        (Value.object members).member? other = none := by
      intro other otherKnown different
      rw [Value.member?_eq_none]
      intro listed
      obtain ⟨member, otherInside, rfl⟩ := List.mem_map.mp listed
      exact different (congrArg Prod.fst
        (Layout.eq_of_nodup_given once otherInside inside otherKnown known))
    have given := (Value.member?_eq_some distinct).mpr inside
    rcases compilerField_toolchain.mp known with rfl | rfl
    · exact .inl ⟨given, alone "family" rfl (by decide)⟩
    · exact .inr ⟨alone "type" rfl (by decide), given⟩
  · rintro (⟨given, missing⟩ | ⟨missing, given⟩)
    · have once := nodup_given_compiler distinct (.inr (Value.member?_eq_none.mp missing))
      exact ⟨once, (Layout.value?_eq_some once).mpr
        ⟨"type", rfl, (Value.member?_eq_some distinct).mp given⟩⟩
    · have once := nodup_given_compiler distinct (.inl (Value.member?_eq_none.mp missing))
      exact ⟨once, (Layout.value?_eq_some once).mpr
        ⟨"family", rfl, (Value.member?_eq_some distinct).mp given⟩⟩

theorem value?_version {members : List (String × Value)}
    (distinct : (members.map Prod.fst).Nodup) (once : (compilerLayout.given members).Nodup) :
    compilerLayout.value? .version members = (Value.object members).member? "version" := by
  apply Option.ext
  intro value
  rw [Layout.value?_eq_some once, Value.member?_eq_some distinct]
  constructor
  · rintro ⟨key, known, inside⟩
    rw [compilerField_version.mp known] at inside
    exact inside
  · intro inside
    exact ⟨"version", rfl, inside⟩

/-- A compiler is read from its two texts. -/
theorem readCompiler_object {members : List (String × Value)}
    (distinct : (members.map Prod.fst).Nodup) {text version : String} :
    readCompiler (.object members) = .ok ⟨some text, some version⟩ ↔
      ToolchainText (.object members) text ∧
        (Value.object members).member? "version" = some (.text version) := by
  have empty : ∀ field, compilerParts.get field ⟨none, none⟩ = none := by
    intro field
    cases field with
    | toolchain => rfl
    | version => rfl
  rw [readCompiler, compilerParts.read_object_eq_ok empty, ← value?_toolchain_iff distinct]
  constructor
  · rintro ⟨given, read⟩
    refine ⟨⟨given, present_text.mp (read .toolchain)⟩, ?_⟩
    rw [← value?_version distinct given]
    exact present_text.mp (read .version)
  · rintro ⟨⟨given, named⟩, versioned⟩
    refine ⟨given, fun field => ?_⟩
    cases field with
    | toolchain => exact present_text.mpr named
    | version =>
        rw [value?_version distinct given]
        exact present_text.mpr versioned

/-- A compiler is read whole when it has a toolchain and a version. -/
theorem readCompiler_eq_ok {value : Value} (once : value.keysOnce = true)
    (plain : value.isArray = false)
    {text version : String} :
    readCompiler value = .ok ⟨some text, some version⟩ ↔
      ToolchainText value text ∧ value.member? "version" = some (.text version) := by
  constructor
  · intro done
    obtain ⟨members, rfl⟩ := Layout.isObject_of_read plain done
    exact (readCompiler_object (Value.keysOnce_object.mp once).1).mp done
  · intro described
    obtain ⟨members, rfl⟩ := Value.isObject_of_member? described.2
    exact (readCompiler_object (Value.keysOnce_object.mp once).1).mpr described

/-! The record. -/

def draftParts : draftLayout.Parts where
  Content
    | .compiler => CompilerDraft
    | .contract => String
    | .deployment => Option Gas
    | .functions => List (String × Value)
    | .settings => List (String × Value)
  get
    | .compiler, draft => draft.compiler
    | .contract, draft => draft.contract
    | .deployment, draft => draft.deployment
    | .functions, draft => draft.functions
    | .settings, draft => draft.settings
  set
    | .compiler, content, draft => { draft with compiler := content }
    | .contract, content, draft => { draft with contract := content }
    | .deployment, content, draft => { draft with deployment := content }
    | .functions, content, draft => { draft with functions := content }
    | .settings, content, draft => { draft with settings := content }
  read
    | .compiler => readCompiler
    | .contract => readText
    | .deployment => readDeployment
    | .functions => readMap
    | .settings => readMap
  get_set field _ _ := by
    cases field with
    | _ => rfl
  get_set_of_ne field _ _ other different := by
    cases field with
    | _ =>
        cases other with
        | _ => first | rfl | exact absurd rfl different
  ext first second same := by
    cases first
    cases second
    obtain rfl := same .compiler
    obtain rfl := same .contract
    obtain rfl := same .deployment
    obtain rfl := same .functions
    obtain rfl := same .settings
    rfl
  store_eq field _ _ := by
    cases field with
    | _ => exact bind_ok_eq_map _ _

theorem draftParts_get_nothing (field : Field) :
    draftParts.get field ⟨none, none, none, none, none⟩ = none := by
  cases field with
  | _ => rfl

/-- Each field of a record has one key. -/
theorem draftLayout_named : draftLayout.Named := by
  intro key field
  constructor
  · intro known
    have same := List.find?_some known
    exact (beq_iff_eq.mp same).symm
  · rintro rfl
    cases field with
    | _ => rfl

/-- Each field of the draft is read from its member of the value. -/
structure Draft.ReadFrom (draft : Draft) (value : Value) : Prop where
  compiler : present readCompiler (value.member? "compiler") = .ok draft.compiler
  contract : present readText (value.member? "contract") = .ok draft.contract
  deployment : present readDeployment (value.member? "deployment") = .ok draft.deployment
  functions : present readMap (value.member? "functions") = .ok draft.functions
  settings : present readMap (value.member? "compilerSettings") = .ok draft.settings

/-- A record is read field by field. -/
theorem Draft.read_eq_ok {value : Value} (object : value.IsObject) (once : value.keysOnce = true)
    {draft : Draft} : Draft.read value = .ok draft ↔ draft.ReadFrom value := by
  obtain ⟨members, rfl⟩ := object
  rw [Draft.read, draftParts.read_object_eq_ok draftParts_get_nothing]
  constructor
  · rintro ⟨-, read⟩
    have each : ∀ field, present (draftParts.read field)
        ((Value.object members).member? field.name) = .ok (draftParts.get field draft) := by
      intro field
      rw [← read field, draftLayout_named.value?_eq]
      rfl
    exact ⟨each .compiler, each .contract, each .deployment, each .functions, each .settings⟩
  · intro each
    refine ⟨draftLayout_named.nodup_given (Value.keysOnce_object.mp once).1, fun field => ?_⟩
    rw [draftLayout_named.value?_eq]
    cases field with
    | compiler => exact each.compiler
    | contract => exact each.contract
    | deployment => exact each.deployment
    | functions => exact each.functions
    | settings => exact each.settings

end Record

end GasReport
