import GasReport.Proofs.Record.Fields
import GasReport.Proofs.Record.Refusal
import GasReport.Proofs.Record.RoundTrip

namespace GasReport

open Json (Value)

/-- The value is an object without the member. -/
def Json.Value.Lacks (value : Value) (key : String) : Prop :=
  ∃ members, value = .object members ∧ key ∉ members.map Prod.fst

namespace Record

/-- The draft is given a compiler, whichever it had. -/
def Draft.compiledBy (name : BuildName) (draft : Draft) : Draft :=
  { draft with compiler := some (writtenCompiler name) }

/-! Records that are refused for a missing compiler. -/

theorem negative?_ne_missingField (place : String) (gas : Gas) (field : RequiredField) :
    negative? place gas ≠ some (.missingField field) := by
  rw [negative?]
  split
  · intro same
    cases same
  · intro none
    cases none

/-- Nothing but the check of a field refuses a record for missing it. -/
theorem Check.has_of_failure? {draft : Draft} {check : Check} {field : RequiredField}
    (failed : check.failure? draft = some (.missingField field)) : draft.has field = false := by
  cases check with
  | given other =>
      rw [failure?] at failed
      split at failed
      · cases failed
      · rename_i missing
        cases failed
        exact Bool.eq_false_iff.mpr missing
  | toolchainKnown | settingsGiven => simp [failure?] at failed
  | deploymentNotNegative =>
      obtain ⟨gas, -, negative⟩ := Option.bind_eq_some_iff.mp failed
      exact absurd negative (negative?_ne_missingField _ gas field)
  | decoded signature function | meanGiven signature function =>
      rw [failure?] at failed
      split at failed <;> cases failed
  | meanNotNegative signature function =>
      rw [failure?] at failed
      split at failed
      · exact absurd failed (negative?_ne_missingField _ _ field)
      · cases failed

/-- A compiler is missing when the drafted record has none. -/
theorem read_eq_missingCompiler {markers : Markers} {value : Value} :
    read markers value = .error (.missingField .compiler) ↔
      ∃ draft, Draft.read value = .ok draft ∧ draft.compiler = none := by
  constructor
  · intro refused
    cases drafted : Draft.read value with
    | error cause =>
        rw [read_of_draft_error markers drafted] at refused
        cases refused
    | ok draft =>
        have first := refusal?_read markers drafted
        rw [refusal?_eq_some.mpr refused] at first
        obtain ⟨check, -, failed⟩ := List.exists_of_findSome?_eq_some first.symm
        have missing : draft.compiler.isSome = false := Check.has_of_failure? failed
        exact ⟨draft, rfl, Option.not_isSome_iff_eq_none.mp (Bool.eq_false_iff.mp missing)⟩
  · rintro ⟨draft, drafted, missing⟩
    rw [read, drafted]
    simp only [missing]
    rfl

theorem present_compiler {members : List (String × Value)} {draft : Draft}
    (drafted : Draft.read (.object members) = .ok draft) :
    present readCompiler ((Value.object members).member? "compiler") = .ok draft.compiler := by
  obtain ⟨-, each⟩ := (draftParts.read_object_eq_ok draftParts_get_nothing).mp drafted
  have compiler := each .compiler
  rw [draftLayout_named.value?_eq] at compiler
  exact compiler

/-- A record without a compiler does not mention it, or says that it is null. -/
theorem compiler_eq_none {value : Value} {draft : Draft} (drafted : Draft.read value = .ok draft)
    (missing : draft.compiler = none) :
    value.Lacks "compiler" ∨ value.member? "compiler" = some .null ∨
      ∃ rest, value = .array (.null :: rest) := by
  cases value with
  | object members =>
      have compiler := present_compiler drafted
      rw [missing] at compiler
      rcases present_eq_none.mp compiler with absent | null
      · exact .inl ⟨members, rfl, Value.member?_eq_none.mp absent⟩
      · exact .inr (.inl null)
  | array items =>
      cases items with
      | nil => cases drafted
      | cons first rest =>
          obtain ⟨next, stored, others⟩ := bind_eq_ok.mp drafted
          rw [draftParts.store_eq, map_eq_ok] at stored
          obtain ⟨content, read, rfl⟩ := stored
          have kept := draftParts.get_of_readItems others (show Field.compiler ∉ _ by decide)
          rw [draftParts.get_set] at kept
          change draft.compiler = content at kept
          rw [← kept, missing] at read
          have unread : present readCompiler (some first) = .ok none := read
          rcases present_eq_none.mp unread with absent | null
          · cases absent
          · cases null
            exact .inr (.inr ⟨rest, rfl⟩)
  | null | truth | number | text => cases drafted

/-! Records that do not mention their compiler. -/

/-- A compiler that is written last is drafted with all else unchanged. -/
theorem read_compilerMember {members : List (String × Value)}
    (absent : "compiler" ∉ members.map Prod.fst) (name : BuildName) :
    Draft.read (.object (members ++ [("compiler", .object [
      ("type", .text name.toolchain.name), ("version", .text name.version)])])) =
        (Draft.read (.object members)).map (Draft.compiledBy name) := by
  have new : Field.compiler ∉ draftLayout.given members := by
    rw [← draftLayout.value?_eq_none, draftLayout_named.value?_eq]
    exact Value.member?_eq_none.mpr absent
  change draftLayout.readMembers [] _ (members ++ [_]) =
    (draftLayout.readMembers [] _ members).map _
  have known : draftLayout.ofKey? "compiler" = some .compiler := rfl
  rw [Layout.readMembers_concat known _ List.not_mem_nil new]
  cases draftLayout.readMembers [] _ members <;> rfl

/-- The compiler of the file passes its own checks and leaves the others. -/
theorem Check.failure?_compiledBy (name : BuildName) (draft : Draft) (check : Check) :
    (check ∈ ofBuild → check.failure? (draft.compiledBy name) = none) ∧
      (check ∉ ofBuild → check.failure? (draft.compiledBy name) = check.failure? draft) := by
  have known : isUnknown name.toolchain.name = false := by
    cases name.toolchain <;> rfl
  cases check with
  | toolchainKnown =>
      constructor
      · intro inside
        change ((some name.toolchain.name).filter isUnknown).map Error.unknownToolchain = none
        rw [Option.filter_some, known]
        rfl
      · intro outside
        exact absurd (by simp [ofBuild]) outside
  | given field =>
      cases field with
      | deploymentGas => exact ⟨fun inside => by simp [ofBuild] at inside, fun _ => rfl⟩
      | compiler | compilerType | compilerVersion =>
          exact ⟨fun _ => rfl, fun outside => absurd (by simp [ofBuild]) outside⟩
  | deploymentNotNegative | settingsGiven | decoded | meanGiven | meanNotNegative =>
      exact ⟨fun inside => by simp [ofBuild] at inside, fun _ => rfl⟩

theorem refusal?_eq_none {A : Type} {result : Except Error A} :
    refusal? result = none ↔ ∃ value, result = .ok value := by
  cases result with
  | error error => simp [refusal?]
  | ok value => simp [refusal?]

section

variable {markers : Markers} {name : BuildName} {value : Value} {draft : Draft}

/-- Only the other checks of a record may fail. -/
theorem exists_read_compiledBy (drafted : Draft.read value = .ok (draft.compiledBy name)) :
    (∃ record, read markers value = .ok record) ↔
      ∀ check ∈ draft.checks, check ∉ Check.ofBuild → check.failure? draft = none := by
  rw [← refusal?_eq_none, refusal?_read markers drafted, List.findSome?_eq_none_iff]
  refine forall₂_congr fun check inside => ?_
  obtain ⟨passes, same⟩ := check.failure?_compiledBy name draft
  constructor
  · intro passed outside
    rw [← same outside, passed]
  · intro others
    by_cases inside : check ∈ Check.ofBuild
    · exact passes inside
    · rw [same inside, others inside]

/-- A record with a compiler added is a record of that build. -/
theorem build_of_read_compiledBy (drafted : Draft.read value = .ok (draft.compiledBy name))
    {record : Record} (done : read markers value = .ok record) :
    record.build = .tagged markers name :=
  Except.ok.inj
    ((readBuild_of_read drafted done).symm.trans (readBuild_writtenCompiler markers name))

end

end Record

end GasReport
