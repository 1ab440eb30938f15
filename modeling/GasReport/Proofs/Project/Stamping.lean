import GasReport.Proofs.Project.Archive
import GasReport.Proofs.Record.Compiler

/-!
Records of a file with a version against their reader. The file supplies its compiler to a record
that does not mention one, but not to a record that says its compiler is null, although the reader
misses it there too.
-/

namespace GasReport

open Json (Value)

namespace Record

/-- This says how a record is read when it stands in a file with a version, where it is replaced by
`result`. -/
structure Supplied (markers : Markers) (name : BuildName) (value result : Value) : Prop where
  kept : read markers value ≠ .error (.missingField .compiler) →
    read markers result = read markers value
  supplied : read markers value = .error (.missingField .compiler) → value.Lacks "compiler" →
    read markers result ≠ .error (.missingField .compiler) ∧
    ∃ draft, Draft.read value = .ok draft ∧ Draft.read result = .ok (draft.compiledBy name) ∧
      ((∃ record, read markers result = .ok record) ↔
        ∀ check ∈ draft.checks, check ∉ Check.ofBuild → check.failure? draft = none) ∧
      ∀ record, read markers result = .ok record → record.build = .tagged markers name
  refused : read markers value = .error (.missingField .compiler) → ¬ value.Lacks "compiler" →
    result = value ∧
      (value.member? "compiler" = some .null ∨ ∃ rest, value = .array (.null :: rest))

/-- A record either has its compiler added or stays as it is. -/
theorem stamped_cases {toolchain : Toolchain} {version : String} {value result : Value}
    (stamped : Stamped toolchain version value result) :
    (∃ members, "compiler" ∉ members.map Prod.fst ∧ value = .object members ∧
      result = .object (members ++ [("compiler", .object [
        ("type", .text toolchain.name), ("version", .text version)])])) ∨
    (¬ value.Lacks "compiler" ∧ result = value) := by
  cases stamped with
  | added members absent =>
      refine .inl ⟨members, ?_, rfl, rfl⟩
      rw [List.mem_map]
      rintro ⟨member, inside, same⟩
      exact absent member inside same
  | kept members present =>
      refine .inr ⟨?_, rfl⟩
      rintro ⟨others, same, absent⟩
      cases same
      exact absent (List.mem_map.mpr present)
  | other value shapeless =>
      refine .inr ⟨?_, rfl⟩
      rintro ⟨members, same, -⟩
      exact shapeless members same

/-- What is added is read as the compiler, and nothing else changes. -/
theorem supplied_of_stamped (markers : Markers) {name : BuildName} {value result : Value}
    (stamped : Stamped name.toolchain name.version value result) :
    Supplied markers name value result := by
  rcases stamped_cases stamped with ⟨members, absent, rfl, rfl⟩ | ⟨mentioned, rfl⟩
  · have lacks : (Value.object members).Lacks "compiler" := ⟨members, rfl, absent⟩
    have drafted := read_compilerMember absent name
    constructor
    case kept =>
      intro accepted
      -- Without a compiler, only a record of another shape is not refused for the compiler.
      cases shape : Draft.read (.object members) with
      | error cause =>
          rw [shape] at drafted
          rw [read_of_draft_error markers drafted, read_of_draft_error markers shape]
      | ok draft =>
          have unmentioned := present_compiler shape
          rw [Value.member?_eq_none.mpr absent] at unmentioned
          have missing : draft.compiler = none := (Except.ok.inj unmentioned).symm
          exact absurd (read_eq_missingCompiler.mpr ⟨draft, shape, missing⟩) accepted
    case supplied =>
      intro refused _
      obtain ⟨draft, shape, -⟩ := read_eq_missingCompiler.mp refused
      rw [shape] at drafted
      refine ⟨?_, draft, shape, drafted, exists_read_compiledBy drafted,
        fun record done => build_of_read_compiledBy drafted done⟩
      intro missing
      obtain ⟨other, same, none⟩ := read_eq_missingCompiler.mp missing
      cases drafted.symm.trans same
      cases none
    case refused => exact fun _ given => absurd lacks given
  · constructor
    case kept => exact fun _ => rfl
    case supplied => exact fun _ lacks => absurd lacks mentioned
    case refused =>
      intro refused _
      obtain ⟨draft, drafted, missing⟩ := read_eq_missingCompiler.mp refused
      exact ⟨rfl, (compiler_eq_none drafted missing).resolve_left mentioned⟩

end Record

namespace Archive

open Record

/-- A report of one toolchain adds its stamped records to its slot. -/
theorem slot_extendSingle (archive : Archive) (report : SingleReport) :
    (archive.extendSingle report).slot report.project report.toolchain =
      archive.slot report.project report.toolchain ++ report.stamped := by
  change listOf ((archive.extend (.single report)).get? _) _ = _
  rw [get?_extend, listOf_merge, ReportFile.listOf_part_single, if_pos ⟨rfl, rfl⟩]
  rfl

/-- A file with a version adds its records behind those that are there, and supplies its compiler to
those that do not mention one. Records whose compiler is null are refused for it as before. -/
theorem extendSingle_supplies (markers : Markers) (archive : Archive) (project : String)
    (name : BuildName) (records : List Value) :
    ∃ stamped,
      (archive.extendSingle ⟨project, name.toolchain, some name.version, records⟩).slot project
        name.toolchain = archive.slot project name.toolchain ++ stamped ∧
      List.Forall₂ (Supplied markers name) records stamped := by
  refine ⟨_, archive.slot_extendSingle ⟨project, _, _, records⟩, ?_⟩
  exact (forall₂_stamped_iff.mpr rfl).imp fun _ _ => supplied_of_stamped markers

/-- The compiler is not mentioned, or null in an object, or null in an array of the fields. -/
def withoutCompiler : List Value :=
  [.object [("contract", .text "Token"), ("deployment", .object [("gas", .count 1000)])],
    .object [("compiler", .null), ("contract", .text "Vault"),
      ("deployment", .object [("gas", .count 2000)])],
    .array [.null, .text "Bank", .array [.count 3000], .object [], .null]]

/-- All three records are refused for their missing compiler, and two of them still are when the
file has a version. -/
theorem not_supplied_withoutCompiler :
    (∀ value ∈ withoutCompiler, read .standard value = .error (.missingField .compiler)) ∧
    (ingest .standard ((extendSingle .empty ⟨"alpha", .solc, some "0.8.30", withoutCompiler⟩).slot
      "alpha" .solc)).map
        (fun record => (record.build.name, record.measurement?.map (·.contract))) =
        [(⟨.solc, "0.8.30"⟩, some "Token")] ∧
    ¬ ∀ value ∈ withoutCompiler, read .standard value = .error (.missingField .compiler) →
      read .standard (stamp .solc "0.8.30" value) ≠ .error (.missingField .compiler) := by
  have refused : ∀ value ∈ withoutCompiler,
      read .standard value = .error (.missingField .compiler) := by
    simp only [withoutCompiler, List.forall_mem_cons]
    exact ⟨rfl, rfl, rfl, List.forall_mem_nil _⟩
  refine ⟨refused, by decide +kernel, ?_⟩
  intro claimed
  have listed : withoutCompiler[1] ∈ withoutCompiler := List.getElem_mem _
  exact claimed _ listed (refused _ listed) rfl

end Archive

end GasReport
