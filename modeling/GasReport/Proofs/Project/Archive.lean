import GasReport.Project.Archive
import Mathlib.Data.List.Forall2
import Mathlib.Data.List.Induction

namespace GasReport

open Json (Value)

/-! What a file contributes. -/

/-- This says how a record of a file with a version stands in the archive. -/
inductive Stamped (toolchain : Toolchain) (version : String) : Value → Value → Prop
  | added (members : List (String × Value)) (absent : ∀ member ∈ members, member.1 ≠ "compiler") :
      Stamped toolchain version (.object members) (.object (members ++ [("compiler", .object [
        ("type", .text toolchain.name), ("version", .text version)])]))
  | kept (members : List (String × Value)) (present : ∃ member ∈ members, member.1 = "compiler") :
      Stamped toolchain version (.object members) (.object members)
  | other (value : Value) (shapeless : ∀ members, value ≠ .object members) :
      Stamped toolchain version value value

namespace ReportFile

/-- These are the records that a file has for a slot. -/
inductive Contributes (project : String) (toolchain : Toolchain) : ReportFile → List Value → Prop
  | unversioned (records : List Value) :
      Contributes project toolchain (.single ⟨project, toolchain, none, records⟩) records
  | versioned (version : String) {records stamped : List Value}
      (each : List.Forall₂ (Stamped toolchain version) records stamped) :
      Contributes project toolchain (.single ⟨project, toolchain, some version, records⟩) stamped
  | elsewhere {report : SingleReport}
      (apart : ¬ (report.project = project ∧ report.toolchain = toolchain)) :
      Contributes project toolchain (.single report) []
  | listed {projects : Dictionary ProjectRecords} {records : ProjectRecords}
      (found : projects.get? project = some records) :
      Contributes project toolchain (.combined projects) (records.of toolchain)
  | unlisted {projects : Dictionary ProjectRecords} (missing : projects.get? project = none) :
      Contributes project toolchain (.combined projects) []

/-- The file names the project, with records or without. -/
inductive Mentions (project : String) : ReportFile → Prop
  | single {report : SingleReport} (named : report.project = project) :
      Mentions project (.single report)
  | combined {projects : Dictionary ProjectRecords} (listed : project ∈ projects.keys) :
      Mentions project (.combined projects)

/-- The file has at least one record for the slot. -/
def Fills (file : ReportFile) (project : String) (toolchain : Toolchain) : Prop :=
  ∃ records, file.Contributes project toolchain records ∧ records ≠ []

/-- The files have no slot that both of them fill. -/
def Apart (first second : ReportFile) : Prop :=
  ∀ project toolchain, ¬ (first.Fills project toolchain ∧ second.Fills project toolchain)

end ReportFile

theorem any_compiler {members : List (String × Value)} :
    members.any (·.1 = "compiler") = true ↔ ∃ member ∈ members, member.1 = "compiler" := by
  simp only [List.any_eq_true, decide_eq_true_eq]

/-- Exactly one value is stamped from a record. -/
theorem stamped_iff {toolchain : Toolchain} {version : String} {value result : Value} :
    Stamped toolchain version value result ↔ stamp toolchain version value = result := by
  constructor
  · intro stamped
    cases stamped with
    | added members absent =>
        rw [stamp, if_neg]
        rw [any_compiler]
        intro ⟨member, inside, same⟩
        exact absent member inside same
    | kept members present => rw [stamp, if_pos (any_compiler.mpr present)]
    | other value shapeless =>
        cases value with
        | object members => exact absurd rfl (shapeless members)
        | null | truth | number | text | array => rfl
  · intro same
    subst same
    cases value with
    | object members =>
        rw [stamp]
        split
        case isTrue present => exact .kept members (any_compiler.mp present)
        case isFalse absent =>
            rw [any_compiler] at absent
            exact .added members fun member inside same => absent ⟨member, inside, same⟩
    | null | truth | number | text | array => exact .other _ (fun members same => by cases same)

/-- The records of a file are stamped one by one. -/
theorem forall₂_stamped_iff {toolchain : Toolchain} {version : String}
    {records stamped : List Value} :
    List.Forall₂ (Stamped toolchain version) records stamped ↔
      records.map (stamp toolchain version) = stamped := by
  have related : Stamped toolchain version =
      fun value result => stamp toolchain version value = result := by
    funext value result
    exact propext stamped_iff
  rw [related, ← List.forall₂_map_left_iff, List.forall₂_eq_eq_eq]

/-! Records of projects that are joined. -/

namespace ProjectRecords

def append (first second : ProjectRecords) : ProjectRecords :=
  ⟨first.solc ++ second.solc, first.solx ++ second.solx⟩

/-- The lists of joined records are joined. -/
theorem of_append (first second : ProjectRecords) (toolchain : Toolchain) :
    (first.append second).of toolchain = first.of toolchain ++ second.of toolchain := by
  cases toolchain <;> rfl

/-- Records are told by the lists of both toolchains. -/
theorem ext_of {first second : ProjectRecords}
    (same : ∀ toolchain, first.of toolchain = second.of toolchain) : first = second := by
  cases first
  cases second
  cases same .solc
  cases same .solx
  rfl

theorem of_extend_empty (toolchain other : Toolchain) (values : List Value) :
    (empty.extend toolchain values).of other = if toolchain = other then values else [] := by
  cases toolchain <;> cases other <;> rfl

/-- Extending one list is joining what has that list alone. -/
theorem extend_eq_append (records : ProjectRecords) (toolchain : Toolchain)
    (values : List Value) :
    records.extend toolchain values = records.append (empty.extend toolchain values) := by
  apply ext_of
  intro other
  rw [of_append]
  cases toolchain <;> cases other
  all_goals simp [extend, of, empty]

/-- Joined records may change places if no toolchain has records in both. -/
theorem append_right_comm (records : ProjectRecords) {first second : ProjectRecords}
    (apart : ∀ toolchain, first.of toolchain = [] ∨ second.of toolchain = []) :
    (records.append first).append second = (records.append second).append first := by
  apply ext_of
  intro toolchain
  simp only [of_append]
  rcases apart toolchain with none | none
  · rw [none, List.append_nil, List.append_nil]
  · rw [none, List.append_nil, List.append_nil]

end ProjectRecords

/-! One file. -/

namespace ReportFile

/-- This is what a file adds to a project that it mentions. -/
def part? (project : String) : ReportFile → Option ProjectRecords
  | .single report =>
    if report.project = project then
      some (ProjectRecords.empty.extend report.toolchain report.stamped)
    else none
  | .combined projects => projects.get? project

end ReportFile

/-- These are the records of a toolchain, if there are any. -/
def listOf (records : Option ProjectRecords) (toolchain : Toolchain) : List Value :=
  (records.map (·.of toolchain)).getD []

/-- Merged records are listed one after the other. -/
theorem listOf_merge (first second : Option ProjectRecords) (toolchain : Toolchain) :
    listOf (first.merge ProjectRecords.append second) toolchain =
      listOf first toolchain ++ listOf second toolchain := by
  cases first with
  | none => cases second <;> rfl
  | some records =>
      cases second with
      | none => exact (List.append_nil _).symm
      | some others => exact ProjectRecords.of_append records others toolchain

/-- Records of different slots are merged in either order. -/
theorem merge_right_comm (records : Option ProjectRecords) {first second : Option ProjectRecords}
    (apart : ∀ toolchain, listOf first toolchain = [] ∨ listOf second toolchain = []) :
    (records.merge ProjectRecords.append first).merge ProjectRecords.append second =
      (records.merge ProjectRecords.append second).merge ProjectRecords.append first := by
  cases first with
  | none => cases records <;> cases second <;> rfl
  | some firstPart =>
      cases second with
      | none => cases records <;> rfl
      | some secondPart =>
          cases records with
          | none => exact congrArg some (ProjectRecords.append_right_comm .empty apart)
          | some records => exact congrArg some (ProjectRecords.append_right_comm records apart)

theorem Dictionary.mem_keys {A : Type} {dictionary : Dictionary A} {key : String} :
    key ∈ dictionary.keys ↔ (dictionary.get? key).isSome = true := by
  rw [keys, get?, find, Option.isSome_map, List.find?_isSome, List.mem_map]
  simp only [beq_iff_eq]

namespace ReportFile

/-- A file mentions a project when it has a part for it. -/
theorem mentions_iff {file : ReportFile} {project : String} :
    file.Mentions project ↔ (file.part? project).isSome = true := by
  cases file with
  | single report =>
      rw [part?]
      constructor
      · intro mentioned
        cases mentioned with
        | single named =>
            rw [if_pos named]
            rfl
      · intro present
        split at present
        case isTrue named => exact .single named
        case isFalse => cases present
  | combined projects =>
      rw [part?, ← Dictionary.mem_keys]
      constructor
      · intro mentioned
        cases mentioned with
        | combined listed => exact listed
      · exact .combined

/-- A report of one toolchain fills its own slot alone. -/
theorem listOf_part_single (report : SingleReport) (project : String) (toolchain : Toolchain) :
    listOf ((single report).part? project) toolchain =
      if report.project = project ∧ report.toolchain = toolchain then report.stamped else [] := by
  rw [part?]
  by_cases named : report.project = project
  · rw [if_pos named]
    change (ProjectRecords.empty.extend _ _).of toolchain = _
    rw [ProjectRecords.of_extend_empty]
    simp only [named, true_and]
  · rw [if_neg named, if_neg fun same => named same.1]
    rfl

/-- A file contributes its part of the project, and nothing else. -/
theorem contributes_iff {file : ReportFile} {project : String} {toolchain : Toolchain}
    {records : List Value} :
    file.Contributes project toolchain records ↔
      listOf (file.part? project) toolchain = records := by
  constructor
  · intro contributes
    cases contributes with
    | unversioned records =>
        rw [listOf_part_single, if_pos ⟨rfl, rfl⟩]
        rfl
    | versioned version each =>
        rw [listOf_part_single, if_pos ⟨rfl, rfl⟩]
        exact forall₂_stamped_iff.mp each
    | elsewhere apart => rw [listOf_part_single, if_neg apart]
    | listed found =>
        rw [part?, found]
        rfl
    | unlisted missing =>
        rw [part?, missing]
        rfl
  · intro same
    subst same
    cases file with
    | single report =>
        rw [listOf_part_single]
        split
        case isTrue here =>
            obtain ⟨_, _, version, records⟩ := report
            obtain ⟨rfl, rfl⟩ := here
            cases version with
            | none => exact .unversioned records
            | some version => exact .versioned version (forall₂_stamped_iff.mpr rfl)
        case isFalse apart => exact .elsewhere apart
    | combined projects =>
        rw [part?]
        cases found : projects.get? project with
        | none => exact .unlisted found
        | some records => exact .listed found

/-- A slot is filled when its part has a record for it. -/
theorem fills_iff {file : ReportFile} {project : String} {toolchain : Toolchain} :
    file.Fills project toolchain ↔ listOf (file.part? project) toolchain ≠ [] := by
  simp only [Fills, contributes_iff, exists_eq_left']

end ReportFile

namespace Archive

/-- Extending a project changes no other project. -/
theorem get?_extendProject (archive : Archive) (project : String) (toolchain : Toolchain)
    (values : List Value) (other : String) :
    (archive.extendProject project toolchain values).get? other =
      (archive.get? other).merge ProjectRecords.append
        (if project = other then some (ProjectRecords.empty.extend toolchain values)
          else none) := by
  rw [extendProject, Dictionary.get?_update]
  by_cases same : other = project
  · subst same
    rw [if_pos rfl, if_pos rfl, ProjectRecords.extend_eq_append]
    cases archive.get? other <;> rfl
  · rw [if_neg same, if_neg (Ne.symm same)]
    cases archive.get? other <;> rfl

/-- The projects of a file are distinct, so each is joined once. -/
theorem get?_foldl_entries {entries : List (String × ProjectRecords)}
    (distinct : (entries.map (·.1)).Nodup) (archive : Archive) (project : String) :
    (entries.foldl (fun archive entry => archive.update entry.1 .empty fun records =>
        (records.extend .solc entry.2.solc).extend .solx entry.2.solx) archive).get? project =
      (archive.get? project).merge ProjectRecords.append (Dictionary.find project entries) := by
  induction entries generalizing archive with
  | nil =>
      change archive.get? project = _
      cases archive.get? project <;> rfl
  | cons entry rest ih =>
      obtain ⟨absent, restDistinct⟩ := List.nodup_cons.mp distinct
      rw [List.foldl_cons, ih restDistinct, Dictionary.get?_update, Dictionary.find_cons]
      -- Only this entry has its key, so the project is joined here or in the rest, not in both.
      by_cases same : project = entry.1
      · subst same
        rw [if_pos rfl, if_pos rfl, Dictionary.find_eq_none absent]
        cases archive.get? entry.1 <;> rfl
      · rw [if_neg same, if_neg same]

/-- A file adds its part to what is there. -/
theorem get?_extend (archive : Archive) (file : ReportFile) (project : String) :
    (archive.extend file).get? project =
      (archive.get? project).merge ProjectRecords.append (file.part? project) := by
  cases file with
  | single report => exact archive.get?_extendProject _ _ _ project
  | combined projects => exact get?_foldl_entries projects.nodup_keys archive project

/-- These are the records of a project and a toolchain. -/
def slot (archive : Archive) (project : String) (toolchain : Toolchain) : List Value :=
  listOf (archive.get? project) toolchain

/-- The archive holds what the files contribute, and nothing else. -/
structure Gathers (archive : Archive) (files : List ReportFile) : Prop where
  mentioned : ∀ project, project ∈ archive.keys ↔ ∃ file ∈ files, file.Mentions project
  gathered : ∀ project toolchain, ∃ parts,
    List.Forall₂ (ReportFile.Contributes project toolchain) files parts ∧
      archive.slot project toolchain = parts.flatten

theorem gathers_empty : Gathers Dictionary.empty [] where
  mentioned project := by
    simp [Dictionary.mem_keys, Dictionary.get?, Dictionary.find, Dictionary.empty]
  gathered project toolchain := ⟨[], .nil, rfl⟩

/-- One more file adds its records behind those that are there. -/
theorem Gathers.extend {archive : Archive} {files : List ReportFile}
    (gathers : archive.Gathers files) (file : ReportFile) :
    (archive.extend file).Gathers (files ++ [file]) where
  mentioned project := by
    have before := gathers.mentioned project
    rw [Dictionary.mem_keys] at before
    rw [Dictionary.mem_keys, get?_extend, Option.isSome_merge, Bool.or_eq_true, before,
      ← ReportFile.mentions_iff]
    simp only [List.mem_append, List.mem_singleton, or_and_right, exists_or, exists_eq_left]
  gathered project toolchain := by
    obtain ⟨parts, each, slot⟩ := gathers.gathered project toolchain
    refine ⟨parts ++ [listOf (file.part? project) toolchain], ?_, ?_⟩
    · exact List.rel_append each (.cons (ReportFile.contributes_iff.mpr rfl) .nil)
    · rw [Archive.slot, get?_extend, listOf_merge, ← Archive.slot, slot, List.flatten_append,
        List.flatten_singleton]

/-- An archive that is loaded from files gathers them. -/
theorem gathers_foldl (files : List ReportFile) :
    (files.foldl extend Dictionary.empty).Gathers files := by
  induction files using List.reverseRecOn with
  | nil => exact gathers_empty
  | append_singleton files file ih =>
      rw [List.foldl_concat]
      exact ih.extend file

/-- Files that fill no slot in common may be loaded in either order. -/
theorem extend_comm (archive : Archive) {first second : ReportFile} (apart : first.Apart second) :
    (archive.extend first).extend second = (archive.extend second).extend first := by
  apply Dictionary.eq_of_get?
  intro project
  rw [get?_extend, get?_extend, get?_extend, get?_extend]
  apply merge_right_comm
  intro toolchain
  have either := apart project toolchain
  rw [ReportFile.fills_iff, ReportFile.fills_iff, not_and_or, not_not, not_not] at either
  exact either

/-- Loading files loses nothing, and their order counts only where they fill the same slot. -/
theorem files_gathered (files : List ReportFile) :
    (files.foldl extend Dictionary.empty).Gathers files ∧
      ∀ (archive : Archive) (first second : ReportFile), first.Apart second →
        (archive.extend first).extend second = (archive.extend second).extend first := by
  constructor
  · exact gathers_foldl files
  · intro archive first second apart
    exact archive.extend_comm apart

/-- A plain report of one toolchain, and reports of two projects of which one has no records. -/
def plainAndCombined : ReportFile × ReportFile :=
  (.single ⟨"alpha", .solc, some "0.8.30",
    [.object [("contract", .text "Token")], .object [("compiler", .null)], .null]⟩,
   .combined (Dictionary.ofList [("beta", ⟨[], []⟩), ("alpha", ⟨[], [.truth true]⟩)]))

theorem files_gathered_plainAndCombined :
    plainAndCombined.1.Apart plainAndCombined.2 ∧
    ([plainAndCombined.1, plainAndCombined.2].foldl extend Dictionary.empty).Gathers
      [plainAndCombined.1, plainAndCombined.2] ∧
    [plainAndCombined.1, plainAndCombined.2].foldl extend Dictionary.empty =
      [plainAndCombined.2, plainAndCombined.1].foldl extend Dictionary.empty ∧
    ([plainAndCombined.1, plainAndCombined.2].foldl extend Dictionary.empty).entries =
      [("alpha", ⟨[.object [("contract", .text "Token"), ("compiler", .object [
          ("type", .text "solc"), ("version", .text "0.8.30")])],
        .object [("compiler", .null)], .null], [.truth true]⟩), ("beta", ⟨[], []⟩)] := by
  have apart : plainAndCombined.1.Apart plainAndCombined.2 := by
    intro project toolchain
    rw [ReportFile.fills_iff, ReportFile.fills_iff, not_and_or, not_not, not_not]
    cases toolchain with
    | solc =>
        right
        change listOf ((Dictionary.ofList _).get? project) .solc = []
        simp only [Dictionary.ofList, List.foldl_cons, List.foldl_nil, Dictionary.get?_insert]
        split
        · rfl
        · split <;> rfl
    | solx =>
        left
        rw [plainAndCombined, ReportFile.listOf_part_single]
        apply if_neg
        intro same
        cases same.2
  obtain ⟨gathers, comm⟩ := files_gathered [plainAndCombined.1, plainAndCombined.2]
  exact ⟨apart, gathers, comm _ _ _ apart, rfl⟩

end Archive

end GasReport
