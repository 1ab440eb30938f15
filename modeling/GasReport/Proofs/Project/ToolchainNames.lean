import GasReport.Project.File
import GasReport.Proofs.Record.Compiler

namespace GasReport

open Json (Tree Value)

/-- A list is not read when one of its items is not. -/
theorem mapM_eq_none {A B : Type} {read : A → Option B} {items : List A} {item : A}
    (inside : item ∈ items) (unread : read item = none) : items.mapM read = none := by
  induction inside with
  | head rest => rw [List.mapM_cons, unread, Option.bind_eq_bind, Option.bind_none]
  | tail first _ ih =>
      rw [List.mapM_cons, ih]
      cases read first <;> rfl

/-- A search that may succeed at one place only gives what is found there. -/
theorem findSome?_eq_of_alone {A B : Type} {find : A → Option B} {items : List A} {item : A}
    (inside : item ∈ items) (others : ∀ other ∈ items, other ≠ item → find other = none) :
    items.findSome? find = find item := by
  cases found : find item with
  | none =>
      rw [List.findSome?_eq_none_iff]
      intro other given
      by_cases same : other = item
      · rw [same, found]
      · exact others other given same
  | some value =>
      have succeeds : (items.findSome? find).isSome := by
        rw [List.findSome?_isSome_iff]
        exact ⟨item, inside, by rw [found, Option.isSome_some]⟩
      obtain ⟨result, first⟩ := Option.isSome_iff_exists.mp succeeds
      obtain ⟨other, given, source⟩ := List.exists_of_findSome?_eq_some first
      by_cases same : other = item
      · rw [first, ← source, same, found]
      · rw [others other given same] at source
        cases source

theorem Json.Tree.mem_of_field? {members : List (String × Tree)} {key : String} {tree : Tree}
    (given : Tree.field? members key = some (some tree)) : (key, tree) ∈ members := by
  rw [Tree.field?] at given
  split at given
  · cases given
  · rename_i member alone
    cases given
    have inside : member ∈ members.filter (·.1 == key) := alone ▸ List.mem_singleton_self member
    obtain ⟨listed, same⟩ := List.mem_filter.mp inside
    rw [← beq_iff_eq.mp same]
    exact listed
  · cases given

theorem Json.Tree.eq_text_of_string? {tree : Tree} {text : String}
    (given : tree.string? = some text) :
    ∃ glyphs, tree = .text glyphs ∧ Json.textOf? glyphs = some text := by
  cases tree with
  | text glyphs => exact ⟨glyphs, rfl, given⟩
  | null | truth | number | array | object => cases given

/-! Files that name their toolchain by a text. -/

/-- This is the report of one toolchain, of which there is only the name. -/
structure NamedReport where
  project : String
  name : String
  version : Option String
  records : List Value

namespace NamedReport

def single (report : NamedReport) (toolchain : Toolchain) : SingleReport :=
  ⟨report.project, toolchain, report.version, report.records⟩

/-- The report is read from these four trees. Any text may name the toolchain. -/
structure FromParts (report : NamedReport) (project toolchain : Tree) (version : Option Tree)
    (records : Tree) : Prop where
  project : project.string? = some report.project
  toolchain : toolchain.string? = some report.name
  version : SingleReport.version? (version.getD .null) = some report.version
  records : records.values? 2 = some report.records

/-- The parts stand under their keys or in their order. -/
inductive From (report : NamedReport) : Tree → Prop where
  | object {members keyed project toolchain version records}
      (keys : Tree.keyed? members = some keyed)
      (ofProject : Tree.field? keyed "project" = some (some project))
      (ofToolchain : Tree.field? keyed "toolchain" = some (some toolchain))
      (ofVersion : Tree.field? keyed "version" = some version)
      (ofRecords : Tree.field? keyed "data" = some (some records))
      (parts : report.FromParts project toolchain version records) : From report (.object members)
  | array {project toolchain version records}
      (parts : report.FromParts project toolchain (some version) records) :
      From report (.array [project, toolchain, version, records])

/-- The text is a document whose only doubtful part is the name of the toolchain. -/
structure WrittenIn (report : NamedReport) (tree : Tree) (text : String) : Prop where
  given : Text.isBlank text = false
  whole : Tree.ofText? text = some tree
  readable : (tree.value? Json.deepest).isSome
  layout : report.From tree

variable {report : NamedReport} {tree : Tree}

/-- Only the exact name of a toolchain makes a report. -/
theorem FromParts.ofParts? {project toolchain records : Tree} {version : Option Tree}
    (parts : report.FromParts project toolchain version records) :
    SingleReport.ofParts? project toolchain version records =
      (Toolchain.ofExactName? report.name).map report.single := by
  have named : SingleReport.toolchain? toolchain = Toolchain.ofExactName? report.name := by
    obtain ⟨glyphs, rfl, text⟩ := Tree.eq_text_of_string? parts.toolchain
    change (Json.textOf? glyphs).bind _ = _
    rw [text, Option.bind_some]
  rw [SingleReport.ofParts?, parts.project, named, parts.version, parts.records]
  cases Toolchain.ofExactName? report.name <;> rfl

theorem From.ofTree? (layout : report.From tree) :
    SingleReport.ofTree? tree = (Toolchain.ofExactName? report.name).map report.single := by
  cases layout with
  | object keys ofProject ofToolchain ofVersion ofRecords parts =>
      rw [SingleReport.ofTree?, keys]
      simp only [Option.bind_eq_bind, Option.bind_some, ofProject, ofToolchain, ofVersion,
        ofRecords]
      exact parts.ofParts?
  | array parts => exact parts.ofParts?

/-- The name of a toolchain is not the reports of a project. -/
theorem From.combined? (layout : report.From tree) : ReportFile.combined? tree = none := by
  cases layout with
  | object keys _ ofToolchain _ _ parts =>
      obtain ⟨glyphs, rfl, -⟩ := Tree.eq_text_of_string? parts.toolchain
      rw [ReportFile.combined?, keys, Option.bind_eq_bind, Option.bind_some,
        mapM_eq_none (Tree.mem_of_field? ofToolchain) rfl]
      rfl
  | array parts => rfl

/-- The exact name decides whether a text is a report. -/
theorem WrittenIn.ofText {text : String} (written : report.WrittenIn tree text) :
    ReportFile.ofText text =
      match Toolchain.ofExactName? report.name with
      | some toolchain => .ok (.single (report.single toolchain))
      | none => .error .unknownLayout := by
  have leading : Tree.leading? text = some (tree, true) := by
    have whole := written.whole
    rw [Tree.ofText?] at whole
    split at whole
    · rename_i alone
      cases whole
      exact alone
    · cases whole
  have readable := Option.isNone_eq_false_iff.mpr written.readable
  rw [ReportFile.ofText, written.given, leading]
  simp only [Bool.false_eq_true, if_false, if_true, readable, ReportFile.ofTree?,
    written.layout.ofTree?, written.layout.combined?]
  cases Toolchain.ofExactName? report.name <;> rfl

end NamedReport

/-! Records that name their toolchain by a text. -/

namespace Record

/-- The record has this name of its toolchain, which is the only one of its checks that may fail. -/
structure Names (value : Value) (name : String) (draft : Draft) : Prop where
  drafted : Draft.read value = .ok draft
  named : draft.toolchain? = some name
  passed : ∀ check ∈ draft.checks, check ≠ .toolchainKnown → check.failure? draft = none

/-- The record is accepted, as one of this toolchain. -/
def AcceptedAs (markers : Markers) (value : Value) (toolchain : Toolchain) : Prop :=
  ∃ record, read markers value = .ok record ∧ record.build.toolchain = toolchain

variable {markers : Markers} {value : Value} {name : String} {draft : Draft}

/-- A record fails for its toolchain when no toolchain has the name in lower case. -/
theorem Names.failure?_toolchainKnown (names : Names value name draft) :
    Check.failure? draft .toolchainKnown =
      if (Toolchain.ofName? name).isNone then some (.unknownToolchain name) else none := by
  rw [Check.failure?, names.named, Option.filter_some, isUnknown_eq]
  split <;> rfl

/-- Only the check of the toolchain decides. -/
theorem Names.refusal? (names : Names value name draft) :
    refusal? (read markers value) =
      if (Toolchain.ofName? name).isNone then some (.unknownToolchain name) else none := by
  have listed : Check.toolchainKnown ∈ draft.checks :=
    List.mem_append_left _ (by simp [Check.ofBuild])
  rw [refusal?_read markers names.drafted, findSome?_eq_of_alone listed names.passed,
    names.failure?_toolchainKnown]

/-- A record that is read has the toolchain that its name says in lower case. -/
theorem Names.toolchain_of_read (names : Names value name draft) {record : Record}
    (done : read markers value = .ok record) :
    Text.lowercase name = record.build.toolchain.name := by
  obtain ⟨text, built, given, known, made⟩ :=
    readBuild_eq_ok.mp (readBuild_of_read names.drafted done)
  have named := names.named
  rw [Draft.toolchain?, given] at named
  cases named
  rw [made]
  exact known

/-- A record is accepted for a toolchain when its name in lower case is that of the toolchain. -/
theorem Names.acceptedAs_iff (names : Names value name draft) (toolchain : Toolchain) :
    AcceptedAs markers value toolchain ↔ Text.lowercase name = toolchain.name := by
  constructor
  · rintro ⟨record, done, rfl⟩
    exact names.toolchain_of_read done
  · intro known
    have accepted : Record.refusal? (read markers value) = none := by
      rw [names.refusal?, Toolchain.ofName?_eq_some.mpr known]
      rfl
    obtain ⟨record, done⟩ := refusal?_eq_none.mp accepted
    have same := (names.toolchain_of_read done).symm.trans known
    refine ⟨record, done, ?_⟩
    rw [← Toolchain.ofExactName?_eq_some, Toolchain.ofExactName?_eq_some.mpr rfl] at same
    exact Option.some.inj same

end Record

open Record

/-- This says what becomes of a file and of a record that write their toolchain by the same name. -/
structure NamedReport.Outcome (report : NamedReport) (markers : Markers) (text : String)
    (value : Value) :
    Prop where
  decoded : ∀ toolchain, ReportFile.ofText text = .ok (.single (report.single toolchain)) ↔
    report.name = toolchain.name
  undecoded : (∀ toolchain, report.name ≠ Toolchain.name toolchain) →
    ReportFile.ofText text = .error .unknownLayout
  accepted : ∀ toolchain, AcceptedAs markers value toolchain ↔
    Text.lowercase report.name = toolchain.name
  refused : (∀ toolchain, Text.lowercase report.name ≠ Toolchain.name toolchain) →
    read markers value = .error (.unknownToolchain report.name)
  both : ∀ toolchain, ReportFile.ofText text = .ok (.single (report.single toolchain)) ↔
    AcceptedAs markers value toolchain ∧ Text.lowercase report.name = report.name

/-- A file is decoded only under the exact name. -/
theorem NamedReport.WrittenIn.decoded_iff {report : NamedReport} {tree : Tree} {text : String}
    (written : report.WrittenIn tree text) (toolchain : Toolchain) :
    ReportFile.ofText text = .ok (.single (report.single toolchain)) ↔
      report.name = toolchain.name := by
  rw [written.ofText, ← Toolchain.ofExactName?_eq_some]
  cases Toolchain.ofExactName? report.name with
  | none => simp
  | some other => simp [NamedReport.single]

/-- A file is decoded when it has the exact name of a toolchain, and a record is accepted when the
lower case of its text is such a name. Texts that are in lower case mean the same in both. -/
theorem toolchainName_decides (markers : Markers) {report : NamedReport} {tree : Tree}
    {text : String}
    {value : Value} {draft : Draft} (written : report.WrittenIn tree text)
    (names : Names value report.name draft) : report.Outcome markers text value := by
  have accepted (toolchain : Toolchain) : AcceptedAs markers value toolchain ↔
      Text.lowercase report.name = toolchain.name := names.acceptedAs_iff toolchain
  constructor
  case decoded => exact written.decoded_iff
  case undecoded =>
    intro unnamed
    rw [written.ofText]
    cases found : Toolchain.ofExactName? report.name with
    | none => rfl
    | some toolchain => exact absurd (Toolchain.ofExactName?_eq_some.mp found) (unnamed toolchain)
  case accepted => exact accepted
  case refused =>
    intro unknown
    rw [← refusal?_eq_some, names.refusal?]
    cases found : Toolchain.ofName? report.name with
    | none => rfl
    | some toolchain => exact absurd (Toolchain.ofName?_eq_some.mp found) (unknown toolchain)
  case both =>
    intro toolchain
    rw [written.decoded_iff, accepted]
    constructor
    · intro same
      rw [same]
      exact ⟨toolchain.lowercase_name, toolchain.lowercase_name⟩
    · rintro ⟨known, lower⟩
      rw [← lower, known]

/-- The toolchain has its name in capitals. -/
def capitals : NamedReport := ⟨"alpha", "SOLC", none, []⟩

def capitalsText : String :=
  "\x7b\"project\": \"alpha\", \"toolchain\": \"SOLC\", \"data\": []\x7d"

def plainText (text : String) : List Json.Glyph := text.toList.map .plain

def capitalsTree : Tree :=
  .object [(plainText "project", .text (plainText "alpha")),
    (plainText "toolchain", .text (plainText "SOLC")), (plainText "data", .array [])]

theorem scan_capitalsText : Json.Token.scan capitalsText =
    ⟨[.openObject, .text (plainText "project"), .colon, .text (plainText "alpha"), .comma,
      .text (plainText "toolchain"), .colon, .text (plainText "SOLC"), .comma,
      .text (plainText "data"), .colon, .openArray, .closeArray, .closeObject], true⟩ :=
  congrArg₂ Json.Scanned.mk (by decide +kernel) (by decide +kernel)

def capitalsRecord : Value :=
  .object [("compiler", .object [("type", .text "SOLC"), ("version", .text "0.8.30")]),
    ("contract", .text "Token"), ("deployment", .object [("gas", .count 1000)])]

theorem writtenIn_capitals : capitals.WrittenIn capitalsTree capitalsText := by
  constructor
  case given => decide +kernel
  case whole =>
    rw [Tree.ofText?, Tree.leading?, scan_capitalsText]
    rfl
  case readable => rfl
  case layout => exact .object rfl rfl rfl rfl rfl ⟨rfl, rfl, rfl, rfl⟩

theorem exists_names_capitals : ∃ draft, Names capitalsRecord capitals.name draft := by
  refine ⟨_, rfl, rfl, ?_⟩
  change ∀ check ∈ Check.ofBuild ++ [.given .deploymentGas, .deploymentNotNegative], _
  simp only [Check.ofBuild, List.cons_append, List.nil_append, List.forall_mem_cons]
  exact ⟨fun _ => rfl, fun _ => rfl, fun other => absurd rfl other, fun _ => rfl, fun _ => rfl,
    fun _ => rfl, List.forall_mem_nil _⟩

theorem toolchainName_decides_capitals :
    capitals.WrittenIn capitalsTree capitalsText ∧
      (∃ draft, Names capitalsRecord capitals.name draft) ∧
      capitals.Outcome .standard capitalsText capitalsRecord := by
  obtain ⟨draft, names⟩ := exists_names_capitals
  exact ⟨writtenIn_capitals, ⟨draft, names⟩,
    toolchainName_decides .standard writtenIn_capitals names⟩

/-- The file is refused for its layout, and the record is accepted as one of `solc`. -/
theorem not_decoded_capitals :
    capitals.WrittenIn capitalsTree capitalsText ∧
    (∃ draft, Names capitalsRecord capitals.name draft) ∧
    ReportFile.ofText capitalsText = .error .unknownLayout ∧
    AcceptedAs .standard capitalsRecord .solc ∧
    ¬ ((∃ file, ReportFile.ofText capitalsText = .ok file) ↔
      ∃ record, read .standard capitalsRecord = .ok record) := by
  obtain ⟨draft, names⟩ := exists_names_capitals
  have undecoded : ReportFile.ofText capitalsText = .error .unknownLayout :=
    writtenIn_capitals.ofText
  have accepted : AcceptedAs .standard capitalsRecord .solc := (names.acceptedAs_iff .solc).mpr rfl
  refine ⟨writtenIn_capitals, ⟨draft, names⟩, undecoded, accepted, ?_⟩
  intro agree
  obtain ⟨record, done, -⟩ := accepted
  obtain ⟨file, decoded⟩ := agree.mpr ⟨record, done⟩
  rw [undecoded] at decoded
  cases decoded

end GasReport
