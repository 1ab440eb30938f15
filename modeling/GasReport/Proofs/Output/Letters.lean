import GasReport.Proofs.Decimal.Letters
import GasReport.Proofs.Output.Lines

namespace GasReport

open Text

/-- The letter stands in no name and in no version of the contract. -/
structure ContractReport.Avoids (letter : Char) (contract : ContractReport) : Prop where
  named : letter ∉ contract.contract.toList
  deployed : ∀ sample ∈ contract.deployment, letter ∉ sample.build.version.toList
  measured : ∀ measurement ∈ contract.measurements,
    letter ∉ measurement.build.version.toList
  functions : ∀ function ∈ contract.results, letter ∉ function.name.toList

instance (letter : Char) (contract : ContractReport) : Decidable (contract.Avoids letter) :=
  decidable_of_iff (letter ∉ contract.contract.toList ∧
      (∀ sample ∈ contract.deployment, letter ∉ sample.build.version.toList) ∧
      (∀ measurement ∈ contract.measurements, letter ∉ measurement.build.version.toList) ∧
      ∀ function ∈ contract.results, letter ∉ function.name.toList)
    ⟨fun ⟨named, deployed, measured, functions⟩ => ⟨named, deployed, measured, functions⟩,
      fun ⟨named, deployed, measured, functions⟩ => ⟨named, deployed, measured, functions⟩⟩

/-- The letter stands in no name and in no version of the report. -/
structure ProjectReport.Avoids (letter : Char) (report : ProjectReport) : Prop where
  named : letter ∉ report.project.toList
  contracts : ∀ contract ∈ report.contracts, contract.Avoids letter
  candidate : ∀ version ∈ report.candidateVersion, letter ∉ version.toList
  reference : ∀ version ∈ report.referenceVersion, letter ∉ version.toList

instance (letter : Char) (report : ProjectReport) : Decidable (report.Avoids letter) :=
  decidable_of_iff (letter ∉ report.project.toList ∧
      (∀ contract ∈ report.contracts, contract.Avoids letter) ∧
      (∀ version ∈ report.candidateVersion, letter ∉ version.toList) ∧
      ∀ version ∈ report.referenceVersion, letter ∉ version.toList)
    ⟨fun ⟨named, contracts, candidate, reference⟩ => ⟨named, contracts, candidate, reference⟩,
      fun ⟨named, contracts, candidate, reference⟩ => ⟨named, contracts, candidate, reference⟩⟩

namespace Output

/-- The letter does not stand in the line, except in its frame. -/
def Line.Avoids (letter : Char) (line : Line) : Prop :=
  line.Each (letter ∉ ·.toList) (letter ∉ ·.content.text.toList)

/-- Gas is written without control characters. -/
theorem visible_gasText (gas : Option Gas) : Visible (gasText gas).text.toList := by
  cases gas with
  | none => exact (by decide : Visible "-".toList)
  | some gas => exact Decimal.visible_plain gas

/-- A difference is written without control characters. -/
theorem visible_differenceText (difference : Option Percentage) :
    Visible (differenceText difference).text.toList := by
  cases difference with
  | none => exact (by decide : Visible "N/A".toList)
  | some percentage =>
      have visible : Visible percentage.text.toList := Decimal.visible_fixed 2 percentage.value
      rw [differenceText]
      split
      · exact visible
      · split
        · exact visible
        · exact visible

/-- A count is written without control characters. -/
theorem visible_count (count : Nat) : Visible (toString count).toList := by
  rw [Nat.toString_eq_repr]
  exact visible_repr count

/-- Without colours a text is only padded. -/
theorem render_plain (styled : Styled) (align : Align) (width : Nat) :
    styled.render false align width = pad align width styled.text := by
  rw [Styled.render]
  cases styled.color <;> rfl

/-- The bars of a frame are visible. -/
theorem visible_bars (count : Nat) : Visible (bars count).toList := by
  rw [bars, String.toList_ofList]
  intro letter inside
  rw [List.eq_of_mem_replicate inside]
  decide

theorem visible_corners (place : TitlePlace) :
    Visible place.corners.1.toList ∧ Visible place.corners.2.toList := by
  cases place <;> decide

variable {letter : Char}

/-- A letter stands in joined texts only if it stands in one of them. -/
theorem not_mem_append {first second : String} (clean : letter ∉ first.toList)
    (others : letter ∉ second.toList) : letter ∉ (first ++ second).toList := by
  rw [String.toList_append, List.mem_append, not_or]
  exact ⟨clean, others⟩

/-- A clipped text has letters of the text, and an ellipsis. -/
theorem not_mem_clip {text : String} (control : letter < ' ') (clean : letter ∉ text.toList)
    (width : Nat) : letter ∉ (clip width text).toList := by
  rw [clip]
  split
  · exact clean
  · rw [String.toList_ofList, List.mem_append, List.mem_singleton, not_or]
    refine ⟨fun inside => clean (List.mem_of_mem_take inside), ?_⟩
    rintro rfl
    exact absurd control (by decide)

/-- A text is padded with blanks. -/
theorem not_mem_pad {text : String} (control : letter < ' ') (clean : letter ∉ text.toList)
    (align : Align) (width : Nat) : letter ∉ (pad align width text).toList := by
  have blanks : letter ∉ (String.ofList (List.replicate (width - text.length) ' ')).toList := by
    rw [String.toList_ofList]
    intro inside
    rw [List.eq_of_mem_replicate inside] at control
    exact absurd control (by decide)
  cases align with
  | left => exact not_mem_append clean blanks
  | right => exact not_mem_append blanks clean

/-- A shortened name brings no new letter. -/
theorem not_mem_shortName {name : String} (clean : letter ∉ name.toList) :
    letter ∉ (shortName name).toList := by
  rw [shortName, String.toList_ofList]
  exact fun inside => clean ((List.takeWhile_sublist _).subset inside)

/-- The short name of a contract brings no new letter. -/
theorem not_mem_contractShortName {contract : String} (clean : letter ∉ contract.toList) :
    letter ∉ (contractShortName contract).toList := by
  rw [contractShortName, String.toList_ofList, List.mem_reverse]
  exact fun inside => clean (List.mem_reverse.mp ((List.takeWhile_sublist _).subset inside))

/-- The label of a build holds a control character only if the version does. -/
theorem not_mem_label {build : Build} (control : letter < ' ')
    (clean : letter ∉ build.version.toList) : letter ∉ build.label.toList := by
  have named : Visible build.toolchain.name.toList := by
    cases build.toolchain <;> decide
  exact not_mem_append (not_mem_append (named.not_mem control)
    ((by decide : Visible " ".toList).not_mem control)) clean

theorem not_mem_intercalate {texts : List String} (control : letter < ' ')
    (clean : ∀ text ∈ texts, letter ∉ text.toList) :
    letter ∉ (" ".intercalate texts).toList := by
  induction texts with
  | nil => exact List.not_mem_nil
  | cons text rest ih =>
      have here := clean text List.mem_cons_self
      cases rest with
      | nil => simpa only [String.intercalate_singleton] using here
      | cons next others =>
          have following := ih fun other inside => clean other (List.mem_cons_of_mem _ inside)
          rw [String.intercalate_cons_cons]
          exact not_mem_append (not_mem_append here
            ((by decide : Visible " ".toList).not_mem control)) following

/-- Without colours the frame and the blanks are all that a line adds to its texts. -/
theorem Line.Avoids.render {line : Line} (control : letter < ' ') (clean : line.Avoids letter) :
    letter ∉ (line.render false).toList := by
  have literal {text : String} (visible : Visible text.toList) : letter ∉ text.toList :=
    visible.not_mem control
  have padded (styled : Styled) (clean : letter ∉ styled.text.toList) (align : Align)
      (width : Nat) : letter ∉ (styled.render false align width).toList := by
    rw [render_plain]
    exact not_mem_pad control clean align width
  cases line with
  | title place text =>
      have corners := visible_corners place
      have clipped := not_mem_clip control clean (frameWidth - 6)
      exact not_mem_append (not_mem_append (not_mem_append (not_mem_append (not_mem_append
        (literal corners.1) (literal (by decide : Visible "═╡ ".toList)))
        (padded (.colored .white (clip (frameWidth - 6) text)) clipped .left 0))
        (literal (by decide : Visible " ╞".toList))) (literal (visible_bars _)))
        (literal corners.2)
  | row cells =>
      have each : ∀ text ∈ cells.map (Cell.render false), letter ∉ text.toList := by
        intro text inside
        obtain ⟨cell, listed, rfl⟩ := List.mem_map.mp inside
        exact padded cell.content (clean cell listed) cell.align cell.width
      exact not_mem_append (not_mem_append (literal (by decide : Visible "║ ".toList))
        (not_mem_intercalate control each)) (literal (by decide : Visible " ║".toList))
  | bottom =>
      exact not_mem_append (not_mem_append (literal (by decide : Visible "╚".toList))
        (literal (visible_bars _))) (literal (by decide : Visible "╝".toList))
  | blank => exact List.not_mem_nil

end Output

open Output

/-- The versions of the default pair were measured. -/
theorem ContractReport.Avoids.firstVersion {letter : Char} {contract : ContractReport}
    (clean : contract.Avoids letter) (toolchain : Toolchain) :
    letter ∉ (contract.firstVersion toolchain).toList := by
  rw [ContractReport.firstVersion]
  split
  case h_1 measurement found =>
      exact clean.measured measurement (List.mem_of_find?_eq_some found)
  case h_2 => exact List.not_mem_nil

/-- A deployment is labelled by its build. -/
theorem ContractReport.Avoids.label {letter : Char} {contract : ContractReport}
    (clean : contract.Avoids letter) (control : letter < ' ') {entry : DeploymentDifference}
    (listed : entry ∈ contract.deploymentDifferences) : letter ∉ entry.build.label.toList := by
  rw [ContractReport.deploymentDifferences] at listed
  split at listed
  · cases listed
  · obtain ⟨sample, deployed, rfl⟩ := List.mem_map.mp listed
    exact not_mem_label control (clean.deployed sample deployed)

namespace ProjectReport.Avoids

variable {letter : Char} {report : ProjectReport}

/-- A version is selected by the user, or it was measured. -/
theorem pair (clean : report.Avoids letter) {contract : ContractReport}
    (inside : contract ∈ report.contracts) :
    letter ∉ (report.pair contract).candidate.toList ∧
      letter ∉ (report.pair contract).reference.toList := by
  have measured := (clean.contracts contract inside).firstVersion
  have selected {version : Option String} {toolchain : Toolchain}
      (given : ∀ text ∈ version, letter ∉ text.toList) :
      letter ∉ (version.getD (contract.firstVersion toolchain)).toList := by
    cases version with
    | none => exact measured toolchain
    | some text => exact given text rfl
  exact ⟨selected clean.candidate, selected clean.reference⟩

/-- A row is named by a function of its contract. -/
theorem row (clean : report.Avoids letter) {contract : ContractReport}
    (inside : contract ∈ report.contracts) {pair : VersionPair} {row : MethodRow}
    (listed : row ∈ contract.methodRows pair) : letter ∉ row.name.toList := by
  obtain ⟨function, measured, rfl⟩ := List.mem_map.mp listed
  exact (clean.contracts contract inside).functions function measured

/-- A delta is named by a contract and a function of the report. -/
theorem delta (clean : report.Avoids letter) {delta : FunctionDelta}
    (listed : delta ∈ shownDeltas report.summary) :
    letter ∉ delta.contract.toList ∧ letter ∉ delta.function.toList := by
  obtain ⟨contract, inside, row, measured, owner, function, -⟩ := exists_row_of_shown listed
  rw [owner, function]
  exact ⟨(clean.contracts contract inside).named, clean.row inside measured⟩

end ProjectReport.Avoids

/-- Without the letter in names and versions there is none in the tables. -/
theorem Output.LineOf.avoids {letter : Char} {report : ProjectReport} {line : Line}
    (control : letter < ' ') (clean : report.Avoids letter) (shown : LineOf report line) :
    line.Avoids letter := by
  have literal {text : String} (visible : Visible text.toList) : letter ∉ text.toList :=
    visible.not_mem control
  have percent (difference : Option Percentage) :
      letter ∉ (differenceText difference).text.toList :=
    literal (visible_differenceText difference)
  have amount (gas : Option Gas) : letter ∉ (gasText gas).text.toList :=
    literal (visible_gasText gas)
  cases shown with
  | contractTitle inside => exact (clean.contracts _ inside).named
  | deploymentHeading =>
      exact each_deploymentRow.mpr ⟨literal (by decide : Visible "Deployment".toList),
        literal (by decide : Visible "Gas".toList), literal (by decide : Visible "Diff (%)".toList)⟩
  | deployment inside listed =>
      exact each_deploymentRow.mpr
        ⟨(clean.contracts _ inside).label control listed, amount _, percent _⟩
  | versionsTitle inside =>
      have names := clean.pair inside
      exact not_mem_append (not_mem_append (not_mem_append
        (literal (by decide : Visible "solx ".toList)) names.1)
        (literal (by decide : Visible " vs solc ".toList))) names.2
  | methodHeading =>
      exact each_methodRow.mpr ⟨literal (by decide : Visible "Method".toList),
        literal (by decide : Visible "solx".toList), literal (by decide : Visible "solc".toList),
        literal (by decide : Visible "Diff (%)".toList)⟩
  | method inside listed =>
      have clipped := not_mem_clip control (not_mem_shortName (clean.row inside listed)) 40
      rw [Line.Avoids, each_methodRow]
      dsimp only [leftCell, Styled.plain]
      exact ⟨clipped, amount _, amount _, percent _⟩
  | countsTitle => exact literal (by decide : Visible "Counts".toList)
  | count named counted written =>
      have visible : ∀ name ∈ countNames, Visible name.toList := by decide
      refine each_countRow.mpr ⟨literal (visible _ named), ?_⟩
      rw [rightCell, written]
      exact literal (visible_count _)
  | summaryTitle =>
      exact not_mem_append (literal (by decide : Visible "Summary: ".toList)) clean.named
  | average =>
      exact each_countRow.mpr
        ⟨literal (by decide : Visible "Average difference (%)".toList), percent _⟩
  | deltasTitle named shown all =>
      have visible : ∀ title ∈ deltaTitles, Visible title.toList := by decide
      exact not_mem_append (not_mem_append (not_mem_append (not_mem_append (not_mem_append
        (literal (visible _ named)) (literal (by decide : Visible " (".toList)))
        (literal (visible_count shown))) (literal (by decide : Visible " of ".toList)))
        (literal (visible_count all))) (literal (by decide : Visible ")".toList))
  | delta listed =>
      have names := clean.delta listed
      have full := not_mem_append (not_mem_append (not_mem_contractShortName names.1)
        (literal (by decide : Visible "::".toList))) names.2
      have clipped := not_mem_clip control full 64
      rw [Line.Avoids, each_deltaRow]
      dsimp only [leftCell, Styled.plain]
      exact ⟨clipped, percent _⟩
  | bottom => trivial
  | blank => trivial

end GasReport
