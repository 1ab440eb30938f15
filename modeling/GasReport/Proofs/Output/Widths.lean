import GasReport.Proofs.Output.Letters

namespace GasReport

open Output

/-- The builds and the numbers that are shown of the contract fit their columns. Names may have any
length. -/
structure ContractReport.Fits (contract : ContractReport) (pair : VersionPair) : Prop where
  builds : ∀ entry ∈ contract.deploymentDifferences, entry.build.label.length ≤ 40
  deployed : ∀ entry ∈ contract.deploymentDifferences, (Decimal.plain entry.gas).length ≤ 14 ∧
    (differenceText entry.difference).text.length ≤ 18
  measured : ∀ row ∈ contract.methodRows pair, (gasText row.candidate).text.length ≤ 11 ∧
    (gasText row.reference).text.length ≤ 11 ∧ (differenceText row.difference).text.length ≤ 9

instance (contract : ContractReport) (pair : VersionPair) : Decidable (contract.Fits pair) :=
  decidable_of_iff ((∀ entry ∈ contract.deploymentDifferences, entry.build.label.length ≤ 40) ∧
      (∀ entry ∈ contract.deploymentDifferences, (Decimal.plain entry.gas).length ≤ 14 ∧
        (differenceText entry.difference).text.length ≤ 18) ∧
      ∀ row ∈ contract.methodRows pair, (gasText row.candidate).text.length ≤ 11 ∧
        (gasText row.reference).text.length ≤ 11 ∧ (differenceText row.difference).text.length ≤ 9)
    ⟨fun ⟨builds, deployed, measured⟩ => ⟨builds, deployed, measured⟩,
      fun ⟨builds, deployed, measured⟩ => ⟨builds, deployed, measured⟩⟩

/-- The builds and the numbers that are shown of the report fit their columns. -/
structure ProjectReport.Fits (report : ProjectReport) : Prop where
  contracts : ∀ contract ∈ report.contracts, contract.Fits (report.pair contract)
  counts : ∀ count ∈ report.counts, (toString count).length ≤ 7
  average : (differenceText report.summary.statistics.average).text.length ≤ 7

instance (report : ProjectReport) : Decidable report.Fits :=
  decidable_of_iff ((∀ contract ∈ report.contracts, contract.Fits (report.pair contract)) ∧
      (∀ count ∈ report.counts, (toString count).length ≤ 7) ∧
      (differenceText report.summary.statistics.average).text.length ≤ 7)
    ⟨fun ⟨contracts, counts, average⟩ => ⟨contracts, counts, average⟩,
      fun ⟨contracts, counts, average⟩ => ⟨contracts, counts, average⟩⟩

namespace Output

/-- Every cell of the line is wide enough for its content. -/
def Line.Fits (line : Line) : Prop :=
  line.Each (fun _ => True) (fun cell => cell.content.text.length ≤ cell.width)

/-- The cells of a row, each with a blank after it, fill the frame together with the blank before
them. -/
def Line.Framed : Line → Prop
  | .row cells => (cells.map fun cell => cell.width + 1).sum + 1 = frameWidth
  | _ => True

/-- A padded text fills its column, and a longer one is kept whole. -/
theorem length_pad (align : Align) (width : Nat) (text : String) :
    (pad align width text).length = max text.length width := by
  have blanks : (String.ofList (List.replicate (width - text.length) ' ')).length =
      width - text.length := by
    rw [String.length_ofList, List.length_replicate]
  cases align with
  | left =>
      change (text ++ String.ofList (List.replicate (width - text.length) ' ')).length = _
      rw [String.length_append, blanks]
      omega
  | right =>
      change (String.ofList (List.replicate (width - text.length) ' ') ++ text).length = _
      rw [String.length_append, blanks]
      omega

/-- The ellipsis takes the place of the last letter that fits. -/
theorem length_clip {width : Nat} (positive : 0 < width) (text : String) :
    (clip width text).length ≤ width := by
  rw [clip]
  split
  case isTrue fits => exact fits
  case isFalse =>
      rw [String.length_ofList, List.length_append, List.length_take, List.length_singleton]
      omega

theorem length_bars (count : Nat) : (bars count).length = count := by
  rw [bars, String.length_ofList, List.length_replicate]

/-- A cell that fits is as long as it is wide. -/
theorem Cell.length_render {cell : Cell} (fits : cell.content.text.length ≤ cell.width) :
    (cell.render false).length = cell.width := by
  rw [Cell.render, render_plain, length_pad]
  exact Nat.max_eq_right fits

/-- Every cell but the last one has a blank after it. -/
theorem length_intercalate {cells : List Cell} (given : cells ≠ [])
    (fit : ∀ cell ∈ cells, cell.content.text.length ≤ cell.width) :
    (" ".intercalate (cells.map (Cell.render false))).length + 1 =
      (cells.map fun cell => cell.width + 1).sum := by
  induction cells with
  | nil => exact absurd rfl given
  | cons cell rest ih =>
      have here := Cell.length_render (fit cell List.mem_cons_self)
      cases rest with
      | nil => simp [here]
      | cons next others =>
          have following := ih (List.cons_ne_nil _ _) fun other inside =>
            fit other (List.mem_cons_of_mem _ inside)
          have blank : " ".length = 1 := by decide
          have sum : ((cell :: next :: others).map fun cell => cell.width + 1).sum =
              cell.width + 1 + ((next :: others).map fun cell => cell.width + 1).sum :=
            List.sum_cons
          rw [sum, ← following]
          simp only [List.map_cons, String.intercalate_cons_cons, String.length_append, here, blank]
          omega

/-- A title fills the frame exactly. -/
theorem length_renderTitle (place : TitlePlace) (text : String) :
    (Line.renderTitle false place text).length = frameWidth + 2 := by
  have clipped := length_clip (by decide : 0 < frameWidth - 6) text
  have corners : place.corners.1.length = 1 ∧ place.corners.2.length = 1 := by
    cases place <;> decide
  have opening : "═╡ ".length = 3 := by decide
  have closing : " ╞".length = 2 := by decide
  have written := render_plain (.colored .white (clip (frameWidth - 6) text)) .left 0
  simp only [Line.renderTitle, written, String.length_append, length_pad, length_bars, corners,
    opening, closing]
  simp only [Styled.colored, frameWidth] at clipped ⊢
  omega

/-- The sides of the frame stand around what fills it. -/
theorem Line.length_render {line : Line} (fits : line.Fits) (framed : line.Framed) :
    line.render false = "" ∨ (line.render false).length = frameWidth + 2 := by
  cases line with
  | title place text => exact .inr (length_renderTitle place text)
  | row cells =>
      have given : cells ≠ [] := by
        rintro rfl
        change 0 + 1 = frameWidth at framed
        exact absurd framed (by decide)
      have inner := length_intercalate given fits
      have opening : "║ ".length = 2 := by decide
      have closing : " ║".length = 2 := by decide
      simp only [Line.Framed] at framed
      simp only [Line.render, String.length_append, opening, closing]
      omega
  | bottom =>
      have corners : "╚".length = 1 ∧ "╝".length = 1 := by decide
      simp only [Line.render, String.length_append, length_bars, corners]
      omega
  | blank => exact .inl rfl

/-- All kinds of rows fill the frame. -/
theorem LineOf.framed {report : ProjectReport} {line : Line} (shown : LineOf report line) :
    line.Framed := by
  cases shown with
  | deploymentHeading | deployment => rfl
  | methodHeading | method => rfl
  | count | average => rfl
  | delta => rfl
  | _ => trivial

/-- A clipped name fits, whatever it is. -/
theorem LineOf.fits {report : ProjectReport} {line : Line} (fit : report.Fits)
    (shown : LineOf report line) : line.Fits := by
  cases shown with
  | contractTitle | versionsTitle | countsTitle | summaryTitle | deltasTitle => trivial
  | bottom | blank => trivial
  | deploymentHeading => exact each_deploymentRow.mpr (by decide)
  | methodHeading => exact each_methodRow.mpr (by decide)
  | deployment inside listed =>
      have contract := fit.contracts _ inside
      exact each_deploymentRow.mpr ⟨contract.builds _ listed, contract.deployed _ listed⟩
  | method inside listed =>
      have clipped (name : String) := length_clip (by decide : 0 < 40) name
      rw [Line.Fits, each_methodRow]
      dsimp only [leftCell, Styled.plain]
      exact ⟨clipped _, (fit.contracts _ inside).measured _ listed⟩
  | count named counted written =>
      have short : ∀ name ∈ countNames, name.length ≤ 66 := by decide
      refine each_countRow.mpr ⟨short _ named, ?_⟩
      rw [rightCell, written]
      exact fit.counts _ counted
  | average => exact each_countRow.mpr ⟨by decide, fit.average⟩
  | delta listed =>
      obtain ⟨contract, inside, row, measured, -, -, found⟩ := exists_row_of_shown listed
      have narrow := ((fit.contracts contract inside).measured row measured).2.2
      rw [found] at narrow
      have clipped (name : String) := length_clip (by decide : 0 < 64) name
      rw [Line.Fits, each_deltaRow]
      dsimp only [leftCell, Styled.plain]
      exact ⟨clipped _, narrow⟩

/-- Rendered lines without line feeds are the lines of the text. Nothing follows the last line feed.
-/
theorem splitOn_renderLines {inColor : Bool} {lines : List Line}
    (clean : ∀ line ∈ lines, '\n' ∉ (line.render inColor).toList) :
    (renderLines inColor lines).toList.splitOn '\n' =
      lines.map (fun line => (line.render inColor).toList) ++ [[]] := by
  induction lines with
  | nil => rfl
  | cons line rest ih =>
      have following := ih fun other inside => clean other (List.mem_cons_of_mem _ inside)
      have feed : "\n".toList = ['\n'] := by decide
      rw [renderLines, List.map_cons, String.join_cons, String.toList_append, String.toList_append,
        feed, List.append_assoc, List.singleton_append,
        List.splitOn_append_cons_self_of_not_mem (clean line List.mem_cons_self)]
      change _ :: (renderLines inColor rest).toList.splitOn '\n' = _
      rw [following]
      rfl

/-- The lines of the tables are the rendered lines of the reports. -/
theorem splitOn_tables {reports : List ProjectReport}
    (clean : ∀ report ∈ reports, report.Avoids '\n') :
    (tables false reports).toList.splitOn '\n' =
      (reports.flatMap projectLines).map (fun line => (line.render false).toList) ++ [[]] := by
  apply splitOn_renderLines
  intro line given
  obtain ⟨report, inside, listed⟩ := List.mem_flatMap.mp given
  have avoided := (lineOf_projectLines listed).avoids (by decide) (clean report inside)
  exact avoided.render (by decide)

/-- Long names break no frame: when builds and numbers fit their columns, every line of the tables
is empty or as long as the frame. -/
theorem tables_framed {reports : List ProjectReport}
    (clean : ∀ report ∈ reports, report.Avoids '\n') (fit : ∀ report ∈ reports, report.Fits) :
    ∀ line ∈ (tables false reports).toList.splitOn '\n', line = [] ∨ line.length = 78 := by
  rw [splitOn_tables clean]
  intro letters listed
  rcases List.mem_append.mp listed with rendered | last
  · obtain ⟨line, given, rfl⟩ := List.mem_map.mp rendered
    obtain ⟨report, inside, written⟩ := List.mem_flatMap.mp given
    have shown := lineOf_projectLines written
    rcases Line.length_render (shown.fits (fit report inside)) shown.framed with empty | full
    · exact .inl (by rw [empty]; rfl)
    · exact .inr full
  · exact .inl (List.mem_singleton.mp last)

/-- No name of this report fits its column. -/
def longNames : ProjectReport where
  project := "Überweisungen zwischen verwalteten Konten mit Prüfung aller Begünstigten"
  contracts :=
    let reference : Build := .tagged .standard ⟨.solc, "0.8.30-viaIR-with-all-optimizations"⟩
    let candidate : Build := .tagged .standard ⟨.solx, "0.1.0-viaIR-with-all-optimizations"⟩
    let contract := "src/überweisungen/VerzögerteÜberweisung.sol:VerzögerteÜberweisungMitPrüfung"
    let signature := "überweiseAnAlleBegünstigtenNachErneuterPrüfung(address[],uint256[])"
    [{ contract := contract
       baseline := reference
       results :=
        [⟨signature, [⟨⟨reference, 100.0, .empty⟩, 100.0, ⟨0.0⟩⟩,
          ⟨⟨candidate, 90.0, .empty⟩, 100.0, ⟨-10.0⟩⟩]⟩]
       deployment := [⟨reference, 1000.0, .empty⟩, ⟨candidate, 1100.0, .empty⟩]
       methodCount := 1
       measurements := [⟨reference, contract, 1000.0, [(signature, 100.0)]⟩,
        ⟨candidate, contract, 1100.0, [(signature, 90.0)]⟩] }]
  candidateVersion := none
  referenceVersion := none

theorem tables_framed_longNames :
    (∀ report ∈ [longNames], report.Avoids '\n') ∧ (∀ report ∈ [longNames], report.Fits) ∧
    70 < longNames.project.length ∧
    (∀ contract ∈ longNames.contracts,
      70 < contract.contract.length ∧ 70 < (longNames.pair contract).label.length) ∧
    ((tables false [longNames]).toList.splitOn '\n').length = 23 ∧
    ∀ line ∈ (tables false [longNames]).toList.splitOn '\n', line = [] ∨ line.length = 78 := by
  have clean : ∀ report ∈ [longNames], report.Avoids '\n' := by decide +kernel
  have fit : ∀ report ∈ [longNames], report.Fits := by decide +kernel
  refine ⟨clean, fit, by decide, by decide +kernel, ?_, tables_framed clean fit⟩
  rw [splitOn_tables clean, List.length_append, List.length_map]
  decide +kernel

end Output

end GasReport
