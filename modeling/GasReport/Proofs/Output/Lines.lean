import GasReport.Output.Table
import GasReport.Proofs.Versions.Deltas

namespace GasReport

/-- These are the counts that are shown, contract by contract and then for the project. -/
def ProjectReport.counts (report : ProjectReport) : List Nat :=
  (report.contracts.flatMap fun contract =>
    [contract.methodCount, contract.efficiencyCount (report.pair contract)]) ++
  [report.summary.statistics.total, report.summary.statistics.compared,
    report.summary.statistics.improved, report.summary.statistics.regressed]

namespace Output

/-- These are the deltas that are shown. -/
def shownDeltas (summary : Summary) : List FunctionDelta :=
  summary.improvements.take topCount ++ summary.regressions.take topCount

def countNames : List String :=
  ["Total methods", "Methods where solx is more efficient", "Compared methods",
    "Improved methods", "Regressed methods"]

def deltaTitles : List String := ["Top improvements", "Top regressions"]

/-- These are the lines of the tables of a report. -/
inductive LineOf (report : ProjectReport) : Line → Prop
  | contractTitle {contract : ContractReport} (inside : contract ∈ report.contracts) :
      LineOf report (.title .top contract.contract)
  | deploymentHeading :
      LineOf report (deploymentRow (heading "Deployment") (.plain "Gas") (.plain "Diff (%)"))
  | deployment {contract : ContractReport} {entry : DeploymentDifference}
      (inside : contract ∈ report.contracts) (listed : entry ∈ contract.deploymentDifferences) :
      LineOf report (deploymentRow (.plain entry.build.label) (gasText (some entry.gas))
        (differenceText entry.difference))
  | versionsTitle {contract : ContractReport} (inside : contract ∈ report.contracts) :
      LineOf report (.title .across (report.pair contract).label)
  | methodHeading :
      LineOf report
        (methodRow (heading "Method") (.plain "solx") (.plain "solc") (.plain "Diff (%)"))
  | method {contract : ContractReport} {row : MethodRow} (inside : contract ∈ report.contracts)
      (listed : row ∈ contract.methodRows (report.pair contract)) :
      LineOf report (methodRow (.plain (clip 40 (shortName row.name))) (gasText row.candidate)
        (gasText row.reference) (differenceText row.difference))
  | countsTitle : LineOf report (.title .across "Counts")
  | count {name : String} {count : Nat} {value : Styled} (named : name ∈ countNames)
      (counted : count ∈ report.counts) (written : value.text = toString count) :
      LineOf report (countRow name value)
  | summaryTitle : LineOf report (.title .top ("Summary: " ++ report.project))
  | average : LineOf report
      (countRow "Average difference (%)" (differenceText report.summary.statistics.average))
  | deltasTitle {title : String} (named : title ∈ deltaTitles) (shown all : Nat) :
      LineOf report (.title .across
        (title ++ " (" ++ toString shown ++ " of " ++ toString all ++ ")"))
  | delta {delta : FunctionDelta} (listed : delta ∈ shownDeltas report.summary) :
      LineOf report (deltaRow (clip 64 (contractShortName delta.contract ++ "::" ++ delta.function))
        (differenceText (some delta.difference)))
  | bottom : LineOf report .bottom
  | blank : LineOf report .blank

variable {report : ProjectReport} {line : Line}

/-- A shown delta repeats the difference of a row that is shown with its contract. -/
theorem exists_row_of_shown {delta : FunctionDelta} (listed : delta ∈ shownDeltas report.summary) :
    ∃ contract ∈ report.contracts, ∃ row ∈ contract.methodRows (report.pair contract),
      delta.contract = contract.contract ∧ delta.function = row.name ∧
      row.difference = some delta.difference := by
  obtain ⟨changed, made⟩ : ∃ changed, delta ∈
      Summary.deltas changed (Summary.rows report.contracts report.pair) := by
    rcases List.mem_append.mp listed with improved | regressed
    · exact ⟨_, List.mem_mergeSort.mp (List.mem_of_mem_take improved)⟩
    · exact ⟨_, List.mem_mergeSort.mp (List.mem_of_mem_take regressed)⟩
  obtain ⟨entry, kept, described⟩ := List.mem_filterMap.mp made
  obtain ⟨contract, inside, shown⟩ := List.mem_flatMap.mp (List.mem_filter.mp kept).1
  obtain ⟨row, measured, rfl⟩ := List.mem_map.mp shown
  obtain ⟨difference, found, rfl⟩ := Option.map_eq_some_iff.mp described
  exact ⟨contract, inside, row, measured, rfl, rfl, found⟩

/-- Every line of a contract is of a known kind. -/
theorem lineOf_contractLines {contract : ContractReport} (inside : contract ∈ report.contracts)
    (given : line ∈ contractLines contract (report.pair contract)) : LineOf report line := by
  have counted : ∀ count ∈ [contract.methodCount, contract.efficiencyCount (report.pair contract)],
      count ∈ report.counts := fun count listed =>
    List.mem_append_left _ (List.mem_flatMap.mpr ⟨contract, inside, listed⟩)
  simp only [contractLines, List.mem_append, List.mem_cons, List.not_mem_nil, or_false,
    List.mem_map] at given
  rcases given with ((((rfl | rfl) | ⟨entry, listed, rfl⟩) | rfl | rfl) | ⟨row, listed, rfl⟩) |
    rfl | rfl | rfl | rfl
  · exact .contractTitle inside
  · exact .deploymentHeading
  · exact .deployment inside listed
  · exact .versionsTitle inside
  · exact .methodHeading
  · exact .method inside listed
  · exact .countsTitle
  · exact .count (by simp [countNames]) (counted _ (by simp)) rfl
  · exact .count (by simp [countNames]) (counted _ (by simp)) rfl
  · exact .bottom

/-- Every line of a list of changes is of a known kind. -/
theorem lineOf_deltaLines {title : String} {deltas : List FunctionDelta}
    (named : title ∈ deltaTitles)
    (shown : ∀ delta ∈ deltas.take topCount, delta ∈ shownDeltas report.summary)
    (given : line ∈ deltaLines title deltas) : LineOf report line := by
  rw [deltaLines] at given
  split at given
  · cases given
  · rcases List.mem_cons.mp given with rfl | row
    · exact .deltasTitle named _ _
    · obtain ⟨delta, listed, rfl⟩ := List.mem_map.mp row
      exact .delta (shown delta listed)

/-- Every line of a summary is of a known kind. -/
theorem lineOf_summaryLines (given : line ∈ summaryLines report.project report.summary) :
    LineOf report line := by
  have counted : ∀ count ∈ [report.summary.statistics.total, report.summary.statistics.compared,
      report.summary.statistics.improved, report.summary.statistics.regressed],
      count ∈ report.counts := fun count listed => List.mem_append_right _ listed
  simp only [summaryLines, List.mem_append, List.mem_cons, List.not_mem_nil, or_false] at given
  rcases given with
    (((rfl | rfl | rfl | rfl | rfl | rfl) | improvements) | regressions) | rfl
  · exact .summaryTitle
  · exact .count (by simp [countNames]) (counted _ (by simp)) rfl
  · exact .count (by simp [countNames]) (counted _ (by simp)) rfl
  · exact .count (by simp [countNames]) (counted _ (by simp)) rfl
  · exact .count (by simp [countNames]) (counted _ (by simp)) rfl
  · exact .average
  · exact lineOf_deltaLines (by simp [deltaTitles])
      (fun _ shown => List.mem_append_left _ shown) improvements
  · exact lineOf_deltaLines (by simp [deltaTitles])
      (fun _ shown => List.mem_append_right _ shown) regressions
  · exact .bottom

/-- The tables of a report have no other lines. -/
theorem lineOf_projectLines (given : line ∈ projectLines report) : LineOf report line := by
  simp only [projectLines, List.mem_append, List.mem_flatMap, List.mem_singleton] at given
  rcases given with (⟨contract, inside, here | rfl⟩ | here) | rfl
  · exact lineOf_contractLines inside here
  · exact .blank
  · exact lineOf_summaryLines here
  · exact .blank

/-- These hold of the title of a line, or of all its cells. -/
def Line.Each (title : String → Prop) (each : Cell → Prop) : Line → Prop
  | .title _ text => title text
  | .row cells => ∀ cell ∈ cells, each cell
  | .bottom => True
  | .blank => True

section Rows

variable {title : String → Prop} {each : Cell → Prop} {name gas reference difference : Styled}

/-- What holds of the row of a deployment is told by its three cells. -/
theorem each_deploymentRow : (deploymentRow name gas difference).Each title each ↔
    each (leftCell 40 name) ∧ each (rightCell 14 gas) ∧ each (rightCell 18 difference) := by
  simp [deploymentRow, Line.Each]

/-- What holds of the row of a function is told by its four cells. -/
theorem each_methodRow : (methodRow name gas reference difference).Each title each ↔
    each (leftCell 40 name) ∧ each (rightCell 11 gas) ∧ each (rightCell 11 reference) ∧
      each (rightCell 9 difference) := by
  simp [methodRow, Line.Each]

theorem each_countRow {name : String} : (countRow name gas).Each title each ↔
    each (leftCell 66 (heading name)) ∧ each (rightCell 7 gas) := by
  simp [countRow, Line.Each]

theorem each_deltaRow {name : String} : (deltaRow name difference).Each title each ↔
    each (leftCell 64 (.plain name)) ∧ each (rightCell 9 difference) := by
  simp [deltaRow, Line.Each]

end Rows

end Output

end GasReport
