import GasReport.Output.Frame
import GasReport.Project.Report

namespace GasReport.Output

def leftCell (width : Nat) (content : Styled) : Cell := ⟨.left, width, content⟩

def rightCell (width : Nat) (content : Styled) : Cell := ⟨.right, width, content⟩

def heading (text : String) : Styled := .colored .white text

/-- Improvements are green and regressions red. -/
def differenceText : Option Percentage → Styled
  | none => .colored .gray "N/A"
  | some percentage =>
    if percentage.value < 0.0 then .colored .green percentage.text
    else if percentage.value > 0.0 then .colored .red percentage.text
    else .plain percentage.text

def gasText : Option Gas → Styled
  | some gas => .plain (Decimal.plain gas)
  | none => .plain "-"

def deploymentRow (name gas difference : Styled) : Line :=
  .row [leftCell 40 name, rightCell 14 gas, rightCell 18 difference]

def methodRow (name candidate reference difference : Styled) : Line :=
  .row [leftCell 40 name, rightCell 11 candidate, rightCell 11 reference, rightCell 9 difference]

def countRow (name : String) (value : Styled) : Line :=
  .row [leftCell 66 (heading name), rightCell 7 value]

def deltaRow (name : String) (difference : Styled) : Line :=
  .row [leftCell 64 (.plain name), rightCell 9 difference]

def contractLines (contract : ContractReport) (pair : VersionPair) : List Line :=
  [.title .top contract.contract,
    deploymentRow (heading "Deployment") (.plain "Gas") (.plain "Diff (%)")] ++
  (contract.deploymentDifferences.map fun entry =>
    deploymentRow (.plain entry.build.label) (gasText (some entry.gas))
      (differenceText entry.difference)) ++
  [.title .across pair.label,
    methodRow (heading "Method") (.plain "solx") (.plain "solc") (.plain "Diff (%)")] ++
  ((contract.methodRows pair).map fun row =>
    methodRow (.plain (clip 40 (shortName row.name))) (gasText row.candidate)
      (gasText row.reference) (differenceText row.difference)) ++
  [.title .across "Counts",
    countRow "Total methods" (.plain (toString contract.methodCount)),
    countRow "Methods where solx is more efficient"
      (.colored .green (toString (contract.efficiencyCount pair))),
    .bottom]

/-- The name of a contract follows the last colon, after its path. -/
def contractShortName (contract : String) : String :=
  String.ofList (contract.toList.reverse.takeWhile (· != ':')).reverse

/-- Only so many functions are listed. -/
def topCount : Nat := 10

def deltaLines (title : String) (deltas : List FunctionDelta) : List Line :=
  if deltas.isEmpty then []
  else
    let shown := toString (min deltas.length topCount)
    .title .across (title ++ " (" ++ shown ++ " of " ++ toString deltas.length ++ ")") ::
      (deltas.take topCount).map fun delta =>
        deltaRow (clip 64 (contractShortName delta.contract ++ "::" ++ delta.function))
          (differenceText (some delta.difference))

def summaryLines (project : String) (summary : Summary) : List Line :=
  let statistics := summary.statistics
  [.title .top ("Summary: " ++ project),
    countRow "Total methods" (.plain (toString statistics.total)),
    countRow "Compared methods" (.plain (toString statistics.compared)),
    countRow "Improved methods" (.colored .green (toString statistics.improved)),
    countRow "Regressed methods" (.colored .red (toString statistics.regressed)),
    countRow "Average difference (%)" (differenceText statistics.average)] ++
  deltaLines "Top improvements" summary.improvements ++
  deltaLines "Top regressions" summary.regressions ++
  [.bottom]

/-- A blank line follows every frame. -/
def projectLines (report : ProjectReport) : List Line :=
  (report.contracts.flatMap fun contract =>
    contractLines contract (report.pair contract) ++ [.blank]) ++
  summaryLines report.project report.summary ++ [.blank]

def tables (inColor : Bool) (reports : List ProjectReport) : String :=
  renderLines inColor (reports.flatMap projectLines)

end GasReport.Output
