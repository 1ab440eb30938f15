import GasReport.Text.CaseFolding.Table

namespace GasReport.Text.CaseFolding

/-- A set is joined by the places that its characters are moved to. -/
def spread (runs : List CharMap.Run) (set : CharSet) : CharSet :=
  let pairs := runs.flatMap fun run => if set.meets run.first run.last then run.pairs else []
  set.union (.ofCodes ((pairs.filter fun pair =>
    set.containsCode pair.1 && !set.containsCode pair.2).map (·.2)))

end GasReport.Text.CaseFolding

namespace GasReport.Text

/-- This adds all characters that differ from one in the set in case alone: first those that stand
for the characters of the set, then all that these stand for. -/
def CharSet.ignoreCase (set : CharSet) : CharSet :=
  let runs := CaseFolding.letters.runs
  CaseFolding.spread (runs.map CharMap.Run.reverse) (CaseFolding.spread runs set)

end GasReport.Text
