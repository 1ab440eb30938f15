import GasReport.Record.Ingest
import GasReport.Contract.Comparison

namespace GasReport

/-- The records stay document values until the project is compared, so that malformed ones can be
skipped one by one. -/
structure ProjectRecords where
  solc : List Json.Value
  solx : List Json.Value

namespace ProjectRecords

def empty : ProjectRecords := ⟨[], []⟩

def of (records : ProjectRecords) : Toolchain → List Json.Value
  | .solc => records.solc
  | .solx => records.solx

def extend (records : ProjectRecords) (toolchain : Toolchain) (values : List Json.Value) :
    ProjectRecords :=
  match toolchain with
  | .solc => { records with solc := records.solc ++ values }
  | .solx => { records with solx := records.solx ++ values }

/-- These are the records that can be read, of one toolchain. -/
def ingest (records : ProjectRecords) (markers : Markers) (toolchain : Toolchain) : List Record :=
  Record.ingest markers (records.of toolchain)

def judge (records : ProjectRecords) (markers : Markers) (options : ComparisonOptions) :
    Except ComparisonError (List Verdict) :=
  GasReport.judge options (records.ingest markers .solc) (records.ingest markers .solx)

def compare (records : ProjectRecords) (markers : Markers) (options : ComparisonOptions) :
    Except ComparisonError (List ContractReport) :=
  compareRecords options (records.ingest markers .solc) (records.ingest markers .solx)

def malformed (records : ProjectRecords) (markers : Markers) (toolchain : Toolchain) :
    List Notice :=
  (Record.malformed (Record.readAll markers (records.of toolchain))).map fun (index, error) =>
    .malformedRecord index error

/-- Malformed records are noted first, then what the comparison leaves out. -/
def notices (records : ProjectRecords) (markers : Markers) (options : ComparisonOptions) :
    List Notice :=
  let judged := match records.judge markers options with
    | .ok verdicts => verdicts.flatMap Verdict.notices
    | .error _ => []
  records.malformed markers .solc ++ records.malformed markers .solx ++ judged

def toValue (records : ProjectRecords) : Json.Value :=
  .object [("solc", .array records.solc), ("solx", .array records.solx)]

end ProjectRecords

end GasReport
