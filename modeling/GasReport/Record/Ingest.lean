import GasReport.Record.Basic

namespace GasReport.Record

/-- This is what reading gave for each value of the list. -/
def readAll (markers : Markers) (values : List Json.Value) : List (Except Error Record) :=
  values.map (read markers)

def kept (results : List (Except Error Record)) : List Record :=
  results.filterMap Except.toOption

/-- Positions count all values of the list, from zero. -/
def malformed (results : List (Except Error Record)) : List (Nat × Error) :=
  results.zipIdx.filterMap fun (result, index) =>
    match result with
    | .ok _ => none
    | .error error => some (index, error)

def ingest (markers : Markers) (values : List Json.Value) : List Record :=
  kept (readAll markers values)

end GasReport.Record
