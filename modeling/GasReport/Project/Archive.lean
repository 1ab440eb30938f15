import GasReport.Project.Records

namespace GasReport

/-- This file reports the records of one toolchain for one project. -/
structure SingleReport where
  project : String
  toolchain : Toolchain
  version : Option String
  records : List Json.Value

inductive ReportFile where
  | single (report : SingleReport)
  | combined (projects : Dictionary ProjectRecords)

/-- A record that says nothing of its compiler is given one as its last member. -/
def stamp (toolchain : Toolchain) (version : String) : Json.Value → Json.Value
  | .object members =>
    if members.any (·.1 = "compiler") then .object members
    else .object (members ++ [("compiler", .object [
      ("type", .text toolchain.name), ("version", .text version)])])
  | value => value

def SingleReport.stamped (report : SingleReport) : List Json.Value :=
  match report.version with
  | some version => report.records.map (stamp report.toolchain version)
  | none => report.records

/-- Projects are kept in the order of their names. -/
abbrev Archive := Dictionary ProjectRecords

namespace Archive

def extendProject (archive : Archive) (project : String) (toolchain : Toolchain)
    (values : List Json.Value) : Archive :=
  archive.update project .empty (·.extend toolchain values)

def extendSingle (archive : Archive) (report : SingleReport) : Archive :=
  archive.extendProject report.project report.toolchain report.stamped

def extendCombined (archive : Archive) (projects : Dictionary ProjectRecords) : Archive :=
  projects.entries.foldl
    (fun archive entry =>
      archive.update entry.1 .empty fun records =>
        (records.extend .solc entry.2.solc).extend .solx entry.2.solx)
    archive

/-- Records of a file follow those that are there. -/
def extend (archive : Archive) : ReportFile → Archive
  | .single report => archive.extendSingle report
  | .combined projects => archive.extendCombined projects

end Archive

end GasReport
