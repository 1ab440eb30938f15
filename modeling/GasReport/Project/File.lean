import GasReport.Project.Archive
import GasReport.Json.Structure
import GasReport.Files.Tree

namespace GasReport

open Json (Tree Value)

namespace ProjectRecords

def listOf? (depth : Nat) : Option Tree → Option (List Value)
  | none => some []
  | some tree => tree.values? (depth + 1)

/-- An array holds the two lists in order, and lists may be missing. -/
def ofTree? (depth : Nat) : Tree → Option ProjectRecords
  | .object members => do
    let members ← Tree.keyed? members
    let solc ← Tree.field? members "solc"
    let solx ← Tree.field? members "solx"
    some ⟨← listOf? (depth + 1) solc, ← listOf? (depth + 1) solx⟩
  | .array items =>
    if 2 < items.length then none
    else do some ⟨← listOf? (depth + 1) items[0]?, ← listOf? (depth + 1) items[1]?⟩
  | _ => none

def ofText? (text : String) : Option ProjectRecords :=
  (Tree.ofText? text).bind (ofTree? 0)

end ProjectRecords

namespace SingleReport

/-- The toolchain is written exactly, as a text or as the only member of an object, without value.
-/
def toolchain? : Tree → Option Toolchain
  | .object [(key, .null)] => (Json.textOf? key).bind Toolchain.ofExactName?
  | tree => tree.string?.bind Toolchain.ofExactName?

def version? : Tree → Option (Option String)
  | .null => some none
  | tree => tree.string?.map some

def ofParts? (project toolchain : Tree) (version : Option Tree) (records : Tree) :
    Option SingleReport := do
  let project ← project.string?
  let toolchain ← toolchain? toolchain
  let version ← version? (version.getD .null)
  let records ← records.values? 2
  some ⟨project, toolchain, version, records⟩

def ofTree? : Tree → Option SingleReport
  | .object members => do
    let members ← Tree.keyed? members
    let project ← Tree.field? members "project"
    let toolchain ← Tree.field? members "toolchain"
    let version ← Tree.field? members "version"
    let records ← Tree.field? members "data"
    ofParts? (← project) (← toolchain) version (← records)
  | .array [project, toolchain, version, records] => ofParts? project toolchain version records
  | _ => none

end SingleReport

namespace ReportFile

/-- A project that stands twice takes the later records. -/
def combined? : Tree → Option (Dictionary ProjectRecords)
  | .object members => do
    let members ← Tree.keyed? members
    let projects ← members.mapM fun member => (ProjectRecords.ofTree? 1 member.2).map (member.1, ·)
    some (Dictionary.ofList projects)
  | _ => none

/-- The layout that names one toolchain is tried first. -/
def ofTree? (tree : Tree) : Option ReportFile :=
  match SingleReport.ofTree? tree with
  | some report => some (.single report)
  | none => (combined? tree).map .combined

inductive Fault where
  | empty
  | malformed
  | unknownLayout
deriving DecidableEq

/-- The value of a file must be readable before its layout is asked for, and what follows it is only
looked at when the layout is known. -/
def ofText (text : String) : Except Fault ReportFile :=
  if Text.isBlank text then .error .empty
  else
    match Tree.leading? text with
    | none => .error .malformed
    | some (tree, alone) =>
      if (tree.value? Json.deepest).isNone then .error .malformed
      else
        match ofTree? tree with
        | none => .error .unknownLayout
        | some file => if alone then .ok file else .error .malformed

end ReportFile

inductive InputError where
  | reading (path : String) (fault : Files.Fault)
  | emptyFile (path : String)
  | malformed (path : String)
  | unknownLayout (path : String)
  | missingProject (project : String)

def InputError.message : InputError → String
  | .reading path fault => "Reading input file " ++ Text.quoted path ++ ": " ++ fault.message
  | .emptyFile path => "Input file " ++ Text.quoted path ++ " is empty"
  | .malformed path => "Parsing input file " ++ Text.quoted path ++ ": malformed document"
  | .unknownLayout path =>
    "Parsing input file " ++ Text.quoted path ++
      ": data did not match any variant of untagged enum InputFile"
  | .missingProject project => "No data available for project `" ++ project ++ "`"

def ReportFile.read (files : Files.Tree) (path : String) : Except InputError ReportFile :=
  match files.readText path with
  | .error fault => .error (.reading path fault)
  | .ok text =>
    match ReportFile.ofText text with
    | .ok file => .ok file
    | .error .empty => .error (.emptyFile path)
    | .error .malformed => .error (.malformed path)
    | .error .unknownLayout => .error (.unknownLayout path)

def Archive.project (archive : Archive) (project : String) : Except InputError ProjectRecords :=
  match archive.get? project with
  | some records => .ok records
  | none => .error (.missingProject project)

end GasReport
