import GasReport.Command.Arguments
import GasReport.Files.Search
import GasReport.Project.File

namespace GasReport.Command

inductive Warning where
  | emptyFile (path : String)
  | missingRecords (project : String) (toolchain : Toolchain)
deriving DecidableEq

def Warning.message : Warning → String
  | .emptyFile path => "Input file " ++ Text.quoted path ++ " is empty and will be skipped."
  | .missingRecords project toolchain =>
    "Project `" ++ project ++ "` has no " ++ toolchain.name ++ " records and will be skipped."

inductive Failure where
  | usage
  | pattern
  | noInput
  | notDirectory (path : String)
  | search (error : Files.PatternError)
  | input (error : InputError)
  | writing (path : String) (fault : Files.Fault)

def usageText : String :=
  "usage: [--quiet] [--project NAME] [--candidate-version VERSION] " ++
  "[--reference-version VERSION] " ++
    "[--via-ir-marker PATTERN] [--optimized-marker PATTERN] [--strict-baseline] " ++
    "[--output-format text|json] [--output-path FILE] PATH..."

def Failure.message : Failure → String
  | .usage => usageText
  | .pattern => "A marker is not a pattern."
  | .noInput => "No input files provided."
  | .notDirectory path =>
    "Expected a directory with JSON files, but got a file: " ++ Text.quoted path
  | .search error => error.message
  | .input error => error.message
  | .writing path fault =>
    "Report file " ++ Text.quoted path ++ " writing: " ++ fault.message

/-- Steps of a run collect their warnings up to the failure that ends it. -/
structure Step (A : Type) where
  warnings : List Warning
  result : Except Failure A

/-- A single path is a directory that is searched, and several paths are the files themselves. -/
def inputPaths (files : Files.Tree) (paths : List String) : Except Failure (List String) :=
  match paths with
  | [] => .error .noInput
  | [path] =>
    if files.isDirectory path then
      match files.findAll (path ++ "/**/*.json") with
      | .ok found => .ok found
      | .error error => .error (.search error)
    else .error (.notDirectory path)
  | _ => .ok paths

/-- An empty file is passed over. -/
def readFiles (files : Files.Tree) (archive : Archive) : List String → Step Archive
  | [] => ⟨[], .ok archive⟩
  | path :: rest =>
    match ReportFile.read files path with
    | .ok file => readFiles files (archive.extend file) rest
    | .error (.emptyFile path) =>
      let step := readFiles files archive rest
      ⟨.emptyFile path :: step.warnings, step.result⟩
    | .error error => ⟨[], .error (.input error)⟩

/-- A project without records of one toolchain is passed over. -/
def compareProjects (archive : Archive) (markers : Markers) (arguments : Arguments) :
    List String → Step (List ProjectReport)
  | [] => ⟨[], .ok []⟩
  | project :: rest =>
    match archive.project project with
    | .error error => ⟨[], .error (.input error)⟩
    | .ok records =>
      let others := compareProjects archive markers arguments rest
      match records.compare markers ⟨arguments.strictBaseline⟩ with
      | .error (.emptyInput toolchain) =>
        ⟨.missingRecords project toolchain :: others.warnings, others.result⟩
      | .ok contracts =>
        let report : ProjectReport :=
          ⟨project, contracts, arguments.candidateVersion, arguments.referenceVersion⟩
        ⟨others.warnings, others.result.map (report :: ·)⟩

/-- All projects are compared unless one is asked for. -/
def compareArchive (archive : Archive) (markers : Markers) (arguments : Arguments) :
    Step (List ProjectReport) :=
  compareProjects archive markers arguments
    (match arguments.project with
    | some project => [project]
    | none => archive.keys)

/-- Patterns are read before any file is. -/
def report (files : Files.Tree) (inColor : Bool) (arguments : Arguments) : Step String :=
  match arguments.markers? with
  | none => ⟨[], .error .pattern⟩
  | some markers =>
    match inputPaths files arguments.paths with
    | .error failure => ⟨[], .error failure⟩
    | .ok paths =>
      let read := readFiles files Dictionary.empty paths
      match read.result with
      | .error failure => ⟨read.warnings, .error failure⟩
      | .ok archive =>
        let compared := compareArchive archive markers arguments
        ⟨read.warnings ++ compared.warnings, compared.result.map
          (Output.render (arguments.format.getD .text) inColor)⟩

/-- This is what a run leaves behind: its output, or the file that it writes, and what it says of
failures on the way. -/
structure Outcome where
  output : String
  warnings : List String
  written : Option (String × String)
  failure : Option Failure

def Outcome.failed (warnings : List String) (failure : Failure) : Outcome :=
  ⟨"", warnings, none, some failure⟩

def Outcome.exitCode (outcome : Outcome) : Nat := if outcome.failure.isSome then 1 else 0

/-- The failure is put in the given words, after the warnings. -/
def Outcome.errorText (wording : Failure → String) (outcome : Outcome) : String :=
  String.join ((outcome.warnings ++
    (outcome.failure.toList.map fun failure => "Error: " ++ wording failure)).map (· ++ "\n"))

/-- A file that cannot be written fails the run. -/
def Outcome.store (outcome : Outcome) (files : Files.Tree) : Outcome × Files.Tree :=
  match outcome.written with
  | none => (outcome, files)
  | some (path, content) =>
    match files.write path content with
    | .ok files => (outcome, files)
    | .error fault => (.failed outcome.warnings (.writing path fault), files)

def warningText (inColor : Bool) (warning : Warning) : String :=
  (Output.Styled.colored .yellow "Warning:").render inColor .left 0 ++ " " ++ warning.message

/-- A report that goes to a file has no colours, and then neither have the warnings. -/
def run (files : Files.Tree) (colors : Bool) (texts : List String) : Outcome :=
  match Arguments.ofTexts? texts with
  | none => .failed [] .usage
  | some arguments =>
    let inColor := colors && arguments.outputPath.isNone
    let step := report files inColor arguments
    let warnings :=
      if arguments.quiet then [] else step.warnings.map (warningText inColor)
    match step.result with
    | .error failure => .failed warnings failure
    | .ok content =>
      match arguments.outputPath with
      | none => ⟨content, warnings, none, none⟩
      | some path => ⟨"", warnings, some (path, content), none⟩

end GasReport.Command
