import GasReport.Output.Format
import GasReport.Compiler.Build

namespace GasReport.Command

structure Arguments where
  quiet : Bool
  paths : List String
  project : Option String
  candidateVersion : Option String
  referenceVersion : Option String
  viaIRMarker : Option String
  optimizedMarker : Option String
  strictBaseline : Bool
  format : Option Output.Format
  outputPath : Option String

namespace Arguments

def start : Arguments :=
  ⟨false, [], none, none, none, none, none, false, none, none⟩

/-- These options take a value. -/
inductive Setting where
  | project
  | candidateVersion
  | referenceVersion
  | viaIRMarker
  | optimizedMarker
  | format
  | outputPath
deriving DecidableEq

inductive Switch where
  | quiet
  | strictBaseline
deriving DecidableEq

def Setting.ofName? : String → Option Setting
  | "project" => some .project
  | "candidate-version" => some .candidateVersion
  | "reference-version" => some .referenceVersion
  | "via-ir-marker" => some .viaIRMarker
  | "optimized-marker" => some .optimizedMarker
  | "output-format" => some .format
  | "output-path" => some .outputPath
  | _ => none

def Switch.ofName? : String → Option Switch
  | "quiet" => some .quiet
  | "strict-baseline" => some .strictBaseline
  | _ => none

/-- A setting may be given once. -/
def once {A : Type} (old : Option A) (new : A) : Option (Option A) :=
  if old.isSome then none else some (some new)

def set? (arguments : Arguments) (value : String) : Setting → Option Arguments
  | .project => (once arguments.project value).map ({ arguments with project := · })
  | .candidateVersion =>
    (once arguments.candidateVersion value).map ({ arguments with candidateVersion := · })
  | .referenceVersion =>
    (once arguments.referenceVersion value).map ({ arguments with referenceVersion := · })
  | .viaIRMarker => (once arguments.viaIRMarker value).map ({ arguments with viaIRMarker := · })
  | .optimizedMarker =>
    (once arguments.optimizedMarker value).map ({ arguments with optimizedMarker := · })
  | .format => do
    let format ← Output.Format.ofName? value
    (once arguments.format format).map ({ arguments with format := · })
  | .outputPath =>
    if value.isEmpty then none
    else (once arguments.outputPath value).map ({ arguments with outputPath := · })

/-- A switch may be given once. -/
def turnOn? (arguments : Arguments) : Switch → Option Arguments
  | .quiet => if arguments.quiet then none else some { arguments with quiet := true }
  | .strictBaseline =>
    if arguments.strictBaseline then none else some { arguments with strictBaseline := true }

def addPath? (arguments : Arguments) (path : String) : Option Arguments :=
  if path.isEmpty then none else some { arguments with paths := arguments.paths ++ [path] }

/-- This is what one argument means by itself. -/
inductive Word where
  | separator
  | switch (switch : Switch)
  | setting (setting : Setting) (value : Option String)
  | path (path : String)
  | unknown

/-- A name and its value may be joined by an equals sign. A lone hyphen is a path. -/
def Word.ofText (text : String) : Word :=
  match text.toList with
  | ['-', '-'] => .separator
  | ['-', 'q'] => .switch .quiet
  | ['-'] => .path text
  | '-' :: '-' :: option =>
    let name := String.ofList (option.takeWhile (· != '='))
    let value := (option.dropWhile (· != '=')).tail?.map String.ofList
    match Setting.ofName? name, Switch.ofName? name, value with
    | some named, _, value => .setting named value
    | none, some turned, none => .switch turned
    | _, _, _ => .unknown
  | '-' :: _ => .unknown
  | _ => .path text

def Word.isValue (text : String) : Bool :=
  match text.toList with
  | '-' :: _ :: _ => false
  | _ => true

/-- A setting without a joined value takes the next argument, unless that looks like an option.
After a separator every argument is a path. -/
def read? (arguments : Arguments) : List String → Option Arguments
  | [] => some arguments
  | text :: rest =>
    match Word.ofText text with
    | .separator => rest.foldlM addPath? arguments
    | .switch switch => do read? (← arguments.turnOn? switch) rest
    | .setting setting (some value) => do read? (← arguments.set? value setting) rest
    | .setting setting none =>
      match rest with
      | [] => none
      | value :: rest =>
        if Word.isValue value then do read? (← arguments.set? value setting) rest
        else none
    | .path path => do read? (← arguments.addPath? path) rest
    | .unknown => none

/-- Without any argument the command only shows its usage. -/
def ofTexts? (texts : List String) : Option Arguments :=
  if texts.isEmpty then none else read? start texts

def markers? (arguments : Arguments) : Option Markers :=
  Markers.ofTexts? (arguments.viaIRMarker.getD Markers.viaIRText)
    (arguments.optimizedMarker.getD Markers.optimizedText)

end Arguments

end GasReport.Command
