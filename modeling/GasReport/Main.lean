import GasReport.Command.Run

/-!
Files are loaded into a tree, the run is computed from the tree, and its outcome is written out.
What a directory holds is named on standard input, one path a line.
-/

namespace GasReport.Command

/-- A path that cannot be read is left out of the tree, and the run reports it. -/
def load (files : Files.Tree) (path : String) : IO Files.Tree := do
  try
    let content ← IO.FS.readBinFile path
    return files.addFile path content
  catch
    | .inappropriateType .. => return files.addDirectory path
    | _ => return files

/-- Values of options are tried as paths, too, which does no harm. -/
def loadAll (texts : List String) : IO Files.Tree := do
  let named ← texts.foldlM load Files.Tree.empty
  if texts.any named.isDirectory then
    let listed ← IO.FS.lines "/dev/stdin"
    listed.foldlM load named
  else return named

def faultOf : IO.Error → Files.Fault
  | .noFileOrDirectory .. => .missing
  | .noSuchThing .. => .missing
  | .inappropriateType .. => .isDirectory
  | error => .other (toString error)

/-- A report file that cannot be written turns the outcome into a failure. -/
def store (outcome : Outcome) : IO Outcome :=
  match outcome.written with
  | none => return outcome
  | some (path, content) => do
    try
      IO.FS.writeFile path content
      return outcome
    catch error => return .failed outcome.warnings (.writing path (faultOf error))

/-- Colours are forced by a variable of the environment. -/
def wantsColors : IO Bool := do
  match ← IO.getEnv "CLICOLOR_FORCE" with
  | some value => return value != "0"
  | none => return false

end GasReport.Command

open GasReport

def main (texts : List String) : IO UInt32 := do
  let files ← Command.loadAll texts
  let outcome ← Command.store (Command.run files (← Command.wantsColors) texts)
  IO.print outcome.output
  IO.eprint (outcome.errorText Command.Failure.message)
  return outcome.exitCode.toUInt32
