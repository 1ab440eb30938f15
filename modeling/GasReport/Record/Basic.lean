import GasReport.Record.Draft
import GasReport.Compiler.Build
import GasReport.Collection.Dictionary

namespace GasReport

/-- The settings of a compiler are kept as they are, with the top level in the order of its keys. -/
abbrev Settings := Dictionary Json.Value

/-- This is the gas of one contract, built by one compiler: of its deployment and of its functions.
-/
structure Measurement where
  build : Build
  contract : String
  gas : Gas
  functions : List (String × Gas)

structure BuildSettings where
  build : Build
  settings : Settings

inductive Record where
  | settings (record : BuildSettings)
  | measurement (record : Measurement)

namespace Measurement

/-- The first mean counts if a signature stands more than once. -/
def mean? (measurement : Measurement) (signature : String) : Option Gas :=
  (measurement.functions.find? (·.1 == signature)).map (·.2)

end Measurement

namespace Record

def build : Record → Build
  | .settings record => record.build
  | .measurement record => record.build

def measurement? : Record → Option Measurement
  | .settings _ => none
  | .measurement record => some record

def settings? : Record → Option BuildSettings
  | .settings record => some record
  | .measurement _ => none

def checkGas (place : String) (gas : Gas) : Except Error Gas :=
  if gas < 0.0 then .error (.negativeGas place gas) else .ok gas

/-- The compiler is checked field by field. -/
def readBuild (markers : Markers) (compiler : Option CompilerDraft) : Except Error Build := do
  let compiler ← need .compiler compiler
  let toolchainName ← need .compilerType compiler.toolchain
  match Toolchain.ofName? toolchainName with
  | none => .error (.unknownToolchain toolchainName)
  | some toolchain =>
    let version ← need .compilerVersion compiler.version
    .ok (.tagged markers ⟨toolchain, version⟩)
where
  need {A : Type} (field : RequiredField) : Option A → Except Error A
    | some value => .ok value
    | none => .error (.missingField field)

def readMean (signature : String) (value : Json.Value) : Except Error Gas :=
  match readFunction value with
  | .error cause => .error (.shape cause)
  | .ok none => .error (.functionWithoutMean signature)
  | .ok (some mean) => checkGas signature mean

/-- The first function that is at fault decides. -/
def readMeans : List (String × Json.Value) → Except Error (List (String × Gas))
  | [] => .ok []
  | (signature, value) :: rest => do
    let mean ← readMean signature value
    let means ← readMeans rest
    .ok ((signature, mean) :: means)

def readMeasurement (build : Build) (contract : String) (draft : Draft) :
    Except Error Measurement :=
  match draft.deployment with
  | some (some deployed) => do
    let gas ← checkGas RequiredField.deploymentGas.path deployed
    let functions ← readMeans (Json.mergeMembers (draft.functions.getD []))
    .ok ⟨build, contract, gas, functions⟩
  | _ => .error (.missingField .deploymentGas)

/-- A record with a contract is a measurement, whatever settings it carries. -/
def read (markers : Markers) (value : Json.Value) : Except Error Record :=
  match Draft.read value with
  | .error cause => .error (.shape cause)
  | .ok draft => do
    let build ← readBuild markers draft.compiler
    match draft.contract, draft.settings with
    | some contract, _ => (readMeasurement build contract draft).map .measurement
    | none, some members => .ok (.settings ⟨build, Dictionary.ofList members⟩)
    | none, none => .error .untagged

end Record

end GasReport
