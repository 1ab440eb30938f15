import GasReport.Record.Layout

namespace GasReport.Record

structure CompilerDraft where
  toolchain : Option String
  version : Option String

inductive CompilerField where
  | toolchain
  | version
deriving DecidableEq

/-- The toolchain is also accepted under the key `family`. -/
def CompilerField.ofKey? : String → Option CompilerField
  | "type" => some .toolchain
  | "family" => some .toolchain
  | "version" => some .version
  | _ => none

def CompilerField.name : CompilerField → String
  | .toolchain => "type"
  | .version => "version"

def compilerLayout : Layout CompilerField CompilerDraft where
  expected := .compiler
  fields := [.toolchain, .version]
  name := CompilerField.name
  ofKey? := CompilerField.ofKey?
  store
    | .toolchain, value, draft => do
      let toolchain ← optional readText value
      .ok { draft with toolchain }
    | .version, value, draft => do
      let version ← optional readText value
      .ok { draft with version }

def readCompiler (value : Json.Value) : Except ShapeError CompilerDraft :=
  compilerLayout.read ⟨none, none⟩ value

/-- A deployment and a function hold one amount each, under keys of their own. -/
def amountLayout (expected : Expected) (key : String) : Layout Unit (Option Gas) where
  expected := expected
  fields := [()]
  name := fun _ => key
  ofKey? := fun found => if found = key then some () else none
  store := fun _ value _ => optional readAmount value

def readDeployment (value : Json.Value) : Except ShapeError (Option Gas) :=
  (amountLayout .deployment "gas").read none value

def readFunction (value : Json.Value) : Except ShapeError (Option Gas) :=
  (amountLayout .function "mean").read none value

structure Draft where
  compiler : Option CompilerDraft
  contract : Option String
  deployment : Option (Option Gas)
  functions : Option (List (String × Json.Value))
  settings : Option (List (String × Json.Value))

inductive Field where
  | compiler
  | contract
  | deployment
  | functions
  | settings
deriving DecidableEq

def Field.name : Field → String
  | .compiler => "compiler"
  | .contract => "contract"
  | .deployment => "deployment"
  | .functions => "functions"
  | .settings => "compilerSettings"

def Field.all : List Field := [.compiler, .contract, .deployment, .functions, .settings]

def Field.ofKey? (key : String) : Option Field := Field.all.find? (·.name == key)

def draftLayout : Layout Field Draft where
  expected := .record
  fields := Field.all
  name := Field.name
  ofKey? := Field.ofKey?
  store
    | .compiler, value, draft => do
      let compiler ← optional readCompiler value
      .ok { draft with compiler }
    | .contract, value, draft => do
      let contract ← optional readText value
      .ok { draft with contract }
    | .deployment, value, draft => do
      let deployment ← optional readDeployment value
      .ok { draft with deployment }
    | .functions, value, draft => do
      let functions ← optional readMap value
      .ok { draft with functions }
    | .settings, value, draft => do
      let settings ← optional readMap value
      .ok { draft with settings }

def Draft.read (value : Json.Value) : Except ShapeError Draft :=
  draftLayout.read ⟨none, none, none, none, none⟩ value

end GasReport.Record
