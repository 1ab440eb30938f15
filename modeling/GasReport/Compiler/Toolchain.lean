import GasReport.Text.Lowercase

namespace GasReport

/-- The gas of `solx` builds is judged against that of `solc` builds. -/
inductive Toolchain where
  | solc
  | solx
deriving DecidableEq

namespace Toolchain

def name : Toolchain → String
  | .solc => "solc"
  | .solx => "solx"

def all : List Toolchain := [.solc, .solx]

def isReference (toolchain : Toolchain) : Bool := toolchain == .solc

def isCandidate (toolchain : Toolchain) : Bool := toolchain == .solx

/-- The reference comes first. -/
def order : Toolchain → Nat
  | .solc => 0
  | .solx => 1

def ofExactName? (name : String) : Option Toolchain :=
  all.find? (·.name == name)

/-- A name may be written in any case. -/
def ofName? (name : String) : Option Toolchain :=
  ofExactName? (Text.lowercase name)

def unknownMessage (name : String) : String :=
  "Unknown toolchain `" ++ name ++ "`. Supported toolchains: " ++
    String.intercalate ", " (all.map Toolchain.name)

end Toolchain

end GasReport
