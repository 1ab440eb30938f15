import GasReport.Contract.Baseline

namespace GasReport

/-- This is a sample with its difference from the gas of the baseline. -/
structure RelativeSample where
  sample : Sample
  base : Gas
  difference : Percentage

structure FunctionComparison where
  name : String
  versions : List RelativeSample

/-- A function is left out when it has nothing to be compared with. -/
inductive FunctionSkip where
  | notMeasured
  | zeroGas
deriving DecidableEq

namespace FunctionSamples

/-- Beside the baseline, the reference and the candidate builds of the other pipeline are compared.
-/
def retains (baseline : Build) (sample : Sample) : Bool :=
  sample.build.name = baseline.name || sample.build.toolchain.isReference ||
    sample.build.isCandidateViaIR

def base? (function : FunctionSamples) (baseline : Build) : Option Gas :=
  (function.samples.find? (·.build.name = baseline.name)).map Sample.gas

def relative? (base : Gas) (sample : Sample) : Option RelativeSample :=
  (difference? sample.gas base).map fun difference => ⟨sample, base, difference⟩

def compare (function : FunctionSamples) (baseline : Build) :
    Except FunctionSkip FunctionComparison :=
  match function.base? baseline with
  | none => .error .notMeasured
  | some base =>
    if base == 0.0 then .error .zeroGas
    else .ok
      { name := function.signature
        versions := (function.samples.filter (retains baseline)).filterMap (relative? base) }

end FunctionSamples

namespace FunctionComparison

def version? (function : FunctionComparison) (toolchain : Toolchain) (version : String) :
    Option RelativeSample :=
  function.versions.find? (·.sample.build.name = ⟨toolchain, version⟩)

def gas? (function : FunctionComparison) (toolchain : Toolchain) (version : String) : Option Gas :=
  (function.version? toolchain version).map (·.sample.gas)

end FunctionComparison

/-- The short name of a function ends where its parameters begin. -/
def shortName (signature : String) : String :=
  String.ofList (signature.toList.takeWhile (· != '('))

end GasReport
