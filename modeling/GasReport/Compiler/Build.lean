import GasReport.Compiler.Toolchain
import GasReport.Pattern.Reader
import GasReport.Pattern.Search

namespace GasReport

inductive Pipeline where
  | default
  | viaIR
deriving DecidableEq

def Pipeline.name : Pipeline → String
  | .default => "default"
  | .viaIR => "via-ir"

/-- These patterns find the marks that a version text carries. -/
structure Markers where
  viaIR : Pattern
  optimized : Pattern

namespace Markers

def viaIRText : String := "via-ir"

def optimizedText : String := "opt"

def standard : Markers := ⟨.literal viaIRText, .literal optimizedText⟩

def ofTexts? (viaIR optimized : String) : Option Markers := do
  let viaIR ← Pattern.ofText? viaIR
  let optimized ← Pattern.ofText? optimized
  some ⟨viaIR, optimized⟩

def pipeline (markers : Markers) (version : String) : Pipeline :=
  if markers.viaIR.occursIn version then .viaIR else .default

def isOptimized (markers : Markers) (version : String) : Bool :=
  markers.optimized.occursIn version

end Markers

/-- Builds with the same name are the same build. -/
structure BuildName where
  toolchain : Toolchain
  version : String
deriving DecidableEq

/-- A build is tagged once, by what its version text tells of how code is generated. -/
structure Build where
  name : BuildName
  pipeline : Pipeline
  optimized : Bool
deriving DecidableEq

namespace Build

def tagged (markers : Markers) (name : BuildName) : Build :=
  ⟨name, markers.pipeline name.version, markers.isOptimized name.version⟩

def toolchain (build : Build) : Toolchain := build.name.toolchain

def version (build : Build) : String := build.name.version

def label (build : Build) : String := build.toolchain.name ++ " " ++ build.version

/-- Function gas is compared with the default pipeline of the candidate. -/
def isBaselineCandidate (build : Build) : Bool :=
  build.toolchain.isCandidate && build.pipeline == .default

def isCandidateViaIR (build : Build) : Bool :=
  build.toolchain.isCandidate && build.pipeline == .viaIR

def isOptimizedReference (build : Build) : Bool :=
  build.toolchain.isReference && build.optimized && build.pipeline == .default

end Build

/-- Deployments are ranked by this, highest first. -/
inductive Priority where
  | optimizedReference
  | reference
  | candidate
deriving DecidableEq

namespace Priority

def ofBuild (build : Build) : Priority :=
  if build.isOptimizedReference then .optimizedReference
  else if build.toolchain.isReference then .reference
  else .candidate

def rank : Priority → Nat
  | .optimizedReference => 0
  | .reference => 1
  | .candidate => 2

def name : Priority → String
  | .optimizedReference => "OptimizedReference"
  | .reference => "Reference"
  | .candidate => "Candidate"

end Priority

/-- Entries of equal priority keep their order. -/
def rankBy {A : Type} (build : A → Build) (entries : List A) : List A :=
  entries.mergeSort fun first second =>
    (Priority.ofBuild (build first)).rank ≤ (Priority.ofBuild (build second)).rank

end GasReport
