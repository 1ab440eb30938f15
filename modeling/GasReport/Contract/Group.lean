import GasReport.Record.Basic
import GasReport.Collection.Gather

namespace GasReport

/-- This is gas measured with one build, beside the settings of that build. -/
structure Sample where
  build : Build
  gas : Gas
  settings : Settings

/-- The settings belong to the toolchains that the measurements were made with. -/
structure ContractGroup where
  contract : String
  measurements : List Measurement
  settings : List BuildSettings

structure FunctionSamples where
  signature : String
  samples : List Sample

namespace ContractGroup

/-- The first settings record of each build counts. -/
def allSettings (records : List Record) : List BuildSettings :=
  firsts (·.build.name) (records.filterMap Record.settings?)

def attach (settings : List BuildSettings) (contract : String) (measurements : List Measurement) :
    ContractGroup where
  contract := contract
  measurements := measurements
  settings := settings.filter fun record =>
    measurements.any (·.build.toolchain = record.build.toolchain)

/-- There is one group for each measured contract, in the order of the first measurements. -/
def ofRecords (records : List Record) : List ContractGroup :=
  let measured := records.filterMap Record.measurement?
  (gather (measured.map fun measurement => (measurement.contract, measurement))).map fun part =>
    attach (allSettings records) part.1 part.2

/-- A build without a settings record has no settings. -/
def settingsOf (group : ContractGroup) (build : Build) : Settings :=
  match group.settings.find? (·.build.name = build.name) with
  | some record => record.settings
  | none => Dictionary.empty

def sample (group : ContractGroup) (build : Build) (gas : Gas) : Sample :=
  ⟨build, gas, group.settingsOf build⟩

/-- These are the samples of all functions, measurement by measurement. -/
def functionSamples (group : ContractGroup) : List (String × Sample) :=
  group.measurements.flatMap fun measurement =>
    measurement.functions.map fun function =>
      (function.1, group.sample measurement.build function.2)

/-- Functions stand in the order of their discovery. -/
def functions (group : ContractGroup) : List FunctionSamples :=
  (gather group.functionSamples).map fun part => ⟨part.1, part.2⟩

/-- Deployments are ranked with the optimized reference first and the candidate last. -/
def deployments (group : ContractGroup) : List Sample :=
  rankBy Sample.build
    (group.measurements.map fun measurement => group.sample measurement.build measurement.gas)

end ContractGroup

end GasReport
