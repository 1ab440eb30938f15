import GasReport.Record.Basic

namespace GasReport

open Json (Value)

def Build.toValue (build : Build) : Value :=
  .object [
    ("type", .text build.toolchain.name),
    ("version", .text build.version),
    ("pipeline", .text build.pipeline.name),
    ("optimized", .truth build.optimized)]

def Gas.toValue (gas : Gas) : Value := .number (.float gas)

def Settings.toValue (settings : Settings) : Value := .object settings.entries

def Measurement.toValue (measurement : Measurement) : Value :=
  .object [
    ("compiler", measurement.build.toValue),
    ("contract", .text measurement.contract),
    ("deployment", .object [("gas", Gas.toValue measurement.gas)]),
    ("functions", .object (measurement.functions.map fun function =>
      (function.1, .object [("mean", Gas.toValue function.2)])))]

def BuildSettings.toValue (record : BuildSettings) : Value :=
  .object
    [("compiler", record.build.toValue), ("compilerSettings", Settings.toValue record.settings)]

def Record.toValue : Record → Value
  | .settings record => record.toValue
  | .measurement record => record.toValue

end GasReport
