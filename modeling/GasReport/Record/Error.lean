import GasReport.Json.Value
import GasReport.Text.Quoted
import GasReport.Gas.Percentage

namespace GasReport.Record

/-- This names what a place of a record must hold. -/
inductive Expected where
  | record
  | compiler
  | deployment
  | function
  | text
  | amount
  | map
deriving DecidableEq

def Expected.label : Expected → String
  | .record => "struct RawRecord"
  | .compiler => "struct RawCompiler"
  | .deployment => "struct RawDeployment"
  | .function => "struct RawFunction"
  | .text => "a string"
  | .amount => "f64"
  | .map => "a map"

inductive ShapeError where
  | wrongKind (found : Json.Value) (expected : Expected)
  | repeatedField (name : String)
  | tooFew (found : Nat) (expected : Expected) (count : Nat)
  | tooMany (found : Nat)

/-- A message shows scalars and only names the kind of arrays and objects. -/
def describe : Json.Value → String
  | .null => "null"
  | .truth value => "boolean `" ++ (if value then "true" else "false") ++ "`"
  | .number (.integer value) => "integer `" ++ toString value ++ "`"
  | .number (.float value) => "floating point `" ++ Decimal.document value ++ "`"
  | .text value => "string " ++ Text.quoted value
  | .array _ => "sequence"
  | .object _ => "map"

def ShapeError.message : ShapeError → String
  | .wrongKind found expected =>
    "invalid type: " ++ describe found ++ ", expected " ++ expected.label
  | .repeatedField name => "duplicate field `" ++ name ++ "`"
  | .tooFew found expected count =>
    "invalid length " ++ toString found ++ ", expected " ++ expected.label ++ " with " ++
      toString count ++ (if count = 1 then " element" else " elements")
  | .tooMany found =>
    "invalid length " ++ toString found ++ ", expected fewer elements in array"

/-- These fields a record cannot do without. -/
inductive RequiredField where
  | compiler
  | compilerType
  | compilerVersion
  | deploymentGas
deriving DecidableEq

def RequiredField.path : RequiredField → String
  | .compiler => "compiler"
  | .compilerType => "compiler.type"
  | .compilerVersion => "compiler.version"
  | .deploymentGas => "deployment.gas"

inductive Error where
  | shape (cause : ShapeError)
  | missingField (field : RequiredField)
  | unknownToolchain (name : String)
  | functionWithoutMean (signature : String)
  | negativeGas (place : String) (gas : Gas)
  | untagged

def Error.message : Error → String
  | .shape cause => "Unexpected record shape: " ++ cause.message
  | .missingField field => "Missing field `" ++ field.path ++ "`"
  | .unknownToolchain name => "Unknown toolchain `" ++ name ++ "`"
  | .functionWithoutMean signature => "Function `" ++ signature ++ "` has no mean gas value"
  | .negativeGas place gas =>
    "Negative gas amount " ++ Decimal.plain gas ++ " in `" ++ place ++ "`"
  | .untagged => "Record has neither `contract` nor `compilerSettings`"

end GasReport.Record
