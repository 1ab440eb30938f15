import GasReport.Output.Document
import GasReport.Output.Table
import GasReport.Text.Lowercase

namespace GasReport.Output

inductive Format where
  | text
  | json
deriving DecidableEq

def Format.name : Format → String
  | .text => "text"
  | .json => "json"

def Format.all : List Format := [.text, .json]

/-- A name may be written in any case. -/
def Format.ofName? (name : String) : Option Format :=
  Format.all.find? (·.name == Text.lowercase name)

/-- The message shows the name in lower case. -/
def Format.unknownMessage (name : String) : String :=
  "Unknown report format `" ++ Text.lowercase name ++ "`. Supported formats: " ++
    String.intercalate ", " (Format.all.map Format.name)

def render (format : Format) (inColor : Bool) (reports : List ProjectReport) : String :=
  match format with
  | .text => tables inColor reports
  | .json => ProjectReport.document reports

end GasReport.Output
