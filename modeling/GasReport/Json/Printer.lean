import GasReport.Json.Value
import GasReport.Decimal.Layout

namespace GasReport.Json

def hexDigit (value : Nat) : Char := Nat.digitChar value

/-- Only quotes, backslashes and control characters are escaped. -/
def escape (letter : Char) : List Char :=
  match letter with
  | '\x22' => ['\\', '\x22']
  | '\\' => ['\\', '\\']
  | '\x08' => ['\\', 'b']
  | '\x0c' => ['\\', 'f']
  | '\n' => ['\\', 'n']
  | '\r' => ['\\', 'r']
  | '\t' => ['\\', 't']
  | _ =>
    if letter.toNat < 0x20 then
      ['\\', 'u', '0', '0', hexDigit (letter.toNat / 16), hexDigit (letter.toNat % 16)]
    else [letter]

def quote (text : String) : String :=
  String.ofList ('\x22' :: text.toList.flatMap escape ++ ['\x22'])

def Number.write : Number → String
  | .integer value => toString value
  | .float value => Decimal.document value

/-- This is the space between the parts of an array or object. -/
structure Spacing where
  afterColon : String
  lineBreak : Nat → String

def Spacing.compact : Spacing := ⟨"", fun _ => ""⟩

/-- Each level is indented by two blanks. -/
def Spacing.pretty : Spacing :=
  ⟨" ", fun level => String.ofList ('\n' :: List.replicate (2 * level) ' ')⟩

def enclose (spacing : Spacing) (level : Nat) (opening closing : String) (parts : List String) :
    String :=
  if parts.isEmpty then opening ++ closing
  else
    let inner := spacing.lineBreak (level + 1)
    opening ++ inner ++ String.intercalate ("," ++ inner) parts ++ spacing.lineBreak level ++
      closing

mutual

def Value.write (spacing : Spacing) (level : Nat) : Value → String
  | .null => "null"
  | .truth value => if value then "true" else "false"
  | .number amount => amount.write
  | .text value => quote value
  | .array items => enclose spacing level "[" "]" (Value.writeItems spacing (level + 1) items)
  | .object members =>
    enclose spacing level "\x7b" "\x7d" (Value.writeMembers spacing (level + 1) members)

def Value.writeItems (spacing : Spacing) (level : Nat) : List Value → List String
  | [] => []
  | item :: rest => Value.write spacing level item :: Value.writeItems spacing level rest

def Value.writeMembers (spacing : Spacing) (level : Nat) : List (String × Value) → List String
  | [] => []
  | (key, item) :: rest =>
    (quote key ++ ":" ++ spacing.afterColon ++ Value.write spacing level item) ::
      Value.writeMembers spacing level rest

end

def Value.compact (value : Value) : String := value.write .compact 0

def Value.pretty (value : Value) : String := value.write .pretty 0

end GasReport.Json
