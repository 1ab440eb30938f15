import GasReport.Text.Quoted.Table

namespace GasReport.Text.Quoted

def hex (value : Nat) : List Char := Nat.toDigits 16 value

def spell (letter : Char) : List Char :=
  match letter with
  | '\x00' => ['\\', '0']
  | '\t' => ['\\', 't']
  | '\n' => ['\\', 'n']
  | '\r' => ['\\', 'r']
  | '\x22' => ['\\', '\x22']
  | '\\' => ['\\', '\\']
  | _ =>
    if coded.contains letter then '\\' :: 'u' :: '\x7b' :: hex letter.toNat ++ ['\x7d']
    else [letter]

end GasReport.Text.Quoted

namespace GasReport.Text

/-- Every character that leaves no mark of its own is written by its code point. -/
def quoted (text : String) : String :=
  String.ofList ('\x22' :: text.toList.flatMap Quoted.spell ++ ['\x22'])

end GasReport.Text
