namespace GasReport.Output

inductive Color where
  | white
  | green
  | red
  | gray
  | yellow
deriving DecidableEq

def Color.code : Color → String
  | .white => "97"
  | .green => "32"
  | .red => "91"
  | .gray => "90"
  | .yellow => "93"

def escapeSequence (code : String) : String := "\x1b[" ++ code ++ "m"

/-- This ends all colours. -/
def resetSequence : String := escapeSequence "0"

def Color.sequence (color : Color) : String := escapeSequence color.code

structure Styled where
  text : String
  color : Option Color

def Styled.plain (text : String) : Styled := ⟨text, none⟩

def Styled.colored (color : Color) (text : String) : Styled := ⟨text, some color⟩

/-- The color is taken up again after every reset that the text holds. -/
def recolor (sequence : List Char) : List Char → List Char
  | '\x1b' :: '[' :: '0' :: 'm' :: rest =>
    '\x1b' :: '[' :: '0' :: 'm' :: (sequence ++ recolor sequence rest)
  | letter :: rest => letter :: recolor sequence rest
  | [] => []

inductive Align where
  | left
  | right
deriving DecidableEq

/-- Widths count characters, and a longer text is kept whole. -/
def pad (align : Align) (width : Nat) (text : String) : String :=
  let blanks := String.ofList (List.replicate (width - text.length) ' ')
  match align with
  | .left => text ++ blanks
  | .right => blanks ++ text

/-- A coloured text is padded before it is put between its colour and the end of colours, so that
both modes fill the same columns. -/
def Styled.render (inColor : Bool) (align : Align) (width : Nat) (styled : Styled) : String :=
  match styled.color with
  | some color =>
    if inColor then
      let text := String.ofList (recolor color.sequence.toList styled.text.toList)
      color.sequence ++ pad align width text ++ resetSequence
    else pad align width styled.text
  | none => pad align width styled.text

/-- A text that is too long ends in an ellipsis. -/
def clip (width : Nat) (text : String) : String :=
  if text.length ≤ width then text
  else String.ofList (text.toList.take (width - 1) ++ ['…'])

end GasReport.Output
