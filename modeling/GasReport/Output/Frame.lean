import GasReport.Output.Style

namespace GasReport.Output

/-- This is the number of columns between the sides of the frame. -/
def frameWidth : Nat := 76

structure Cell where
  align : Align
  width : Nat
  content : Styled

/-- A title stands in the top of a frame or in a line across it. -/
inductive TitlePlace where
  | top
  | across
deriving DecidableEq

inductive Line where
  | title (place : TitlePlace) (text : String)
  | row (cells : List Cell)
  | bottom
  | blank

def bars (count : Nat) : String := String.ofList (List.replicate count '═')

def TitlePlace.corners : TitlePlace → String × String
  | .top => ("╔", "╗")
  | .across => ("╠", "╣")

/-- The bars after a title fill the frame. -/
def Line.renderTitle (inColor : Bool) (place : TitlePlace) (text : String) : String :=
  let title := clip (frameWidth - 6) text
  let fill := bars (frameWidth - (title.length + 5))
  let (left, right) := place.corners
  let styled := (Styled.colored .white title).render inColor .left 0
  left ++ "═╡ " ++ styled ++ " ╞" ++ fill ++ right

def Cell.render (inColor : Bool) (cell : Cell) : String :=
  cell.content.render inColor cell.align cell.width

def Line.render (inColor : Bool) : Line → String
  | .title place text => Line.renderTitle inColor place text
  | .row cells => "║ " ++ String.intercalate " " (cells.map (Cell.render inColor)) ++ " ║"
  | .bottom => "╚" ++ bars frameWidth ++ "╝"
  | .blank => ""

/-- Every line ends in a line feed. -/
def renderLines (inColor : Bool) (lines : List Line) : String :=
  String.join (lines.map fun line => line.render inColor ++ "\n")

end GasReport.Output
