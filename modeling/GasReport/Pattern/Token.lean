import GasReport.Pattern.Bracket
import GasReport.Decimal.Numeral
import GasReport.Text.Alphanumeric

/-!
Each token says how many characters it takes, and the reader skips them. Of the options, `i`, `m`,
`s`, `U` and `u` are read. A text that sets `x` (blanks and comments are skipped) or `R` (a carriage
return ends a line, too), or that takes back `u`, is refused here, though the full syntax accepts
it.
-/

namespace GasReport.Pattern

/-- These options hold from where they are set to the end of the group. -/
structure Options where
  ignoreCase : Bool
  multiLine : Bool
  dotAll : Bool
  swapGreed : Bool

def Options.start : Options := ⟨false, false, false, false⟩

/-- A group captures what it matches unless it sets options. -/
inductive Opening where
  | capture (name : Option (List Char))
  | plain (change : Options → Options)

inductive Token where
  | letter (letter : Char)
  | letters (letters : Letters)
  | anchor (place : Anchor)
  | point
  | lineStart
  | lineEnd
  | openGroup (opening : Opening)
  | setOptions (change : Options → Options)
  | close
  | bar
  | repeats (least : Nat) (most : Option Nat) (greedy : Bool)

def Options.set? (value : Bool) : Char → Option (Options → Options)
  | 'i' => some fun options => { options with ignoreCase := value }
  | 'm' => some fun options => { options with multiLine := value }
  | 's' => some fun options => { options with dotAll := value }
  | 'U' => some fun options => { options with swapGreed := value }
  | 'u' => if value then some id else none
  | _ => none

/-- The letters of options stand for themselves once, and after a minus they are taken back. -/
def Options.change? (value : Bool) (seen : List Char) : List Char → Option (Options → Options)
  | [] => if !value && seen.head? == some '-' then none else some id
  | '-' :: rest => if value then change? false ('-' :: seen) rest else none
  | letter :: rest =>
    if seen.contains letter then none
    else do
      let first ← set? value letter
      let others ← change? value (letter :: seen) rest
      some (others ∘ first)

def isNameStart (letter : Char) : Bool := letter == '_' || Text.alphabetic.contains letter

def isNameLetter (letter : Char) : Bool :=
  letter == '_' || letter == '.' || letter == '[' || letter == ']' || Text.isAlphanumeric letter

/-- A group name ends at the closing angle bracket. -/
def groupName? (rest : List Char) : Option (List Char) :=
  let name := rest.takeWhile (· != '>')
  if name.length < rest.length && name.head?.any isNameStart && name.all isNameLetter then some name
  else none

def namedGroup? (opening : Nat) (rest : List Char) : Option (Token × Nat) :=
  (groupName? rest).map fun name =>
    (.openGroup (.capture (some name)), opening + name.length + 1)

/-- This reads what follows the opening parenthesis of a group. -/
def group? (rest : List Char) : Option (Token × Nat) :=
  match rest with
  | '?' :: 'P' :: '<' :: inner => namedGroup? 3 inner
  | '?' :: '<' :: inner => namedGroup? 2 inner
  | '?' :: inner => do
    let letters := inner.takeWhile fun letter => letter != ':' && letter != ')'
    let change ← Options.change? true [] letters
    match inner.drop letters.length with
    | ':' :: _ => some (.openGroup (.plain change), letters.length + 2)
    | ')' :: _ => if letters.isEmpty then none else some (.setOptions change, letters.length + 2)
    | _ => none
  | _ => some (.openGroup (.capture none), 0)

/-- Blanks may stand around a count, and a count fits a word of 32 bits. -/
def count? (text : List Char) : Option Nat :=
  let digits :=
    (text.dropWhile Text.blanks.contains).reverse.dropWhile Text.blanks.contains |>.reverse
  let value := Decimal.natural digits
  if Decimal.isDigits digits && value < Nat.pow 2 32 then some value else none

/-- These are the bounds of a repetition. -/
abbrev Bounds := Nat × Option Nat

/-- This reads the bounds of a repetition after its opening brace. -/
def bounds? (rest : List Char) : Option (Bounds × Nat) := do
  let inner := rest.takeWhile (· != '\x7d')
  if inner.length = rest.length then none
  else
    let used := inner.length + 1
    let least ← count? (inner.takeWhile (· != ','))
    match inner.dropWhile (· != ',') with
    | [] => some ((least, some least), used)
    | _ :: upper =>
      if upper.isEmpty then some ((least, none), used)
      else
        let most ← count? upper
        if least ≤ most then some ((least, some most), used) else none

/-- A question mark after a repetition asks for the shorter match. -/
def repetition (rest : List Char) (bounds : Bounds) (used : Nat) : Token × Nat :=
  if (rest.drop used).head? == some '?' then (.repeats bounds.1 bounds.2 false, used + 1)
  else (.repeats bounds.1 bounds.2 true, used)

/-- This reads one token. The second result counts the characters used after the first. -/
def token? (letter : Char) (rest : List Char) : Option (Token × Nat) :=
  match letter with
  | '(' => group? rest
  | ')' => some (.close, 0)
  | '|' => some (.bar, 0)
  | '[' => (bracket? rest).map fun (letters, used) => (.letters letters, used)
  | '?' => some (repetition rest (0, some 1) 0)
  | '*' => some (repetition rest (0, none) 0)
  | '+' => some (repetition rest (1, none) 0)
  | '\x7b' => (bounds? rest).map fun (bounds, used) => repetition rest bounds used
  | '.' => some (.point, 0)
  | '^' => some (.lineStart, 0)
  | '$' => some (.lineEnd, 0)
  | '\\' =>
    (escape? rest).map fun (escape, used) =>
      match escape with
      | .one letter => (.letter letter, used)
      | .set set => (.letters (.escaped set), used)
      | .anchor place => (.anchor place, used)
  | _ => some (.letter letter, 0)

def tokens? (skipped : Nat) : List Char → Option (List Token)
  | [] => some []
  | letter :: rest =>
    match skipped with
    | skipped + 1 => tokens? skipped rest
    | 0 => do
      let (token, used) ← token? letter rest
      let tokens ← tokens? used rest
      some (token :: tokens)

/-- A name may be given to one group only. -/
def Token.groupName? : Token → Option (List Char)
  | .openGroup (.capture name) => name
  | _ => none

end GasReport.Pattern
