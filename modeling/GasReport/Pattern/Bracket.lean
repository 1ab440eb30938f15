import GasReport.Pattern.Escape

namespace GasReport.Pattern

/-- This is a bracket that is not closed yet, with its items in reverse. A hyphen may lead it, and a
closing bracket that comes first stands for itself. -/
structure Bracket where
  negated : Bool
  left : Option (Letters × Letters.Operation)
  items : List Letters
  leading : Bool
  fresh : Bool

def Bracket.opened (negated : Bool) : Bracket := ⟨negated, none, [], true, true⟩

def Bracket.add (bracket : Bracket) (letters : Letters) : Bracket :=
  { bracket with items := letters :: bracket.items, leading := false, fresh := false }

/-- Operations apply from left to right. -/
def Bracket.joined (bracket : Bracket) : Letters :=
  match bracket.left with
  | some (left, operation) => .joined operation left (.union bracket.items.reverse)
  | none => .union bracket.items.reverse

def Bracket.operate (bracket : Bracket) (operation : Letters.Operation) : Bracket :=
  { bracket with
    left := some (bracket.joined, operation), items := [], leading := false, fresh := false }

def Bracket.closed (bracket : Bracket) : Letters := .bracket bracket.negated bracket.joined

/-- This reads the name of a class after its opening bracket, as in `:alpha:]`. -/
def Bracket.named? (rest : List Char) : Option (Letters × Nat) :=
  match rest with
  | ':' :: inner =>
    let negated := inner.head? == some '^'
    let name := (if negated then inner.drop 1 else inner).takeWhile (· != ':')
    let used := 1 + (if negated then 1 else 0) + name.length
    if (rest.drop used).take 2 == [':', ']'] then
      (asciiClass? name).map (.named negated ·, used + 2)
    else none
  | _ => none

/-- One character or escape stands at the start of the text. -/
def Bracket.item? : List Char → Option (Escape × Nat)
  | [] => none
  | '\\' :: rest => (escape? rest).map fun (escape, used) => (escape, used + 1)
  | letter :: _ => some (.one letter, 1)

/-- A hyphen between two characters makes a range, and before a closing bracket or another hyphen it
does not. -/
def Bracket.range? (text : List Char) : Option (Letters × Nat) := do
  let (first, used) ← item? text
  match text.drop used with
  | [] => none
  | '-' :: rest =>
    if rest.isEmpty then none
    else if rest.head? == some ']' || rest.head? == some '-' then single first used
    else
      let (last, more) ← item? rest
      match first, last with
      | .one first, .one last =>
        if first ≤ last then some (Letters.range first last, used + 1 + more) else none
      | _, _ => none
  | _ => single first used
where
  single : Escape → Nat → Option (Letters × Nat)
    | .one letter, used => some (Letters.one letter, used)
    | .set set, used => some (.escaped set, used)
    | .anchor _, _ => none

def Bracket.operation? : List Char → Option Letters.Operation
  | '&' :: '&' :: _ => some .intersection
  | '-' :: '-' :: _ => some .difference
  | '~' :: '~' :: _ => some .symmetricDifference
  | _ => none

/-- This reads up to the end of the outermost bracket and counts the characters used. Characters
that an earlier step has read already are skipped. -/
def Bracket.read? (skipped used : Nat) (current : Bracket) (outer : List Bracket) :
    List Char → Option (Letters × Nat)
  | [] => none
  | letter :: rest =>
    match skipped with
    | skipped + 1 => read? skipped (used + 1) current outer rest
    | 0 =>
      if letter == '-' && current.leading then
        let leading := { current.add (.one '-') with leading := true }
        read? 0 (used + 1) leading outer rest
      else if letter == ']' then
        if current.fresh then read? 0 (used + 1) (current.add (.one ']')) outer rest
        else
          match outer with
          | [] => some (current.closed, used + 1)
          | parent :: outer => read? 0 (used + 1) (parent.add current.closed) outer rest
      else if letter == '[' then
        match named? rest with
        | some (letters, more) => read? more (used + 1) (current.add letters) outer rest
        | none =>
          let negated := rest.head? == some '^'
          read? (if negated then 1 else 0) (used + 1) (.opened negated) (current :: outer) rest
      else
        match operation? (letter :: rest) with
        | some operation => read? 1 (used + 1) (current.operate operation) outer rest
        | none =>
          match range? (letter :: rest) with
          | some (letters, more) => read? (more - 1) (used + 1) (current.add letters) outer rest
          | none => none

/-- The text starts after the opening bracket. -/
def bracket? (rest : List Char) : Option (Letters × Nat) :=
  let negated := rest.head? == some '^'
  Bracket.read? (if negated then 1 else 0) 0 (.opened negated) [] rest

end GasReport.Pattern
