import GasReport.Text.CharSet

/-!
Patterns, in a reduced form. They are built by the operations below, which leave out what changes no
match: parts that match the empty text only, and nested sequences and choices. A choice of single
characters is a set.
-/

namespace GasReport

/-- This is a place between two characters. -/
inductive Pattern.Anchor where
  | textStart
  | textEnd
  | lineStart
  | lineEnd
deriving DecidableEq

/-- A capture carries its number and a repetition whether it prefers the longer match. Neither
changes what is matched, but both tell patterns apart. -/
inductive Pattern where
  | empty
  | text (letters : List Char)
  | oneOf (set : Text.CharSet)
  | anchor (place : Pattern.Anchor)
  | repeats (inner : Pattern) (least : Nat) (most : Option Nat) (greedy : Bool)
  | capture (number : Nat) (inner : Pattern)
  | sequence (first second : Pattern)
  | either (first second : Pattern)
deriving DecidableEq

namespace Pattern

/-- These are the sizes of the smallest and largest characters of a set. -/
def setSizes? (set : Text.CharSet) : Option (Nat × Nat) :=
  match set.changes.head?, set.changes.getLast? with
  | some first, some beyond =>
    some ((Char.ofNat first).utf8Size, (Char.ofNat (beyond - 1)).utf8Size)
  | _, _ => none

/-- This is the number of bytes of the shortest match. A pattern that matches nothing has none, and
then neither has a pattern with such a part. -/
def shortest? : Pattern → Option Nat
  | .empty | .anchor _ => some 0
  | .text letters => some (letters.map Char.utf8Size).sum
  | .oneOf set => (setSizes? set).map (·.1)
  | .repeats inner least _ _ => inner.shortest?.map (least * ·)
  | .capture _ inner => inner.shortest?
  | .sequence first second => do some ((← first.shortest?) + (← second.shortest?))
  | .either first second => do some (min (← first.shortest?) (← second.shortest?))

/-- This is the number of bytes of the longest match, if there is one. -/
def longest? : Pattern → Option Nat
  | .empty | .anchor _ => some 0
  | .text letters => some (letters.map Char.utf8Size).sum
  | .oneOf set => (setSizes? set).map (·.2)
  | .repeats inner _ most _ => do some ((← most) * (← inner.longest?))
  | .capture _ inner => inner.longest?
  | .sequence first second => do some ((← first.longest?) + (← second.longest?))
  | .either first second => do some (max (← first.longest?) (← second.longest?))

/-- A set of one character is that character. -/
def ofSet (set : Text.CharSet) : Pattern :=
  match set.changes with
  | [first, beyond] => if beyond = first + 1 then .text [Char.ofNat first] else .oneOf set
  | _ => .oneOf set

/-- A pattern that matches the empty text only is repeated at most once. -/
def repeated (inner : Pattern) (least : Nat) (most : Option Nat) (greedy : Bool) : Pattern :=
  let void := inner.longest? == some 0
  let least := if void then min least 1 else least
  let most := if void then some (min (most.getD 1) 1) else most
  if least = 0 ∧ most = some 0 then .empty
  else if least = 1 ∧ most = some 1 then inner
  else .repeats inner least most greedy

def parts : Pattern → List Pattern
  | .sequence first second => first :: second.parts
  | pattern => [pattern]

def choices : Pattern → List Pattern
  | .either first second => first :: second.choices
  | pattern => [pattern]

/-- Texts that follow each other are one text. -/
def before : Pattern → Pattern → Pattern
  | .empty, after => after
  | .sequence first second, after => first.before (second.before after)
  | .text letters, .text others => .text (letters ++ others)
  | .text letters, .sequence (.text others) rest => .sequence (.text (letters ++ others)) rest
  | first, .empty => first
  | first, second => .sequence first second

def inSequence (patterns : List Pattern) : Pattern := patterns.foldr before .empty

/-- A character counts as the set of it. -/
def letter? : Pattern → Option Char
  | .text [letter] => some letter
  | _ => none

def set? : Pattern → Option Text.CharSet
  | .oneOf set => some set
  | _ => none

def chain : List Pattern → Pattern
  | [] => .oneOf .nothing
  | [pattern] => pattern
  | pattern :: rest => .either pattern (chain rest)

/-- Choices between characters, or between sets, are one set. -/
def inChoice (patterns : List Pattern) : Pattern :=
  match patterns.flatMap choices with
  | [pattern] => pattern
  | flat =>
    match flat.mapM letter? with
    | some letters => ofSet (.ofCodes (letters.map Char.toNat))
    | none =>
      match flat.mapM set? with
      | some sets => ofSet (sets.foldl .union .nothing)
      | none => chain flat

def commonPrefix : List Pattern → List Pattern → List Pattern
  | first :: firsts, second :: seconds =>
    if first = second then first :: commonPrefix firsts seconds else []
  | _, _ => []

/-- These are the parts with which all of the patterns begin. -/
def sharedStart : List Pattern → List Pattern
  | [] => []
  | pattern :: rest =>
    rest.foldl (fun shared other => commonPrefix shared other.parts) pattern.parts

def isSequence : Pattern → Bool
  | .sequence _ _ => true
  | _ => false

/-- What all choices begin with is put before them. -/
def oneOfThese (patterns : List Pattern) : Pattern :=
  let flat := patterns.flatMap choices
  let shared := sharedStart flat
  if 1 < flat.length && flat.all isSequence && !shared.isEmpty then
    inSequence (shared ++ [inChoice (flat.map fun pattern =>
      inSequence (pattern.parts.drop shared.length))])
  else inChoice flat

/-- This matches exactly the given text. -/
def literal (text : String) : Pattern :=
  if text.isEmpty then .empty else .text text.toList

end Pattern

end GasReport
