/-!
Patterns of file names. A star stands for any characters, a question mark for one, and brackets for
one of a set; two stars stand for any depth of directories.
-/

namespace GasReport.Files

inductive NameToken where
  | one (letter : Char)
  | any
  | many
  | within (negated : Bool) (ranges : List (Char × Char))
  | deep
deriving DecidableEq

inductive PatternFault where
  | wildcards
  | recursiveWildcards
  | range
deriving DecidableEq

def PatternFault.message : PatternFault → String
  | .wildcards => "wildcards are either regular `*` or recursive `**`"
  | .recursiveWildcards => "recursive wildcards must form a single path component"
  | .range => "invalid range pattern"

/-- The position counts characters from the start of the pattern. -/
structure PatternError where
  position : Nat
  fault : PatternFault
deriving DecidableEq

def PatternError.message (error : PatternError) : String :=
  "Pattern syntax error near position " ++ toString error.position ++ ": " ++ error.fault.message

/-- A hyphen between two characters makes a range. -/
def charRanges : List Char → List (Char × Char)
  | first :: '-' :: last :: rest => (first, last) :: charRanges rest
  | letter :: rest => (letter, letter) :: charRanges rest
  | [] => []

/-- This reads a set after its opening bracket. Its first character never closes it. The second
result counts the characters used. -/
def nameSet? (rest : List Char) : Option (NameToken × Nat) :=
  let negated := rest.head? == some '!'
  let start := if negated then 1 else 0
  let inner := rest.drop (start + 1)
  let length := (inner.takeWhile (· != ']')).length
  if rest.length ≤ start ∨ inner.length = length then none
  else some (.within negated (charRanges ((rest.drop start).take (length + 1))), start + length + 2)

/-- Stars are read together with the characters around them: two of them fill a whole part of the
path. -/
def stars (position : Nat) (previous : Option Char) (rest : List Char) :
    Except PatternError (NameToken × Nat) :=
  let count := (rest.takeWhile (· == '*')).length + 1
  let after := rest.drop (count - 1)
  if count = 1 then .ok (.many, 0)
  else if 2 < count then .error ⟨position + 2, .wildcards⟩
  else if previous != none && previous != some '/' then
    .error ⟨position - 1, .recursiveWildcards⟩
  else
    match after with
    | [] => .ok (.deep, 1)
    | '/' :: _ => .ok (.deep, 2)
    | _ => .error ⟨position + 2, .recursiveWildcards⟩

/-- Characters that an earlier token has read already are skipped. -/
def nameTokens (skipped position : Nat) (previous : Option Char) :
    List Char → Except PatternError (List NameToken)
  | [] => .ok []
  | letter :: rest =>
    match skipped with
    | skipped + 1 => nameTokens skipped (position + 1) (some letter) rest
    | 0 => do
      let (token, used) ←
        match letter with
        | '?' => .ok (.any, 0)
        | '*' => stars position previous rest
        | '[' =>
          match nameSet? rest with
          | some set => .ok set
          | none => .error ⟨position, .range⟩
        | _ => .ok (.one letter, 0)
      let tokens ← nameTokens used (position + 1) (some letter) rest
      .ok (token :: tokens)

def readPattern (text : String) : Except PatternError (List NameToken) :=
  nameTokens 0 0 none text.toList

def suffixes : List Char → List (List Char)
  | [] => [[]]
  | letter :: rest => (letter :: rest) :: suffixes rest

def NameToken.accepts (token : NameToken) (letter : Char) : Bool :=
  match token with
  | .one expected => letter == expected
  | .any => true
  | .within negated ranges =>
    ranges.any (fun range => range.1 ≤ letter && letter ≤ range.2) != negated
  | .many | .deep => false

def matchesName : List NameToken → List Char → Bool
  | [], letters => letters.isEmpty
  | .many :: tokens, letters => (suffixes letters).any (matchesName tokens)
  | token :: tokens, letter :: letters => token.accepts letter && matchesName tokens letters
  | _ :: _, [] => false

end GasReport.Files
