import GasReport.Json.Tree
import GasReport.Json.Number

namespace GasReport.Json

inductive Value where
  | null
  | truth (value : Bool)
  | number (number : Number)
  | text (value : String)
  | array (items : List Value)
  | object (members : List (String × Value))

/-- The text of a pair of surrogates is one character, and a surrogate without its partner is
refused. -/
def decode? : List Glyph → Option (List Char)
  | [] => some []
  | .plain letter :: rest => (decode? rest).map (letter :: ·)
  | .unit high :: .unit low :: rest =>
    if 0xD800 ≤ high ∧ high < 0xDC00 then
      if 0xDC00 ≤ low ∧ low < 0xE000 then
        let code := 0x10000 + (high - 0xD800) * 0x400 + (low - 0xDC00)
        (decode? rest).map (Char.ofNat code :: ·)
      else none
    else if 0xDC00 ≤ high ∧ high < 0xE000 then none
    else (decode? (.unit low :: rest)).map (Char.ofNat high :: ·)
  | .unit value :: rest =>
    if 0xD800 ≤ value ∧ value < 0xE000 then none
    else (decode? rest).map (Char.ofNat value :: ·)

def textOf? (glyphs : List Glyph) : Option String :=
  (decode? glyphs).map String.ofList

/-- A present key keeps its place. -/
def setMember {A : Type} (key : String) (value : A) : List (String × A) → List (String × A)
  | [] => [(key, value)]
  | member :: rest =>
    if member.1 = key then (key, value) :: rest else member :: setMember key value rest

/-- A key that is written again keeps its first place and takes the last value. -/
def mergeMembers {A : Type} (members : List (String × A)) : List (String × A) :=
  members.foldl (fun merged member => setMember member.1 member.2 merged) []

mutual

/-- Arrays and objects may nest as deep as `room` says. -/
def Tree.value? (room : Nat) : Tree → Option Value
  | .null => some .null
  | .truth value => some (.truth value)
  | .number numeral => (Number.ofNumeral? numeral).map .number
  | .text glyphs => (textOf? glyphs).map .text
  | .array items =>
    match room with
    | 0 => none
    | room + 1 => (Tree.items? room items).map .array
  | .object members =>
    match room with
    | 0 => none
    | room + 1 => (Tree.members? room members).map fun members => .object (mergeMembers members)

def Tree.items? (room : Nat) : List Tree → Option (List Value)
  | [] => some []
  | item :: rest => do
    let value ← Tree.value? room item
    let values ← Tree.items? room rest
    some (value :: values)

def Tree.members? (room : Nat) : List (List Glyph × Tree) → Option (List (String × Value))
  | [] => some []
  | (key, item) :: rest => do
    let key ← textOf? key
    let value ← Tree.value? room item
    let values ← Tree.members? room rest
    some ((key, value) :: values)

end

/-- This is the deepest nesting that a document may have. -/
def deepest : Nat := 127

def Value.ofText? (document : String) : Option Value :=
  (Tree.ofText? document).bind (Tree.value? deepest)

def Value.count (count : Nat) : Value := .number (.integer count)

/-- What is absent is null. -/
def Value.optional {A : Type} (toValue : A → Value) : Option A → Value
  | some content => toValue content
  | none => .null

def Value.member? (value : Value) (key : String) : Option Value :=
  match value with
  | .object members => (members.find? (·.1 == key)).map (·.2)
  | _ => none

end GasReport.Json
