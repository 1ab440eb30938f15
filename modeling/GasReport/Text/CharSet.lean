namespace GasReport.Text

/-- The first listed code point begins the set, the second is beyond it, and so on in turn. A set
has one list of changes only, so equal lists are equal sets. -/
structure CharSet where
  changes : List Nat
deriving DecidableEq

namespace CharSet

/-- A code point is inside after an odd number of changes. -/
def containsCode (set : CharSet) (code : Nat) : Bool :=
  (set.changes.takeWhile (· ≤ code)).length % 2 == 1

def contains (set : CharSet) (letter : Char) : Bool := set.containsCode letter.toNat

/-- This tells whether some code point from `first` to `last` is inside. -/
def meets (set : CharSet) (first last : Nat) : Bool :=
  set.containsCode first || set.changes.any fun code => first < code && code ≤ last

def nothing : CharSet := ⟨[]⟩

/-- No character has a code point between the two ranges. -/
def everything : CharSet := ⟨[0, 0xd800, 0xe000, 0x110000]⟩

/-- A range between two characters leaves out the code points between them that no character has. -/
def range (first last : Nat) : CharSet :=
  if first < 0xd800 ∧ 0xdfff < last then ⟨[first, 0xd800, 0xe000, last + 1]⟩
  else ⟨[first, last + 1]⟩

def single (letter : Char) : CharSet := range letter.toNat letter.toNat

/-- The two lists are followed side by side. A change is kept where it changes the result. -/
def merge (keeps : Bool → Bool → Bool) (inLeft inRight : Bool) : List Nat → List Nat → List Nat
  | [], [] => []
  | left :: lefts, [] =>
    change left (!inLeft) inRight (merge keeps (!inLeft) inRight lefts [])
  | [], right :: rights =>
    change right inLeft (!inRight) (merge keeps inLeft (!inRight) [] rights)
  | left :: lefts, right :: rights =>
    if left < right then
      change left (!inLeft) inRight (merge keeps (!inLeft) inRight lefts (right :: rights))
    else if right < left then
      change right inLeft (!inRight) (merge keeps inLeft (!inRight) (left :: lefts) rights)
    else
      change left (!inLeft) (!inRight) (merge keeps (!inLeft) (!inRight) lefts rights)
termination_by lefts rights => lefts.length + rights.length
where
  change (code : Nat) (nowLeft nowRight : Bool) (rest : List Nat) : List Nat :=
    if keeps nowLeft nowRight == keeps inLeft inRight then rest else code :: rest

/-- The operation leaves out what is in neither set. -/
def combine (keeps : Bool → Bool → Bool) (left right : CharSet) : CharSet :=
  ⟨merge keeps false false left.changes right.changes⟩

def union : CharSet → CharSet → CharSet := combine (· || ·)

def intersection : CharSet → CharSet → CharSet := combine (· && ·)

def difference : CharSet → CharSet → CharSet := combine (fun left right => left && !right)

def symmetricDifference : CharSet → CharSet → CharSet := combine (· != ·)

def complement (set : CharSet) : CharSet := everything.difference set

def ofCodes (codes : List Nat) : CharSet :=
  codes.foldl (fun set code => set.union (range code code)) nothing

/-- These are the first and last code points of the parts without gaps. -/
def ranges (set : CharSet) : List (Nat × Nat) := go set.changes
where
  go : List Nat → List (Nat × Nat)
    | first :: beyond :: rest => (first, beyond - 1) :: go rest
    | _ => []

end CharSet

end GasReport.Text
