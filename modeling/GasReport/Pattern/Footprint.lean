import GasReport.Pattern.Basic
import GasReport.Text.Utf8

/-!
The memory that an automaton for a pattern takes. The automaton reads the bytes of the text forward,
or backward from its end; a state takes 32 bytes, and the branches of a state are held outside it.
-/

namespace GasReport.Pattern

inductive Direction where
  | forward
  | backward
deriving DecidableEq

namespace Footprint

def state : Nat := 32

/-- A state that branches on bytes holds a transition of 8 bytes for each branch. -/
def branching (count : Nat) : Nat := state + 8 * count

/-- A state that branches without reading holds a word of 4 bytes for each branch. -/
def fork (count : Nat) : Nat := state + 4 * count

/-- Read forward, a set is a graph in which states with the same continuations are one. -/
def graph : Nat → List (List Text.Utf8.ByteRange) → List (List (List Text.Utf8.ByteRange))
  | 0, _ => []
  | depth + 1, sequences =>
    if sequences.all List.isEmpty then []
    else sequences :: (Text.Utf8.branches sequences).flatMap fun branch => graph depth branch.2

/-- Read backward, a set is a tree in which sequences share the bytes that they begin with. -/
def edges : Nat → List (List Text.Utf8.ByteRange) → Nat
  | 0, _ => 0
  | depth + 1, sequences =>
    ((Text.Utf8.branches sequences).map fun branch => 1 + edges depth branch.2).sum

/-- This is the number of bytes of the longest character. -/
def longest : Nat := 4

/-- Characters of one byte each are the branches of a single state. -/
def ofSet (direction : Direction) (set : Text.CharSet) : Nat :=
  if set.changes.all (· ≤ 0x80) then branching set.ranges.length + state
  else
    let sequences := Text.Utf8.ofSet set
    match direction with
    | .forward =>
      let states := (graph (longest + 1) sequences).eraseDups
      states.foldr (fun next total => branching (Text.Utf8.branches next).length + total) state
    | .backward => fork sequences.length + state + state * edges (longest + 1) sequences

/-- A choice between texts is a tree of their bytes. Where a text ends inside another, the branches
that came before it are tried before the end, and those that come after it after the end. -/
def tree : Nat → List (List UInt8) → Nat
  | 0, _ => 0
  | depth + 1, texts =>
    if texts.all List.isEmpty then 0
    else
      let ends := (texts.dropWhile List.isEmpty).countP List.isEmpty
      let early := if texts.head?.any List.isEmpty then 1 else 0
      let groups := (texts.splitBy fun first second => !first.isEmpty && !second.isEmpty).filter
        fun group => !group.all List.isEmpty
      fork (groups.length + ends + early) +
        (groups.map fun group =>
          let bytes := (group.filterMap List.head?).eraseDups
          (if bytes.length = 1 then state else branching bytes.length) +
            (bytes.map fun byte =>
              tree depth (group.filterMap fun text =>
                match text with
                | first :: rest => if first = byte then some rest else none
                | [] => none)).sum).sum

def bytes (direction : Direction) (letters : List Char) : List UInt8 :=
  let bytes := letters.flatMap String.utf8EncodeChar
  match direction with
  | .forward => bytes
  | .backward => bytes.reverse

def letters? : Pattern → Option (List Char)
  | .text letters => some letters
  | _ => none

def ofTexts (direction : Direction) (texts : List (List Char)) : Nat :=
  let texts := texts.map (bytes direction)
  state + tree ((texts.map List.length).foldl max 0 + 1) texts

/-- A repetition holds one copy of its inner automaton for each time that is counted. -/
def ofRepeats (inner : Nat) (canBeEmpty : Bool) (least : Nat) : Option Nat → Nat
  | none =>
    if least = 0 then
      if canBeEmpty then inner + 2 * fork 2 + state else inner + fork 2
    else least * inner + fork 2
  | some most =>
    if least = 0 ∧ most = 1 then inner + fork 2 + state
    else
      let counted := if least = 0 then state else least * inner
      if most ≤ least then counted else counted + state + (most - least) * (fork 2 + inner)

end Footprint

/-- The later choices of a choice stand `within` it and do not fork again. Captures are marked only
in the forward automaton. -/
def weight (direction : Direction) (within : Bool) : Pattern → Nat
  | .empty | .anchor _ => Footprint.state
  | .text letters => Footprint.state * (letters.map Char.utf8Size).sum
  | .oneOf set => Footprint.ofSet direction set
  | .repeats inner least most _ =>
    Footprint.ofRepeats (inner.weight direction false) (!inner.shortest?.any (0 < ·)) least most
  | .capture _ inner =>
    (if direction = .forward then 2 * Footprint.state else 0) + inner.weight direction false
  | .sequence first second => first.weight direction false + second.weight direction false
  | .either first second =>
    let choices := first :: second.choices
    match if within then none else choices.mapM Footprint.letters? with
    | some texts => Footprint.ofTexts direction texts
    | none =>
      (if within then 0 else Footprint.fork choices.length + Footprint.state) +
        first.weight direction false + second.weight direction true

/-- This holds when every match must begin at the start of the text, or read backward end at its
end. -/
def isBound (direction : Direction) : Pattern → Bool
  | .anchor .textStart => direction = .forward
  | .anchor .textEnd => direction = .backward
  | .repeats inner least _ _ => 0 < least && inner.isBound direction
  | .capture _ inner => inner.isBound direction
  | .sequence first second =>
    match direction with
    | .forward => first.isBound .forward || (first.longest? = some 0 && second.isBound .forward)
    | .backward => second.isBound .backward || (second.longest? = some 0 && first.isBound .backward)
  | .either first second => first.isBound direction && second.isBound direction
  | _ => false

/-- An automaton that is not bound begins with a loop over any bytes. The whole match is marked like
a capture, and a last state ends it. -/
def footprint (direction : Direction) (pattern : Pattern) : Nat :=
  let start := if pattern.isBound direction then Footprint.state
    else Footprint.fork 2 + Footprint.branching 1 + Footprint.state
  let marks := if direction = .forward then 2 * Footprint.state else 0
  start + marks + pattern.weight direction false + Footprint.state

/-- Automata for both directions have this many bytes each. -/
def largest : Nat := 10 * Nat.pow 2 20

def fits (pattern : Pattern) : Bool :=
  pattern.footprint .forward ≤ largest && pattern.footprint .backward ≤ largest

end GasReport.Pattern
