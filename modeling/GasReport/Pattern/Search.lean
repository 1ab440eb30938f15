import GasReport.Pattern.Basic
import GasReport.Pattern.Positions

/-!
The search for a pattern in a text. A pattern leads from positions of the text to the positions
where a match can end, and the text contains a match when some position is reached from some
position.
-/

namespace GasReport.Pattern

/-- This is a pattern laid out on one text: its letters and anchors are the positions at which they
stand. -/
inductive Track where
  | stay (places : Positions)
  | step (places : Positions)
  | sequence (first second : Track)
  | either (first second : Track)
  | repeats (inner : Track) (least rounds : Nat)

/-- Further rounds change nothing once a round has changed nothing. -/
def settle (round : Positions → Positions) : Nat → Positions → Positions
  | 0, positions => positions
  | count + 1, positions =>
    let after := round positions
    if after = positions then positions else settle round count after

/-- After the rounds that must be made, each further round may also be left out. -/
def Track.advance : Track → Positions → Positions
  | .stay places, positions => positions.intersection places
  | .step places, positions => (positions.intersection places).next
  | .sequence first second, positions => second.advance (first.advance positions)
  | .either first second, positions => (first.advance positions).union (second.advance positions)
  | .repeats inner least rounds, positions =>
    settle (fun reached => reached.union (inner.advance reached)) rounds
      (settle inner.advance least positions)

def Anchor.find (places : Places) : Anchor → Positions
  | .textStart => .single 0
  | .textEnd => .single places.length
  | .lineStart => (Positions.single 0).union (places.find (· == '\n')).next
  | .lineEnd => (Positions.single places.length).union (places.find (· == '\n'))

/-- Without an upper bound as many rounds as there are positions are all. -/
def track (places : Places) : Pattern → Track
  | .empty => .stay places.everywhere
  | .text letters =>
    letters.foldr (fun letter rest => .sequence (.step (places.find (· == letter))) rest)
      (.stay places.everywhere)
  | .oneOf set => .step (places.find set.contains)
  | .anchor place => .stay (place.find places)
  | .repeats inner least most _ =>
    .repeats (inner.track places) least
      (min (most.getD (least + places.length + 1) - least) (places.length + 1))
  | .capture _ inner => inner.track places
  | .sequence first second => .sequence (first.track places) (second.track places)
  | .either first second => .either (first.track places) (second.track places)

def occursIn (pattern : Pattern) (text : String) : Bool :=
  let places := Places.ofText text.toList
  !((pattern.track places).advance places.everywhere).isEmpty

end GasReport.Pattern
