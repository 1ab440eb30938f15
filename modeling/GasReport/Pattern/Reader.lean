import GasReport.Pattern.Token
import GasReport.Pattern.Footprint

namespace GasReport.Pattern

/-- This is a part of what is written. A change of options is a part that matches the empty text and
cannot be repeated. -/
structure Part where
  pattern : Pattern
  depth : Nat
  repeatable : Bool

def Part.deepest (parts : List Part) : Nat := (parts.map Part.depth).foldl max 0

/-- More than one part is a level of its own. -/
def Part.inSequence (parts : List Part) : Part :=
  let deepest := Part.deepest parts
  ⟨Pattern.inSequence (parts.map Part.pattern),
    if parts.length < 2 then deepest else deepest + 1, true⟩

/-- So is more than one choice. -/
def Part.inChoice : List Part → Part
  | [part] => part
  | parts => ⟨Pattern.oneOfThese (parts.map Part.pattern), Part.deepest parts + 1, true⟩

/-- This is a group that is not closed yet, with its finished choices and the parts of the current
one in reverse. The number is that of the capture. -/
structure Group where
  number : Option Nat
  options : Options
  choices : List Part
  parts : List Part

def Group.opened (number : Option Nat) (options : Options) : Group := ⟨number, options, [], []⟩

def Group.add (group : Group) (part : Part) : Group := { group with parts := part :: group.parts }

def Group.split (group : Group) : Group :=
  { group with choices := .inSequence group.parts.reverse :: group.choices, parts := [] }

/-- This is what stands between the parentheses of the group. -/
def Group.inside (group : Group) : Part := .inChoice group.split.choices.reverse

/-- A group is a level even if it captures nothing. -/
def Group.closed (group : Group) : Part :=
  let inside := group.inside
  let pattern := match group.number with
    | some number => .capture number inside.pattern
    | none => inside.pattern
  ⟨pattern, inside.depth + 1, true⟩

def Group.addPattern (group : Group) (pattern : Pattern) : Group := group.add ⟨pattern, 0, true⟩

def Group.addAnchor (group : Group) (place : Anchor) : Group := group.addPattern (.anchor place)

def Group.addLetter (group : Group) (letter : Char) : Group :=
  group.addPattern
    (if group.options.ignoreCase then .ofSet (Text.CharSet.single letter).ignoreCase
    else .text [letter])

/-- A repetition applies to the part before it. -/
def Group.repeats? (group : Group) (least : Nat) (most : Option Nat) (greedy : Bool) :
    Option Group :=
  match group.parts with
  | part :: rest =>
    if part.repeatable then
      let pattern := part.pattern.repeated least most (greedy != group.options.swapGreed)
      some { group with parts := ⟨pattern, part.depth + 1, true⟩ :: rest }
    else none
  | [] => none

/-- Captures are numbered in the order in which they are opened. -/
structure Reader where
  captures : Nat
  group : Group
  outer : List Group

def Reader.start : Reader := ⟨0, .opened none .start, []⟩

def Reader.open (reader : Reader) : Opening → Reader
  | .capture _ =>
    ⟨reader.captures + 1, .opened (some (reader.captures + 1)) reader.group.options,
      reader.group :: reader.outer⟩
  | .plain change =>
    ⟨reader.captures, .opened none (change reader.group.options), reader.group :: reader.outer⟩

def Reader.close? (reader : Reader) : Option Reader :=
  match reader.outer with
  | [] => none
  | parent :: outer => some { reader with group := parent.add reader.group.closed, outer := outer }

def Reader.step? (reader : Reader) (token : Token) : Option Reader :=
  let group := reader.group
  let options := group.options
  let continued := fun group => { reader with group := group }
  match token with
  | .letter letter => some (continued (group.addLetter letter))
  | .letters letters =>
    some (continued (group.add ⟨.ofSet (letters.set options.ignoreCase), letters.depth, true⟩))
  | .anchor place => some (continued (group.addAnchor place))
  | .point =>
    some (continued
      (group.addPattern (.ofSet (if options.dotAll then .everything else withinLine))))
  | .lineStart =>
    some (continued (group.addAnchor (if options.multiLine then .lineStart else .textStart)))
  | .lineEnd =>
    some (continued (group.addAnchor (if options.multiLine then .lineEnd else .textEnd)))
  | .openGroup opening => some (reader.open opening)
  | .setOptions change =>
    some (continued { group.add ⟨.empty, 0, false⟩ with options := change options })
  | .close => reader.close?
  | .bar => some (continued group.split)
  | .repeats least most greedy => (group.repeats? least most greedy).map continued

/-- A pattern has this many levels at most. -/
def deepest : Nat := 250

/-- This reads a pattern. A text that is no pattern gives none, and so does one with an escape or an
option that is not read. -/
def ofText? (text : String) : Option Pattern := do
  let tokens ← tokens? 0 text.toList
  let reader ← tokens.foldlM Reader.step? .start
  let whole := reader.group.inside
  let named := tokens.filterMap Token.groupName?
  if reader.outer.isEmpty && decide named.Nodup && decide (whole.depth ≤ deepest) &&
    whole.pattern.fits
  then some whole.pattern
  else none

end GasReport.Pattern
