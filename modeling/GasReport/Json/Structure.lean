import GasReport.Json.Value

/-!
A structure is read straight from the tree of a document: a member may still stand twice there, and
members that nobody asks for are never interpreted.
-/

namespace GasReport.Json

/-- A field that stands twice makes the file unreadable in its layout. -/
def Tree.field? (members : List (String × Tree)) (key : String) : Option (Option Tree) :=
  match members.filter (·.1 == key) with
  | [] => some none
  | [member] => some (some member.2)
  | _ => none

/-- The members of an object with their keys read. -/
def Tree.keyed? (members : List (List Glyph × Tree)) : Option (List (String × Tree)) :=
  members.mapM fun member => (textOf? member.1).map (·, member.2)

/-- The values of a list stand at the given depth of the document. -/
def Tree.values? (depth : Nat) : Tree → Option (List Value)
  | .array items => items.mapM (Tree.value? (deepest - depth))
  | _ => none

def Tree.string? : Tree → Option String
  | .text glyphs => textOf? glyphs
  | _ => none

end GasReport.Json
