import GasReport.Text.CaseFolding
import GasReport.Text.Property

namespace GasReport.Pattern

inductive Letters.Operation where
  | intersection
  | difference
  | symmetricDifference

def Letters.Operation.join : Operation → Text.CharSet → Text.CharSet → Text.CharSet
  | .intersection => .intersection
  | .difference => .difference
  | .symmetricDifference => .symmetricDifference

/-- A class is a range, a class that an escape names, a class with an ASCII name, or a bracket
around others. -/
inductive Letters where
  | range (first last : Char)
  | escaped (set : Text.CharSet)
  | named (negated : Bool) (set : Text.CharSet)
  | bracket (negated : Bool) (inner : Letters)
  | union (items : List Letters)
  | joined (operation : Letters.Operation) (left right : Letters)

namespace Letters

def one (letter : Char) : Letters := .range letter letter

def fold (ignoreCase : Bool) (set : Text.CharSet) : Text.CharSet :=
  if ignoreCase then set.ignoreCase else set

def negate (negated : Bool) (set : Text.CharSet) : Text.CharSet :=
  if negated then set.complement else set

/-- Case is ignored before a class is negated, and for both sides of an operation. Escapes name
classes that hold all their case variants. -/
def set (ignoreCase : Bool) : Letters → Text.CharSet
  | .range first last => .range first.toNat last.toNat
  | .escaped set => set
  | .named negated set => negate negated (fold ignoreCase set)
  | .bracket negated inner => negate negated (fold ignoreCase (inner.set ignoreCase))
  | .union items => sets ignoreCase items
  | .joined operation left right =>
    operation.join (fold ignoreCase (left.set ignoreCase)) (fold ignoreCase (right.set ignoreCase))
where
  sets (ignoreCase : Bool) : List Letters → Text.CharSet
    | [] => .nothing
    | item :: items => (item.set ignoreCase).union (sets ignoreCase items)

/-- Brackets, operations, and unions of more than one item are levels. -/
def depth : Letters → Nat
  | .range _ _ | .escaped _ | .named _ _ => 0
  | .bracket _ inner => inner.depth + 1
  | .union items => if items.length < 2 then deepest items else deepest items + 1
  | .joined _ left right => max left.depth right.depth + 1
where
  deepest : List Letters → Nat
    | [] => 0
    | item :: items => max item.depth (deepest items)

end Letters

/-- These are the ranges of the classes whose names stand between `[:` and `:]` inside brackets. -/
def asciiRanges? : List Char → Option (List (Char × Char))
  | ['a', 'l', 'n', 'u', 'm'] => some [('0', '9'), ('A', 'Z'), ('a', 'z')]
  | ['a', 'l', 'p', 'h', 'a'] => some [('A', 'Z'), ('a', 'z')]
  | ['a', 's', 'c', 'i', 'i'] => some [('\x00', '\x7f')]
  | ['b', 'l', 'a', 'n', 'k'] => some [('\t', '\t'), (' ', ' ')]
  | ['c', 'n', 't', 'r', 'l'] => some [('\x00', '\x1f'), ('\x7f', '\x7f')]
  | ['d', 'i', 'g', 'i', 't'] => some [('0', '9')]
  | ['g', 'r', 'a', 'p', 'h'] => some [('!', '~')]
  | ['l', 'o', 'w', 'e', 'r'] => some [('a', 'z')]
  | ['p', 'r', 'i', 'n', 't'] => some [(' ', '~')]
  | ['p', 'u', 'n', 'c', 't'] => some [('!', '/'), (':', '@'), ('[', '\x60'), ('\x7b', '~')]
  | ['s', 'p', 'a', 'c', 'e'] => some [('\t', '\r'), (' ', ' ')]
  | ['u', 'p', 'p', 'e', 'r'] => some [('A', 'Z')]
  | ['w', 'o', 'r', 'd'] => some [('0', '9'), ('A', 'Z'), ('_', '_'), ('a', 'z')]
  | ['x', 'd', 'i', 'g', 'i', 't'] => some [('0', '9'), ('A', 'F'), ('a', 'f')]
  | _ => none

def asciiClass? (name : List Char) : Option Text.CharSet :=
  (asciiRanges? name).map fun ranges =>
    ranges.foldl (fun set range => set.union (.range range.1.toNat range.2.toNat)) .nothing

/-- The point stands for all characters but the line feed. -/
def withinLine : Text.CharSet := (Text.CharSet.single '\n').complement

end GasReport.Pattern
