import GasReport.Record.Error

/-!
Structures read from document values. A structure is an object with known members, in any order and
among others, or an array of its fields in order. The first fault in document order is reported.
-/

namespace GasReport.Record

/-- This says how a structure with the fields `F` is collected. -/
structure Layout (F S : Type) where
  expected : Expected
  fields : List F
  name : F → String
  ofKey? : String → Option F
  store : F → Json.Value → S → Except ShapeError S

variable {F S : Type} [DecidableEq F]

/-- Unknown members are passed over, and a field may be given once. -/
def Layout.readMembers (layout : Layout F S) (seen : List F) (state : S) :
    List (String × Json.Value) → Except ShapeError S
  | [] => .ok state
  | (key, value) :: rest =>
    match layout.ofKey? key with
    | none => layout.readMembers seen state rest
    | some field =>
      if field ∈ seen then .error (.repeatedField (layout.name field))
      else do
        let state ← layout.store field value state
        layout.readMembers (field :: seen) state rest

/-- An array has one element for each field. -/
def Layout.readItems (layout : Layout F S) (found : Nat) (state : S) :
    List F → List Json.Value → Except ShapeError S
  | [], [] => .ok state
  | [], rest => .error (.tooMany (found + rest.length))
  | _ :: _, [] => .error (.tooFew found layout.expected layout.fields.length)
  | field :: fields, value :: rest => do
    let state ← layout.store field value state
    layout.readItems (found + 1) state fields rest

def Layout.read (layout : Layout F S) (start : S) : Json.Value → Except ShapeError S
  | .object members => layout.readMembers [] start members
  | .array items => layout.readItems 0 start layout.fields items
  | value => .error (.wrongKind value layout.expected)

/-- A null is the same as an absent field. -/
def optional {A : Type} (read : Json.Value → Except ShapeError A) :
    Json.Value → Except ShapeError (Option A)
  | .null => .ok none
  | value => (read value).map some

def readText : Json.Value → Except ShapeError String
  | .text value => .ok value
  | value => .error (.wrongKind value .text)

def readAmount : Json.Value → Except ShapeError Gas
  | .number number => .ok number.toFloat
  | value => .error (.wrongKind value .amount)

def readMap : Json.Value → Except ShapeError (List (String × Json.Value))
  | .object members => .ok members
  | value => .error (.wrongKind value .map)

end GasReport.Record
