import GasReport.Text.CharSet

namespace GasReport.Text

/-- These code points, every `step`th from `first` to `last`, are moved by `offset`. -/
structure CharMap.Run where
  first : Nat
  last : Nat
  step : Nat
  offset : Int

/-- No code point is in two runs. -/
structure CharMap where
  runs : List CharMap.Run

namespace CharMap

def Run.contains (run : Run) (code : Nat) : Bool :=
  run.first ≤ code && code ≤ run.last && (code - run.first) % run.step == 0

def Run.apply (run : Run) (code : Nat) : Nat := (code + run.offset).toNat

/-- These are the moved code points with the places that they are moved to. -/
def Run.pairs (run : Run) : List (Nat × Nat) :=
  (List.range ((run.last - run.first) / run.step + 1)).map fun index =>
    let code := run.first + index * run.step
    (code, run.apply code)

def Run.reverse (run : Run) : Run :=
  ⟨run.apply run.first, run.apply run.last, run.step, -run.offset⟩

/-- A character outside the runs stays as it is. -/
def apply (map : CharMap) (letter : Char) : Char :=
  match map.runs.find? (·.contains letter.toNat) with
  | some run => Char.ofNat (run.apply letter.toNat)
  | none => letter

end CharMap

end GasReport.Text
