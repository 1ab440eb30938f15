import GasReport.Text.CharSet

namespace GasReport.Text.Utf8

/-- These are the first and the last byte of a range. -/
abbrev ByteRange := Nat × Nat

def follower : ByteRange := (0x80, 0xbf)

/-- The characters from `first` to `last` have `more` bytes after a lead byte that counts from
`lead`. The parts of the range that fill the last bytes only in part are written on their own. -/
def sequences (lead : Nat) : Nat → Nat → Nat → List (List ByteRange)
  | 0, first, last => [[(lead + first, lead + last)]]
  | more + 1, first, last =>
    let block := Nat.pow 64 (more + 1)
    let low := first / block
    let high := last / block
    let inBlock := fun byte first last =>
      (sequences 0x80 more first last).map ((lead + byte, lead + byte) :: ·)
    if low = high then inBlock low (first % block) (last % block)
    else
      let fromStart := first % block = 0
      let toEnd := last % block = block - 1
      let whole := (if fromStart then low else low + 1, if toEnd then high + 1 else high)
      (if fromStart then [] else inBlock low (first % block) (block - 1)) ++
        (if whole.1 < whole.2 then
          [(lead + whole.1, lead + whole.2 - 1) :: List.replicate (more + 1) follower]
        else []) ++
        (if toEnd then [] else inBlock high 0 (last % block))

/-- These characters are written in the same number of bytes. -/
structure Form where
  first : Nat
  last : Nat
  lead : Nat
  followers : Nat

def forms : List Form := [
  ⟨0, 0x7f, 0, 0⟩, ⟨0x80, 0x7ff, 0xc0, 1⟩, ⟨0x800, 0xd7ff, 0xe0, 2⟩, ⟨0xe000, 0xffff, 0xe0, 2⟩,
  ⟨0x10000, 0x10ffff, 0xf0, 3⟩]

def ofRange (range : Nat × Nat) : List (List ByteRange) :=
  forms.flatMap fun form =>
    let first := max range.1 form.first
    let last := min range.2 form.last
    if first ≤ last then sequences form.lead form.followers first last else []

/-- The sequences of a set are in order, and none begins with another. -/
def ofSet (set : CharSet) : List (List ByteRange) := set.ranges.flatMap ofRange

/-- Sequences that begin with the same range of bytes stand together, with what follows it. -/
def branches (sequences : List (List ByteRange)) : List (ByteRange × List (List ByteRange)) :=
  sequences.foldr
    (fun sequence branches =>
      match sequence, branches with
      | [], _ => branches
      | range :: rest, (other, tails) :: more =>
        if range = other then (other, rest :: tails) :: more
        else (range, [rest]) :: (other, tails) :: more
      | range :: rest, [] => [(range, [rest])])
    []

end GasReport.Text.Utf8
