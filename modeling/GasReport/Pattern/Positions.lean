namespace GasReport.Pattern

/-- The bit of a position is set when the position is in the set. -/
structure Positions where
  bits : Nat
deriving DecidableEq

namespace Positions

def contains (positions : Positions) (position : Nat) : Bool := positions.bits.testBit position

def isEmpty (positions : Positions) : Bool := positions.bits == 0

def nothing : Positions := ⟨0⟩

def below (count : Nat) : Positions := ⟨Nat.pow 2 count - 1⟩

def single (position : Nat) : Positions := ⟨1 <<< position⟩

def union (first second : Positions) : Positions := ⟨first.bits ||| second.bits⟩

def intersection (first second : Positions) : Positions := ⟨first.bits &&& second.bits⟩

/-- Every position moves forward by one. -/
def next (positions : Positions) : Positions := ⟨positions.bits <<< 1⟩

/-- These are the positions before the letters that are wanted. The letters are taken a few at a
time, so that few numbers are as long as the text. -/
def ofLetters (wanted : Char → Bool) : List Char → Positions
  | [] => nothing
  | letter :: rest =>
    let early := (letter :: rest.take 47).foldr
      (fun letter bits => 2 * bits + (wanted letter).toNat) 0
    (Positions.mk early).union ⟨(ofLetters wanted (rest.drop 47)).bits <<< 48⟩
termination_by text => text.length

@[simp] theorem contains_nothing (position : Nat) : nothing.contains position = false := by
  simp [nothing, contains]

/-- A union holds the positions of both sets. -/
@[simp] theorem contains_union (first second : Positions) (position : Nat) :
    (first.union second).contains position =
      (first.contains position || second.contains position) :=
  Nat.testBit_or first.bits second.bits position

/-- An intersection holds the common positions. -/
@[simp] theorem contains_intersection (first second : Positions) (position : Nat) :
    (first.intersection second).contains position =
      (first.contains position && second.contains position) :=
  Nat.testBit_and first.bits second.bits position

@[simp] theorem contains_next_zero (positions : Positions) : positions.next.contains 0 = false := by
  simp [next, contains]

/-- The next positions are one further on. -/
@[simp] theorem contains_next_succ (positions : Positions) (position : Nat) :
    positions.next.contains (position + 1) = positions.contains position := by
  simp [next, contains, Nat.testBit_shiftLeft]

@[simp] theorem contains_single (place position : Nat) :
    (single place).contains position = decide (place = position) := by
  rw [single, contains, Nat.one_shiftLeft, Nat.testBit_two_pow]

/-- These are the positions before the count. -/
@[simp] theorem contains_below (count position : Nat) :
    (below count).contains position = decide (position < count) :=
  Nat.testBit_two_pow_sub_one count position

/-- An empty set holds no position. -/
theorem isEmpty_iff (positions : Positions) :
    positions.isEmpty = true ↔ ∀ position, positions.contains position = false := by
  constructor
  · intro empty position
    have zero : positions.bits = 0 := by simpa [isEmpty] using empty
    simp [contains, zero]
  · intro none
    have zero : positions.bits = 0 := Nat.eq_of_testBit_eq fun position => by
      simpa [contains] using none position
    simp [isEmpty, zero]

theorem testBit_foldr (wanted : Char → Bool) (text : List Char) (position : Nat) :
    (text.foldr (fun letter bits => 2 * bits + (wanted letter).toNat) 0).testBit position =
      text[position]?.any wanted := by
  induction text generalizing position with
  | nil => simp
  | cons letter rest inductionHypothesis =>
    cases position with
    | zero =>
      cases wantedLetter : wanted letter <;>
        simp [Nat.testBit_zero, wantedLetter, Nat.add_mod]
    | succ position =>
      have half : (2 * (rest.foldr (fun letter bits => 2 * bits + (wanted letter).toNat) 0) +
          (wanted letter).toNat) / 2 =
          rest.foldr (fun letter bits => 2 * bits + (wanted letter).toNat) 0 := by
        cases wanted letter with
        | false => simp
        | true =>
          simp
          omega
      rw [List.foldr_cons, Nat.testBit_succ, half, inductionHypothesis]
      simp

/-- A letter is wanted exactly where a position is found before it. -/
theorem contains_ofLetters (wanted : Char → Bool) (text : List Char) (position : Nat) :
    (ofLetters wanted text).contains position = text[position]?.any wanted := by
  fun_induction ofLetters wanted text generalizing position with
  | case1 => simp
  | case2 letter rest early inductionHypothesis =>
    have later := inductionHypothesis (position - 48)
    have few : letter :: rest.take 47 = (letter :: rest).take 48 := rfl
    rw [contains_union]
    show (Nat.testBit early position || Nat.testBit (_ <<< 48) position) = _
    rw [testBit_foldr, Nat.testBit_shiftLeft, few, List.getElem?_take]
    by_cases inside : position < 48
    · simp [inside, Nat.not_le.2 inside]
    · obtain ⟨more, rfl⟩ := Nat.exists_eq_add_of_le (Nat.le_of_not_lt inside)
      rw [Nat.add_sub_cancel_left] at later ⊢
      show (Option.any wanted (if 48 + more < 48 then _ else none) ||
        (decide (48 ≤ 48 + more) && contains _ more)) = _
      rw [later, List.getElem?_drop, if_neg inside, show 48 + more = 47 + more + 1 by omega]
      simp

end Positions

/-- This is a text by its characters, each with the positions before it. -/
structure Places where
  length : Nat
  letters : List (Char × Positions)

namespace Places

def ofText (text : List Char) : Places :=
  ⟨text.length, text.eraseDups.map fun letter => (letter, .ofLetters (· == letter) text)⟩

@[simp] theorem length_ofText (text : List Char) : (ofText text).length = text.length := rfl

/-- These are the positions before the letters that are wanted. -/
def find (places : Places) (wanted : Char → Bool) : Positions :=
  places.letters.foldl
    (fun found letter => if wanted letter.1 then found.union letter.2 else found) .nothing

/-- There is one more position than letters. -/
def everywhere (places : Places) : Positions := .below (places.length + 1)

theorem contains_foldl (wanted : Char → Bool) (letters : List (Char × Positions))
    (found : Positions) (position : Nat) :
    (letters.foldl (fun found letter => if wanted letter.1 then found.union letter.2 else found)
      found).contains position =
      (found.contains position ||
        letters.any fun letter => wanted letter.1 && letter.2.contains position) := by
  induction letters generalizing found with
  | nil => simp
  | cons letter rest inductionHypothesis =>
    rw [List.foldl_cons, inductionHypothesis, List.any_cons]
    cases wanted letter.1 <;> simp [Bool.or_assoc]

/-- A position is found exactly before a letter that is wanted. -/
theorem contains_find (wanted : Char → Bool) (text : List Char) (position : Nat) :
    ((ofText text).find wanted).contains position = text[position]?.any wanted := by
  rw [find, contains_foldl]
  cases here : text[position]? with
  | none => simp [ofText, Positions.contains_ofLetters, here]
  | some letter =>
    have member : letter ∈ text := List.mem_of_getElem? here
    rw [Bool.eq_iff_iff]
    simp [ofText, Positions.contains_ofLetters, here, member]

end Places

end GasReport.Pattern
