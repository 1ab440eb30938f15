import GasReport.Pattern.Search
import Mathlib.Logic.Function.Iterate

/-!
What a pattern matches, told without sets of positions: a match leads from one position of the text
to another. Main statement: the search finds a pattern exactly when it has a match that starts
anywhere in the text.
-/

namespace GasReport.Pattern

/-- This tells where a place is in a text. -/
def Anchor.Holds (text : List Char) (position : Nat) : Anchor → Prop
  | .textStart => position = 0
  | .textEnd => position = text.length
  | .lineStart => position = 0 ∨ ∃ earlier, position = earlier + 1 ∧ text[earlier]? = some '\n'
  | .lineEnd => position = text.length ∨ text[position]? = some '\n'

/-- These are so many rounds, one after the other. -/
def Rounds (round : Nat → Nat → Prop) : Nat → Nat → Nat → Prop
  | 0, start, finish => start = finish
  | count + 1, start, finish => ∃ middle, round start middle ∧ Rounds round count middle finish

/-- The pattern matches the part of the text from `start` to `finish`. A repetition makes its least
number of rounds, and then as many further rounds as it may. -/
def Matches (text : List Char) : Pattern → Nat → Nat → Prop
  | .empty, start, finish => start = finish
  | .text letters, start, finish => finish = start + letters.length ∧ letters <+: text.drop start
  | .oneOf set, start, finish => finish = start + 1 ∧ text[start]?.any set.contains = true
  | .anchor place, start, finish => start = finish ∧ place.Holds text start
  | .repeats inner least most _, start, finish =>
    ∃ further, (∀ bound ∈ most, further ≤ bound - least) ∧
      Rounds (inner.Matches text) (least + further) start finish
  | .capture _ inner, start, finish => inner.Matches text start finish
  | .sequence first second, start, finish =>
    ∃ middle, first.Matches text start middle ∧ second.Matches text middle finish
  | .either first second, start, finish =>
    first.Matches text start finish ∨ second.Matches text start finish

/-- No step leads backward or out of the text. -/
def Forward (length : Nat) (step : Nat → Nat → Prop) : Prop :=
  ∀ start finish, step start finish → start ≤ length → start ≤ finish ∧ finish ≤ length

section Forward

variable {length : Nat} {first second : Nat → Nat → Prop}

theorem forward_eq : Forward length Eq := by
  rintro start finish rfl inside
  exact ⟨Nat.le_refl start, inside⟩

/-- Two steps that lead forward lead forward together. -/
theorem Forward.comp (firstForward : Forward length first) (secondForward : Forward length second) :
    Forward length fun start finish => ∃ middle, first start middle ∧ second middle finish := by
  rintro start finish ⟨middle, before, after⟩ inside
  obtain ⟨ahead, middleInside⟩ := firstForward start middle before inside
  obtain ⟨further, finishInside⟩ := secondForward middle finish after middleInside
  exact ⟨Nat.le_trans ahead further, finishInside⟩

/-- A choice of two steps that lead forward leads forward. -/
theorem Forward.union (firstForward : Forward length first)
    (secondForward : Forward length second) :
    Forward length fun start finish => first start finish ∨ second start finish := by
  rintro start finish (led | led) inside
  · exact firstForward start finish led inside
  · exact secondForward start finish led inside

/-- A letter leads one position on. -/
theorem forward_letter (text : List Char) (wanted : Char → Bool) :
    Forward text.length fun start finish =>
      finish = start + 1 ∧ text[start]?.any wanted = true := by
  rintro start finish ⟨rfl, found⟩ -
  cases here : text[start]? with
  | none =>
      rw [here] at found
      cases found
  | some letter =>
      have inside := (List.getElem?_eq_some_iff.mp here).1
      omega

end Forward

section Rounds

variable {length : Nat} {round : Nat → Nat → Prop}

/-- Rounds may be made in two parts. -/
theorem rounds_add (first second start finish : Nat) :
    Rounds round (first + second) start finish ↔
      ∃ middle, Rounds round first start middle ∧ Rounds round second middle finish := by
  induction first generalizing start with
  | zero => simp [Rounds]
  | succ first inductionHypothesis =>
      rw [Nat.add_right_comm]
      simp only [Rounds, inductionHypothesis]
      constructor
      · rintro ⟨next, step, middle, before, after⟩
        exact ⟨middle, ⟨next, step, before⟩, after⟩
      · rintro ⟨middle, ⟨next, step, before⟩, after⟩
        exact ⟨next, step, middle, before, after⟩

/-- Rounds that may be left out are fewer rounds. -/
theorem rounds_optional (count start finish : Nat) :
    Rounds (fun before after => before = after ∨ round before after) count start finish ↔
      ∃ fewer ≤ count, Rounds round fewer start finish := by
  induction count generalizing start with
  | zero => simp [Rounds]
  | succ count inductionHypothesis =>
      simp only [Rounds, inductionHypothesis]
      constructor
      · rintro ⟨middle, rfl | step, fewer, bound, rest⟩
        · exact ⟨fewer, Nat.le_succ_of_le bound, rest⟩
        · exact ⟨fewer + 1, Nat.succ_le_succ bound, middle, step, rest⟩
      · rintro ⟨fewer, bound, rest⟩
        cases fewer with
        | zero => exact ⟨start, .inl rfl, 0, Nat.zero_le count, rest⟩
        | succ fewer =>
            obtain ⟨middle, step, rest⟩ := rest
            exact ⟨middle, .inr step, fewer, Nat.le_of_succ_le_succ bound, rest⟩

/-- Rounds lead forward when each of them does. -/
theorem Forward.rounds (forward : Forward length round) (count : Nat) :
    Forward length (Rounds round count) := by
  induction count with
  | zero => exact forward_eq
  | succ count inductionHypothesis => exact forward.comp inductionHypothesis

/-- A round that stays where it is can be left out, so no more rounds are needed than there are
letters. -/
theorem Forward.rounds_few (forward : Forward length round) {count start finish : Nat}
    (made : Rounds round count start finish) (inside : start ≤ length) :
    ∃ fewer ≤ count, fewer ≤ finish - start ∧ Rounds round fewer start finish := by
  induction count generalizing start with
  | zero => exact ⟨0, Nat.le_refl 0, Nat.zero_le _, made⟩
  | succ count inductionHypothesis =>
      obtain ⟨middle, step, rest⟩ := made
      obtain ⟨ahead, middleInside⟩ := forward start middle step inside
      obtain ⟨fewer, bound, short, kept⟩ := inductionHypothesis rest middleInside
      obtain ⟨further, -⟩ := forward.rounds fewer middle finish kept middleInside
      -- Every round that is kept moves on by a letter at least, which pays for it.
      obtain rfl | moved := Nat.eq_or_lt_of_le ahead
      · exact ⟨fewer, Nat.le_succ_of_le bound, short, kept⟩
      · exact ⟨fewer + 1, Nat.succ_le_succ bound, by omega, middle, step, kept⟩

/-- Once the least rounds are made, a few more lead wherever any allowed number of them leads. -/
theorem rounds_enough (forward : Forward length round) (least : Nat) (most : Option Nat)
    {start : Nat} (inside : start ≤ length) (finish : Nat) :
    (∃ middle, Rounds round least start middle ∧
      Rounds (fun before after => before = after ∨ round before after)
        (min (most.getD (least + length + 1) - least) (length + 1)) middle finish) ↔
      ∃ further, (∀ bound ∈ most, further ≤ bound - least) ∧
        Rounds round (least + further) start finish := by
  simp only [rounds_optional, rounds_add]
  constructor
  · rintro ⟨middle, before, further, few, after⟩
    refine ⟨further, ?_, middle, before, after⟩
    rintro bound rfl
    rw [Option.getD_some] at few
    omega
  · rintro ⟨further, allowed, middle, before, after⟩
    obtain ⟨-, middleInside⟩ := forward.rounds least start middle before inside
    obtain ⟨-, finishInside⟩ := forward.rounds further middle finish after middleInside
    obtain ⟨fewer, bound, short, kept⟩ := forward.rounds_few after middleInside
    refine ⟨middle, before, fewer, ?_, kept⟩
    cases most with
    | none =>
        rw [Option.getD_none]
        omega
    | some most =>
        have most := allowed most rfl
        rw [Option.getD_some]
        omega

end Rounds

/-- No match leads backward or out of the text. -/
theorem forward_matches (text : List Char) (pattern : Pattern) :
    Forward text.length (pattern.Matches text) := by
  induction pattern with
  | empty => exact forward_eq
  | text letters =>
      rintro start finish ⟨rfl, written⟩ inside
      have short := written.length_le
      rw [List.length_drop] at short
      omega
  | oneOf set => exact forward_letter text set.contains
  | anchor place =>
      rintro start finish ⟨same, -⟩ inside
      exact forward_eq start finish same inside
  | repeats inner least most greedy inductionHypothesis =>
      rintro start finish ⟨further, -, made⟩ inside
      exact inductionHypothesis.rounds (least + further) start finish made inside
  | capture number inner inductionHypothesis => exact inductionHypothesis
  | sequence first second firstForward secondForward => exact firstForward.comp secondForward
  | either first second firstForward secondForward => exact firstForward.union secondForward

/-- All positions are in the text. -/
def Positions.Within (length : Nat) (positions : Positions) : Prop :=
  ∀ position, positions.contains position = true → position ≤ length

/-- The positions that are reached are those to which a step leads. -/
def Follows (length : Nat) (advance : Positions → Positions) (step : Nat → Nat → Prop) : Prop :=
  ∀ positions, positions.Within length → ∀ finish,
    (advance positions).contains finish = true ↔
      ∃ start, positions.contains start = true ∧ step start finish

section Follows

variable {length : Nat} {advance first second : Positions → Positions}
  {step firstStep secondStep : Nat → Nat → Prop}

theorem Follows.congr (follows : Follows length advance firstStep)
    (same : ∀ start ≤ length, ∀ finish, firstStep start finish ↔ secondStep start finish) :
    Follows length advance secondStep := by
  intro positions within finish
  rw [follows positions within]
  constructor
  · rintro ⟨start, given, led⟩
    exact ⟨start, given, (same start (within start given) finish).mp led⟩
  · rintro ⟨start, given, led⟩
    exact ⟨start, given, (same start (within start given) finish).mpr led⟩

/-- Positions stay within the text. -/
theorem Follows.within (follows : Follows length advance step) (forward : Forward length step)
    {positions : Positions} (within : positions.Within length) :
    (advance positions).Within length := by
  intro finish reached
  obtain ⟨start, given, led⟩ := (follows positions within finish).mp reached
  exact (forward start finish led (within start given)).2

/-- Two tracks one after the other follow both steps in turn. -/
theorem Follows.comp (firstFollows : Follows length first firstStep)
    (firstForward : Forward length firstStep) (secondFollows : Follows length second secondStep) :
    Follows length (fun positions => second (first positions)) fun start finish =>
      ∃ middle, firstStep start middle ∧ secondStep middle finish := by
  intro positions within finish
  rw [secondFollows _ (firstFollows.within firstForward within)]
  simp only [firstFollows positions within]
  constructor
  · rintro ⟨middle, ⟨start, given, before⟩, after⟩
    exact ⟨start, given, middle, before, after⟩
  · rintro ⟨start, given, middle, before, after⟩
    exact ⟨middle, ⟨start, given, before⟩, after⟩

/-- Two tracks at once follow either step. -/
theorem Follows.union (firstFollows : Follows length first firstStep)
    (secondFollows : Follows length second secondStep) :
    Follows length (fun positions => (first positions).union (second positions))
      fun start finish => firstStep start finish ∨ secondStep start finish := by
  intro positions within finish
  rw [Positions.contains_union, Bool.or_eq_true, firstFollows positions within,
    secondFollows positions within, ← exists_or]
  simp only [and_or_left]

theorem follows_id : Follows length id Eq := by
  intro positions _ finish
  simp

/-- A track that is run many times follows so many rounds. -/
theorem Follows.iterate (follows : Follows length advance step) (forward : Forward length step)
    (count : Nat) : Follows length advance^[count] (Rounds step count) := by
  induction count with
  | zero => exact follows_id
  | succ count inductionHypothesis => exact follows.comp forward inductionHypothesis

end Follows

/-- A round that changes nothing changes nothing later either. -/
theorem settle_eq_iterate (round : Positions → Positions) (count : Nat) (positions : Positions) :
    settle round count positions = round^[count] positions := by
  induction count generalizing positions with
  | zero => rfl
  | succ count inductionHypothesis =>
      rw [settle]
      split
      · rename_i fixed
        exact (Function.iterate_fixed fixed (count + 1)).symm
      · exact inductionHypothesis (round positions)

section Track

variable {length : Nat}

/-- Positions stay exactly where the places hold. -/
theorem follows_stay {places : Positions} {holds : Nat → Prop}
    (told : ∀ position ≤ length, places.contains position = true ↔ holds position) :
    Follows length (fun positions => positions.intersection places) fun start finish =>
      start = finish ∧ holds start := by
  intro positions within finish
  rw [Positions.contains_intersection, Bool.and_eq_true]
  constructor
  · rintro ⟨given, placed⟩
    exact ⟨finish, given, rfl, (told finish (within finish given)).mp placed⟩
  · rintro ⟨start, given, rfl, held⟩
    exact ⟨given, (told start (within start given)).mpr held⟩

/-- Positions step over the letters that are wanted. -/
theorem follows_step (text : List Char) (wanted : Char → Bool) :
    Follows text.length
      (fun positions => (positions.intersection ((Places.ofText text).find wanted)).next)
      fun start finish => finish = start + 1 ∧ text[start]?.any wanted = true := by
  intro positions within finish
  cases finish with
  | zero => simp
  | succ position =>
      rw [Positions.contains_next_succ, Positions.contains_intersection, Places.contains_find,
        Bool.and_eq_true]
      constructor
      · rintro ⟨given, found⟩
        exact ⟨position, given, rfl, found⟩
      · rintro ⟨start, given, same, found⟩
        obtain rfl := Nat.succ.inj same
        exact ⟨given, found⟩

/-- Every position of the text is found, its end included. -/
theorem contains_everywhere (text : List Char) (position : Nat) :
    (Places.ofText text).everywhere.contains position = true ↔ position ≤ text.length := by
  rw [Places.everywhere, Positions.contains_below, decide_eq_true_iff, Nat.lt_succ_iff]
  rfl

/-- An anchor is found exactly at the positions where it holds. -/
theorem Anchor.contains_find (text : List Char) (place : Anchor) (position : Nat) :
    (place.find (Places.ofText text)).contains position = true ↔ place.Holds text position := by
  have breaks (position : Nat) :
      text[position]?.any (· == '\n') = true ↔ text[position]? = some '\n' := by
    cases text[position]? <;> simp
  cases place with
  | textStart => simp [find, Holds, @eq_comm Nat 0]
  | textEnd => simp [find, Holds, @eq_comm Nat text.length]
  | lineStart =>
      cases position with
      | zero => simp [find, Holds]
      | succ position => simp [find, Holds, Places.contains_find, breaks]
  | lineEnd => simp [find, Holds, Places.contains_find, breaks, @eq_comm Nat text.length]

theorem follows_everywhere (text : List Char) :
    Follows text.length
      (fun positions => positions.intersection (Places.ofText text).everywhere) Eq := by
  have told : ∀ position ≤ text.length,
      (Places.ofText text).everywhere.contains position = true ↔ True := fun position inside =>
    (contains_everywhere text position).trans (iff_true_intro inside)
  exact (follows_stay told).congr fun start _ finish => and_iff_left trivial

/-- A word stands at a position when its first letter does and its rest stands behind. -/
theorem cons_prefix_drop (text : List Char) (letter : Char) (rest : List Char) (start : Nat) :
    letter :: rest <+: text.drop start ↔
      text[start]?.any (· == letter) = true ∧ rest <+: text.drop (start + 1) := by
  cases here : text[start]? with
  | none =>
      rw [List.drop_eq_nil_of_le (List.getElem?_eq_none_iff.mp here)]
      simp
  | some found =>
      obtain ⟨inside, rfl⟩ := List.getElem?_eq_some_iff.mp here
      rw [List.drop_eq_getElem_cons inside, List.cons_prefix_cons, Option.any_some, beq_iff_eq,
        @eq_comm Char letter]

/-- Letters are found one after the other. -/
theorem follows_letters (text letters : List Char) :
    Follows text.length
      (letters.foldr
        (fun letter rest => .sequence (.step ((Places.ofText text).find (· == letter))) rest)
        (Track.stay (Places.ofText text).everywhere)).advance
      fun start finish => finish = start + letters.length ∧ letters <+: text.drop start := by
  induction letters with
  | nil =>
      refine (follows_everywhere text).congr fun start _ finish => ?_
      rw [eq_comm]
      simp
  | cons letter rest inductionHypothesis =>
      have both := (follows_step text (· == letter)).comp (forward_letter text (· == letter))
        inductionHypothesis
      refine both.congr fun start _ finish => ?_
      rw [cons_prefix_drop, List.length_cons]
      constructor
      · rintro ⟨middle, ⟨rfl, found⟩, rfl, written⟩
        exact ⟨by omega, found, written⟩
      · rintro ⟨rfl, found, written⟩
        exact ⟨start + 1, ⟨rfl, found⟩, by omega, written⟩

/-- Repetitions follow as many rounds as they may make. -/
theorem follows_repeats {inner : Track} {round : Nat → Nat → Prop}
    (follows : Follows length inner.advance round) (forward : Forward length round) (least : Nat)
    (most : Option Nat) :
    Follows length
      (Track.repeats inner least
        (min (most.getD (least + length + 1) - least) (length + 1))).advance
      fun start finish => ∃ further, (∀ bound ∈ most, further ≤ bound - least) ∧
        Rounds round (least + further) start finish := by
  have later := (follows_id.union follows).iterate (forward_eq.union forward)
    (min (most.getD (least + length + 1) - least) (length + 1))
  have both := ((follows.iterate forward least).comp (forward.rounds least) later).congr
    fun start inside finish => rounds_enough forward least most inside finish
  intro positions within finish
  rw [Track.advance, settle_eq_iterate, settle_eq_iterate]
  exact both positions within finish

/-- The sets of positions of a track follow the matches of its pattern. -/
theorem follows_track (text : List Char) (pattern : Pattern) :
    Follows text.length (pattern.track (Places.ofText text)).advance (pattern.Matches text) := by
  induction pattern with
  | empty => exact follows_everywhere text
  | text letters => exact follows_letters text letters
  | oneOf set => exact follows_step text set.contains
  | anchor place => exact follows_stay fun position _ => Anchor.contains_find text place position
  | repeats inner least most greedy inductionHypothesis =>
      exact follows_repeats inductionHypothesis (forward_matches text inner) least most
  | capture number inner inductionHypothesis => exact inductionHypothesis
  | sequence first second firstFollows secondFollows =>
      exact firstFollows.comp (forward_matches text first) secondFollows
  | either first second firstFollows secondFollows => exact firstFollows.union secondFollows

end Track

/-- The search finds a pattern exactly when it has a match somewhere in the text. -/
theorem occursIn_iff (pattern : Pattern) (text : String) :
    pattern.occursIn text = true ↔
      ∃ start ≤ text.toList.length, ∃ finish, pattern.Matches text.toList start finish := by
  have everywhere := contains_everywhere text.toList
  have follows := follows_track text.toList pattern (Places.ofText text.toList).everywhere
    fun position given => (everywhere position).mp given
  have found : pattern.occursIn text = true ↔ ∃ finish,
      ((pattern.track (Places.ofText text.toList)).advance
        (Places.ofText text.toList).everywhere).contains finish = true := by
    rw [occursIn, Bool.not_eq_true', ← Bool.not_eq_true, Positions.isEmpty_iff]
    simp
  rw [found]
  simp only [follows, everywhere]
  constructor
  · rintro ⟨finish, start, inside, matched⟩
    exact ⟨start, inside, finish, matched⟩
  · rintro ⟨start, inside, finish, matched⟩
    exact ⟨finish, start, inside, matched⟩

end GasReport.Pattern
