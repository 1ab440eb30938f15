import GasReport.Pattern.Reader
import GasReport.Proofs.Pattern.Matching

/-!
Patterns that match one text only. A text may be written as it is when none of its letters is an
operator, or with backslashes. Main statements: every such spelling is read as the literal of the
text, and the literal is found exactly where the text stands.
-/

namespace GasReport.Pattern

/-- These letters do not stand for themselves outside brackets. A closing bracket or brace does. -/
def operators : List Char := ['(', ')', '|', '[', '?', '*', '+', '\x7b', '.', '^', '$', '\\']

/-- The letters may be written like this in a pattern: each as it is or after a backslash. -/
inductive Spells : List Char → List Char → Prop where
  | nil : Spells [] []
  | plain {letter : Char} {written letters : List Char}
      (ordinary : operators.contains letter = false)
      (rest : Spells written letters) : Spells (letter :: written) (letter :: letters)
  | escaped {letter : Char} {written letters : List Char} (itself : standsForItself letter = true)
      (rest : Spells written letters) : Spells ('\\' :: letter :: written) (letter :: letters)

/-- A text without operators spells itself. -/
theorem spells_self {letters : List Char} (ordinary : letters.any operators.contains = false) :
    Spells letters letters := by
  induction letters with
  | nil => exact .nil
  | cons letter rest ih =>
      obtain ⟨here, later⟩ := Bool.or_eq_false_iff.mp ordinary
      exact .plain here (ih later)

/-- Backslashes before the letters that need them spell the text. -/
theorem spells_flatMap (letters : List Char) : Spells (letters.flatMap escapedLetter) letters := by
  have standing : metas.all standsForItself = true := by decide
  have special : operators.all metas.contains = true := by decide
  induction letters with
  | nil => exact .nil
  | cons letter rest ih =>
      rw [List.flatMap_cons, escapedLetter]
      split
      · rename_i listed
        exact .escaped (List.all_eq_true.mp standing letter (List.contains_iff_mem.mp listed)) ih
      · rename_i unlisted
        refine .plain (Bool.eq_false_iff.mpr fun operator => unlisted ?_) ih
        exact List.all_eq_true.mp special letter (List.contains_iff_mem.mp operator)

/-- With backslashes every text is spelled. -/
theorem spells_escaped (text : String) : Spells (escaped text).toList text.toList := by
  rw [escaped, String.toList_ofList]
  exact spells_flatMap text.toList

/-- A letter that is no operator is its own token. -/
theorem token?_of_ordinary {letter : Char} (ordinary : operators.contains letter = false)
    (rest : List Char) : token? letter rest = some (.letter letter, 0) := by
  simp only [operators, List.contains_cons, List.contains_nil, Bool.or_false, Bool.or_eq_false_iff,
    beq_eq_false_iff_ne] at ordinary
  simp [token?, ordinary]

/-- After a backslash these letters name something else. -/
def escapeNames : List Char :=
  ['d', 'D', 's', 'S', 'A', 'z', 'a', 'f', 't', 'n', 'r', 'v', 'x', 'u', 'U']

/-- A backslash before a sign names the sign. -/
theorem escape?_of_standsForItself {letter : Char} (itself : standsForItself letter = true)
    (rest : List Char) : escape? (letter :: rest) = some (.one letter, 1) := by
  have names : escapeNames.any standsForItself = false := by decide
  have unnamed : letter ∉ escapeNames := fun named =>
    List.any_eq_false.mp names letter named itself
  simp only [escapeNames, List.mem_cons, List.not_mem_nil, or_false, not_or] at unnamed
  simp [escape?, unnamed, itself]

theorem token?_backslash {letter : Char} (itself : standsForItself letter = true)
    (rest : List Char) :
    token? '\\' (letter :: rest) = some (.letter letter, 1) := by
  rw [token?, escape?_of_standsForItself itself]
  rfl

/-- A spelling is read letter by letter, and a backslash takes the letter after it along. -/
theorem tokens?_of_spells {written letters : List Char} (spells : Spells written letters) :
    tokens? 0 written = some (letters.map .letter) := by
  induction spells with
  | nil => rfl
  | plain ordinary rest ih =>
      rw [tokens?, token?_of_ordinary ordinary]
      simp [ih]
  | escaped itself rest ih =>
      rw [tokens?, token?_backslash itself]
      simp [tokens?, ih]

/-- This is the part that a letter adds to a group that does not ignore case. -/
def Part.ofLetter (letter : Char) : Part := ⟨.text [letter], 0, true⟩

/-- The reader collects letters in reverse. -/
theorem foldlM_letters (letters : List Char) (reader : Reader)
    (cased : reader.group.options.ignoreCase = false) :
    (letters.map Token.letter).foldlM Reader.step? reader =
      some { reader with group := { reader.group with
        parts := (letters.map Part.ofLetter).reverse ++ reader.group.parts } } := by
  induction letters generalizing reader with
  | nil => rfl
  | cons letter rest ih =>
      have step : reader.step? (.letter letter) =
          some { reader with group := reader.group.add (.ofLetter letter) } := by
        simp [Reader.step?, Group.addLetter, Group.addPattern, cased, Part.ofLetter]
      have others := ih { reader with group := reader.group.add (.ofLetter letter) } cased
      rw [List.map_cons, List.foldlM_cons, step]
      refine others.trans ?_
      simp [Group.add]

/-- A literal is its letters, and without letters it is the empty pattern. -/
theorem literal_eq (text : String) :
    literal text = if text.toList = [] then .empty else .text text.toList := by
  rw [literal]
  exact if_congr (by simp) rfl rfl

/-- Letters that follow each other are one literal. -/
theorem inSequence_letters (letters : List Char) :
    inSequence (letters.map fun letter => .text [letter]) =
      if letters = [] then .empty else .text letters := by
  induction letters with
  | nil => rfl
  | cons letter rest ih =>
      change before (.text [letter]) (inSequence (rest.map fun letter => .text [letter])) = _
      rw [ih]
      cases rest <;> rfl

/-- Letters do not nest. -/
theorem deepest_letters (letters : List Char) : Part.deepest (letters.map .ofLetter) = 0 := by
  induction letters with
  | nil => rfl
  | cons letter rest ih => exact ih

/-- Letters name no group. -/
theorem groupNames_letters (letters : List Char) :
    (letters.map Token.letter).filterMap Token.groupName? = [] := by
  rw [List.filterMap_map]
  exact List.filterMap_eq_nil_iff.mpr fun letter _ => rfl

/-- The letters of a text in sequence are its literal. -/
theorem inSequence_parts (text : String) :
    Part.inSequence (text.toList.map .ofLetter) =
      ⟨literal text, if text.toList.length < 2 then 0 else 1, true⟩ := by
  have pattern : inSequence ((text.toList.map Part.ofLetter).map Part.pattern) = literal text := by
    rw [List.map_map, literal_eq]
    exact inSequence_letters text.toList
  rw [Part.inSequence, pattern, deepest_letters, List.length_map]

/-- A spelled text is read as its literal, unless the automaton would be too large. -/
theorem ofText?_of_spells {written text : String} (spells : Spells written.toList text.toList) :
    ofText? written = if (literal text).fits then some (literal text) else none := by
  have inside : Group.inside { Reader.start.group with
      parts := (text.toList.map Part.ofLetter).reverse ++ Reader.start.group.parts } =
        ⟨literal text, if text.toList.length < 2 then 0 else 1, true⟩ := by
    rw [← inSequence_parts]
    change Part.inSequence ((text.toList.map Part.ofLetter).reverse ++ []).reverse = _
    rw [List.append_nil, List.reverse_reverse]
  have shallow : (if text.toList.length < 2 then 0 else 1) ≤ deepest := by
    split <;> decide
  rw [ofText?, tokens?_of_spells spells]
  simp only [Option.bind_eq_bind, Option.bind_some, foldlM_letters text.toList .start rfl, inside,
    groupNames_letters, shallow]
  simp [Reader.start]

/-- The literal of a text matches the places where the text stands. -/
theorem matches_literal (part : String) (text : List Char) (start finish : Nat) :
    (literal part).Matches text start finish ↔
      finish = start + part.toList.length ∧ part.toList <+: text.drop start := by
  rw [literal_eq]
  split
  · rename_i empty
    simp [Matches, empty, @eq_comm Nat start]
  · exact Iff.rfl

/-- One text stands in another without gaps. -/
def StandsIn (part text : String) : Prop := ∃ before after, text = before ++ part ++ after

/-- One text stands in another when its letters are a stretch of the letters there. -/
theorem standsIn_iff (part text : String) : StandsIn part text ↔ part.toList <:+: text.toList := by
  constructor
  · rintro ⟨before, after, rfl⟩
    exact ⟨before.toList, after.toList, by simp⟩
  · rintro ⟨before, after, same⟩
    refine ⟨String.ofList before, String.ofList after, ?_⟩
    rw [← String.toList_inj]
    simp [← same]

/-- A literal is found exactly where its text stands, also across its own beginnings. -/
theorem occursIn_literal_iff (part text : String) :
    (literal part).occursIn text = true ↔ StandsIn part text := by
  rw [occursIn_iff, standsIn_iff, List.infix_iff_prefix_suffix]
  simp only [matches_literal]
  constructor
  · rintro ⟨start, -, finish, -, written⟩
    exact ⟨_, written, List.drop_suffix start text.toList⟩
  · rintro ⟨rest, written, before, same⟩
    rw [← same]
    refine ⟨before.length, ?_, _, rfl, ?_⟩
    · rw [List.length_append]
      exact Nat.le_add_right _ _
    · rw [List.drop_left]
      exact written

example : (literal "opt").occursIn "oopopt" = true := by decide +kernel

end GasReport.Pattern
