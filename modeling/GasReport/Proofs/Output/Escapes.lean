import GasReport.Proofs.Output.Letters

namespace GasReport.Output

/-- These are the letters outside of escape sequences. A sequence is an escape letter, a bracket,
and what follows up to the next `m`. The flag tells whether a sequence has begun. -/
def unstyled : Bool → List Char → List Char
  | _, [] => []
  | true, letter :: rest => unstyled (letter != 'm') rest
  | false, '\x1b' :: '[' :: rest =>
    if 'm' ∈ rest then unstyled true rest else '\x1b' :: '[' :: unstyled false rest
  | false, letter :: rest => letter :: unstyled false rest

def withoutSequences (text : String) : String := String.ofList (unstyled false text.toList)

/-- Without sequences the first text is the second one, whatever follows it. -/
def Shows (styled plain : String) : Prop :=
  ∀ rest, unstyled false (styled.toList ++ rest) = plain.toList ++ unstyled false rest

namespace Shows

/-- Texts are shown one after the other. -/
theorem append {first second plain others : String} (shows : Shows first plain)
    (following : Shows second others) : Shows (first ++ second) (plain ++ others) := by
  intro rest
  rw [String.toList_append, List.append_assoc, shows, following, String.toList_append,
    List.append_assoc]

/-- A text that shows another is that other without its sequences. -/
theorem withoutSequences_eq {styled plain : String} (shows : Shows styled plain) :
    withoutSequences styled = plain := by
  have whole := shows []
  rw [List.append_nil, unstyled, List.append_nil] at whole
  rw [withoutSequences, whole, String.ofList_toList]

theorem empty : Shows "" "" := fun _ => rfl

/-- A text without the escape letter shows itself. -/
theorem self {text : String} (clean : '\x1b' ∉ text.toList) : Shows text text := by
  intro rest
  generalize text.toList = letters at clean
  induction letters with
  | nil => rfl
  | cons letter others ih =>
      rw [List.mem_cons, not_or] at clean
      rw [List.cons_append, List.cons_append, unstyled, ih clean.2]
      rintro following rfl
      exact absurd rfl clean.1

/-- A visible text shows itself. -/
theorem visible {text : String} (visible : Text.Visible text.toList) : Shows text text :=
  self (visible.not_mem (by decide))

/-- Colours show nothing. -/
theorem color (color : Color) : Shows color.sequence "" := by
  intro rest
  cases color <;> simp [Color.sequence, Color.code, escapeSequence, unstyled]

/-- The end of colours shows nothing. -/
theorem reset : Shows resetSequence "" := by
  intro rest
  simp [resetSequence, escapeSequence, unstyled]

/-- Cells are joined by blanks in both texts. -/
theorem intercalate {A : Type} {styled plain : A → String} {cells : List A}
    (each : ∀ cell ∈ cells, Shows (styled cell) (plain cell)) :
    Shows (" ".intercalate (cells.map styled)) (" ".intercalate (cells.map plain)) := by
  induction cells with
  | nil => exact empty
  | cons cell rest ih =>
      have here := each cell List.mem_cons_self
      cases rest with
      | nil => simpa only [List.map_cons, List.map_nil, String.intercalate_singleton] using here
      | cons next others =>
          have following := ih fun other inside => each other (List.mem_cons_of_mem _ inside)
          simp only [List.map_cons, String.intercalate_cons_cons]
          exact (here.append (visible (by decide))).append following

/-- Joined texts show the joined texts. -/
theorem join {A : Type} {styled plain : A → String} {parts : List A}
    (each : ∀ part ∈ parts, Shows (styled part) (plain part)) :
    Shows (String.join (parts.map styled)) (String.join (parts.map plain)) := by
  induction parts with
  | nil => exact empty
  | cons part rest ih =>
      simp only [List.map_cons, String.join_cons]
      exact (each part List.mem_cons_self).append
        (ih fun other inside => each other (List.mem_cons_of_mem _ inside))

end Shows

/-- A text without escapes needs no colour again. -/
theorem recolor_of_clean (sequence : List Char) {letters : List Char} (clean : '\x1b' ∉ letters) :
    recolor sequence letters = letters := by
  induction letters with
  | nil => rfl
  | cons letter rest ih =>
      rw [List.mem_cons, not_or] at clean
      rw [recolor, ih clean.2]
      rintro following rfl
      exact absurd rfl clean.1

/-- A text is padded before it is coloured, so it takes the same columns in both modes. -/
theorem shows_render (styled : Styled) (clean : '\x1b' ∉ styled.text.toList) (align : Align)
    (width : Nat) : Shows (styled.render true align width) (styled.render false align width) := by
  have padded : Shows (pad align width styled.text) (pad align width styled.text) :=
    .self (not_mem_pad (by decide) clean align width)
  cases colored : styled.color with
  | none => simpa only [Styled.render, colored] using padded
  | some color =>
      have shown := ((Shows.color color).append padded).append .reset
      rw [String.empty_append, String.append_empty] at shown
      simpa only [Styled.render, colored, if_true, Bool.false_eq_true, if_false,
        recolor_of_clean _ clean, String.ofList_toList] using shown

/-- A coloured line shows the plain line. -/
theorem shows_line {line : Line} (clean : line.Avoids '\x1b') :
    Shows (line.render true) (line.render false) := by
  cases line with
  | title place text =>
      have corners := visible_corners place
      have clipped := not_mem_clip (by decide) clean (frameWidth - 6)
      have styled {title : String} (clean : '\x1b' ∉ title.toList) :=
        shows_render (.colored .white title) clean .left 0
      exact (((((Shows.visible corners.1).append (.visible (by decide))).append
        (styled clipped)).append (.visible (by decide))).append (.visible (visible_bars _))).append
        (.visible corners.2)
  | row cells =>
      have each : ∀ cell ∈ cells, Shows (cell.render true) (cell.render false) :=
        fun cell inside => shows_render cell.content (clean cell inside) cell.align cell.width
      exact ((Shows.visible (by decide)).append (.intercalate each)).append (.visible (by decide))
  | bottom =>
      exact ((Shows.visible (by decide)).append (.visible (visible_bars _))).append
        (.visible (by decide))
  | blank => exact .visible (by decide)

/-- Colours change no text: without the escape sequences, the tables in colours are the tables
without colours. -/
theorem withoutSequences_tables {reports : List ProjectReport}
    (clean : ∀ report ∈ reports, report.Avoids '\x1b') :
    withoutSequences (tables true reports) = tables false reports := by
  apply Shows.withoutSequences_eq
  apply Shows.join
  intro line given
  obtain ⟨report, inside, listed⟩ := List.mem_flatMap.mp given
  have avoided := (lineOf_projectLines listed).avoids (by decide) (clean report inside)
  exact (shows_line avoided).append (.self (by decide))

/-- The candidate improves a function and makes the deployment worse. -/
def colorful : ProjectReport where
  project := "größe"
  contracts :=
    let reference : Build := .tagged .standard ⟨.solc, "0.8.30-opt"⟩
    let candidate : Build := .tagged .standard ⟨.solx, "0.1.0"⟩
    [{ contract := "src/Token.sol:Token"
       baseline := reference
       results :=
        [⟨"f(uint256)", [⟨⟨reference, 100.0, .empty⟩, 100.0, ⟨0.0⟩⟩,
          ⟨⟨candidate, 90.0, .empty⟩, 100.0, ⟨-10.0⟩⟩]⟩]
       deployment := [⟨reference, 1000.0, .empty⟩, ⟨candidate, 1100.0, .empty⟩]
       methodCount := 1
       measurements := [⟨reference, "src/Token.sol:Token", 1000.0, [("f(uint256)", 100.0)]⟩,
        ⟨candidate, "src/Token.sol:Token", 1100.0, [("f(uint256)", 90.0)]⟩] }]
  candidateVersion := none
  referenceVersion := some "0.8.30-opt"

theorem withoutSequences_tables_colorful :
    (∀ report ∈ [colorful], report.Avoids '\x1b') ∧ colorful.summary.statistics.improved = 1 ∧
    (projectLines colorful)[19]?.map (·.render true) =
      some ("║ Token::f(uint256)                                                " ++
        "\x1b[32m   -10.00\x1b[0m ║") ∧
    withoutSequences (tables true [colorful]) = tables false [colorful] := by
  have clean : ∀ report ∈ [colorful], report.Avoids '\x1b' := by decide +kernel
  exact ⟨clean, by decide +kernel, by decide +kernel, withoutSequences_tables clean⟩

end GasReport.Output
