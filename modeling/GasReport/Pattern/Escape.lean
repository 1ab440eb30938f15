import GasReport.Pattern.Basic
import GasReport.Pattern.Letters
import GasReport.Text.Hex

/-!
Not every escape of the full syntax is read. A text with a word class (`\w`, `\W`) or a class by a
Unicode property (`\p`, `\P`), alone or in brackets, or with a word boundary (`\b`, `\B`, `\<`,
`\>`, or `\b` with `{start}`, `{end}`, `{start-half}` or `{end-half}`) is refused here, though the
full syntax accepts it.
-/

namespace GasReport.Pattern

/-- A backslash names one character, a class of characters or a place. -/
inductive Escape where
  | one (letter : Char)
  | set (set : Text.CharSet)
  | anchor (place : Anchor)

/-- A code point is one that a character has. -/
def character? (digits : List Char) : Option Char := do
  let values ← digits.mapM Text.hexValue?
  let code := values.foldl (fun code value => 16 * code + value) 0
  if digits.isEmpty then none
  else if code < 0xd800 ∨ (0xdfff < code ∧ code < 0x110000) then some (Char.ofNat code) else none

/-- A code has a fixed number of digits or stands in braces. The second result counts the characters
used. -/
def coded? (count : Nat) (rest : List Char) : Option (Escape × Nat) :=
  match rest with
  | '\x7b' :: inner =>
    let digits := inner.takeWhile (· != '\x7d')
    if digits.length < inner.length then
      (character? digits).map (.one ·, digits.length + 2)
    else none
  | _ =>
    let digits := rest.take count
    if digits.length = count then (character? digits).map (.one ·, count) else none

/-- Any ASCII character but letters, digits and angle brackets stands for itself after a backslash.
-/
def standsForItself (letter : Char) : Bool :=
  letter.toNat < 0x80 && !letter.isAlphanum && letter != '<' && letter != '>'

/-- The second result counts the characters used after the backslash. -/
def escape? : List Char → Option (Escape × Nat)
  | [] => none
  | 'd' :: _ => some (.set Text.digits, 1)
  | 'D' :: _ => some (.set Text.digits.complement, 1)
  | 's' :: _ => some (.set Text.blanks, 1)
  | 'S' :: _ => some (.set Text.blanks.complement, 1)
  | 'A' :: _ => some (.anchor .textStart, 1)
  | 'z' :: _ => some (.anchor .textEnd, 1)
  | 'a' :: _ => some (.one '\x07', 1)
  | 'f' :: _ => some (.one '\x0c', 1)
  | 't' :: _ => some (.one '\t', 1)
  | 'n' :: _ => some (.one '\n', 1)
  | 'r' :: _ => some (.one '\r', 1)
  | 'v' :: _ => some (.one '\x0b', 1)
  | 'x' :: rest => (coded? 2 rest).map fun (escape, used) => (escape, used + 1)
  | 'u' :: rest => (coded? 4 rest).map fun (escape, used) => (escape, used + 1)
  | 'U' :: rest => (coded? 8 rest).map fun (escape, used) => (escape, used + 1)
  | letter :: _ => if standsForItself letter then some (.one letter, 1) else none

/-- These letters may have a meaning of their own somewhere in a pattern. -/
def metas : List Char :=
  ['\\', '.', '+', '*', '?', '(', ')', '|', '[', ']', '\x7b', '\x7d', '^', '$', '#', '&', '-', '~']

/-- A backslash takes the meaning from such a letter. -/
def escapedLetter (letter : Char) : List Char :=
  if metas.contains letter then ['\\', letter] else [letter]

def escaped (text : String) : String := String.ofList (text.toList.flatMap escapedLetter)

end GasReport.Pattern
