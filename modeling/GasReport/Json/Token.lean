import GasReport.Decimal.Numeral
import GasReport.Text.Hex

/-!
A text is scanned one character at a time. No token is interpreted beyond its form, so a text keeps
the UTF-16 units that it writes by number. The scan stops at the first character that belongs to no
token.
-/

namespace GasReport.Json

/-- This is a character of a text, or one UTF-16 unit written by its number. -/
inductive Glyph where
  | plain (letter : Char)
  | unit (value : Nat)
deriving DecidableEq

inductive Token where
  | openArray
  | closeArray
  | openObject
  | closeObject
  | comma
  | colon
  | text (glyphs : List Glyph)
  | number (numeral : Decimal.Numeral)
  | null
  | truth (value : Bool)
deriving DecidableEq

/-- Only these four characters may stand between tokens. -/
def isBlank (letter : Char) : Bool :=
  letter == ' ' || letter == '\t' || letter == '\n' || letter == '\r'

def Token.ofMark? : Char → Option Token
  | '[' => some .openArray
  | ']' => some .closeArray
  | '{' => some .openObject
  | '}' => some .closeObject
  | ',' => some .comma
  | ':' => some .colon
  | _ => none

def Token.ofWord? : List Char → Option Token
  | ['n', 'u', 'l', 'l'] => some .null
  | ['t', 'r', 'u', 'e'] => some (.truth true)
  | ['f', 'a', 'l', 's', 'e'] => some (.truth false)
  | _ => none

def Glyph.ofEscape? : Char → Option Glyph
  | '\x22' => some (.plain '\x22')
  | '\\' => some (.plain '\\')
  | '/' => some (.plain '/')
  | 'b' => some (.plain '\x08')
  | 'f' => some (.plain '\x0c')
  | 'n' => some (.plain '\n')
  | 'r' => some (.plain '\r')
  | 't' => some (.plain '\t')
  | _ => none

/-- This says what the scanner is inside of. Everything read so far is kept in reverse. A scanner
that is stuck reads no further. -/
inductive Scanner.Mode where
  | between
  | numeral (letters : List Char)
  | word (letters : List Char)
  | text (glyphs : List Glyph)
  | escape (glyphs : List Glyph)
  | code (glyphs : List Glyph) (digits value : Nat)
  | stuck

structure Scanner where
  tokens : List Token
  mode : Scanner.Mode

namespace Scanner

def start : Scanner := ⟨[], .between⟩

def enter (scanner : Scanner) (mode : Mode) : Scanner := ⟨scanner.tokens, mode⟩

def give (scanner : Scanner) (token : Token) : Scanner := ⟨token :: scanner.tokens, .between⟩

def giveOrStick (scanner : Scanner) : Option Token → Scanner
  | some token => scanner.give token
  | none => scanner.enter .stuck

/-- This ends what the scanner is inside of. Only numerals and words end without a mark of their
own. -/
def finish (scanner : Scanner) : Scanner :=
  match scanner.mode with
  | .between => scanner
  | .numeral letters =>
    scanner.giveOrStick ((Decimal.Numeral.ofText? letters.reverse).map .number)
  | .word letters => scanner.giveOrStick (Token.ofWord? letters.reverse)
  | _ => scanner.enter .stuck

def startsNumeral (letter : Char) : Bool := letter == '-' || letter.isDigit

def isExponentMark (letter : Char) : Bool := letter == 'e' || letter == 'E'

/-- A numeral goes on with digits, with one point before its exponent, with one exponent mark, and
with a sign after that mark. -/
def numeralGoesOn (letters : List Char) (letter : Char) : Bool :=
  letter.isDigit ||
    (letter == '.' && !letters.any fun earlier => earlier == '.' || isExponentMark earlier) ||
    (isExponentMark letter && !letters.any isExponentMark) ||
    ((letter == '+' || letter == '-') && letters.head?.any isExponentMark)

/-- A word goes on with lower case letters, and not beyond one of the three words. -/
def wordGoesOn (letters : List Char) (letter : Char) : Bool :=
  letter.isLower && (Token.ofWord? letters.reverse).isNone

/-- This begins the next token after the end of another. -/
def begin (scanner : Scanner) (letter : Char) : Scanner :=
  match scanner.mode with
  | .between =>
    if isBlank letter then scanner
    else if letter == '\x22' then scanner.enter (.text [])
    else match Token.ofMark? letter with
      | some mark => scanner.give mark
      | none =>
        scanner.enter (if startsNumeral letter then .numeral [letter] else .word [letter])
  | _ => scanner

/-- A control character may not stand inside a text. -/
def step (scanner : Scanner) (letter : Char) : Scanner :=
  match scanner.mode with
  | .between | .stuck => scanner.begin letter
  | .numeral letters =>
    if numeralGoesOn letters letter then scanner.enter (.numeral (letter :: letters))
    else scanner.finish.begin letter
  | .word letters =>
    if wordGoesOn letters letter then scanner.enter (.word (letter :: letters))
    else scanner.finish.begin letter
  | .text glyphs =>
    if letter == '\x22' then scanner.give (.text glyphs.reverse)
    else if letter == '\\' then scanner.enter (.escape glyphs)
    else if letter.toNat < 0x20 then scanner.enter .stuck
    else scanner.enter (.text (.plain letter :: glyphs))
  | .escape glyphs =>
    if letter == 'u' then scanner.enter (.code glyphs 0 0)
    else match Glyph.ofEscape? letter with
      | some glyph => scanner.enter (.text (glyph :: glyphs))
      | none => scanner.enter .stuck
  | .code glyphs digits value =>
    match Text.hexValue? letter with
    | some digit =>
      let value := 16 * value + digit
      scanner.enter
        (if digits = 3 then .text (.unit value :: glyphs) else .code glyphs (digits + 1) value)
    | none => scanner.enter .stuck

def isStuck (scanner : Scanner) : Bool :=
  match scanner.mode with
  | .stuck => true
  | _ => false

end Scanner

/-- These are the tokens of a text. They are complete if the text consists of nothing else but
blanks. -/
structure Scanned where
  tokens : List Token
  complete : Bool

def Token.scan (document : String) : Scanned :=
  let scanner := (document.toList.foldl Scanner.step Scanner.start).finish
  ⟨scanner.tokens.reverse, !scanner.isStuck⟩

end GasReport.Json
