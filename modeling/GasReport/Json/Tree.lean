import GasReport.Json.Token

namespace GasReport.Json

/-- This is a document as written: members stay in order, also repeated ones, and numbers and texts
are not yet interpreted. -/
inductive Tree where
  | null
  | truth (value : Bool)
  | number (numeral : Decimal.Numeral)
  | text (glyphs : List Glyph)
  | array (items : List Tree)
  | object (members : List (List Glyph × Tree))

/-- This is an array or object whose end has not been read. Its contents are kept in reverse. -/
inductive Frame where
  | array (items : List Tree)
  | object (members : List (List Glyph × Tree)) (key : List Glyph)

/-- This says which tokens may come next. -/
inductive Reader.Phase where
  | value
  | valueOrEnd
  | keyOrEnd
  | key
  | colon
  | next
  | done (tree : Tree)

structure Reader where
  frames : List Frame
  phase : Reader.Phase

def Reader.start : Reader := ⟨[], .value⟩

/-- A finished value belongs to the innermost open array or object. -/
def Reader.give (frames : List Frame) (tree : Tree) : Reader :=
  match frames with
  | [] => ⟨[], .done tree⟩
  | .array items :: rest => ⟨.array (tree :: items) :: rest, .next⟩
  | .object members key :: rest => ⟨.object ((key, tree) :: members) [] :: rest, .next⟩

def Reader.value? (frames : List Frame) : Token → Option Reader
  | .null => some (give frames .null)
  | .truth value => some (give frames (.truth value))
  | .number numeral => some (give frames (.number numeral))
  | .text glyphs => some (give frames (.text glyphs))
  | .openArray => some ⟨.array [] :: frames, .valueOrEnd⟩
  | .openObject => some ⟨.object [] [] :: frames, .keyOrEnd⟩
  | _ => none

def Reader.key? (frames : List Frame) (token : Token) : Option Reader :=
  match frames, token with
  | .object members _ :: rest, .text glyphs => some ⟨.object members glyphs :: rest, .colon⟩
  | _, _ => none

def Reader.close? (frames : List Frame) (token : Token) : Option Reader :=
  match frames, token with
  | .array items :: rest, .closeArray => some (give rest (.array items.reverse))
  | .object members _ :: rest, .closeObject => some (give rest (.object members.reverse))
  | _, _ => none

def Reader.step? (reader : Reader) (token : Token) : Option Reader :=
  match reader.phase, token with
  | .value, _ => value? reader.frames token
  | .valueOrEnd, .closeArray => close? reader.frames token
  | .valueOrEnd, _ => value? reader.frames token
  | .keyOrEnd, .closeObject => close? reader.frames token
  | .keyOrEnd, _ => key? reader.frames token
  | .key, _ => key? reader.frames token
  | .colon, .colon => some ⟨reader.frames, .value⟩
  | .colon, _ => none
  | .next, .comma =>
    match reader.frames with
    | .object _ _ :: _ => some ⟨reader.frames, .key⟩
    | _ => some ⟨reader.frames, .value⟩
  | .next, _ => close? reader.frames token
  | .done _, _ => none

/-- This reads up to the end of the first value and leaves the tokens that follow it. -/
def Reader.leading? (reader : Reader) (tokens : List Token) : Option (Tree × List Token) :=
  match reader.phase, tokens with
  | .done tree, rest => some (tree, rest)
  | _, [] => none
  | _, token :: rest =>
    match reader.step? token with
    | some reader => reader.leading? rest
    | none => none

/-- This is the value at the start of a text, and whether nothing but blanks follows it. -/
def Tree.leading? (document : String) : Option (Tree × Bool) :=
  let scanned := Token.scan document
  (Reader.start.leading? scanned.tokens).map fun (tree, rest) =>
    (tree, rest.isEmpty && scanned.complete)

/-- A document is one value with nothing but blanks around it. -/
def Tree.ofText? (document : String) : Option Tree :=
  match Tree.leading? document with
  | some (tree, true) => some tree
  | _ => none

end GasReport.Json
