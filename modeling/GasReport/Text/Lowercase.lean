import GasReport.Text.Lowercase.Table

namespace GasReport.Text.Lowercase

/-- The next letter that is not ignored is part of a word. -/
def meetsWord (letters : List Char) : Bool :=
  match letters.dropWhile ignored.contains with
  | [] => false
  | next :: _ => cased.contains next

/-- The letters before the place are given in reverse. A capital sigma that ends a word takes its
final form, and a dotted capital i becomes two characters. -/
def lower (before : List Char) : List Char → List Char
  | [] => []
  | capital :: after =>
    let rest := lower (capital :: before) after
    if capital = '\u0130' then 'i' :: '\u0307' :: rest
    else if capital = '\u03a3' then
      (if meetsWord before && !meetsWord after then '\u03c2' else '\u03c3') :: rest
    else letters.apply capital :: rest

end GasReport.Text.Lowercase

namespace GasReport.Text

def lowercase (text : String) : String :=
  String.ofList (Lowercase.lower [] text.toList)

end GasReport.Text
