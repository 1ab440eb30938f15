namespace GasReport

variable {Key A : Type} [DecidableEq Key]

/-- An entry joins the part of its key, and a new key starts a part at the end. -/
def gatherInto (parts : List (Key × List A)) (entry : Key × A) : List (Key × List A) :=
  match parts with
  | [] => [(entry.1, [entry.2])]
  | part :: rest =>
    if part.1 = entry.1 then (part.1, part.2 ++ [entry.2]) :: rest
    else part :: gatherInto rest entry

def gather (entries : List (Key × A)) : List (Key × List A) :=
  entries.foldl gatherInto []

/-- Of the entries with one key, only the first is kept. -/
def firsts (key : A → Key) (entries : List A) : List A :=
  entries.foldl
    (fun kept entry => if kept.any (key · = key entry) then kept else kept ++ [entry]) []

end GasReport
