import GasReport.Files.NamePattern
import GasReport.Files.Tree

namespace GasReport.Files

/-- A part of a pattern is a plain name, a pattern of names, or any depth. -/
inductive SearchPart where
  | name (name : String)
  | names (tokens : List NameToken)
  | anyDepth
deriving DecidableEq

def SearchPart.ofTokens (tokens : List NameToken) : SearchPart :=
  if tokens.contains .deep then .anyDepth
  else
    match tokens.mapM (fun token => match token with | .one letter => some letter | _ => none) with
    | some letters => .name (String.ofList letters)
    | none => .names tokens

def SearchPart.matches (part : SearchPart) (name : String) : Bool :=
  match part with
  | .name expected => name == expected
  | .names tokens => matchesName tokens name.toList
  | .anyDepth => true

def extend (shown name : String) : String :=
  if endsInSlash shown then shown ++ name else shown ++ "/" ++ name

/-- Only dots lead from the directory at which a search starts to itself. -/
def isStart (shown : String) : Bool :=
  !isAbsolute shown && !(names shown).isEmpty && (names shown).all (· == ".")

/-- The directory at which a search starts is not shown. -/
def join (shown name : String) : String := if isStart shown then name else extend shown name

/-- These are the shown paths inside a directory in the order of their names, and the names. A path
that leads to no directory has none. -/
def Tree.children (tree : Tree) (shown : String) : List (String × String) :=
  match tree.directory? shown with
  | some place =>
    let names := (place.entries.map (·.1)).filter fun name => name != ".." && name != "/"
    (names.mergeSort fun first second => first ≤ second).map fun name => (join shown name, name)
  | none => []

/-- Every level of directories adds to the path, so there are fewer than a path has bytes. -/
def deepest : Nat := 4096

/-- A directory is chosen from before what it holds. -/
def Tree.descend (tree : Tree) (choose : String × String → List String) : Nat → String → List String
  | 0, _ => []
  | height + 1, shown =>
    (tree.children shown).flatMap fun child => choose child ++ tree.descend choose height child.1

/-- The directory itself and the one above it are found by a pattern that begins with a dot. -/
def special (tokens : List NameToken) : List String :=
  if tokens.head? == some (.one '.') then
    ["..", "."].filter fun name => matchesName tokens name.toList
  else []

/-- A path that is matched up to here goes on to the next part. -/
def Tree.search (tree : Tree) (shown : String) : List SearchPart → List String
  | [] => [shown]
  | .name name :: rest =>
    let next := join shown name
    let dots := name == "." || name == ".."
    if (if dots then tree.isDirectory shown else tree.holds next) then tree.search next rest else []
  | .names tokens :: rest =>
    if tree.isDirectory shown then
      ((special tokens).flatMap fun name => tree.search (extend shown name) rest) ++
        (tree.children shown).flatMap fun child =>
          if matchesName tokens child.2.toList then tree.search child.1 rest else []
    else []
  | .anyDepth :: .anyDepth :: rest => tree.search shown (.anyDepth :: rest)
  | .anyDepth :: part :: rest =>
    tree.descend (fun child => if part.matches child.2 then tree.search child.1 rest else [])
      deepest shown
  | [.anyDepth] =>
    tree.descend (fun child => if tree.isDirectory child.1 then [child.1] else []) deepest shown

/-- The whole pattern is checked before its parts are. An absolute one is searched from the root. -/
def Tree.findAll (tree : Tree) (pattern : String) : Except PatternError (List String) := do
  let _ ← readPattern pattern
  let tokens ← (pattern.splitOn "/").mapM readPattern
  let parts := tokens.map SearchPart.ofTokens
  .ok (if isAbsolute pattern then tree.search "/" (parts.drop 1) else tree.search "." parts)

end GasReport.Files
