import GasReport.Text.Quoted

namespace GasReport.Files

/-- A directory holds each name once. -/
inductive Entry where
  | file (content : ByteArray)
  | directory (entries : List (String × Entry))

abbrev Entries := List (String × Entry)

inductive Fault where
  | missing
  | notDirectory
  | isDirectory
  | nameTooLong
  | nullInName
  | notText
  | other (details : String)
deriving DecidableEq

def Fault.message : Fault → String
  | .missing => "No such file or directory (os error 2)"
  | .notDirectory => "Not a directory (os error 20)"
  | .isDirectory => "Is a directory (os error 21)"
  | .nameTooLong => "File name too long (os error 36)"
  | .nullInName => "file name contained an unexpected NUL byte"
  | .notText => "stream did not contain valid UTF-8"
  | .other details => details

def isAbsolute (text : String) : Bool := text.toList.head? == some '/'

def endsInSlash (text : String) : Bool := text.toList.getLast? == some '/'

/-- An absolute path starts at a name of its own. -/
def names (text : String) : List String :=
  let parts := (text.splitOn "/").filter (· != "")
  if isAbsolute text then "/" :: parts else parts

namespace Entries

def find? (entries : Entries) (name : String) : Option Entry :=
  (List.find? (·.1 == name) entries).map (·.2)

/-- A new entry takes the place of an old one of its name. -/
def put (entries : Entries) (name : String) (entry : Entry) : Entries :=
  if (entries.find? name).isSome then
    entries.map fun other => if other.1 == name then (name, entry) else other
  else entries ++ [(name, entry)]

def directory (entries : Entries) (name : String) : Entries :=
  match entries.find? name with
  | some (.directory inside) => inside
  | _ => []

end Entries

/-- This is an open directory. The trail leads back to where the path began: it holds the names that
were entered, each with the entries around it, the last one first. -/
structure Place where
  entries : Entries
  trail : List (String × Entries)

namespace Place

def enter (place : Place) (name : String) : Place :=
  ⟨place.entries.directory name, (name, place.entries) :: place.trail⟩

/-- The directories above the one where relative paths begin are entered by the name of two dots.
The directory above the root is the root. -/
def leave (place : Place) : Place :=
  match place.trail with
  | [] => place.enter ".."
  | (name, around) :: rest =>
    if name = "/" then place
    else if name = ".." then place.enter ".."
    else ⟨around, rest⟩

/-- A dot stays in its directory, and two dots leave it. -/
def move (place : Place) (name : String) : Place :=
  if name = "." then place else if name = ".." then place.leave else place.enter name

/-- These are the entries of the directory where the path began, with all changes on the way. -/
def close (entries : Entries) : List (String × Entries) → Entries
  | [] => entries
  | (name, around) :: rest => close (around.put name (.directory entries)) rest

end Place

/-- These are the entries of the directory where relative paths begin. -/
structure Tree where
  entries : Entries

/-- This is what a path leads to. -/
inductive Found where
  | directory (place : Place)
  | file (content : ByteArray)
  | nothing

namespace Tree

def empty : Tree := ⟨[]⟩

def start (tree : Tree) : Place := ⟨tree.entries, []⟩

def addFile (tree : Tree) (text : String) (content : ByteArray) : Tree :=
  let place := (names text).dropLast.foldl Place.move tree.start
  ⟨Place.close (place.entries.put ((names text).getLastD "") (.file content)) place.trail⟩

def addDirectory (tree : Tree) (text : String) : Tree :=
  let place := (names text).foldl Place.move tree.start
  ⟨Place.close place.entries place.trail⟩

end Tree

/-- The root and the directories above the first one are always there. A name has at most 255 bytes.
-/
def Place.find (place : Place) (name : String) : Except Fault Found :=
  if 255 < name.utf8ByteSize then .error .nameTooLong
  else if name = "." ∨ name = ".." ∨ name = "/" then .ok (.directory (place.move name))
  else
    match place.entries.find? name with
    | none => .ok .nothing
    | some (.file content) => .ok (.file content)
    | some (.directory _) => .ok (.directory (place.enter name))

/-- Every name must be that of a directory. -/
def Place.walk (place : Place) : List String → Except Fault Place
  | [] => .ok place
  | name :: rest => do
    match ← place.find name with
    | .nothing => .error .missing
    | .file _ => .error .notDirectory
    | .directory next => next.walk rest

namespace Tree

/-- This leads to all names but the last. A path has fewer than 4096 bytes. -/
def parent (tree : Tree) (text : String) : Except Fault Place :=
  if text.toList.contains '\x00' then .error .nullInName
  else if text.isEmpty then .error .missing
  else if 4096 ≤ text.utf8ByteSize then .error .nameTooLong
  else tree.start.walk (names text).dropLast

def find (tree : Tree) (text : String) : Except Fault Found := do
  (← tree.parent text).find ((names text).getLastD "")

def directory? (tree : Tree) (text : String) : Option Place :=
  match tree.find text with
  | .ok (.directory place) => some place
  | _ => none

def isDirectory (tree : Tree) (text : String) : Bool := (tree.directory? text).isSome

def holds (tree : Tree) (text : String) : Bool :=
  match tree.find text with
  | .ok (.directory _) => true
  | .ok (.file _) => !endsInSlash text
  | _ => false

def read (tree : Tree) (text : String) : Except Fault ByteArray := do
  match ← tree.find text with
  | .nothing => .error .missing
  | .directory _ => .error .isDirectory
  | .file content => if endsInSlash text then .error .notDirectory else .ok content

/-- The bytes of a text file must be UTF-8. -/
def readText (tree : Tree) (text : String) : Except Fault String := do
  let content ← tree.read text
  match String.fromUTF8? content with
  | some text => .ok text
  | none => .error .notText

/-- A file is replaced, and a new one needs its directory. A slash after the last name asks for a
directory, which is refused before the name is looked at. -/
def write (tree : Tree) (text : String) (content : String) : Except Fault Tree := do
  let place ← tree.parent text
  if endsInSlash text then .error .isDirectory
  else
    match ← place.find ((names text).getLastD "") with
    | .directory _ => .error .isDirectory
    | _ => .ok (tree.addFile text content.toUTF8)

end Tree

end GasReport.Files
