/-!
# Files

The files that the program may read, as a value: each path with its bytes, or as a directory. The
parts of paths are separated by slashes; a path that begins with one starts at the root of all files,
any other at the working directory.
-/

namespace Scopelight

/-- Why a file or directory could not be read. -/
inductive IoError where
  | notFound
  | notDirectory
  | isDirectory
  | notText
deriving DecidableEq, Repr

def IoError.message : IoError → String
  | notFound => "No such file or directory (os error 2)"
  | notDirectory => "Not a directory (os error 20)"
  | isDirectory => "Is a directory (os error 21)"
  | notText => "stream did not contain valid UTF-8"

namespace Path

/-- The parts between slashes. -/
def parts (path : List Char) : List (List Char) :=
  match path with
  | [] => [[]]
  | c :: cs =>
    if c = '/' then [] :: parts cs
    else match parts cs with
      | [] => [[c]]
      | p :: ps => (c :: p) :: ps

/-- Whether a path names a place from the root of all files. -/
def isAbsolute (path : String) : Bool := path.toList.head? == some '/'

/-- The parts that name something: empty ones and single dots are skipped. -/
def components (path : String) : List String :=
  ((parts path.toList).filter fun p => p != [] && p != ['.']).map String.ofList

/-- The way to a place, with the root of all files as its first stop if the path is absolute. -/
def stops (path : String) : List String :=
  if isAbsolute path then "/" :: components path else components path

/-- The directory above one: that of a step up is a further step up. -/
def above (here : List String) : List String :=
  match here.getLast? with
  | none | some ".." => here ++ [".."]
  | some "/" => here
  | some _ => here.dropLast

/-- The place after one stop more. -/
def step (here : List String) (stop : String) : List String :=
  if stop = ".." then above here else here ++ [stop]

/-- The last component, unless it leads upwards. -/
def fileName? (path : String) : Option String :=
  match (components path).getLast? with
  | some ".." => none
  | name => name

/-- What follows the last dot of a name that has something before it. -/
def extension? (name : String) : Option String :=
  let cs := name.toList.reverse
  let ext := cs.takeWhile (· != '.')
  match cs.drop ext.length with
  | '.' :: _ :: _ => if name = ".." then none else some (String.ofList ext.reverse)
  | _ => none

end Path

/-- A file with its bytes, or a directory. -/
inductive Entry where
  | file (bytes : List UInt8)
  | directory
deriving DecidableEq, Repr

/-- Entries by the way to each. -/
structure Disk where
  entries : List (List String × Entry)
deriving Repr

namespace Disk

/-- A working directory with nothing in it. -/
def empty : Disk := ⟨[]⟩

/-- Add an entry at the end of a way, and the directories on the way. -/
def insertFrom (d : Disk) (e : Entry) : List String → List String → Disk
  | here, [] => ⟨(here, e) :: d.entries⟩
  | here, stop :: stops =>
    insertFrom ⟨(here, .directory) :: d.entries⟩ e (Path.step here stop) stops

/-- Add an entry and the directories on its way. -/
def insert (d : Disk) (path : String) (e : Entry) : Disk := d.insertFrom e [] (Path.stops path)

/-- The entry at a place, the working directory itself included. -/
def at? (d : Disk) (place : List String) : Option Entry :=
  if place.isEmpty then some .directory else d.entries.lookup place

/-- Walk from a place along stops. -/
def walk (d : Disk) : List String → List String → Except IoError (List String)
  | here, [] => .ok here
  | here, p :: ps =>
    match d.at? here with
    | none => .error .notFound
    | some (.file _) => .error .notDirectory
    | some .directory => walk d (Path.step here p) ps

/-- What a path leads to. A path that ends in a slash or a dot must lead to a directory. -/
def resolve (d : Disk) (path : String) : Except IoError (List String × Entry) := do
  if path.isEmpty then throw .notFound
  let here ← d.walk [] (Path.stops path)
  match d.at? here, (Path.parts path.toList).getLast? with
  | none, _ => throw .notFound
  | some (.file _), some [] | some (.file _), some ['.'] => throw .notDirectory
  | some e, _ => return (here, e)

/-- Read a file as text. -/
def readText (d : Disk) (path : String) : Except IoError String := do
  match ← d.resolve path with
  | (_, .directory) => throw .isDirectory
  | (_, .file bytes) =>
    match String.fromUTF8? ⟨bytes.toArray⟩ with
    | some s => return s
    | none => throw .notText

/-- The names in a directory with what they name. -/
def list (d : Disk) (path : String) : Except IoError (List (String × Entry)) := do
  match ← d.resolve path with
  | (_, .file _) => throw .notDirectory
  | (here, .directory) =>
    return (d.entries.filterMap fun (place, _) =>
      match place.getLast? with
      | some name => if place.dropLast = here && name != "/" && name != ".." then some name else none
      | none => none).eraseDups.filterMap fun name =>
        (d.at? (here ++ [name])).map (name, ·)

end Disk

end Scopelight
