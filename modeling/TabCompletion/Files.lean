import TabCompletion.Text.Utf8

/-!
# Files

A tree of directories and files. `Location` is a place in it, `Location.ofPath` the place that a
path names; `Files` says which places are directories and what the files hold. Reading and writing
fail with a `FileFault`.
-/
namespace TabCompletion

/-- A place in the file tree: the names on the way from the root. -/
abbrev Location := List String

namespace Location

def follow (start : Location) : List String → Location
  | [] => start
  | "" :: rest => follow start rest
  | "." :: rest => follow start rest
  | ".." :: rest => follow start.dropLast rest
  | name :: rest => follow (start ++ [name]) rest

def parts (path : String) : List String := (path.toList.splitOn '/').map String.ofList

/-- The place that a path names, seen from a working directory. -/
def ofPath (directory : Location) (path : String) : Location :=
  follow (if path.toList.head? = some '/' then [] else directory) (parts path)

def path (place : Location) : String :=
  if place.isEmpty then "/" else String.join (place.map ("/" ++ ·))

end Location

inductive FileFault where
  | missing
  | directory
  | notDirectory
  | present
  | notEmpty
  deriving DecidableEq, Repr, Inhabited

namespace FileFault

def reason : FileFault → String
  | missing => "No such file or directory"
  | directory => "Is a directory"
  | notDirectory => "Not a directory"
  | present => "File exists"
  | notEmpty => "Directory not empty"

def number : FileFault → Nat
  | missing => 2
  | directory => 21
  | notDirectory => 20
  | present => 17
  | notEmpty => 39

def message (f : FileFault) : String := f.reason ++ s!" (os error {f.number})"

end FileFault

abbrev FileContent := Except FileFault Bytes

structure Files where
  directories : List Location := [[]]
  contents : List (Location × Bytes) := []
  deriving DecidableEq, Repr, Inhabited

namespace Files

def isDirectory (f : Files) (place : Location) : Bool := f.directories.contains place

def find? (f : Files) (place : Location) : Option Bytes := f.contents.lookup place

def has (f : Files) (place : Location) : Bool := f.isDirectory place || (f.find? place).isSome

/-- Why nothing can be at a place: something on the way to it is not a directory. -/
def wayFault? (f : Files) (place : Location) : Option FileFault :=
  ((List.range place.length).map fun n => place.take n).findSome? fun part =>
    if f.isDirectory part then none
    else if (f.find? part).isSome then some .notDirectory else some .missing

def read (f : Files) (place : Location) : FileContent :=
  match f.wayFault? place with
  | some fault => .error fault
  | none =>
    if f.isDirectory place then .error .directory
    else
      match f.find? place with
      | some bytes => .ok bytes
      | none => .error .missing

/-- The tree with a file put at a place, whatever was there. -/
def put (f : Files) (place : Location) (bytes : Bytes) : Files :=
  { f with contents := f.contents.filter (·.1 != place) ++ [(place, bytes)] }

def drop (f : Files) (place : Location) : Files :=
  { f with contents := f.contents.filter (·.1 != place) }

def append (f : Files) (place : Location) (bytes : Bytes) : Files :=
  f.put place ((f.find? place).getD [] ++ bytes)

def writeFault? (f : Files) (place : Location) : Option FileFault :=
  f.wayFault? place <|> if f.isDirectory place then some .directory else none

def makeDirectory (f : Files) (place : Location) : Except FileFault Files :=
  match f.wayFault? place with
  | some fault => .error fault
  | none =>
    if f.has place then .error .present
    else .ok { f with directories := f.directories ++ [place] }

/-- The tree with a directory and all directories on the way to it. -/
def makeWay (f : Files) (place : Location) : Files :=
  let ways := (List.range (place.length + 1)).map fun n => place.take n
  { f with directories := f.directories ++ ways.filter (!f.directories.contains ·) }

/-- The names of what is in a directory, in ascending order. -/
def names (f : Files) (place : Location) : List String :=
  let places := f.directories ++ f.contents.map (·.1)
  let inside := places.filter fun p => p.length = place.length + 1 ∧ p.dropLast = place
  (inside.filterMap List.getLast?).mergeSort (· ≤ ·)

def removeDirectory (f : Files) (place : Location) : Except FileFault Files :=
  match f.wayFault? place with
  | some fault => .error fault
  | none =>
    if !f.isDirectory place then .error (if f.has place then .notDirectory else .missing)
    else if !(f.names place).isEmpty then .error .notEmpty
    else .ok { f with directories := f.directories.filter (· != place) }

def removeTree (f : Files) (place : Location) : Files :=
  ⟨f.directories.filter (!place.isPrefixOf ·),f.contents.filter (!place.isPrefixOf ·.1)⟩

/-- The tree of a system with nothing but the usual directories and a working directory, which holds
    the given files. -/
def ofWorkplace (workplace : Location) (files : List (String × Bytes)) : Files :=
  let system : List Location :=
    [["bin"],["dev"],["etc"],["home"],["proc"],["root"],["tmp"],["usr","bin"],["var","tmp"],
      workplace]
  let tree := system.foldl makeWay {}
  files.foldl (fun f (name, bytes) =>
    let place := Location.ofPath workplace name
    (f.makeWay place.dropLast).put place bytes) tree

end Files
end TabCompletion
