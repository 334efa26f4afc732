import InputPanel.Failure
import InputPanel.Text.Blank
import InputPanel.Text.Case

/-!
# Files and directories

A file tree has one directory in which work is done; paths begin there, or at
the root if they are absolute. A path is a row of names; two dots lead up. A path
through something that is missing or is no directory leads nowhere. Text files
are UTF-8, and all their line ends are read as line feeds.
-/

namespace InputPanel

/-- A path as it is written, without empty names and single dots. -/
structure FilePath where
  absolute : Bool
  names : List String
deriving DecidableEq, Repr

namespace FilePath

def ofText (text : String) : FilePath :=
  let pieces := (Text.piecesBy (· == '/') text.toList).map String.ofList
  ⟨text.startsWith "/", pieces.filter fun name => name != "" && name != "."⟩

def text (path : FilePath) : String :=
  let row := "/".intercalate path.names
  if path.absolute then "/" ++ row else if row.isEmpty then "." else row

/-- The end of the last name from its last dot on, if the dot stands inside the name. -/
def suffix (path : FilePath) : String :=
  let name := (path.names.getLast?.getD "").toList
  match Text.cutAt '.' name.reverse with
  | some (after, before) =>
    if before.isEmpty || after.isEmpty then "" else String.ofList ('.' :: after.reverse)
  | none => ""

/-- Whether the suffix says that the file holds structured data. -/
def isStructured (path : FilePath) : Bool :=
  [".yaml", ".yml", ".json"].contains (Text.lower path.suffix)

def parent (path : FilePath) : FilePath := { path with names := path.names.dropLast }

end FilePath

/-- Where a path leads: the names from the root down. -/
abbrev Location := List String

namespace Location

def towards (place : Location) (name : String) : Location :=
  if name = ".." then place.dropLast else place ++ [name]

/-- The locations that names pass on the way from a location, with both ends. -/
def passed (place : Location) : List String → List Location
  | [] => [place]
  | name :: rest => place :: passed (towards place name) rest

end Location

inductive Entry where
  | directory
  | file (bytes : List UInt8)
deriving DecidableEq, Repr

/-- The entries below the root, each under its location, and the directory where work is done. -/
structure FileTree where
  entries : List (Location × Entry)
  working : Location

namespace FileTree

/-- A tree of one directory, where work is done, and those that lead to it. -/
def emptyAt (working : Location) : FileTree :=
  ⟨(List.range working.length).map fun n => (working.take (n + 1), .directory), working⟩

def entry? (tree : FileTree) (place : Location) : Option Entry :=
  if place.isEmpty then some .directory else tree.entries.lookup place

/-- Puts an entry at a location, in place of one that is there. -/
def put (tree : FileTree) (place : Location) (entry : Entry) : FileTree :=
  { tree with entries := tree.entries.filter (fun e => e.1 != place) ++ [(place, entry)] }

def remove (tree : FileTree) (place : Location) : FileTree :=
  { tree with entries := tree.entries.filter fun e => e.1 != place }

/-- Follows names from a location; all but the last must be directories. -/
def follow (tree : FileTree) : Location → List String → Except Failure Location
  | place, [] => .ok place
  | place, name :: rest =>
    match tree.entry? place with
    | some .directory => tree.follow (place.towards name) rest
    | some (.file _) => .error .notDirectory
    | none => .error .fileNotFound

/-- Where the names of a path are followed from. -/
def origin (tree : FileTree) (path : FilePath) : Location :=
  if path.absolute then [] else tree.working

def locate (tree : FileTree) (path : FilePath) : Except Failure Location :=
  tree.follow (tree.origin path) path.names

def find? (tree : FileTree) (path : FilePath) : Option Entry :=
  match tree.locate path with
  | .ok place => tree.entry? place
  | .error _ => none

def has (tree : FileTree) (path : FilePath) : Bool := (tree.find? path).isSome

def read (tree : FileTree) (path : FilePath) : Except Failure (List UInt8) := do
  match tree.entry? (← tree.locate path) with
  | some (.file bytes) => return bytes
  | some .directory => throw .isDirectory
  | none => throw .fileNotFound

def textOf (bytes : List UInt8) : Except Failure String :=
  match String.fromUTF8? ⟨bytes.toArray⟩ with
  | some text => .ok (String.ofList (Text.unifyLineEnds text.toList))
  | none => .error .undecodable

/-- The text of a file. -/
def readText (tree : FileTree) (path : FilePath) : Except Failure String := do
  textOf (← tree.read path)

/-- Makes the directories that lead to a location, as far as they are missing. -/
def makeDirectories (tree : FileTree) : Location → List String → Except Failure FileTree
  | _, [] => .ok tree
  | place, name :: rest =>
    let place := place.towards name
    match tree.entry? place with
    | some .directory => makeDirectories tree place rest
    | some (.file _) => .error (if rest.isEmpty then .fileExists else .notDirectory)
    | none => makeDirectories (tree.put place .directory) place rest

/-- Makes a directory and those above it; one that is there already is left as it is. -/
def makeDirectory (tree : FileTree) (path : FilePath) : Except Failure FileTree :=
  tree.makeDirectories (tree.origin path) path.names

/-- Writes a text as a file, over one that is there. -/
def write (tree : FileTree) (path : FilePath) (text : String) : Except Failure FileTree := do
  let place ← tree.locate path
  match tree.entry? place, tree.entry? place.dropLast with
  | some .directory, _ => throw .isDirectory
  | _, some .directory => return tree.put place (.file text.toUTF8.toList)
  | _, some (.file _) => throw .notDirectory
  | _, none => throw .fileNotFound

/-- Removes a file. -/
def unlink (tree : FileTree) (path : FilePath) : Except Failure FileTree := do
  let place ← tree.locate path
  match tree.entry? place with
  | some (.file _) => return tree.remove place
  | some .directory => throw .isDirectory
  | none => throw .fileNotFound

/-- The files in and below the directory where work is done, by their paths from there. -/
def files (tree : FileTree) : List (FilePath × List UInt8) :=
  tree.entries.filterMap fun (place, entry) =>
    match entry with
    | .file bytes =>
      if tree.working.isPrefixOf place then
        some (⟨false, place.drop tree.working.length⟩, bytes)
      else none
    | .directory => none

end FileTree

end InputPanel
