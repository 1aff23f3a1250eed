import Stencil.Text.Split

/-! Files and the places where they are.

A location is a row of names from the root of the file system. A path is followed name by name, so
that a step back out of a directory that is not there leads nowhere, and neither does a name that no
file can have.
-/

set_option autoImplicit false

namespace Stencil.Settings

abbrev Location := List String

def slashParts : List Char → List (List Char)
  | [] => [[]]
  | c :: rest => if c = '/' then [] :: slashParts rest else Text.extendFirst c (slashParts rest)

/-- The names of a path; empty names and names for the place itself are left out. -/
def pathNames (path : String) : List String :=
  ((slashParts path.toList).map String.ofList).filter fun name => !name.isEmpty && name != "."

def isAbsolute (path : String) : Bool :=
  path.toList.head? == some '/'

-- A path as seen from a location; steps back stay in it.
def Location.join (base : Location) (path : String) : Location :=
  if isAbsolute path then pathNames path else base ++ pathNames path

def Location.normal (location : Location) : Location :=
  location.foldl (fun found name => if name = ".." then found.dropLast else found ++ [name]) []

def Location.path (location : Location) : String :=
  "/" ++ "/".intercalate location

structure FileTree where
  files : List (Location × List Char)
  directories : List Location

def FileTree.isDirectory (tree : FileTree) (location : Location) : Bool :=
  tree.directories.any (fun directory => location.isPrefixOf directory) ||
    tree.files.any fun file => location.isPrefixOf file.1 && location != file.1

def spelling (path : String) : String :=
  let names := "/".intercalate (pathNames path)
  if isAbsolute path then "/" ++ names else if names.isEmpty then "." else names

inductive Found where
  | nothing
  | directory
  | tooLong
  | file (text : List Char)

def nameLimit : Nat := 255

def pathLimit : Nat := 4095

def FileTree.walk (tree : FileTree) (place : Location) : List String → Found
  | [] =>
    if tree.isDirectory place then .directory
    else match tree.files.find? (·.1 == place) with
      | some file => .file file.2
      | none => .nothing
  | name :: rest =>
    if !tree.isDirectory place then .nothing
    else if name = ".." then tree.walk place.dropLast rest
    else if nameLimit < name.utf8ByteSize then .tooLong
    else tree.walk (place ++ [name]) rest

/-- What is at a location, which may hold steps back; `spelled` is the path that led to it. -/
def FileTree.find (tree : FileTree) (spelled : String) (location : Location) : Found :=
  if spelled.toList.contains '\x00' then .nothing
  else if pathLimit < spelled.utf8ByteSize then .tooLong
  else tree.walk [] location

def homes : List (String × Location) :=
  [("~", ["root"]), ("~root", ["root"])]

end Stencil.Settings
