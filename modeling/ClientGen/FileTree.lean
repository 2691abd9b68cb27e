import ClientGen.Path
/-!
# File trees

Files and directories as a value: entries at locations, in the order of the locations, and the
location at which relative paths start. Operations follow a path part by part, so every part but
the last has to be a directory.
-/
namespace ClientGen

/-- The names on the way from the root of the file system to an entry. -/
abbrev Location := List String

/-- What is at a location. -/
inductive Entry where
  | file (content : String)
  | directory
deriving DecidableEq, Repr

inductive FileReason where
  | missing
  | notDirectory
  | isDirectory
  | notEmpty
deriving DecidableEq, Repr

def FileReason.text : FileReason → String
  | .missing => "no such file or directory"
  | .notDirectory => "not a directory"
  | .isDirectory => "is a directory"
  | .notEmpty => "directory not empty"

/-- An operation on a path that failed. -/
structure FileFault where
  operation : String
  path : String
  reason : FileReason
deriving DecidableEq, Repr

def FileFault.message (fault : FileFault) : String :=
  fault.operation ++ " " ++ fault.path ++ ": " ++ fault.reason.text

/-- Files and directories. -/
structure FileTree where
  /-- What is below the root, in increasing order of the locations. -/
  entries : List (Location × Entry)
  /-- The location at which relative paths start. -/
  working : Location
deriving DecidableEq, Repr

namespace FileTree

/-- The entry at a location; the root is a directory. -/
def get? (tree : FileTree) (location : Location) : Option Entry :=
  if location.isEmpty then some .directory else tree.entries.lookup location

/-- Puts an entry among others in order; an entry at the same location is replaced. -/
def insertEntry (location : Location) (entry : Entry) :
    List (Location × Entry) → List (Location × Entry)
  | [] => [(location, entry)]
  | other :: rest =>
    if location == other.1 then (location, entry) :: rest
    else if location < other.1 then (location, entry) :: other :: rest
    else other :: insertEntry location entry rest

def insert (tree : FileTree) (location : Location) (entry : Entry) : FileTree :=
  { tree with entries := insertEntry location entry tree.entries }

/-- Removes a location and everything below it. -/
def erase (tree : FileTree) (location : Location) : FileTree :=
  { tree with entries := tree.entries.filter fun e => !location.isPrefixOf e.1 }

/-- Removes everything below a location. -/
def clear (tree : FileTree) (location : Location) : FileTree :=
  { tree with
    entries := tree.entries.filter fun e => !(location.isPrefixOf e.1 && location != e.1) }

/-- Follows parts of a path from a location. -/
def follow (tree : FileTree) (location : Location) : List String → Except FileReason Location
  | [] => .ok location
  | part :: rest =>
    match tree.get? location with
    | none => .error .missing
    | some (.file _) => .error .notDirectory
    | some .directory =>
      if part == "" || part == "." then follow tree location rest
      else if part == ".." then follow tree location.dropLast rest
      else follow tree (location ++ [part]) rest

/-- The location that a path leads to; there need not be an entry. -/
def locate (tree : FileTree) (path : String) : Except FileReason Location :=
  if path.isEmpty then .error .missing
  else tree.follow (if Path.isAbsolute path then [] else tree.working) (Path.parts path)

/-- The location and the entry that a path leads to. -/
def find (tree : FileTree) (path : String) : Except FileReason (Location × Entry) := do
  let location ← tree.locate path
  match tree.get? location with
  | none => throw .missing
  | some entry => return (location, entry)

def isDirectory (tree : FileTree) (path : String) : Bool :=
  match tree.find path with
  | .ok (_, .directory) => true
  | _ => false

def contains (tree : FileTree) (path : String) : Bool := (tree.find path).toBool

def read (tree : FileTree) (path : String) : Except FileFault String :=
  match tree.find path with
  | .error reason => .error ⟨"open", path, reason⟩
  | .ok (_, .directory) => .error ⟨"read", path, .isDirectory⟩
  | .ok (_, .file content) => .ok content

/-- Puts a file at a path, the directory of which has to be there. -/
def write (tree : FileTree) (path content : String) : Except FileFault FileTree :=
  match tree.locate path with
  | .error reason => .error ⟨"open", path, reason⟩
  | .ok location =>
    if tree.get? location = some .directory then .error ⟨"open", path, .isDirectory⟩
    else .ok (tree.insert location (.file content))

/-- A cleaned path and the paths to the directories on its way, the shortest first. -/
def ancestry (path : String) : List String :=
  let start := if Path.isAbsolute path then "/" else ""
  let parts := Path.cleanParts path
  (List.range parts.length).map fun n => start ++ String.intercalate "/" (parts.take (n + 1))

/-- Makes sure that there is a directory at a path whose own directory is there. -/
def makeDirectory (tree : FileTree) (path : String) : Except FileFault FileTree :=
  match tree.locate path with
  | .error reason => .error ⟨"mkdir", path, reason⟩
  | .ok location =>
    match tree.get? location with
    | some .directory => .ok tree
    | some (.file _) => .error ⟨"mkdir", path, .notDirectory⟩
    | none => .ok (tree.insert location .directory)

/-- Makes sure that there is a directory at a path, with all directories on the way. -/
def makeDirectories (tree : FileTree) (path : String) : Except FileFault FileTree :=
  (ancestry path).foldlM makeDirectory tree

/-- Removes what is at a path and below it, if anything is. The directory of the path is opened
first. A path that ends in `..` leads to a directory that is emptied, but stays. Gives what is left,
and why not everything could be removed. -/
def removeAll (tree : FileTree) (path : String) : FileTree × Option FileFault :=
  let parent := Path.directory path
  match tree.locate path with
  | .ok location =>
    if Path.base path == ".." then
      (tree.clear location, some ⟨"unlinkat", parent ++ "/..", .notEmpty⟩)
    else (tree.erase location, none)
  | .error .missing => (tree, none)
  | .error reason =>
    (tree, some (if tree.contains parent then ⟨"unlinkat", path, reason⟩
      else ⟨"open", parent, reason⟩))

/-- What is below a location, with the way to it from there, in order. -/
def below (tree : FileTree) (location : Location) : List (Location × Entry) :=
  tree.entries.filterMap fun (place, entry) =>
    if location.isPrefixOf place && location.length < place.length then
      some (place.drop location.length, entry)
    else none

/-- The files below the place where relative paths start, with their paths. -/
def files (tree : FileTree) : List (String × String) :=
  (tree.below tree.working).filterMap fun (way, entry) =>
    match entry with
    | .file content => some (String.intercalate "/" way, content)
    | .directory => none

/-- Directories from the root to a location. -/
def bare (working : Location) : FileTree :=
  ⟨(List.range working.length).map fun n => (working.take (n + 1), .directory), working⟩

/-- Puts a file at a path with all directories on the way; a path with a slash at its end is a
directory. What cannot be put is left out. -/
def place (tree : FileTree) (path content : String) : FileTree :=
  let made : Except FileFault FileTree :=
    if path.endsWith "/" then tree.makeDirectories path
    else do (← tree.makeDirectories (Path.directory path)).write path content
  match made with
  | .ok tree => tree
  | .error _ => tree

def ofFiles (working : Location) (files : List (String × String)) : FileTree :=
  files.foldl (fun tree file => tree.place file.1 file.2) (bare working)

end FileTree

end ClientGen
