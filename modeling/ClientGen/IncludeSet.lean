/-!
# Include sets

The headers that a generated file depends on, in the order in which they were first asked for.
Asking for a header again keeps its place and takes the newer spelling.
-/
namespace ClientGen

/-- A header: a local one is written between quotation marks, any other between angle brackets. -/
structure Include where
  path : String
  isLocal : Bool
deriving DecidableEq, Repr

/-- Whether a path names a local header. A directory or an extension makes it one; a bare name
such as `vector` is a header of the system. -/
def isLocalPath (path : String) : Bool := path.toList.any fun c => c == '/' || c == '.'

/-- Headers in the order of their first mention, each path once. -/
structure IncludeSet where
  entries : List Include
deriving DecidableEq, Repr

namespace IncludeSet

def empty : IncludeSet := ⟨[]⟩

instance : Inhabited IncludeSet := ⟨empty⟩

def contains (set : IncludeSet) (path : String) : Bool := set.entries.any (·.path == path)

def size (set : IncludeSet) : Nat := set.entries.length

def isEmpty (set : IncludeSet) : Bool := set.entries.isEmpty

/-- Adds a header behind the others, or changes the spelling of the one of the same path. -/
def insert (set : IncludeSet) (header : Include) : IncludeSet :=
  if set.contains header.path then
    ⟨set.entries.map fun e => if e.path == header.path then header else e⟩
  else ⟨set.entries ++ [header]⟩

/-- Adds headers one after another. -/
def insertAll (set : IncludeSet) (headers : List Include) : IncludeSet :=
  headers.foldl insert set

/-- Adds a bare path, which is local if it looks so. -/
def add (set : IncludeSet) (path : String) : IncludeSet := set.insert ⟨path, isLocalPath path⟩

def addAll (set : IncludeSet) (paths : List String) : IncludeSet := paths.foldl add set

def ofPaths (paths : List String) : IncludeSet := empty.addAll paths

def erase (set : IncludeSet) (path : String) : IncludeSet :=
  ⟨set.entries.filter fun e => e.path != path⟩

def eraseAll (set : IncludeSet) (paths : List String) : IncludeSet := paths.foldl erase set

def merge (set other : IncludeSet) : IncludeSet := set.insertAll other.entries

def mergeAll (set : IncludeSet) (others : List IncludeSet) : IncludeSet := others.foldl merge set

/-- The line that includes a header, after its path has been replaced. -/
def line (remap : List (String × String)) (header : Include) : String :=
  let path := (remap.lookup header.path).getD header.path
  if header.isLocal then "#include \"" ++ path ++ "\"" else "#include <" ++ path ++ ">"

/-- One line for every header. Paths that `remap` knows are replaced; the spelling stays. -/
def render (set : IncludeSet) (remap : List (String × String)) : String :=
  String.intercalate "\n" (set.entries.map (line remap))

end IncludeSet

end ClientGen
