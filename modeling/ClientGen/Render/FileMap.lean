import ClientGen.Cpp.Error
import ClientGen.Encoding.Sha256
/-!
# File maps

The generated files: paths below the output directory and what stands in each file, in the order
of the paths. Files of two maps can be joined only if no path is claimed twice.

Where files are joined, no order of them is promised. `Joins` tells all that may come of it, whatever
the order is; `merge` is what comes of it in the order of the paths. They differ in the path that is
named where several are claimed twice.
-/
namespace ClientGen.Render

/-- Files in increasing order of their paths. -/
structure FileMap where
  files : List (String × String)
deriving DecidableEq, Repr

namespace FileMap

def empty : FileMap := ⟨[]⟩

/-- Puts a file among others in order; a file of the same path is replaced. -/
def insertFile (path content : String) : List (String × String) → List (String × String)
  | [] => [(path, content)]
  | file :: rest =>
    if path == file.1 then (path, content) :: rest
    else if path < file.1 then (path, content) :: file :: rest
    else file :: insertFile path content rest

/-- Puts a file at a path, in place of the one that was there. -/
def add (map : FileMap) (path content : String) : FileMap :=
  ⟨insertFile path content map.files⟩

/-- The map of some files, the last of which wins where two have one path. -/
def ofList (files : List (String × String)) : FileMap :=
  files.foldl (fun map file => map.add file.1 file.2) empty

def get? (map : FileMap) (path : String) : Option String := map.files.lookup path

def contains (map : FileMap) (path : String) : Bool := (map.get? path).isSome

def size (map : FileMap) : Nat := map.files.length

def paths (map : FileMap) : List String := map.files.map (·.1)

/-- Joins files that are not in a map yet to those on their way into it, in the order in which they
come. -/
def collect (map incoming : FileMap) : List (String × String) → Except String FileMap
  | [] => .ok incoming
  | (path, content) :: rest =>
    if map.contains path || incoming.contains path then .error path
    else collect map (incoming.add path content) rest

/-- Joins other maps to a map, in the order of their paths. Fails with the first path that is claimed
twice, and then the map is left as it is. -/
def mergeAll (map : FileMap) (others : List FileMap) : Except String FileMap := do
  let incoming ← collect map empty (others.flatMap (·.files))
  return incoming.files.foldl (fun map file => map.add file.1 file.2) map

/-- Joins another map to a map, in the order of its paths. -/
def merge (map other : FileMap) : Cpp.Generated FileMap :=
  (map.mergeAll [other]).mapError .duplicatePath

/-- What may come of joining a map to another: its files are walked through in one order, and those
that were collected are put in in another. -/
inductive Joins (map other : FileMap) : Cpp.Generated FileMap → Prop
  | clashed {files : List (String × String)} {path : String} (hwalk : files.Perm other.files)
    (h : collect map empty files = .error path) : Joins map other (.error (.duplicatePath path))
  | joined {files stored : List (String × String)} {incoming : FileMap}
    (hwalk : files.Perm other.files) (h : collect map empty files = .ok incoming)
    (hstore : stored.Perm incoming.files) :
    Joins map other (.ok (stored.foldl (fun map file => map.add file.1 file.2) map))

/-- Set apart from every other kind of digest. -/
def digestDomain : String := "idlcpp/rendermap/v1"

/-- The bytes that are hashed: the domain, then every path and its content, with a zero byte
behind each. -/
def digestBytes (map : FileMap) : List UInt8 :=
  let ended (s : String) : List UInt8 := s.toUTF8.toList ++ [0]
  ended digestDomain ++ map.files.flatMap fun file => ended file.1 ++ ended file.2

def digest (map : FileMap) : String := Encoding.Sha256.hexDigest map.digestBytes

/-- Ends a text that is not empty with a line end. -/
def endLine (s : String) : String :=
  if s.isEmpty || s.toList.getLast? == some '\n' then s else s ++ "\n"

/-- All files in one text, each under a line that names it. -/
def archive (map : FileMap) : String :=
  String.join (map.files.map fun file => "-- " ++ file.1 ++ " --\n" ++ endLine file.2)

end FileMap

end ClientGen.Render
