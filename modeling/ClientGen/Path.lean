import ClientGen.Text.CaseMapping
/-!
# Paths

Paths as texts with slashes between the parts. Cleaning a path takes out what does not change where
it leads: repeated slashes, the part `.`, and a part in front of `..`. Nothing here looks at files.
-/
namespace ClientGen.Path

/-- Whether a path starts at the root of the file system. -/
def isAbsolute (path : String) : Bool := path.toList.head? == some '/'

def parts (path : String) : List String := (path.toList.splitOn '/').map String.ofList

/-- Adds a part to cleaned ones, the last of which stands first. Above the root there is nothing. -/
def cleanStep (rooted : Bool) (done : List String) (part : String) : List String :=
  if part == "" || part == "." then done
  else if part == ".." then
    match done with
    | [] => if rooted then [] else [".."]
    | last :: before => if last == ".." then ".." :: done else before
  else part :: done

def cleanParts (path : String) : List String :=
  ((parts path).foldl (cleanStep (isAbsolute path)) []).reverse

/-- The shortest path that leads to the same place without looking at files. -/
def clean (path : String) : String :=
  let body := String.intercalate "/" (cleanParts path)
  if isAbsolute path then "/" ++ body else if body.isEmpty then "." else body

/-- A path below a directory, cleaned. Empty paths are left out. -/
def join (directory path : String) : String :=
  if directory.isEmpty && path.isEmpty then ""
  else if directory.isEmpty then clean path
  else if path.isEmpty then clean directory
  else clean (directory ++ "/" ++ path)

/-- The part of a path in front of its last part, with the slash. -/
def beforeLast (path : String) : String :=
  String.ofList (path.toList.reverse.dropWhile (· != '/')).reverse

def directory (path : String) : String := clean (beforeLast path)

/-- The last part of a path, slashes at the end left out. -/
def base (path : String) : String :=
  if path.isEmpty then "."
  else
    let trimmed := path.toList.reverse.dropWhile (· == '/')
    if trimmed.isEmpty then "/" else String.ofList (trimmed.takeWhile (· != '/')).reverse

/-- The end of the last part of a path from its last stop on, if it has one. -/
def extension (path : String) : String :=
  let last := path.toList.reverse.takeWhile (· != '/')
  if last.contains '.' then String.ofList ('.' :: (last.takeWhile (· != '.')).reverse) else ""

/-- The extension in lower case. -/
def lowerExtension (path : String) : String := Text.lower (extension path)

/-- The last part of a path without its extension. -/
def stem (path : String) : String :=
  let name := base path
  String.ofList (name.toList.take (name.length - (extension name).length))

/-- Whether a path leads to a place below the directory that it is resolved in, without looking at
files. -/
def isLocal (path : String) : Bool :=
  !path.isEmpty && !isAbsolute path && (cleanParts path).head? != some ".."

end ClientGen.Path
