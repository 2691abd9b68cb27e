import ClientGen.FileTree
import ClientGen.Render.FileMap
/-!
# Output directories

Generated files are written below a directory, which is cleared before unless what is there shall
stay. A directory that is the working directory or the root of the file system is refused, and so
is a path that leads out of the directory. What was written before a fault stays.
-/
namespace ClientGen.OutputDirectory

open ClientGen.Render

/-- Why writing stopped. -/
inductive Fault where
  /-- The directory would lose what does not belong to the output. -/
  | refused (directory : String)
  | uncleared (directory : String) (fault : FileFault)
  /-- The work was called off. -/
  | cancelled
  | escaping (path : String)
  | noDirectory (path : String) (fault : FileFault)
  | unwritten (path : String) (fault : FileFault)
deriving DecidableEq, Repr

def Fault.message : Fault → String
  | .refused directory => "refusing to write into " ++ Text.displayed directory
  | .uncleared directory fault => "clearing " ++ directory ++ ": " ++ fault.message
  | .cancelled => "context canceled"
  | .escaping path => "render path " ++ Text.displayed path ++ " escapes the output directory"
  | .noDirectory path fault => "creating directory for " ++ path ++ ": " ++ fault.message
  | .unwritten path fault => "writing " ++ path ++ ": " ++ fault.message

/-- What is proposed to mend a fault, if anything is. -/
def Fault.hint? : Fault → Option String
  | .refused _ => some "pass a dedicated output directory with --output"
  | _ => none

/-- How far writing came. -/
structure Progress where
  /-- The paths of the files that were written, in order. -/
  written : List String
  tree : FileTree
  /-- Why it stopped, if it did not reach the end. -/
  fault? : Option Fault

def isRefused (directory : String) : Bool :=
  directory.isEmpty || Path.clean directory == "." || Path.clean directory == "/"

def writeFile (tree : FileTree) (directory path content : String) : Except Fault FileTree :=
  if !Path.isLocal path then .error (.escaping path)
  else do
    let target := Path.join directory path
    let tree ← (tree.makeDirectories (Path.directory target)).mapError (.noDirectory path)
    (tree.write target content).mapError (.unwritten path)

/-- Writes files below a directory one after another, up to the first fault. -/
def writeFiles (cancelled : Bool) (directory : String) (tree : FileTree) :
    List (String × String) → Progress
  | [] => ⟨[], tree, none⟩
  | (path, content) :: rest =>
    if cancelled then ⟨[], tree, some .cancelled⟩
    else
      match writeFile tree directory path content with
      | .error fault => ⟨[], tree, some fault⟩
      | .ok tree =>
        let after := writeFiles cancelled directory tree rest
        { after with written := Path.join directory path :: after.written }

def write (tree : FileTree) (cancelled keep : Bool) (directory : String) (map : FileMap) :
    Progress :=
  if isRefused directory then ⟨[], tree, some (.refused directory)⟩
  else
    let target := Path.clean directory
    match if keep then (tree, none) else tree.removeAll target with
    | (tree, some fault) => ⟨[], tree, some (.uncleared target fault)⟩
    | (tree, none) => writeFiles cancelled target tree map.files

end ClientGen.OutputDirectory
