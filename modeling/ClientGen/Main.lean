import ClientGen.Command.Run
/-!
# The program

Reads the files below the working directory, runs the command line on them, and brings the changes
back to the disk. Everything else is decided by the library.
-/
namespace ClientGen.Main

/-- How deep directories are read. -/
def depthLimit : Nat := 64

def pathOf (location : Location) : String := "/" ++ String.intercalate "/" location

/-- Reads what is in a directory into a tree. What cannot be read as text is left out. -/
def readDirectory : (depth : Nat) → FileTree → Location → IO FileTree
  | 0, tree, _ => pure tree
  | depth + 1, tree, location => do
    let mut tree := tree
    for entry in ← (← IO.FS.realPath (pathOf location)).readDir do
      let inner := location ++ [entry.fileName]
      if ← entry.path.isDir then
        tree ← readDirectory depth (tree.insert inner .directory) inner
      else
        try
          tree := tree.insert inner (.file (← IO.FS.readFile (pathOf inner)))
        catch _ => pure ()
    return tree

/-- Brings the files of a tree to the disk, where another tree was. -/
def bringBack (old new : FileTree) : IO Unit := do
  for (location, entry) in old.entries.reverse do
    if (new.get? location).isNone then
      if entry == .directory then IO.FS.removeDir (pathOf location)
      else IO.FS.removeFile (pathOf location)
  for (location, entry) in new.entries do
    if old.get? location != some entry then
      match entry with
      | .directory => IO.FS.createDirAll (pathOf location)
      | .file content => IO.FS.writeFile (pathOf location) content

/-- A number that tells runs apart. -/
def freshId : IO String := do
  let digits ← (List.replicate 32 ()).mapM fun _ => return Text.hexDigit (← IO.rand 0 15)
  return String.ofList digits

def runHere (arguments : List String) : IO UInt32 := do
  let working := (Path.parts (← IO.currentDir).toString).filter (!·.isEmpty)
  let tree ← readDirectory depthLimit (.bare working) working
  let execution :=
    Command.run ⟨.standard, false, fun _ => none, ← freshId⟩ tree arguments
  IO.print execution.printed.out
  IO.eprint execution.printed.err
  bringBack tree execution.tree
  return execution.exitCode.toNat.toUInt32

end ClientGen.Main

/-- Runs the program. -/
def main (arguments : List String) : IO UInt32 := ClientGen.Main.runHere arguments
