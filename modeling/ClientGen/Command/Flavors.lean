import ClientGen.Command.Issue
import ClientGen.Flavor
/-!
# Listing the flavors
-/
namespace ClientGen.Command

open ClientGen.Console ClientGen.Json

/-- The name of the module for which files are listed. -/
def sampleModule : String := "Module"

def flavorValue (f : Flavor) : Value :=
  .record [("name", .string f.name), ("description", .string f.description),
    ("struct_prefix", .string f.structMark),
    ("scaffold", .texts (f.scaffold.map fun file => file.path sampleModule))]

def flavorRow (f : Flavor) : List String :=
  [f.name, f.description, if f.structMark.isEmpty then "-" else f.structMark,
    f.scaffold.length.repr]

def listFlavors (s : Speaker) (tree : FileTree) : Execution :=
  let printed :=
    match s.format with
    | .json => s.success "" (.array (Flavor.all.map flavorValue))
    | .text =>
      Speaker.table (["Flavor", "Description", "Prefix", "Scaffold files"]
        :: Flavor.all.map flavorRow)
  ⟨printed, tree, none⟩

end ClientGen.Command
