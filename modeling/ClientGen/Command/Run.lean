import ClientGen.Command.Flavors
import ClientGen.Command.Generate
import ClientGen.Command.Suite
import ClientGen.Command.Validate
/-!
# Running a command line
-/
namespace ClientGen.Command

open ClientGen.Console

def usage : String :=
  "Usage:\n  idlcpp generate [idl] [flags]\n  idlcpp validate <idl> [flags]\n"
    ++ "  idlcpp flavors [flags]\n  idlcpp test <scenarios-dir> [flags]\n"

def runRequest (around : Surroundings) (tree : FileTree) : Request → Execution
  | .help => ⟨.ofText usage, tree, none⟩
  | .command name format arguments =>
    let s : Speaker := ⟨format, arguments.isOn "verbose", true⟩
    match name with
    | .generate => generate around s tree arguments
    | .validate => validate around s tree arguments
    | .flavors => listFlavors s tree
    | .test => runSuite around s tree arguments

/-- Runs a command line. One that cannot be followed is only told of in the diagnostics. -/
def run (around : Surroundings) (tree : FileTree) (arguments : List String) : Execution :=
  match readLine arguments with
  | .error fault =>
    ⟨⟨"", "Error: " ++ fault.message ++ "\n"⟩, tree,
      some ⟨Failure.failureCode, fault.message, none⟩⟩
  | .ok request => runRequest around tree request

end ClientGen.Command
