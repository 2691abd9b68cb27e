import ClientGen.Command.Issue
import ClientGen.Command.Line
import ClientGen.Scenario.Outcome
/-!
# Running scenarios

Runs all scenarios below a directory. Beside the file of a scenario there may be the snapshot of an
earlier run; what comes out has to be the same. Snapshots are written anew if that is asked for.
-/
namespace ClientGen.Command

open ClientGen.Console ClientGen.Json

/-- The directory of snapshots, in which no scenarios are looked for. -/
def snapshotDirectory : String := "golden"

def snapshotPath (scenario : String) : String :=
  Path.join (Path.join (Path.directory scenario) snapshotDirectory)
    (Path.stem scenario ++ ".golden")

/-- Whether the extension of a path is that of a scenario. -/
def isScenarioPath (path : String) : Bool :=
  Path.extension path == ".yaml" || Path.extension path == ".yml"

/-- Whether a way leads through a directory of snapshots. -/
def isAmongSnapshots (way : Location) : Bool := way.dropLast.contains snapshotDirectory

/-- The paths of the scenarios below a directory, in order. -/
def scenarioPaths (tree : FileTree) (directory : String) : List String :=
  match tree.find directory with
  | .error _ => []
  | .ok (location, _) =>
    (tree.below location).filterMap fun (way, entry) =>
      let path := Path.join directory (String.intercalate "/" way)
      if entry != .directory && !isAmongSnapshots way && isScenarioPath path then some path
      else none

/-- The scenarios whose names match a pattern; all if it is empty. -/
def selectedPaths (filter : String) (paths : List String) : List String :=
  if filter.isEmpty then paths else paths.filter fun path => globMatches filter (Path.stem path)

/-- What became of a scenario. -/
structure Verdict where
  name : String
  /-- The digest of the files; empty if there are none. -/
  digest : String
  errors : List String
  /-- Whether the snapshot was written. -/
  updated : Bool
deriving DecidableEq, Repr

namespace Verdict

def passes (v : Verdict) : Bool := v.errors.isEmpty

def text (v : Verdict) : String :=
  if v.passes then "✓ " ++ v.name ++ (if v.updated then " (golden updated)" else "") ++ "\n"
  else "✗ " ++ v.name ++ "\n" ++ String.join (v.errors.map fun e => "  " ++ e ++ "\n")

def value (v : Verdict) : Value :=
  .record ([("name", .string v.name), ("pass", .bool v.passes)]
    ++ (if v.digest.isEmpty then [] else [("digest", .string v.digest)])
    ++ (if v.errors.isEmpty then [] else [("errors", .texts v.errors)]))

end Verdict

inductive SnapshotFault where
  | noDirectory (fault : FileFault)
  | unwritten (fault : FileFault)
deriving DecidableEq, Repr

def SnapshotFault.message : SnapshotFault → String
  | .noDirectory fault => "failed to create golden directory: " ++ fault.message
  | .unwritten fault => "failed to write golden file: " ++ fault.message

def writeSnapshot (tree : FileTree) (path snapshot : String) : Except SnapshotFault FileTree := do
  let tree ← (tree.makeDirectories (Path.directory path)).mapError .noDirectory
  (tree.write path snapshot).mapError .unwritten

/-- The message about a snapshot that is not the same. -/
def mismatchMessage : String := "output does not match golden file (run with --update to regenerate)"

/-- What is wrong with a snapshot beside the one of an earlier run, if there is one. -/
def snapshotErrors (tree : FileTree) (path snapshot : String) : List String :=
  match tree.read path with
  | .error ⟨_, _, .missing⟩ => []
  | .error fault => ["failed to read golden file: " ++ fault.message]
  | .ok earlier => if earlier = snapshot then [] else [mismatchMessage]

/-- The verdict on an outcome of a scenario, and the files with its snapshot written if that is
asked for. -/
def settle (around : Surroundings) (update : Bool) (tree : FileTree) (path : String)
    (scenario : Scenario) (outcome : Outcome) : Verdict × FileTree :=
  let snapshot := scenario.snapshot around.formats outcome
  if update then
    match writeSnapshot tree (snapshotPath path) snapshot with
    | .error fault =>
      (⟨scenario.name, "", ["failed to update golden file: " ++ fault.message], false⟩, tree)
    | .ok tree => (⟨scenario.name, outcome.digest, [], true⟩, tree)
  else
    let errors := outcome.errors ++ snapshotErrors tree (snapshotPath path) snapshot
    (⟨scenario.name, outcome.digest, errors, false⟩, tree)

/-- The verdict on a scenario that could not be read from its file. -/
def unreadVerdict (around : Surroundings) (path : String) (fault : Scenario.LoadFault) : Verdict :=
  ⟨Path.base path, "", ["failed to load scenario: " ++ fault.message around.formats], false⟩

/-- Runs the scenario of a file, unless the work was called off. -/
def runScenario (around : Surroundings) (update : Bool) (tree : FileTree) (path : String) :
    Option (Verdict × FileTree) :=
  match Scenario.load tree path with
  | .error fault => some (unreadVerdict around path fault, tree)
  | .ok scenario =>
    (scenario.run around.formats tree around.cancelled).map
      (settle around update tree path scenario)

/-- How far a run of scenarios came. -/
structure SuiteProgress where
  verdicts : List Verdict
  tree : FileTree
  /-- Whether the work was called off. -/
  cancelled : Bool

/-- Runs scenarios one after another. -/
def runScenarios (around : Surroundings) (update : Bool) (tree : FileTree) :
    List String → SuiteProgress
  | [] => ⟨[], tree, false⟩
  | path :: rest =>
    match runScenario around update tree path with
    | none => ⟨[], tree, true⟩
    | some (verdict, tree) =>
      let after := runScenarios around update tree rest
      { after with verdicts := verdict :: after.verdicts }

/-- What may become of the scenario of a file, in any order of generated files. -/
def MayRun (around : Surroundings) (update : Bool) (tree : FileTree) (path : String)
    (verdict : Verdict) (after : FileTree) : Prop :=
  match Scenario.load tree path with
  | .error fault => (verdict, after) = (unreadVerdict around path fault, tree)
  | .ok scenario =>
    ∃ outcome, scenario.MayEnd around.formats tree outcome ∧
      (verdict, after) = settle around update tree path scenario outcome

/-- What may become of scenarios one after another. -/
inductive SuiteRuns (around : Surroundings) (update : Bool) :
    FileTree → List String → List Verdict → FileTree → Prop
  | done (tree : FileTree) : SuiteRuns around update tree [] [] tree
  | step {tree after last : FileTree} {path : String} {rest : List String} {verdict : Verdict}
    {verdicts : List Verdict} (hfirst : MayRun around update tree path verdict after)
    (hrest : SuiteRuns around update after rest verdicts last) :
    SuiteRuns around update tree (path :: rest) (verdict :: verdicts) last

def failedCount (verdicts : List Verdict) : Nat := verdicts.countP (!·.passes)

def failedMessage (failed : Nat) : String := failed.repr ++ " scenario(s) failed"

def suiteValue (verdicts : List Verdict) : Value :=
  .record [("scenarios", .array (verdicts.map (·.value))),
    ("passed", .natural (verdicts.length - failedCount verdicts)),
    ("failed", .natural (failedCount verdicts)), ("total", .natural verdicts.length)]

def suiteText (verdicts : List Verdict) : String :=
  let failed := failedCount verdicts
  String.join (verdicts.map (·.text)) ++ "\nTest Summary: "
    ++ (verdicts.length - failed).repr ++ " passed, " ++ failed.repr ++ " failed, "
    ++ verdicts.length.repr ++ " total\n"
    ++ if failed = 0 then "✓ All scenarios passed\n" else ""

def suiteReport (s : Speaker) (verdicts : List Verdict) : Printed :=
  let failed := failedCount verdicts
  match s.format with
  | .json =>
    let error : Option ReplyError :=
      if failed = 0 then none else some ⟨ErrorCode.scenario.text, failedMessage failed, none⟩
    .ofText (replyText (some (suiteValue verdicts)) error)
  | .text =>
    if verdicts.isEmpty then .ofText "No scenarios found.\n" else .ofText (suiteText verdicts)

/-- Ends the command; it succeeds if no scenario failed. -/
def endSuite (s : Speaker) (progress : SuiteProgress) : Execution :=
  if progress.cancelled then
    let printed :=
      match s.format with
      | .json => ""
      | .text => String.join (progress.verdicts.map (·.text))
    ⟨.ofText printed, progress.tree,
      some ⟨Failure.misuseCode, "running scenarios", some "context canceled"⟩⟩
  else
    let failed := failedCount progress.verdicts
    ⟨suiteReport s progress.verdicts, progress.tree,
      if failed = 0 then none else some ⟨Failure.failureCode, failedMessage failed, none⟩⟩

def runSuite (around : Surroundings) (s : Speaker) (tree : FileTree) (arguments : Arguments) :
    Execution :=
  let directory := arguments.words.head?.getD ""
  let filter := (arguments.text? "filter").getD ""
  if !tree.isDirectory directory then
    misuse s tree .notFound ("scenarios directory not found: " ++ directory)
  else if !filter.isEmpty && (Glob.parse? filter).isNone then
    misuse s tree .generic
      ("failed to find scenarios: invalid filter pattern: " ++ Glob.malformedText)
  else
    endSuite s (runScenarios around (arguments.isOn "update") tree
      (selectedPaths filter (scenarioPaths tree directory)))

end ClientGen.Command
