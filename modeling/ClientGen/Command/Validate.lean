import ClientGen.Command.Issue
import ClientGen.Command.Line
import ClientGen.Render.Root
/-!
# Validating

Reads a document strictly and renders it in every flavor, or in the one that is asked for, without
writing anything.
-/
namespace ClientGen.Command

open ClientGen.Console ClientGen.Json ClientGen.Render

/-- What is known about a document. -/
structure Validation where
  flavors : List String
  warnings : List Issue
  errors : List Issue

namespace Validation

/-- A list of issues in an object, left out if it is empty. -/
def issuesMember (name : String) (issues : List Issue) : List (String × Value) :=
  if issues.isEmpty then [] else [(name, issuesValue issues)]

def value (v : Validation) : Value :=
  .record ([("valid", .bool v.errors.isEmpty), ("flavors", .texts v.flavors)]
    ++ issuesMember "warnings" v.warnings ++ issuesMember "errors" v.errors)

/-- Ends the command: it succeeds if there are no errors. -/
def report (s : Speaker) (tree : FileTree) (v : Validation) : Execution :=
  match v.errors with
  | [] =>
    ⟨s.success ("✓ IDL valid for " ++ v.flavors.length.repr ++ " flavor(s)") v.value, tree, none⟩
  | first :: _ =>
    let printed :=
      match s.format with
      | .json => replyText (some v.value) (some ⟨first.code.text, first.message, none⟩)
      | .text => "✗ Validation failed\n\n" ++ String.join (v.errors.map (·.text))
    ⟨.ofText printed, tree,
      some ⟨Failure.failureCode,
        "validation failed with " ++ v.errors.length.repr ++ " error(s)", none⟩⟩

end Validation

/-- How a document is rendered to see whether it can be. -/
def validationOptions (flavor : String) : Render.Options := ⟨"", flavor, false, false, []⟩

/-- The issue of rendering a document in a flavor, if there is one. -/
def flavorIssue? (root : Idl.RootNode) (flavor : Flavor) : Option Issue :=
  match (validationOptions flavor.name).renderer? with
  | none => some ⟨.render, Flavor.unknownMessage flavor.name, none, some flavor.name,
      some Flavor.unknownHint⟩
  | some r =>
    match (r.render root).files with
    | .error e => some (.ofRenderError flavor.name e)
    | .ok _ => none

def validateIn (around : Surroundings) (s : Speaker) (tree : FileTree) (flavors : List Flavor)
    (path : String) : Execution :=
  let names := flavors.map (·.name)
  let loading := s.remark ("Loading " ++ path)
  let execution :=
    match (Idl.load around.formats.documents tree around.cancelled true path).result with
    | .error e =>
      let (first, more) := Issue.ofLoadError around.formats e
      if loadExitCode (first :: more) = Failure.misuseCode then
        misuse s tree first.code first.message
      else Validation.report s tree ⟨names, [], first :: more⟩
    | .ok document =>
      let remarks := names.foldl (fun printed name => printed ++ s.remark ("Rendering with " ++ name))
        Printed.nothing
      let execution := Validation.report s tree ⟨names, document.warnings.map .ofProblem,
        flavors.filterMap (flavorIssue? document.root)⟩
      { execution with printed := remarks ++ execution.printed }
  { execution with printed := loading ++ execution.printed }

def validate (around : Surroundings) (s : Speaker) (tree : FileTree) (arguments : Arguments) :
    Execution :=
  let path := arguments.words.head?.getD ""
  let flavor := (arguments.text? "flavor").getD ""
  if flavor.isEmpty then validateIn around s tree Flavor.all path
  else
    match Flavor.find? flavor with
    | none => misuse s tree .settings (Flavor.unknownMessage flavor)
    | some f => validateIn around s tree [f] path

end ClientGen.Command
