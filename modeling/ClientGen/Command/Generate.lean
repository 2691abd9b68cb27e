import ClientGen.Command.Issue
import ClientGen.Command.Line
import ClientGen.OutputDirectory
/-!
# Generating

Reads a document, renders it and writes the files. The settings come from a file if one is named;
a flag that is given wins over the file.
-/
namespace ClientGen.Command

open ClientGen.Console ClientGen.Json ClientGen.Render

/-- The flags of a run; those that were not given are missing. -/
structure GenerateFlags where
  /-- The file of the settings; empty if there is none. -/
  config : String
  output : Option String
  plugin : Option String
  flavor : Option String
  renderParents : Option Bool
  includeInternal : Option Bool
  formatCode : Option Bool
  formatter : Option String
  formatterArguments : Option String
  keepOutput : Option Bool
  dryRun : Bool
deriving DecidableEq, Repr

namespace GenerateFlags

def ofArguments (a : Arguments) : GenerateFlags where
  config := (a.text? "config").getD ""
  output := a.text? "output"
  plugin := a.text? "plugin"
  flavor := a.text? "flavor"
  renderParents := a.switch? "render-parent-instructions"
  includeInternal := a.switch? "include-internal"
  formatCode := a.switch? "format-code"
  formatter := a.text? "formatter"
  formatterArguments := a.text? "formatter-args"
  keepOutput := a.switch? "keep-output"
  dryRun := a.isOn "dry-run"

/-- Settings with the flags and the document that were given in place of their own. -/
def override (f : GenerateFlags) (idl : Option String) (s : Settings) : Settings where
  idl := idl.getD s.idl
  output := f.output.getD s.output
  plugin := f.plugin.getD s.plugin
  flavor := f.flavor.getD s.flavor
  renderParents := f.renderParents.getD s.renderParents
  includeInternal := f.includeInternal.getD s.includeInternal
  keepOutput := f.keepOutput.getD s.keepOutput
  dependencyMap := s.dependencyMap
  formatter :=
    ⟨f.formatCode.getD s.formatter.enabled, f.formatter.getD s.formatter.command,
      f.formatterArguments.getD s.formatter.arguments⟩

/-- The settings that flags start from. -/
def base (f : GenerateFlags) (tree : FileTree) : Except Settings.LoadFault Settings :=
  if f.config.isEmpty then .ok .standard else Settings.load tree f.config

def settings (f : GenerateFlags) (tree : FileTree) (idl : Option String) :
    Except Settings.LoadFault Settings := do
  (f.override idl (← f.base tree)).validated.mapError .invalid

end GenerateFlags

/-- What a run did. -/
structure GenerateResult where
  runId : String
  idl : String
  output : String
  plugin : String
  flavor : String
  dryRun : Bool
  digest : String
  files : List String
  /-- The number of files that were formatted. -/
  formatted : Nat
  stats : Renderer.Stats

namespace GenerateResult

def statsValue (s : Renderer.Stats) : Value :=
  .record [("programs", .natural s.programs), ("accounts", .natural s.accounts),
    ("defined_types", .natural s.definedTypes), ("instructions", .natural s.instructions),
    ("errors", .natural s.errors)]

def value (r : GenerateResult) : Value :=
  .record [("run_id", .string r.runId), ("idl", .string r.idl), ("output", .string r.output),
    ("plugin", .string r.plugin), ("flavor", .string r.flavor), ("dry_run", .bool r.dryRun),
    ("digest", .string r.digest), ("files", .texts r.files), ("formatted", .natural r.formatted),
    ("stats", statsValue r.stats)]

def statsRows (s : Renderer.Stats) : List (List String) :=
  [["Entity", "Count"], ["Programs", s.programs.repr], ["Accounts", s.accounts.repr],
    ["Defined types", s.definedTypes.repr], ["Instructions", s.instructions.repr],
    ["Errors", s.errors.repr]]

/-- The last lines about a result. -/
def closing (r : GenerateResult) : String :=
  if r.dryRun then "Dry run: nothing written\n"
  else
    "Output: " ++ r.output ++ "\n"
      ++ if r.formatted = 0 then "" else "Formatted: " ++ r.formatted.repr ++ " file(s)\n"

def report (s : Speaker) (r : GenerateResult) : Printed :=
  match s.format with
  | .json => s.success "" r.value
  | .text =>
    let opening := "✓ " ++ (if r.dryRun then "Rendered" else "Generated") ++ " "
      ++ r.files.length.repr ++ " file(s) for " ++ r.plugin ++ " (" ++ r.flavor ++ ")\n\n"
    r.files.foldl (fun printed file => printed ++ s.remark ("  " ++ file))
      (.ofText opening ++ Speaker.table (statsRows r.stats) ++ .ofText r.closing)

end GenerateResult

def noInputMessage : String :=
  "no IDL given: pass it as an argument or set idl in the config file"

def writeOutput (around : Surroundings) (s : Speaker) (tree : FileTree) (settings : Settings)
    (map : FileMap) (result : GenerateResult) : Execution :=
  let progress :=
    OutputDirectory.write tree around.cancelled settings.keepOutput settings.output map
  match progress.fault? with
  | some fault =>
    ⟨s.error ErrorCode.unwritable.text fault.message none, progress.tree,
      some ⟨Failure.failureCode, "writing output", some fault.message⟩⟩
  | none =>
    let formatted :=
      if settings.formatter.enabled then
        match Formatter.run around.programs settings.formatter.command settings.formatter.arguments
            progress.written with
        | .ok files => files.length
        | .error _ => 0
      else 0
    ⟨GenerateResult.report s { result with formatted := formatted }, progress.tree, none⟩

/-- Renders a document and goes on with the files. -/
def renderOutput (around : Surroundings) (s : Speaker) (tree : FileTree) (settings : Settings)
    (dryRun : Bool) (document : Idl.Document) : Execution :=
  match settings.options.renderer? with
  | none =>
    misuse s tree .settings (Flavor.unknownMessage settings.options.flavorName)
  | some r =>
    match (r.render document.root).files with
    | .error e =>
      reportIssues s tree "generation failed" Failure.failureCode
        (.ofRenderError r.flavor.name e) []
    | .ok map =>
      let result : GenerateResult :=
        ⟨around.runId, settings.idl, settings.output, r.plugin, r.flavor.name, dryRun, map.digest,
          map.paths, 0, r.stats (some document.root)⟩
      if dryRun then ⟨result.report s, tree, none⟩
      else writeOutput around s tree settings map result

/-- Generates what settings say. -/
def generateWith (around : Surroundings) (s : Speaker) (tree : FileTree) (settings : Settings)
    (dryRun : Bool) : Execution :=
  if settings.idl.isEmpty then misuse s tree .noInput noInputMessage
  else
    let execution :=
      match (Idl.load around.formats.documents tree around.cancelled false settings.idl).result with
      | .error e =>
        let (first, more) := Issue.ofLoadError around.formats e
        reportIssues s tree ("loading " ++ settings.idl) (loadExitCode (first :: more)) first more
      | .ok document => renderOutput around s tree settings dryRun document
    { execution with printed := s.remark ("Loading " ++ settings.idl) ++ execution.printed }

def generate (around : Surroundings) (s : Speaker) (tree : FileTree) (arguments : Arguments) :
    Execution :=
  let flags := GenerateFlags.ofArguments arguments
  match flags.settings tree arguments.words.head? with
  | .error fault => misuse s tree .settings (fault.message around.formats)
  | .ok settings => generateWith around s tree settings flags.dryRun

end ClientGen.Command
