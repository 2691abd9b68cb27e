import ClientGen.DependencyMap
import ClientGen.FileTree
import ClientGen.Formats
import ClientGen.Json.Fields
import ClientGen.Render.Root
import ClientGen.Toml.Table
import ClientGen.Yaml.Record
/-!
# Settings

What a run of the generator needs to know besides the document. Settings come from a file in one of
two formats; what the file does not say keeps its standard value. Keys that nobody knows are
refused. Paths in a file are relative to its directory.
-/
namespace ClientGen

/-- The program that is run over generated sources. -/
structure FormatterSettings where
  enabled : Bool
  command : String
  arguments : String
deriving DecidableEq, Repr

/-- The settings of a run. -/
structure Settings where
  /-- The document; empty if none is set. -/
  idl : String
  output : String
  plugin : String
  flavor : String
  renderParents : Bool
  includeInternal : Bool
  keepOutput : Bool
  /-- Paths that are included, and what is included in their place. -/
  dependencyMap : DependencyMap
  formatter : FormatterSettings
deriving DecidableEq, Repr

namespace Settings

def standardFormatter : String := "clang-format"

def standardOutput : String := "generated"

def standard : Settings :=
  ⟨"", standardOutput, Render.standardPlugin, Flavor.unreal5.name, false, false, false, [],
    ⟨false, standardFormatter, ""⟩⟩

inductive Fault where
  | unknownFlavor (name : String)
  | emptyPlugin (name : String)
  | emptyOutput
  | emptyDependency (source target : String)
deriving DecidableEq, Repr

def Fault.message : Fault → String
  | .unknownFlavor name => Flavor.unknownMessage name
  | .emptyPlugin name => "plugin name " ++ Text.displayed name ++ " has no usable characters"
  | .emptyOutput => "output directory is empty"
  | .emptyDependency source target =>
    "dependency_map entry " ++ Text.displayed source ++ " -> " ++ Text.displayed target
      ++ " is empty"

/-- The first thing wrong with settings, if anything is. -/
def fault? (s : Settings) : Option Fault :=
  if (Flavor.find? s.flavor).isNone then some (.unknownFlavor s.flavor)
  else if s.plugin.isEmpty || (Naming.pascal s.plugin).isEmpty then some (.emptyPlugin s.plugin)
  else if s.output.isEmpty then some .emptyOutput
  else
    (s.dependencyMap.find? fun d => d.1.isEmpty || d.2.isEmpty).map fun d =>
      .emptyDependency d.1 d.2

def options (s : Settings) : Render.Options :=
  ⟨s.plugin, s.flavor, s.renderParents, s.includeInternal, s.dependencyMap⟩

inductive LoadFault where
  | unreadable (fault : FileFault)
  /-- The text is malformed, or a value has the wrong type. -/
  | malformed (path text : String)
  | unknownKeys (path : String) (keys : List String)
  | unknownExtension (extension : String)
  | invalid (fault : Fault)
deriving DecidableEq, Repr

def LoadFault.message (formats : Formats) : LoadFault → String
  | .unreadable fault => "reading config: " ++ fault.message
  | .malformed path text => "parsing " ++ path ++ ": " ++ formats.settings path text
  | .unknownKeys path keys =>
    "parsing " ++ path ++ ": unknown keys " ++ String.intercalate ", " keys
  | .unknownExtension extension => "unsupported config extension " ++ Text.displayed extension
  | .invalid fault => fault.message

/-- What is proposed to mend a fault, if anything is. -/
def LoadFault.hint? : LoadFault → Option String
  | .unknownExtension _ => some "use .yaml, .yml or .toml"
  | .invalid (.unknownFlavor _) => some Flavor.unknownHint
  | _ => none

/-! ## The indented format -/

section Yaml

open ClientGen.Yaml

def formatterField (f : FormatterSettings) (name : String) (node : Node) :
    Option FormatterSettings :=
  match name with
  | "enabled" => field node.asFlag f fun f v => { f with enabled := v }
  | "command" => field node.asText f fun f v => { f with command := v }
  | "args" => field node.asText f fun f v => { f with arguments := v }
  | _ => none

def yamlField (s : Settings) (name : String) (node : Node) : Option Settings :=
  match name with
  | "idl" => field node.asText s fun s v => { s with idl := v }
  | "output" => field node.asText s fun s v => { s with output := v }
  | "plugin" => field node.asText s fun s v => { s with plugin := v }
  | "flavor" => field node.asText s fun s v => { s with flavor := v }
  | "render_parent_instructions" => field node.asFlag s fun s v => { s with renderParents := v }
  | "include_internal" => field node.asFlag s fun s v => { s with includeInternal := v }
  | "keep_output" => field node.asFlag s fun s v => { s with keepOutput := v }
  | "dependency_map" =>
    (recordField node DependencyMap.readEntry s.dependencyMap).map fun v => { s with dependencyMap := v }
  | "formatter" =>
    (recordField node formatterField s.formatter).map fun v => { s with formatter := v }
  | _ => none

/-- Reads an indented text on top of settings; a text without a document says nothing. -/
def ofYaml? (base : Settings) (text : String) : Option Settings :=
  match firstDocument text with
  | .none => some base
  | .malformed => none
  | .node root => recordField root yamlField base

end Yaml

/-! ## The format of tables -/

section Toml

open ClientGen.Toml

def keyNames : List String :=
  ["idl", "output", "plugin", "flavor", "render_parent_instructions", "include_internal",
    "keep_output", "dependency_map", "formatter"]

def formatterKeyNames : List String := ["enabled", "command", "args"]

/-- The known key that a key is up to case; a key that is the same wins. -/
def knownKey? (known : List String) (key : String) : Option String :=
  (known.find? (· == key)).or (known.find? fun name => Json.sameName name key)

def textValue? : Value → Option String
  | .text s => some s
  | _ => none

def flagValue? : Value → Option Bool
  | .flag b => some b
  | _ => none

def tableValue? : Value → Option (List (String × Value))
  | .table entries => some entries
  | _ => none

/-- Takes over an entry of the formatter; unknown keys are left to `unknownKeys`. -/
def formatterEntry (f : FormatterSettings) (entry : String × Value) : Option FormatterSettings :=
  match knownKey? formatterKeyNames entry.1 with
  | some "enabled" => (flagValue? entry.2).map fun v => { f with enabled := v }
  | some "command" => (textValue? entry.2).map fun v => { f with command := v }
  | some "args" => (textValue? entry.2).map fun v => { f with arguments := v }
  | _ => some f

/-- Takes over an entry of the dependency map. -/
def dependencyEntry (map : DependencyMap) (entry : String × Value) : Option DependencyMap :=
  (textValue? entry.2).map (map.set entry.1)

/-- Takes over an entry; unknown keys are left to `unknownKeys`. -/
def tomlEntry (s : Settings) (entry : String × Value) : Option Settings :=
  match knownKey? keyNames entry.1 with
  | some "idl" => (textValue? entry.2).map fun v => { s with idl := v }
  | some "output" => (textValue? entry.2).map fun v => { s with output := v }
  | some "plugin" => (textValue? entry.2).map fun v => { s with plugin := v }
  | some "flavor" => (textValue? entry.2).map fun v => { s with flavor := v }
  | some "render_parent_instructions" =>
    (flagValue? entry.2).map fun v => { s with renderParents := v }
  | some "include_internal" => (flagValue? entry.2).map fun v => { s with includeInternal := v }
  | some "keep_output" => (flagValue? entry.2).map fun v => { s with keepOutput := v }
  | some "dependency_map" => do
    let entries ← tableValue? entry.2
    return { s with dependencyMap := ← entries.foldlM dependencyEntry s.dependencyMap }
  | some "formatter" => do
    let entries ← tableValue? entry.2
    return { s with formatter := ← entries.foldlM formatterEntry s.formatter }
  | _ => some s

/-- Whether keys lead to something that is known. -/
def isKnownPath : KeyPath → Bool
  | [key] => (knownKey? keyNames key).isSome
  | [key, inner] =>
    match knownKey? keyNames key with
    | some "dependency_map" => true
    | some "formatter" => (knownKey? formatterKeyNames inner).isSome
    | _ => false
  | _ => false

/-- Puts a text among others in order. -/
def insertText (s : String) : List String → List String
  | [] => [s]
  | t :: rest => if s < t then s :: t :: rest else t :: insertText s rest

/-- The keys of a file that lead to nothing known, in order. -/
def unknownKeys (file : File) : List String :=
  ((file.keys.filter (!isKnownPath ·)).map pathText).foldl (fun sorted s => insertText s sorted) []

/-- Reads a text of tables on top of settings. -/
def ofToml (base : Settings) (path text : String) : Except LoadFault Settings :=
  match File.parse text with
  | none => .error (.malformed path text)
  | some file =>
    match file.entries.foldlM tomlEntry base with
    | none => .error (.malformed path text)
    | some s =>
      match unknownKeys file with
      | [] => .ok s
      | keys => .error (.unknownKeys path keys)

end Toml

/-! ## Files -/

/-- A path of a file, relative to the directory of the file. -/
def resolve (directory path : String) : String :=
  if path.isEmpty || Path.isAbsolute path then path else Path.join directory path

/-- Settings with what a text says on top of them. The extension of its path tells the format. -/
def parse (base : Settings) (path text : String) : Except LoadFault Settings :=
  let extension := Path.lowerExtension path
  if extension == ".yaml" || extension == ".yml" then
    match ofYaml? base text with
    | none => .error (.malformed path text)
    | some s => .ok s
  else if extension == ".toml" then ofToml base path text
  else .error (.unknownExtension extension)

/-- Settings with their paths resolved in a directory. -/
def relativeTo (directory : String) (s : Settings) : Settings :=
  { s with idl := resolve directory s.idl, output := resolve directory s.output }

/-- Settings if nothing is wrong with them. -/
def validated (s : Settings) : Except Fault Settings :=
  match s.fault? with
  | none => .ok s
  | some fault => .error fault

/-- Reads settings from a file; what it does not say keeps its standard value. -/
def load (tree : FileTree) (path : String) : Except LoadFault Settings := do
  let text ← (tree.read path).mapError .unreadable
  let s ← parse standard path text
  (validated (s.relativeTo (Path.directory path))).mapError .invalid

end Settings

end ClientGen
