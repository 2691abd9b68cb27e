import ClientGen.DependencyMap
import ClientGen.FileTree
import ClientGen.Formats
import ClientGen.Render.Root
import ClientGen.Scenario.Assertion
/-!
# Scenarios

A scenario names a document, says how to render it, and states what comes out: assertions about the
files, or an error. Scenarios are read from files; the document of a scenario is looked for in the
directory of its file. Keys that nobody knows are refused.
-/
namespace ClientGen

/-- A run of the generator and what is expected of it. -/
structure Scenario where
  name : String
  description : String
  /-- The path of the document. -/
  idl : String
  flavor : String
  plugin : String
  renderParents : Bool
  includeInternal : Bool
  dependencyMap : DependencyMap
  /-- A part of the message of the expected error; empty if none is expected. -/
  expectedError : String
  assertions : List Assertion
deriving DecidableEq, Repr

namespace Scenario

/-- A scenario that says nothing. -/
def blank : Scenario := ⟨"", "", "", "", "", false, false, [], "", []⟩

def options (s : Scenario) : Render.Options :=
  ⟨s.plugin, s.flavor, s.renderParents, s.includeInternal, s.dependencyMap⟩

inductive Fault where
  | noName
  | noIdl
  | missingIdl (path : String)
  | unknownFlavor (name : String)
  | nothingExpected
  | assertion (index : Nat) (fault : Assertion.Fault)
deriving DecidableEq, Repr

def Fault.message : Fault → String
  | .noName => "name is required"
  | .noIdl => "idl is required"
  | .missingIdl path => "idl file not found: " ++ path
  | .unknownFlavor name => Flavor.unknownMessage name
  | .nothingExpected => "at least one assertion or expect_error is required"
  | .assertion index fault => "assertions[" ++ index.repr ++ "]: " ++ fault.message

/-- The first fault of assertions, the first of which has an index. -/
def assertionFault? (index : Nat) : List Assertion → Option Fault
  | [] => none
  | a :: rest =>
    match a.fault? with
    | some fault => some (.assertion index fault)
    | none => assertionFault? (index + 1) rest

/-- The first thing wrong with a scenario, if anything is. -/
def fault? (tree : FileTree) (s : Scenario) : Option Fault :=
  if s.name.isEmpty then some .noName
  else if s.idl.isEmpty then some .noIdl
  else if !tree.contains s.idl then some (.missingIdl s.idl)
  else if !s.flavor.isEmpty && (Flavor.find? s.flavor).isNone then some (.unknownFlavor s.flavor)
  else if s.expectedError.isEmpty && s.assertions.isEmpty then some .nothingExpected
  else assertionFault? 0 s.assertions

/-- Why a scenario could not be read from a file. -/
inductive LoadFault where
  | unreadable (fault : FileFault)
  /-- The text is malformed, or a value has the wrong type. -/
  | malformed (text : String)
  | invalid (fault : Fault)
deriving DecidableEq, Repr

def LoadFault.message (formats : Formats) : LoadFault → String
  | .unreadable fault => "failed to read scenario file: " ++ fault.message
  | .malformed text => "failed to parse YAML: " ++ formats.scenario text
  | .invalid fault => "invalid scenario: " ++ fault.message

/-- What is proposed to mend a fault, if anything is. -/
def LoadFault.hint? : LoadFault → Option String
  | .invalid (.unknownFlavor _) => some Flavor.unknownHint
  | _ => none

section Reading

open ClientGen.Yaml

def assertionField (a : Assertion) (name : String) (node : Node) : Option Assertion :=
  match name with
  | "type" => field node.asText a fun a v => { a with type := v }
  | "path" => field node.asText a fun a v => { a with path := v }
  | "text" => field node.asText a fun a v => { a with text := v }
  | "count" => field node.asWhole a fun a v => { a with count := v }
  | _ => none

def readAssertions (node : Node) : Option (Option (List Assertion)) := do
  match ← node.asItems with
  | none => some none
  | some items => (readRecords assertionField ⟨"", "", "", 0⟩ items).map some

def readField (s : Scenario) (name : String) (node : Node) : Option Scenario :=
  match name with
  | "name" => field node.asText s fun s v => { s with name := v }
  | "description" => field node.asText s fun s v => { s with description := v }
  | "idl" => field node.asText s fun s v => { s with idl := v }
  | "flavor" => field node.asText s fun s v => { s with flavor := v }
  | "plugin" => field node.asText s fun s v => { s with plugin := v }
  | "render_parent_instructions" => field node.asFlag s fun s v => { s with renderParents := v }
  | "include_internal" => field node.asFlag s fun s v => { s with includeInternal := v }
  | "dependency_map" =>
    (recordField node DependencyMap.readEntry s.dependencyMap).map fun v =>
      { s with dependencyMap := v }
  | "expect_error" => field node.asText s fun s v => { s with expectedError := v }
  | "assertions" => field (readAssertions node) s fun s v => { s with assertions := v }
  | _ => none

/-- The scenario that a text says. A text without a document is malformed. -/
def parse? (text : String) : Option Scenario :=
  match firstDocument text with
  | .none => none
  | .malformed => none
  | .node root => recordField root readField blank

end Reading

/-- A scenario with its document looked for in a directory. -/
def relativeTo (directory : String) (s : Scenario) : Scenario :=
  if s.idl.isEmpty || Path.isAbsolute s.idl || directory.isEmpty then s
  else { s with idl := Path.join directory s.idl }

/-- Reads a scenario from a file; its document is looked for in a directory. -/
def loadIn (tree : FileTree) (directory path : String) : Except LoadFault Scenario := do
  let text ← (tree.read path).mapError .unreadable
  match parse? text with
  | none => throw (.malformed text)
  | some s =>
    let s := s.relativeTo directory
    match s.fault? tree with
    | some fault => throw (.invalid fault)
    | none => return s

/-- Reads a scenario from a file; its document is looked for in the directory of the file. -/
def load (tree : FileTree) (path : String) : Except LoadFault Scenario :=
  loadIn tree (Path.directory path) path

end Scenario

end ClientGen
