import ClientGen.Cpp.Lowering
import ClientGen.Idl.Root
import ClientGen.Render.FileMap
/-!
# Pages

What the generated files have in common: the banner, the block of include lines, the declaration
of a top-level type, and where each kind of file lies.
-/
namespace ClientGen.Render

open ClientGen.Idl ClientGen.Cpp

/-- What is rendered, and how. -/
structure Renderer where
  target : Target
  /-- Instructions that only group others are rendered too. -/
  renderParents : Bool
  /-- Entities marked internal are rendered too. -/
  includeInternal : Bool
  /-- Include paths and what they are replaced by. -/
  remap : List (String × String)

namespace Renderer

def flavor (r : Renderer) : Flavor := r.target.flavor

/-- The name of the module. -/
def plugin (r : Renderer) : String := r.target.plugin

/-- Whether an entity is rendered, given whether it is internal. -/
def exports (r : Renderer) (isInternal : Bool) : Bool := r.includeInternal || !isInternal

def publicRoot (r : Renderer) : String := "Source/" ++ r.plugin ++ "/Public/"

def privateRoot (r : Renderer) : String := "Source/" ++ r.plugin ++ "/Private/"

/-- The include path of the header of an entity. -/
def header (r : Renderer) (category name : String) : String :=
  r.plugin ++ "/" ++ category ++ "/" ++ name ++ ".h"

def headerPath (r : Renderer) (category name : String) : String :=
  r.publicRoot ++ r.header category name

def sourcePath (r : Renderer) (category name : String) : String :=
  r.privateRoot ++ r.plugin ++ "/" ++ category ++ "/" ++ name ++ ".cpp"

/-- The include path of the header that declares the programs. -/
def programsHeader (r : Renderer) : String := r.plugin ++ "/Programs.h"

/-- Two line ends and the include lines, if there are any. -/
def includeBlock (r : Renderer) (includes : IncludeSet) : String :=
  let lines := includes.render r.remap
  if lines.isEmpty then "" else "\n\n" ++ lines

end Renderer

/-- The comment at the top of every file. -/
def banner : String :=
  "/**\n * This code was AUTOGENERATED using idlcpp.\n"
    ++ " * Please DO NOT EDIT THIS FILE. Change the IDL instead and rerun\n"
    ++ " * idlcpp to update it.\n */"

/-- The top of every header. -/
def headerTop : String := banner ++ "\n\n#pragma once"

/-- The name of the constant that holds the address of a program. -/
def programConstant (program : ProgramNode) : String :=
  "G" ++ Naming.pascal program.name ++ "ID"

/-- The header that declares serialisation. -/
def borshHeader : String := "Borsh/Borsh.h"

/-- A lowered type, ready to be declared at the top of a header. -/
structure TopLevel where
  name : String
  /-- The declaration, or an alias for what is neither a struct nor an enum. -/
  text : String
  nested : List Declaration
  /-- The names of the members, if the type is a struct. -/
  fields : Option (List String)
  includes : IncludeSet

/-- Declares a type that has been lowered under a name. -/
def declare (target : Target) (name : String) (type : TypeNode) (m : Manifest) : TopLevel :=
  let declared := target.flavor.structName name
  match type with
  | .struct fields =>
    ⟨declared, m.type, m.nested, some (fields.map fun f => Naming.pascal f.name), m.includes⟩
  | .enum .. => ⟨declared, m.type, m.nested, none, m.includes⟩
  | _ =>
    let folded := m.materialize target
    ⟨declared, "using " ++ declared ++ " = " ++ folded.type ++ ";", m.nested, none,
      folded.includes⟩

/-- The headers that a declaration needs, with serialisation for structs. -/
def TopLevel.headers (decl : TopLevel) : IncludeSet :=
  if decl.fields.isSome then decl.includes.add borshHeader else decl.includes

def serializer (name : String) (fields : List String) : String :=
  "inline auto serialize(" ++ name
    ++ "& Data, borsh::Serializer& Serializer) \x7b return Serializer("
    ++ String.intercalate ", " (fields.map ("Data." ++ ·)) ++ "); \x7d"

/-- The hoisted declarations, each behind an empty line. -/
def nestedBlock (nested : List Declaration) : String :=
  String.join (nested.map fun d => "\n\n" ++ d.text)

/-- The serialiser of a struct behind an empty line, or nothing. -/
def TopLevel.serializerBlock (decl : TopLevel) : String :=
  match decl.fields with
  | some fields => "\n\n" ++ serializer decl.name fields
  | none => ""

/-- Documentation inside a body, one line for every entry. -/
def bodyDocs (docs : List String) : String := String.join (docs.map ("\n\t// " ++ ·))

end ClientGen.Render
