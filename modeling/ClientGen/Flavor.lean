import ClientGen.Text.CaseMapping
import ClientGen.Text.Quoted
/-!
# Flavors

A flavor is a dialect of C++: how each lowered type is spelled, which header declares it, how
literals are written and which files turn the generated headers into a module that builds. A
flavor is data; nothing else in the generator knows a dialect by name.
-/
namespace ClientGen

/-- A type that takes no arguments, and the header that declares it. -/
structure NamedType where
  spelling : String
  header : String

/-- A text around an argument. -/
structure Around where
  before : String
  after : String

def Around.apply (around : Around) (argument : String) : String :=
  around.before ++ argument ++ around.after

/-- A type that takes one argument, and the header that declares it. -/
structure GenericType where
  spelling : Around
  header : String

/-- The file kinds of which a module is built. -/
inductive Template where
  | unrealPlugin
  | unrealBuild
  | unrealModuleHeader
  | unrealModuleSource
  | standardBuild
  | standardPackage
  | standardModuleHeader
  | standardModuleSource
deriving DecidableEq, Repr

/-- The name under which a file kind is listed. -/
def Template.name : Template → String
  | .unrealPlugin => "unreal_plugin.tmpl"
  | .unrealBuild => "unreal_build.tmpl"
  | .unrealModuleHeader => "unreal_module_h.tmpl"
  | .unrealModuleSource => "unreal_module_cpp.tmpl"
  | .standardBuild => "stl_cmake.tmpl"
  | .standardPackage => "stl_vcpkg.tmpl"
  | .standardModuleHeader => "stl_module_h.tmpl"
  | .standardModuleSource => "stl_module_cpp.tmpl"

/-- A file that is written once for every module. -/
structure ScaffoldFile where
  /-- The path for the name of a module. -/
  path : String → String
  template : Template

/-- A dialect of C++. -/
structure Flavor where
  name : String
  description : String
  /-- Put in front of the names of generated structs and enums. -/
  structMark : String
  /-- The spelling of every number format that the dialect has. -/
  numbers : List (String × String)
  /-- The header that declares the numbers, if they need one. -/
  numberHeader : Option String
  bool : String
  /-- A growable array. -/
  sequence : GenericType
  /-- An array of fixed length, with the text between item and length. -/
  fixedArray : GenericType
  fixedArrayComma : String
  optional : GenericType
  string : NamedType
  publicKey : NamedType
  tuple : GenericType
  accountMeta : NamedType
  instruction : NamedType
  /-- The method that appends to a growable array. -/
  appendCall : String
  /-- The type of a static C string. -/
  charPointer : String
  /-- Put in front of the name of an error enum. -/
  errorMark : String
  errorsHeader : String
  stringLiteral : Around
  publicKeyLiteral : Around
  tupleLiteral : Around
  presentLiteral : Around
  /-- Around a quoted text in generated sources. -/
  textLiteral : Around
  moduleHeader : Template
  moduleSource : Template
  scaffold : List ScaffoldFile

namespace Flavor

/-- The spelling of a number format, if the dialect has one. -/
def number? (flavor : Flavor) (format : String) : Option String := flavor.numbers.lookup format

/-- The declared name of a generated struct or enum. -/
def structName (flavor : Flavor) (pascal : String) : String := flavor.structMark ++ pascal

/-- An array of fixed length. -/
def arrayOf (flavor : Flavor) (item : String) (count : Int) : String :=
  flavor.fixedArray.spelling.apply (item ++ flavor.fixedArrayComma ++ Text.decimalText count)

/-- The spelling of a number format; every dialect has the formats that the generator asks for. -/
def numberName (flavor : Flavor) (format : String) : String := (flavor.number? format).getD ""

/-- Plugins of Unreal Engine 5. -/
def unreal5 : Flavor where
  name := "unreal5"
  description := "Unreal Engine 5 plugin (TArray, TOptional, FString)"
  structMark := "F"
  numbers :=
    [("u8", "uint8"), ("u16", "uint16"), ("u32", "uint32"), ("u64", "uint64"),
     ("u128", "uint128"), ("i8", "int8"), ("i16", "int16"), ("i32", "int32"), ("i64", "int64"),
     ("i128", "int128"), ("f32", "float"), ("f64", "double"), ("usize", "SIZE_T"),
     ("isize", "SSIZE_T")]
  numberHeader := none
  bool := "bool"
  sequence := ⟨⟨"TArray<", ">"⟩, "Containers/Array.h"⟩
  fixedArray := ⟨⟨"TStaticArray<", ">"⟩, "Containers/StaticArray.h"⟩
  fixedArrayComma := ", "
  optional := ⟨⟨"TOptional<", ">"⟩, "Misc/Optional.h"⟩
  string := ⟨"FString", "CoreMinimal.h"⟩
  publicKey := ⟨"FPublicKey", "Solana/PublicKey.h"⟩
  tuple := ⟨⟨"TTuple<", ">"⟩, "Templates/Tuple.h"⟩
  accountMeta := ⟨"FAccountMeta", "Solana/AccountMeta.h"⟩
  instruction := ⟨"FInstruction", "Solana/Instruction.h"⟩
  appendCall := "Add"
  charPointer := "const TCHAR*"
  errorMark := "E"
  errorsHeader := "CoreMinimal.h"
  stringLiteral := ⟨"FString(TEXT(", "))"⟩
  publicKeyLiteral := ⟨"FPublicKey(TEXT(", "))"⟩
  tupleLiteral := ⟨"MakeTuple(", ")"⟩
  presentLiteral := ⟨"TOptional(", ")"⟩
  textLiteral := ⟨"TEXT(", ")"⟩
  moduleHeader := .unrealModuleHeader
  moduleSource := .unrealModuleSource
  scaffold :=
    [⟨fun module => module ++ ".uplugin", .unrealPlugin⟩,
     ⟨fun module => "Source/" ++ module ++ "/" ++ module ++ ".Build.cs", .unrealBuild⟩]

/-- C++20 with its standard library. -/
def stl20 : Flavor where
  name := "stl20"
  description := "Portable C++20 with the standard library"
  structMark := ""
  numbers :=
    [("u8", "std::uint8_t"), ("u16", "std::uint16_t"), ("u32", "std::uint32_t"),
     ("u64", "std::uint64_t"), ("u128", "unsigned __int128"), ("i8", "std::int8_t"),
     ("i16", "std::int16_t"), ("i32", "std::int32_t"), ("i64", "std::int64_t"),
     ("i128", "__int128"), ("f32", "float"), ("f64", "double"), ("usize", "std::size_t"),
     ("isize", "std::ptrdiff_t")]
  numberHeader := some "cstdint"
  bool := "bool"
  sequence := ⟨⟨"std::vector<", ">"⟩, "vector"⟩
  fixedArray := ⟨⟨"std::array<", ">"⟩, "array"⟩
  fixedArrayComma := ", "
  optional := ⟨⟨"std::optional<", ">"⟩, "optional"⟩
  string := ⟨"std::string", "string"⟩
  publicKey := ⟨"solana::PublicKey", "Solana/PublicKey.h"⟩
  tuple := ⟨⟨"std::tuple<", ">"⟩, "tuple"⟩
  accountMeta := ⟨"solana::AccountMeta", "Solana/AccountMeta.h"⟩
  instruction := ⟨"solana::Instruction", "Solana/Instruction.h"⟩
  appendCall := "push_back"
  charPointer := "const char*"
  errorMark := ""
  errorsHeader := "cstdint"
  stringLiteral := ⟨"std::string(", ")"⟩
  publicKeyLiteral := ⟨"solana::PublicKey(", ")"⟩
  tupleLiteral := ⟨"std::make_tuple(", ")"⟩
  presentLiteral := ⟨"std::make_optional(", ")"⟩
  textLiteral := ⟨"", ""⟩
  moduleHeader := .standardModuleHeader
  moduleSource := .standardModuleSource
  scaffold :=
    [⟨fun _ => "CMakeLists.txt", .standardBuild⟩, ⟨fun _ => "vcpkg.json", .standardPackage⟩]

def all : List Flavor := [stl20, unreal5]

def names : List String := all.map (·.name)

/-- The flavor of a name in any case. -/
def find? (name : String) : Option Flavor :=
  let name := Text.lower name
  all.find? (·.name == name)

/-- What is said about a name that no flavor has. -/
def unknownMessage (name : String) : String := "unknown flavor " ++ Text.displayed name

/-- What is proposed when no flavor has the name. -/
def unknownHint : String := "known flavors: " ++ String.intercalate ", " names

end Flavor

end ClientGen
