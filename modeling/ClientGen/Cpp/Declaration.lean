import ClientGen.Text.Digits
/-!
# Declarations

Structs and enums of the generated code, and the text they are written as.
-/
namespace ClientGen.Cpp

def splitLines (s : String) : List String := (s.toList.splitOn '\n').map String.ofList

/-- A line of a braced body; an empty one is not indented. -/
def bodyLine (line : String) : String := if line.isEmpty then "\n" else "\t" ++ line ++ "\n"

/-- A head and a braced body, indented by one tab. -/
def block (head : String) (lines : List String) : String :=
  (if head.isEmpty then "" else head ++ "\n") ++ "\x7b\n"
    ++ String.join (lines.flatMap fun l => (splitLines l).map bodyLine) ++ "\x7d"

/-- Documentation as line comments, one for every entry. -/
def docBlock (docs : List String) : String :=
  String.join (docs.map fun d => "// " ++ d ++ "\n")

/-- The declarator of an array. -/
def dimsText (dims : List Int) : String :=
  String.join (dims.map fun d => "[" ++ Text.decimalText d ++ "]")

structure Member where
  docs : List String
  type : String
  name : String
  /-- The lengths of a fixed array, outermost first. -/
  dims : List Int
  /-- The value that the member starts with. -/
  initial : Option String
deriving DecidableEq, Repr

def Member.text (member : Member) : String :=
  docBlock member.docs ++ member.type ++ " " ++ member.name ++ dimsText member.dims
    ++ (match member.initial with
        | some value => " = " ++ value
        | none => "")
    ++ ";"

/-- A variant of an enum. -/
structure Enumerator where
  name : String
  value : Option Int
deriving DecidableEq, Repr

def Enumerator.text (enumerator : Enumerator) : String :=
  enumerator.name
    ++ (match enumerator.value with
        | some value => " = " ++ Text.decimalText value
        | none => "")
    ++ ","

/-- A struct or an enum. -/
inductive Declaration where
  | struct (name : String) (members : List Member)
  | enum (name base : String) (enumerators : List Enumerator)
deriving DecidableEq, Repr

def Declaration.name : Declaration → String
  | .struct name _ => name
  | .enum name _ _ => name

def Declaration.text : Declaration → String
  | .struct name members => block ("struct " ++ name) (members.map (·.text)) ++ ";"
  | .enum name base enumerators =>
    block ("enum class " ++ name ++ " : " ++ base) (enumerators.map (·.text)) ++ ";"

end ClientGen.Cpp
