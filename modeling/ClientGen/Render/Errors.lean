import ClientGen.Render.Page
/-!
# Error enums

The errors of a program become an enum in a header, and a source that looks up their messages. An
error without a message takes the words of its name.
-/
namespace ClientGen.Render

open ClientGen.Idl ClientGen.Cpp

def errorText (e : ErrorNode) : String :=
  if e.message.isEmpty then Naming.title e.name else e.message

/-- The name of the enum. -/
def errorEnum (r : Renderer) (program : String) : String :=
  r.flavor.errorMark ++ program ++ "Error"

/-- The head of the function that looks up a message. -/
def lookupHead (r : Renderer) (program : String) : String :=
  r.flavor.charPointer ++ " Get" ++ program ++ "ErrorMessage(" ++ errorEnum r program ++ " Error)"

/-- A quoted text in the generated source. -/
def sourceText (r : Renderer) (text : String) : String :=
  r.flavor.textLiteral.apply (Text.quoted text)

def errorsHeaderPage (r : Renderer) (program : String) (errors : List ErrorNode) : String :=
  headerTop ++ r.includeBlock (.ofPaths [r.flavor.errorsHeader]) ++ "\n\nenum class "
    ++ errorEnum r program ++ " : " ++ r.flavor.numberName "u32" ++ "\n\x7b"
    ++ String.join (errors.map fun e =>
      bodyDocs e.docs ++ "\n\t" ++ Naming.pascal e.name ++ " = " ++ Text.decimalText e.code ++ ",")
    ++ "\n\x7d;\n\n" ++ lookupHead r program ++ ";\n"

def errorsSourcePage (r : Renderer) (program : String) (errors : List ErrorNode) : String :=
  banner ++ r.includeBlock (.ofPaths [r.header "Errors" program]) ++ "\n\n"
    ++ lookupHead r program ++ "\n\x7b\n\tswitch (Error)\n\t\x7b"
    ++ String.join (errors.map fun e =>
      "\n\tcase " ++ errorEnum r program ++ "::" ++ Naming.pascal e.name ++ ":\n\t\treturn "
        ++ sourceText r (errorText e) ++ ";")
    ++ "\n\t\x7d\n\treturn " ++ sourceText r "Unknown error" ++ ";\n\x7d\n"

def renderErrors (r : Renderer) (program : ProgramNode) : FileMap :=
  let name := Naming.pascal program.name
  (FileMap.empty.add (r.headerPath "Errors" name) (errorsHeaderPage r name program.errors)).add
    (r.sourcePath "Errors" name) (errorsSourcePage r name program.errors)

end ClientGen.Render
