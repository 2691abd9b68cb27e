import ClientGen.Render.Page
/-!
# Headers of defined types
-/
namespace ClientGen.Render

open ClientGen.Idl ClientGen.Cpp

def definedTypePage (r : Renderer) (docs : List String) (decl : TopLevel) (includes : IncludeSet) :
    String :=
  headerTop ++ r.includeBlock includes ++ nestedBlock decl.nested ++ "\n\n" ++ docBlock docs
    ++ decl.text ++ decl.serializerBlock ++ "\n"

/-- Renders the header of a defined type, which does not include itself. -/
def renderDefinedType (r : Renderer) (d : DefinedTypeNode) : Generated FileMap := do
  let name := Naming.pascal d.name
  let m ← lower r.target (.root name) d.type
  let decl := declare r.target name d.type m
  let includes := decl.headers.erase (r.target.typeHeader d.name)
  return FileMap.empty.add (r.headerPath "Types" name) (definedTypePage r d.docs decl includes)

end ClientGen.Render
