import ClientGen.Render.Page
/-!
# Headers of accounts

An account becomes the declaration of its data. If its size is known, a constant tells it, and if
it lives at a derived address, a function computes the seeds of that address.
-/
namespace ClientGen.Render

open ClientGen.Idl ClientGen.Cpp

/-- A component of a derived address in the generated code. -/
structure Seed where
  /-- What is turned into bytes. -/
  text : String
  /-- The parameter that supplies a variable seed. -/
  parameter : Option String
  includes : IncludeSet
  /-- Whether the seed is the address of the program. -/
  isProgramId : Bool

/-- The value of a constant seed; a number is written as the bytes of its type. -/
def seedValue (type : TypeNode) (value : ValueNode) : ValueNode :=
  match value with
  | .number _ => if type.number?.isSome then .constant type value else value
  | _ => value

/-- Renders a seed of the account whose name in the generated code is `account`. -/
def renderSeed (r : Renderer) (program : ProgramNode) (account : String) :
    SeedNode → Generated Seed
  | .variable name _ type => do
    let parameter := Naming.pascal name
    let ctx := { Context.root (account ++ parameter) with nested := true }
    let m ← Generated.inside (.seed name) (lower r.target ctx type)
    if !m.nested.isEmpty then unsupported (.structSeed name)
    else
      let m := m.materialize r.target
      return ⟨parameter, some (m.type ++ " " ++ parameter), m.includes, false⟩
  | .constant type value =>
    if value.isProgramId then .ok ⟨programConstant program, none, .empty, true⟩
    else do
      let l ← Generated.inside .constantSeed (literal r.target true (seedValue type value))
      return ⟨l.text, none, l.includes, false⟩

def renderSeeds (r : Renderer) (program : ProgramNode) (account : String) :
    List SeedNode → Generated (List Seed)
  | [] => .ok []
  | node :: rest => do
    let seed ← renderSeed r program account node
    return seed :: (← renderSeeds r program account rest)

/-- The seeds of an account, none if it lives at no derived address. -/
def accountSeeds (r : Renderer) (program : ProgramNode) (a : AccountNode) (links : Links) :
    Generated (List Seed) :=
  match a.pda with
  | none => .ok []
  | some name =>
    match links.pda? name with
    | none => .error (.missingPda name)
    | some pda => renderSeeds r program (Naming.pascal a.name) pda.seeds

/-- Adds the headers that the seeds need. The headers of the seeds themselves count only if one of
them is a parameter. -/
def seedHeaders (r : Renderer) (includes : IncludeSet) (seeds : List Seed) : IncludeSet :=
  let includes :=
    if seeds.any (·.parameter.isSome) then
      includes.merge (IncludeSet.empty.mergeAll (seeds.map (·.includes)))
    else includes
  let includes :=
    if seeds.isEmpty then includes
    else includes.addAll [r.target.moduleHeader, r.flavor.sequence.header]
  if seeds.any (·.isProgramId) then includes.add r.programsHeader else includes

/-- The constant that tells the size of an account. -/
def sizeBlock (r : Renderer) (name : String) : Option Int → String
  | none => ""
  | some size =>
    "\n\nconstexpr " ++ r.flavor.numberName "u64" ++ " " ++ name ++ "Size = "
      ++ Text.decimalText size ++ ";"

/-- The function that computes the seeds of an account. -/
def seedBlock (r : Renderer) (name : String) (seeds : List Seed) : String :=
  if seeds.isEmpty then ""
  else
    let list := r.flavor.sequence.spelling.apply
      (r.flavor.sequence.spelling.apply (r.flavor.numberName "u8"))
    "\n\n// Seeds of the " ++ name ++ " program derived address.\ninline " ++ list ++ " " ++ name
      ++ "Seeds(" ++ String.intercalate ", " (seeds.filterMap (·.parameter)) ++ ")\n\x7b\n\t"
      ++ list ++ " Seeds;"
      ++ String.join (seeds.map fun s =>
        "\n\tSeeds." ++ r.flavor.appendCall ++ "(ToSeed(" ++ s.text ++ "));")
      ++ "\n\treturn Seeds;\n\x7d"

def accountPage (r : Renderer) (a : AccountNode) (decl : TopLevel) (seeds : List Seed)
    (includes : IncludeSet) : String :=
  let name := Naming.pascal a.name
  headerTop ++ r.includeBlock includes ++ nestedBlock decl.nested ++ "\n\n" ++ docBlock a.docs
    ++ decl.text ++ decl.serializerBlock ++ sizeBlock r name a.size ++ seedBlock r name seeds ++ "\n"

def renderAccount (r : Renderer) (program : ProgramNode) (links : Links) (a : AccountNode) :
    Generated FileMap := do
  let name := Naming.pascal a.name
  let m ← lower r.target (.root name) a.data
  let decl := declare r.target name a.data m
  let seeds ← accountSeeds r program a links
  let includes := (seedHeaders r decl.headers seeds).erase (r.header "Accounts" name)
  return FileMap.empty.add (r.headerPath "Accounts" name) (accountPage r a decl seeds includes)

end ClientGen.Render
