import ClientGen.Render.Page
/-!
# Headers of instructions

An instruction becomes a struct of its accounts, a struct of its serialised data and a class whose
constructor fills both. The parameters of the constructor are the accounts, the flags that tell
whether an account signs, the arguments that have no default, and those that have one.
-/
namespace ClientGen.Render

open ClientGen.Idl ClientGen.Cpp

/-- How an argument gets its value. -/
inductive ArgumentRole where
  /-- From its literal default alone: the caller does not see it. -/
  | preset
  | required
  /-- From the caller, or else from the default. -/
  | optional (value : String)
deriving DecidableEq, Repr

/-- An argument in the generated code. -/
structure Argument where
  field : String
  parameter : String
  type : String
  role : ArgumentRole
  includes : IncludeSet

/-- The name of the parameter for an argument; a name that an account also has is marked. -/
def parameterName (conflicts : List String) (name : String) : String :=
  if conflicts.contains name then name ++ "_arg" else Naming.camel name

/-- Renders an argument of the instruction whose data struct is named `data`. -/
def renderArgument (r : Renderer) (conflicts : List String) (data : String) (a : ArgumentNode) :
    Generated Argument := do
  let ctx := { Context.root (data ++ Naming.pascal a.name) with nested := true }
  let m ← Generated.inside (.argument a.name) (lower r.target ctx a.type)
  let m := m.materialize r.target
  let field := Naming.pascal a.name
  let parameter := parameterName conflicts a.name
  match a.defaultValue.filter (·.isLiteral) with
  | none => return ⟨field, parameter, m.type, .required, m.includes⟩
  | some value =>
    let l ← Generated.inside (.argumentDefault a.name) (literal r.target false value)
    if a.strategy == omittedStrategy then return ⟨field, parameter, m.type, .preset, .empty⟩
    else return ⟨field, parameter, m.type, .optional l.text, m.includes.merge l.includes⟩

def renderArguments (r : Renderer) (conflicts : List String) (data : String) :
    List ArgumentNode → Generated (List Argument)
  | [] => .ok []
  | a :: rest => do
    let first ← renderArgument r conflicts data a
    return first :: (← renderArguments r conflicts data rest)

def accountName (a : InstructionAccountNode) : String := Naming.pascal a.name

/-- What tells whether an account signs: a flag of the caller, or a fixed truth value. -/
def signerText (a : InstructionAccountNode) : String :=
  match a.signer with
  | .never => "false"
  | .always => "true"
  | .either => accountName a ++ "IsSigner"

def accountParameters (r : Renderer) (accounts : List InstructionAccountNode) : List String :=
  accounts.map fun a => r.flavor.publicKey.spelling ++ " " ++ accountName a

/-- The parameters for the flags of accounts that may sign or not. -/
def signerParameters (accounts : List InstructionAccountNode) : List String :=
  (accounts.filter (·.signer == .either)).map fun a => "bool " ++ signerText a

def requiredParameter? (a : Argument) : Option String :=
  match a.role with
  | .required => some (a.type ++ " " ++ a.parameter)
  | _ => none

def optionalParameter? (a : Argument) : Option String :=
  match a.role with
  | .optional value => some (a.type ++ " " ++ a.parameter ++ " = " ++ value)
  | _ => none

/-- The parameters of the constructor. -/
def constructorParameters (r : Renderer) (accounts : List InstructionAccountNode)
    (arguments : List Argument) : List String :=
  accountParameters r accounts ++ signerParameters accounts
    ++ arguments.filterMap requiredParameter? ++ arguments.filterMap optionalParameter?

def accountsStruct (r : Renderer) (name : String) (accounts : List InstructionAccountNode) :
    String :=
  "// Accounts.\nstruct " ++ r.flavor.structName (name ++ "Accounts") ++ "\n\x7b"
    ++ String.join (accounts.map fun a =>
      bodyDocs a.docs ++ "\n\t" ++ r.flavor.accountMeta.spelling ++ " " ++ accountName a ++ ";")
    ++ "\n\x7d;"

/-- The line that adds an account to the instruction. -/
def accountLine (r : Renderer) (a : InstructionAccountNode) : String :=
  "\n\t\tAccounts." ++ r.flavor.appendCall ++ "(" ++ r.flavor.accountMeta.spelling ++ "("
    ++ accountName a ++ ", " ++ signerText a ++ ", " ++ (if a.isWritable then "true" else "false")
    ++ "));"

/-- The line that hands an argument to the data, unless it is preset. -/
def assignmentLine (a : Argument) : String :=
  if a.role == .preset then "" else "\n\t\tArgs." ++ a.field ++ " = " ++ a.parameter ++ ";"

def instructionClass (r : Renderer) (program : ProgramNode) (name : String)
    (accounts : List InstructionAccountNode) (arguments : List Argument) (data : String) :
    String :=
  let cls := r.flavor.structName (name ++ "Instruction")
  "struct " ++ cls ++ " : " ++ r.flavor.instruction.spelling ++ "\n\x7b\n\t" ++ cls ++ "("
    ++ String.intercalate ", " (constructorParameters r accounts arguments) ++ ")\n\t\x7b\n\t\t"
    ++ "ProgramId = " ++ programConstant program ++ ";" ++ String.join (accounts.map (accountLine r))
    ++ "\n\t\t" ++ data ++ " Args;" ++ String.join (arguments.map assignmentLine)
    ++ "\n\t\tData = BorshSerialize(Args);\n\t\x7d\n\x7d;"

def instructionPage (r : Renderer) (program : ProgramNode) (ix : InstructionNode)
    (arguments : List Argument) (decl : TopLevel) (includes : IncludeSet) : String :=
  let name := Naming.pascal ix.name
  headerTop ++ r.includeBlock includes ++ "\n\n" ++ accountsStruct r name ix.accounts
    ++ nestedBlock decl.nested ++ "\n\n" ++ decl.text ++ decl.serializerBlock ++ "\n\n"
    ++ docBlock ix.docs ++ instructionClass r program name ix.accounts arguments decl.name ++ "\n"

def renderInstruction (r : Renderer) (program : ProgramNode) (ix : InstructionNode) :
    Generated FileMap := do
  let name := Naming.pascal ix.name
  let data := name ++ "InstructionData"
  let arguments ← renderArguments r ix.conflicts data ix.arguments
  let type := TypeNode.struct ix.data
  let m ← Generated.inside .instructionData
    (lower r.target { Context.root data with assignable := true } type)
  let decl := declare r.target data type m
  let includes :=
    ((IncludeSet.empty.mergeAll (arguments.map (·.includes))).merge decl.includes).addAll
      [r.flavor.accountMeta.header, r.flavor.instruction.header, r.flavor.publicKey.header,
        r.programsHeader, borshHeader]
  return FileMap.empty.add (r.headerPath "Instructions" name)
    (instructionPage r program ix arguments decl
      (includes.erase (r.header "Instructions" name)))

end ClientGen.Render
