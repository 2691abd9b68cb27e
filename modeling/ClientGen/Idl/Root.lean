import ClientGen.Idl.Node
/-!
# Programs

A document has a root program and additional programs. A program declares accounts, defined
types, instructions, derived addresses and errors. Instructions may group others.
-/
namespace ClientGen.Idl

/-- A component of a derived address. -/
inductive SeedNode where
  | constant (type : TypeNode) (value : ValueNode)
  | variable (name : String) (docs : List String) (type : TypeNode)

/-- How a program derived address is computed. -/
structure PdaNode where
  name : String
  docs : List String
  seeds : List SeedNode

/-- An account layout that a program owns. -/
structure AccountNode where
  name : String
  docs : List String
  data : TypeNode
  /-- The name of the derived address at which the account lives. -/
  pda : Option String
  size : Option Int
  isInternal : Bool

/-- Whether an account signs the instruction. -/
inductive Signer where
  | never
  | always
  | either
deriving DecidableEq, Repr

/-- An account that an instruction reads or writes. -/
structure InstructionAccountNode where
  name : String
  docs : List String
  isWritable : Bool
  signer : Signer
  isOptional : Bool
  defaultValue : Option ValueNode

/-- A serialised argument of an instruction. -/
structure ArgumentNode where
  name : String
  docs : List String
  type : TypeNode
  defaultValue : Option ValueNode
  strategy : String

/-- An entry point of a program. -/
structure InstructionNode where
  name : String
  docs : List String
  accounts : List InstructionAccountNode
  arguments : List ArgumentNode
  subInstructions : List InstructionNode
  isInternal : Bool

/-- A named type that accounts and instructions share. -/
structure DefinedTypeNode where
  name : String
  docs : List String
  type : TypeNode
  isInternal : Bool

structure ErrorNode where
  name : String
  code : Int
  message : String
  docs : List String
deriving DecidableEq, Repr

/-- A program on the chain and everything it declares. -/
structure ProgramNode where
  name : String
  publicKey : String
  version : String
  origin : String
  docs : List String
  accounts : List AccountNode
  instructions : List InstructionNode
  definedTypes : List DefinedTypeNode
  pdas : List PdaNode
  errors : List ErrorNode
  isInternal : Bool

/-- The top of a document. -/
structure RootNode where
  standard : String
  version : String
  program : ProgramNode
  additionalPrograms : List ProgramNode

/-- The root program and then the additional ones. -/
def RootNode.programs (root : RootNode) : List ProgramNode :=
  root.program :: root.additionalPrograms

mutual

/-- An instruction and everything below it, depth first. With `leavesOnly`, instructions that
group others are left out. -/
def InstructionNode.flatten (leavesOnly : Bool) : InstructionNode → List InstructionNode
  | ⟨name, docs, accounts, arguments, subs, isInternal⟩ =>
    let below := flattenAll leavesOnly subs
    if leavesOnly && !subs.isEmpty then below
    else ⟨name, docs, accounts, arguments, subs, isInternal⟩ :: below

/-- The instructions of a list and everything below them, depth first. -/
def flattenAll (leavesOnly : Bool) : List InstructionNode → List InstructionNode
  | [] => []
  | ix :: rest => ix.flatten leavesOnly ++ flattenAll leavesOnly rest

end

def ProgramNode.allInstructions (program : ProgramNode) (leavesOnly : Bool) :
    List InstructionNode :=
  flattenAll leavesOnly program.instructions

/-- The accounts of every program. -/
def RootNode.accounts (root : RootNode) : List AccountNode := root.programs.flatMap (·.accounts)

def RootNode.definedTypes (root : RootNode) : List DefinedTypeNode :=
  root.programs.flatMap (·.definedTypes)

def RootNode.pdas (root : RootNode) : List PdaNode := root.programs.flatMap (·.pdas)

/-- The instructions of every program with everything below them. -/
def RootNode.instructions (root : RootNode) (leavesOnly : Bool) : List InstructionNode :=
  root.programs.flatMap (·.allInstructions leavesOnly)

def ArgumentNode.field (argument : ArgumentNode) : FieldNode :=
  ⟨argument.name, argument.type, argument.docs, argument.defaultValue, argument.strategy⟩

/-- The struct that the arguments of an instruction are serialised as. -/
def InstructionNode.data (ix : InstructionNode) : List FieldNode := ix.arguments.map (·.field)

/-- Keeps the first occurrence of every element. -/
def firstOccurrences {α : Type} [BEq α] (seen : List α) : List α → List α
  | [] => []
  | a :: rest =>
    if seen.contains a then firstOccurrences seen rest
    else a :: firstOccurrences (a :: seen) rest

/-- The names that an account and an argument share, in the order of the arguments. -/
def InstructionNode.conflicts (ix : InstructionNode) : List String :=
  let accounts := ix.accounts.map (·.name)
  firstOccurrences [] ((ix.arguments.map (·.name)).filter accounts.contains)

/-- What a link can refer to. -/
structure Links where
  pdas : List PdaNode
  definedTypes : List DefinedTypeNode

def RootNode.links (root : RootNode) : Links := ⟨root.pdas, root.definedTypes⟩

def Links.pda? (links : Links) (name : String) : Option PdaNode :=
  links.pdas.find? (·.name == name)

def Links.definedType? (links : Links) (name : String) : Option DefinedTypeNode :=
  links.definedTypes.find? (·.name == name)

end ClientGen.Idl
