import ClientGen.Encoding.Base58
import ClientGen.ErrorCode
import ClientGen.Idl.Root
import ClientGen.Naming
import ClientGen.Version
/-!
# Checks of a document

What the schema of a document cannot express: the generated names of one group must differ, the
address of a program must be a public key, versions must be semantic versions, and the errors of a
program must have different codes. Names are compared in the casing that files and types get.
-/
namespace ClientGen.Idl

/-- A group of entities whose generated names must differ. -/
inductive NameGroup where
  | program
  | account
  | definedType
  | pda
  | instruction
  | error
deriving DecidableEq, Repr

def NameGroup.word : NameGroup → String
  | .program => "program"
  | .account => "account"
  | .definedType => "defined type"
  | .pda => "pda"
  | .instruction => "instruction"
  | .error => "error"

def addressSize : Nat := 32

/-- Why a text is not a public key. -/
inductive KeyFault where
  | missing
  | notBase58 (key : String) (fault : Encoding.Base58.Fault)
  | wrongSize (key : String) (size : Nat)
deriving DecidableEq, Repr

def KeyFault.message : KeyFault → String
  | .missing => "missing public key"
  | .notBase58 key fault =>
    "public key " ++ Text.displayed key ++ " is not base58: " ++ fault.message
  | .wrongSize key size =>
    "public key " ++ Text.displayed key ++ " decodes to " ++ size.repr ++ " bytes, want "
      ++ addressSize.repr

def keyFault? (key : String) : Option KeyFault :=
  if key.isEmpty then some .missing
  else
    match Encoding.Base58.decode key with
    | .error fault => some (.notBase58 key fault)
    | .ok bytes =>
      if bytes.length = addressSize then none else some (.wrongSize key bytes.length)

/-- Something wrong with a document. -/
inductive Problem where
  | rootVersion (version : String) (fault : Version.Fault)
  | programVersion (program version : String) (fault : Version.Fault)
  | programKey (program : String) (fault : KeyFault)
  /-- The later of two entities whose generated names are the same. -/
  | sameName (program : String) (group : NameGroup) (first second : String)
  | sameCode (program first second : String) (code : Int)
deriving DecidableEq, Repr

namespace Problem

def code : Problem → ErrorCode
  | .rootVersion .. => .version
  | .programVersion .. => .version
  | .programKey .. => .publicKey
  | .sameName .. => .duplicate
  | .sameCode .. => .duplicate

/-- What two names have in common: they are equal, or their generated names are. -/
def nameClash (group : NameGroup) (first second : String) : String :=
  if first == second then "duplicate " ++ group.word ++ " name " ++ Text.displayed second
  else
    group.word ++ " names " ++ Text.displayed first ++ " and " ++ Text.displayed second
      ++ " both become " ++ Naming.pascal second

def message : Problem → String
  | .rootVersion version fault =>
    "root version " ++ Text.displayed version ++ ": " ++ fault.message
  | .programVersion program version fault =>
    "program " ++ program ++ ": version " ++ Text.displayed version ++ ": " ++ fault.message
  | .programKey program fault => "program " ++ program ++ ": " ++ fault.message
  | .sameName program group first second =>
    (if program.isEmpty then "" else "program " ++ program ++ ": ") ++ nameClash group first second
  | .sameCode program first second code =>
    "program " ++ program ++ ": errors " ++ first ++ " and " ++ second ++ " share code "
      ++ Text.decimalText code

def text (problem : Problem) : String := problem.code.text ++ ": " ++ problem.message

end Problem

/-- What is wrong with a version, if it is given. -/
def versionFault? (version : String) : Option Version.Fault :=
  if version.isEmpty then none
  else
    match Version.parse version with
    | .ok _ => none
    | .error fault => some fault

abbrev SeenNames := List (String × String)

/-- The problem with a name after others, if its generated name was seen. -/
def nameProblem? (program : String) (group : NameGroup) (seen : SeenNames) (name : String) :
    Option Problem :=
  (seen.lookup (Naming.pascal name)).map fun first => .sameName program group first name

/-- Remembers a name; the first name of a generated name stays. -/
def remember (seen : SeenNames) (name : String) : SeenNames :=
  if (seen.lookup (Naming.pascal name)).isSome then seen else (Naming.pascal name, name) :: seen

/-- The problems with the names of a group after others. -/
def nameProblems (program : String) (group : NameGroup) (seen : SeenNames) :
    List String → List Problem
  | [] => []
  | name :: rest =>
    (nameProblem? program group seen name).toList
      ++ nameProblems program group (remember seen name) rest

/-- The problems with the errors of a program after others, for each error first its name and then
its code. -/
def errorProblems (program : String) (seen : SeenNames) (codes : List (Int × String)) :
    List ErrorNode → List Problem
  | [] => []
  | e :: rest =>
    (nameProblem? program .error seen e.name).toList
      ++ match codes.lookup e.code with
        | some first =>
          .sameCode program first e.name e.code
            :: errorProblems program (remember seen e.name) codes rest
        | none => errorProblems program (remember seen e.name) ((e.code, e.name) :: codes) rest

def ProgramNode.problems (p : ProgramNode) : List Problem :=
  ((keyFault? p.publicKey).map (Problem.programKey p.name)).toList
    ++ ((versionFault? p.version).map (Problem.programVersion p.name p.version)).toList
    ++ nameProblems p.name .account [] (p.accounts.map (·.name))
    ++ nameProblems p.name .definedType [] (p.definedTypes.map (·.name))
    ++ nameProblems p.name .pda [] (p.pdas.map (·.name))
    ++ nameProblems p.name .instruction [] ((p.allInstructions false).map (·.name))
    ++ errorProblems p.name [] [] p.errors

def RootNode.problems (root : RootNode) : List Problem :=
  ((versionFault? root.version).map (Problem.rootVersion root.version)).toList
    ++ nameProblems "" .program [] (root.programs.map (·.name))
    ++ root.programs.flatMap (·.problems)

end ClientGen.Idl
