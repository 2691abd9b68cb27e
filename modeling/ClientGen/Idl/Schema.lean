import ClientGen.Json.Merge
/-!
# The schema of a document

Which members the entities of a document must and may have. Types and values are only required to
name their kind; the decoder looks into them. Members that the schema does not name are kept. A
member with only one possible value is filled in where it is missing.
-/
namespace ClientGen.Idl

open ClientGen.Json

/-- The parts of a document that the schema describes. -/
inductive Entity where
  | root
  | program
  | account
  | instruction
  | instructionAccount
  | instructionArgument
  | definedType
  | pda
  | error
  /-- A type, a value or a seed. -/
  | node
deriving DecidableEq, Repr

/-- What a member holds. -/
inductive Shape where
  | text
  /-- A text that is not empty. -/
  | name
  | constant (text : String)
  | oneOf (texts : List String)
  | flag
  | flagOr (text : String)
  /-- A whole number that is not negative. -/
  | count
  | countOrNull
  | texts
  | one (entity : Entity)
  | many (entity : Entity)

/-- What happens where a member is missing. -/
inductive Presence where
  | required
  | optional
  /-- The value is put in. -/
  | filled (value : Value)

structure Rule where
  name : String
  shape : Shape
  presence : Presence

/-- A member that must be there. -/
def Rule.must (name : String) (shape : Shape) : Rule := ⟨name, shape, .required⟩

/-- A member that may be missing. -/
def Rule.may (name : String) (shape : Shape) : Rule := ⟨name, shape, .optional⟩

/-- The kind of an entity, which goes without saying. -/
def Rule.kind (kind : String) : Rule := ⟨"kind", .constant kind, .filled (.string kind)⟩

def Entity.rules : Entity → List Rule
  | .root =>
    [.kind "rootNode", ⟨"standard", .text, .filled (.string "codama")⟩, .may "version" .text,
      .must "program" (.one .program),
      ⟨"additionalPrograms", .many .program, .filled (.array [])⟩]
  | .program =>
    [.kind "programNode", .must "name" .name, .must "publicKey" .text, .may "version" .text,
      .may "origin" .text, .may "docs" .texts, .may "accounts" (.many .account),
      .may "instructions" (.many .instruction), .may "definedTypes" (.many .definedType),
      .may "pdas" (.many .pda), .may "errors" (.many .error)]
  | .account =>
    [.kind "accountNode", .must "name" .name, .must "data" (.one .node), .may "size" .countOrNull]
  | .instruction =>
    [.kind "instructionNode", .must "name" .name, .may "accounts" (.many .instructionAccount),
      .may "arguments" (.many .instructionArgument), .may "subInstructions" (.many .instruction)]
  | .instructionAccount =>
    [.kind "instructionAccountNode", .must "name" .name, .must "isWritable" .flag,
      .must "isSigner" (.flagOr "either"), .may "isOptional" .flag]
  | .instructionArgument =>
    [.kind "instructionArgumentNode", .must "name" .name, .must "type" (.one .node),
      .may "defaultValueStrategy" (.oneOf ["omitted", "optional"])]
  | .definedType => [.kind "definedTypeNode", .must "name" .name, .must "type" (.one .node)]
  | .pda => [.kind "pdaNode", .must "name" .name, .may "seeds" (.many .node)]
  | .error =>
    [.kind "errorNode", .must "name" .name, .must "code" .count, .may "message" .text]
  | .node => [.must "kind" .name]

def shapeOf? (rules : List Rule) (name : String) : Option Shape :=
  (rules.find? (·.name == name)).map (·.shape)

/-- Whether a number is whole and not negative. -/
def isCount (number : String) : Bool :=
  match Decimal.parse number with
  | some d => d.isWhole && !d.isNegative
  | none => false

def isText : Value → Bool
  | .string _ => true
  | _ => false

/-- The members that the rules name, in the order of the rules, those that were missing filled in. -/
def ruledMembers (members : List Member) : List Rule → Option (List Member)
  | [] => some []
  | rule :: rules => do
    let rest ← ruledMembers members rules
    match findMember? rule.name members, rule.presence with
    | some value, _ => some (.of rule.name value :: rest)
    | none, .required => none
    | none, .optional => some rest
    | none, .filled value => some (.of rule.name value :: rest)

/-- Puts the members that the rules name in front of the others. -/
def arrange (rules : List Rule) (members : List Member) : Option (List Member) := do
  let ruled ← ruledMembers members rules
  return ruled ++ members.filter fun m => (shapeOf? rules m.name).isNone

mutual

/-- A value that has a shape, with everything filled in. -/
def conform : Shape → Value → Option Value
  | .text, .string s => some (.string s)
  | .name, .string s => if s.isEmpty then none else some (.string s)
  | .constant text, .string s => if s == text then some (.string s) else none
  | .oneOf texts, .string s => if texts.contains s then some (.string s) else none
  | .flag, .bool b => some (.bool b)
  | .flagOr _, .bool b => some (.bool b)
  | .flagOr text, .string s => if s == text then some (.string s) else none
  | .count, .number n => if isCount n then some (.number n) else none
  | .countOrNull, .number n => if isCount n then some (.number n) else none
  | .countOrNull, .null => some .null
  | .texts, .array items => if items.all isText then some (.array items) else none
  | .one entity, .object members =>
    ((conformMembers entity.rules members).bind (arrange entity.rules)).map .object
  | .many entity, .array items => (conformItems entity items).map .array
  | _, _ => none

/-- The items of an array, each of which is an entity. -/
def conformItems (entity : Entity) : List Value → Option (List Value)
  | [] => some []
  | item :: rest => do return (← conform (.one entity) item) :: (← conformItems entity rest)

/-- The members of an object, those that the rules name in their shapes. -/
def conformMembers (rules : List Rule) : List Member → Option (List Member)
  | [] => some []
  | ⟨name, value, _⟩ :: rest => do
    let value ←
      match shapeOf? rules name with
      | none => some value
      | some shape => conform shape value
    return .of name value :: (← conformMembers rules rest)

end

end ClientGen.Idl
