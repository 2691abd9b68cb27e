import ClientGen.Idl.Root
import ClientGen.Json.Fields
/-!
# The canonical form of a document

Every node of a document is written as an object with its kind and with all the members that nodes
of its kind can have, in one order and without blanks. What is missing is written as null.

A document can be expressed in this form if the byte order of every number and the encoding of every
string is given, integers fit sixty-four bits, numbers of values are numbers of JSON and the values
of enums say which enum they are of.
-/
namespace ClientGen.Idl

open ClientGen.Json

/-! ### Members -/

/-- The names of the members of nodes. -/
inductive Key where
  | kind
  | standard
  | version
  | program
  | additionalPrograms
  | name
  | publicKey
  | origin
  | docs
  | accounts
  | instructions
  | definedTypes
  | pdas
  | errors
  | internal
  | data
  | pda
  | size
  | arguments
  | subInstructions
  | isWritable
  | isSigner
  | isOptional
  | defaultValue
  | defaultValueStrategy
  | type
  | seeds
  | value
  | code
  | message
  | format
  | endian
  | encoding
  | lengthPrefix
  | item
  | items
  | count
  | fixed
  | fields
  | variants
  | discriminator
  | struct
  | tuple
  | key
  | number
  | decimals
  | unit
  | entries
  | enum
  | variant
  | boolean
  | string
  | identifier
deriving DecidableEq, Repr

@[reducible] def Key.text : Key → String
  | .kind => "kind"
  | .standard => "standard"
  | .version => "version"
  | .program => "program"
  | .additionalPrograms => "additionalPrograms"
  | .name => "name"
  | .publicKey => "publicKey"
  | .origin => "origin"
  | .docs => "docs"
  | .accounts => "accounts"
  | .instructions => "instructions"
  | .definedTypes => "definedTypes"
  | .pdas => "pdas"
  | .errors => "errors"
  | .internal => "internal"
  | .data => "data"
  | .pda => "pda"
  | .size => "size"
  | .arguments => "arguments"
  | .subInstructions => "subInstructions"
  | .isWritable => "isWritable"
  | .isSigner => "isSigner"
  | .isOptional => "isOptional"
  | .defaultValue => "defaultValue"
  | .defaultValueStrategy => "defaultValueStrategy"
  | .type => "type"
  | .seeds => "seeds"
  | .value => "value"
  | .code => "code"
  | .message => "message"
  | .format => "format"
  | .endian => "endian"
  | .encoding => "encoding"
  | .lengthPrefix => "prefix"
  | .item => "item"
  | .items => "items"
  | .count => "count"
  | .fixed => "fixed"
  | .fields => "fields"
  | .variants => "variants"
  | .discriminator => "discriminator"
  | .struct => "struct"
  | .tuple => "tuple"
  | .key => "key"
  | .number => "number"
  | .decimals => "decimals"
  | .unit => "unit"
  | .entries => "entries"
  | .enum => "enum"
  | .variant => "variant"
  | .boolean => "boolean"
  | .string => "string"
  | .identifier => "identifier"

/-- The members of an object. -/
def record (fields : List (Key × Value)) : List Member :=
  fields.map fun field => Member.of field.1.text field.2

/-- A node of a kind. -/
def node (kind : String) (fields : List (Key × Value)) : Value :=
  .object (record ((.kind, .string kind) :: fields))

def textsValue (texts : List String) : Value := .array (texts.map .string)

def intValue (i : Int) : Value := .number (Text.decimalText i)

def intValue? : Option Int → Value
  | none => .null
  | some i => intValue i

/-- A link to something of a name. -/
def linkValue? (kind : String) : Option String → Value
  | none => .null
  | some name => node kind [(.name, .string name)]

/-! ### Types and values -/

mutual

def TypeNode.canonical : TypeNode → Value
  | .number type =>
    node (TypeKind.name .number) [(.format, .string type.format), (.endian, .string type.endian)]
  | .boolean size => node (TypeKind.name .boolean) [(.size, size.canonical)]
  | .fixedSize size type =>
    node (TypeKind.name .fixedSize) [(.size, intValue size), (.type, type.canonical)]
  | .sizePrefix length type =>
    node (TypeKind.name .sizePrefix) [(.lengthPrefix, length.canonical), (.type, type.canonical)]
  | .bytes => node (TypeKind.name .bytes) []
  | .string encoding => node (TypeKind.name .string) [(.encoding, .string encoding)]
  | .array item count =>
    node (TypeKind.name .array) [(.item, item.canonical), (.count, count.canonical)]
  | .option item flag fixed =>
    node (TypeKind.name .option)
      [(.item, item.canonical), (.lengthPrefix, flag.canonical), (.fixed, .bool fixed)]
  | .struct fields => node (TypeKind.name .struct) [(.fields, .array (canonicalFields fields))]
  | .field field => field.canonical
  | .enum variants size =>
    node (TypeKind.name .enum)
      [(.variants, .array (canonicalVariants variants)), (.size, size.canonical)]
  | .variant variant => variant.canonical
  | .map key value count =>
    node (TypeKind.name .map)
      [(.key, key.canonical), (.value, value.canonical), (.count, count.canonical)]
  | .set item count =>
    node (TypeKind.name .set) [(.item, item.canonical), (.count, count.canonical)]
  | .tuple items => node (TypeKind.name .tuple) [(.items, .array (canonicalTypes items))]
  | .publicKey => node (TypeKind.name .publicKey) []
  | .link name => node (TypeKind.name .link) [(.name, .string name)]
  | .amount number decimals unit =>
    node (TypeKind.name .amount)
      [(.number, number.canonical), (.decimals, intValue decimals), (.unit, .string unit)]
  | .solAmount number => node (TypeKind.name .solAmount) [(.number, number.canonical)]
  | .dateTime number => node (TypeKind.name .dateTime) [(.number, number.canonical)]

def canonicalTypes : List TypeNode → List Value
  | [] => []
  | type :: rest => type.canonical :: canonicalTypes rest

def CountNode.canonical : CountNode → Value
  | .fixed value => node (CountKind.name .fixed) [(.value, intValue value)]
  | .prefixed number => node (CountKind.name .prefixed) [(.lengthPrefix, number.canonical)]
  | .remainder => node (CountKind.name .remainder) []

def FieldNode.canonical : FieldNode → Value
  | ⟨name, type, docs, defaultValue, strategy⟩ =>
    node (TypeKind.name .field)
      [(.name, .string name), (.type, type.canonical), (.docs, textsValue docs),
        (.defaultValue, canonicalValue? defaultValue), (.defaultValueStrategy, .string strategy)]

def canonicalFields : List FieldNode → List Value
  | [] => []
  | field :: rest => field.canonical :: canonicalFields rest

def VariantNode.canonical : VariantNode → Value
  | .empty name discriminator =>
    node (TypeKind.name .emptyVariant)
      [(.name, .string name), (.discriminator, intValue? discriminator)]
  | .tuple name type discriminator =>
    node (TypeKind.name .tupleVariant)
      [(.name, .string name), (.tuple, type.canonical), (.discriminator, intValue? discriminator)]
  | .struct name type discriminator =>
    node (TypeKind.name .structVariant)
      [(.name, .string name), (.struct, type.canonical), (.discriminator, intValue? discriminator)]

def canonicalVariants : List VariantNode → List Value
  | [] => []
  | variant :: rest => variant.canonical :: canonicalVariants rest

def ValueNode.canonical : ValueNode → Value
  | .array items => node (ValueKind.name .array) [(.items, .array (canonicalValues items))]
  | .boolean value => node (ValueKind.name .boolean) [(.boolean, .bool value)]
  | .bytes data encoding =>
    node (ValueKind.name .bytes) [(.data, .string data), (.encoding, .string encoding)]
  | .constant type value =>
    node (ValueKind.name .constant) [(.type, type.canonical), (.value, value.canonical)]
  | .enum link variant payload =>
    node (ValueKind.name .enum)
      [(.enum, linkValue? (TypeKind.name .link) link), (.variant, .string variant),
        (.value, canonicalValue? payload)]
  | .map entries => node (ValueKind.name .map) [(.entries, .array (canonicalEntries entries))]
  | .entry entry => entry.canonical
  | .absent => node (ValueKind.name .absent) []
  | .number text => node (ValueKind.name .number) [(.number, .number text)]
  | .publicKey key identifier =>
    node (ValueKind.name .publicKey) [(.publicKey, .string key), (.identifier, .string identifier)]
  | .set items => node (ValueKind.name .set) [(.items, .array (canonicalValues items))]
  | .present value => node (ValueKind.name .present) [(.value, value.canonical)]
  | .string text => node (ValueKind.name .string) [(.string, .string text)]
  | .struct fields =>
    node (ValueKind.name .struct) [(.fields, .array (canonicalValueFields fields))]
  | .field field => field.canonical
  | .tuple items => node (ValueKind.name .tuple) [(.items, .array (canonicalValues items))]
  | .placeholder kind name => node kind.name [(.name, .string name)]

def canonicalValue? : Option ValueNode → Value
  | none => .null
  | some value => value.canonical

def canonicalValues : List ValueNode → List Value
  | [] => []
  | value :: rest => value.canonical :: canonicalValues rest

def EntryNode.canonical : EntryNode → Value
  | ⟨key, value⟩ =>
    node (ValueKind.name .entry) [(.key, key.canonical), (.value, value.canonical)]

def canonicalEntries : List EntryNode → List Value
  | [] => []
  | entry :: rest => entry.canonical :: canonicalEntries rest

def ValueFieldNode.canonical : ValueFieldNode → Value
  | ⟨name, value⟩ =>
    node (ValueKind.name .field) [(.name, .string name), (.value, value.canonical)]

def canonicalValueFields : List ValueFieldNode → List Value
  | [] => []
  | field :: rest => field.canonical :: canonicalValueFields rest

end

/-! ### Programs -/

def SeedNode.canonical : SeedNode → Value
  | .constant type value =>
    node "constantPdaSeedNode" [(.type, type.canonical), (.value, value.canonical)]
  | .variable name docs type =>
    node "variablePdaSeedNode"
      [(.name, .string name), (.docs, textsValue docs), (.type, type.canonical)]

def PdaNode.canonical (pda : PdaNode) : Value :=
  node "pdaNode" [(.name, .string pda.name), (.docs, textsValue pda.docs),
    (.seeds, .array (pda.seeds.map (·.canonical)))]

def AccountNode.canonical (a : AccountNode) : Value :=
  node "accountNode" [(.name, .string a.name), (.docs, textsValue a.docs),
    (.data, a.data.canonical), (.pda, linkValue? "pdaLinkNode" a.pda), (.size, intValue? a.size),
    (.internal, .bool a.isInternal)]

def Signer.canonical : Signer → Value
  | .never => .bool false
  | .always => .bool true
  | .either => .string "either"

def InstructionAccountNode.canonical (a : InstructionAccountNode) : Value :=
  node "instructionAccountNode" [(.name, .string a.name), (.docs, textsValue a.docs),
    (.isWritable, .bool a.isWritable), (.isSigner, a.signer.canonical),
    (.isOptional, .bool a.isOptional), (.defaultValue, canonicalValue? a.defaultValue)]

def ArgumentNode.canonical (a : ArgumentNode) : Value :=
  node "instructionArgumentNode" [(.name, .string a.name), (.docs, textsValue a.docs),
    (.type, a.type.canonical), (.defaultValue, canonicalValue? a.defaultValue),
    (.defaultValueStrategy, .string a.strategy)]

mutual

def InstructionNode.canonical : InstructionNode → Value
  | ⟨name, docs, accounts, arguments, subs, isInternal⟩ =>
    node "instructionNode" [(.name, .string name), (.docs, textsValue docs),
      (.accounts, .array (accounts.map (·.canonical))),
      (.arguments, .array (arguments.map (·.canonical))),
      (.subInstructions, .array (canonicalInstructions subs)), (.internal, .bool isInternal)]

def canonicalInstructions : List InstructionNode → List Value
  | [] => []
  | ix :: rest => ix.canonical :: canonicalInstructions rest

end

def DefinedTypeNode.canonical (d : DefinedTypeNode) : Value :=
  node "definedTypeNode" [(.name, .string d.name), (.docs, textsValue d.docs),
    (.type, d.type.canonical), (.internal, .bool d.isInternal)]

def ErrorNode.canonical (e : ErrorNode) : Value :=
  node "errorNode" [(.name, .string e.name), (.code, intValue e.code),
    (.message, .string e.message), (.docs, textsValue e.docs)]

def ProgramNode.canonical (p : ProgramNode) : Value :=
  node "programNode" [(.name, .string p.name), (.publicKey, .string p.publicKey),
    (.version, .string p.version), (.origin, .string p.origin), (.docs, textsValue p.docs),
    (.accounts, .array (p.accounts.map (·.canonical))),
    (.instructions, .array (canonicalInstructions p.instructions)),
    (.definedTypes, .array (p.definedTypes.map (·.canonical))),
    (.pdas, .array (p.pdas.map (·.canonical))), (.errors, .array (p.errors.map (·.canonical))),
    (.internal, .bool p.isInternal)]

def RootNode.canonical (root : RootNode) : Value :=
  node "rootNode" [(.standard, .string root.standard), (.version, .string root.version),
    (.program, root.program.canonical),
    (.additionalPrograms, .array (root.additionalPrograms.map (·.canonical)))]

/-- The canonical text of a document. -/
def RootNode.canonicalText (root : RootNode) : String := root.canonical.compact

/-! ### What can be expressed -/

def fitsSigned? : Option Int → Bool
  | none => true
  | some i => Text.fitsSigned i

mutual

def TypeNode.isExpressible : TypeNode → Bool
  | .number type => !type.endian.isEmpty
  | .boolean size => size.isExpressible
  | .fixedSize size type => Text.fitsSigned size && type.isExpressible
  | .sizePrefix length type => length.isExpressible && type.isExpressible
  | .bytes => true
  | .string encoding => !encoding.isEmpty
  | .array item count => item.isExpressible && count.isExpressible
  | .option item flag _ => item.isExpressible && flag.isExpressible
  | .struct fields => areExpressibleFields fields
  | .field field => field.isExpressible
  | .enum variants size => areExpressibleVariants variants && size.isExpressible
  | .variant variant => variant.isExpressible
  | .map key value count => key.isExpressible && value.isExpressible && count.isExpressible
  | .set item count => item.isExpressible && count.isExpressible
  | .tuple items => areExpressibleTypes items
  | .publicKey => true
  | .link _ => true
  | .amount number decimals _ => number.isExpressible && Text.fitsSigned decimals
  | .solAmount number => number.isExpressible
  | .dateTime number => number.isExpressible

def areExpressibleTypes : List TypeNode → Bool
  | [] => true
  | type :: rest => type.isExpressible && areExpressibleTypes rest

def CountNode.isExpressible : CountNode → Bool
  | .fixed value => Text.fitsSigned value
  | .prefixed number => number.isExpressible
  | .remainder => true

def FieldNode.isExpressible : FieldNode → Bool
  | ⟨_, type, _, defaultValue, _⟩ => type.isExpressible && isExpressibleValue? defaultValue

def areExpressibleFields : List FieldNode → Bool
  | [] => true
  | field :: rest => field.isExpressible && areExpressibleFields rest

def VariantNode.isExpressible : VariantNode → Bool
  | .empty _ discriminator => fitsSigned? discriminator
  | .tuple _ type discriminator => type.isExpressible && fitsSigned? discriminator
  | .struct _ type discriminator => type.isExpressible && fitsSigned? discriminator

def areExpressibleVariants : List VariantNode → Bool
  | [] => true
  | variant :: rest => variant.isExpressible && areExpressibleVariants rest

def ValueNode.isExpressible : ValueNode → Bool
  | .array items => areExpressibleValues items
  | .boolean _ => true
  | .bytes _ _ => true
  | .constant type value => type.isExpressible && value.isExpressible
  | .enum link _ payload => link.isSome && isExpressibleValue? payload
  | .map entries => areExpressibleEntries entries
  | .entry entry => entry.isExpressible
  | .absent => true
  | .number text => isNumber text
  | .publicKey _ _ => true
  | .set items => areExpressibleValues items
  | .present value => value.isExpressible
  | .string _ => true
  | .struct fields => areExpressibleValueFields fields
  | .field field => field.isExpressible
  | .tuple items => areExpressibleValues items
  | .placeholder _ _ => true

def isExpressibleValue? : Option ValueNode → Bool
  | none => true
  | some value => value.isExpressible

def areExpressibleValues : List ValueNode → Bool
  | [] => true
  | value :: rest => value.isExpressible && areExpressibleValues rest

def EntryNode.isExpressible : EntryNode → Bool
  | ⟨key, value⟩ => key.isExpressible && value.isExpressible

def areExpressibleEntries : List EntryNode → Bool
  | [] => true
  | entry :: rest => entry.isExpressible && areExpressibleEntries rest

def ValueFieldNode.isExpressible : ValueFieldNode → Bool
  | ⟨_, value⟩ => value.isExpressible

def areExpressibleValueFields : List ValueFieldNode → Bool
  | [] => true
  | field :: rest => field.isExpressible && areExpressibleValueFields rest

end

def SeedNode.isExpressible : SeedNode → Bool
  | .constant type value => type.isExpressible && value.isExpressible
  | .variable _ _ type => type.isExpressible

def PdaNode.isExpressible (pda : PdaNode) : Bool := pda.seeds.all (·.isExpressible)

def AccountNode.isExpressible (a : AccountNode) : Bool :=
  a.data.isExpressible && fitsSigned? a.size

def InstructionAccountNode.isExpressible (a : InstructionAccountNode) : Bool :=
  isExpressibleValue? a.defaultValue

def ArgumentNode.isExpressible (a : ArgumentNode) : Bool :=
  a.type.isExpressible && isExpressibleValue? a.defaultValue

mutual

def InstructionNode.isExpressible : InstructionNode → Bool
  | ⟨_, _, accounts, arguments, subs, _⟩ =>
    accounts.all (·.isExpressible) && arguments.all (·.isExpressible)
      && areExpressibleInstructions subs

def areExpressibleInstructions : List InstructionNode → Bool
  | [] => true
  | ix :: rest => ix.isExpressible && areExpressibleInstructions rest

end

def DefinedTypeNode.isExpressible (d : DefinedTypeNode) : Bool := d.type.isExpressible

def ErrorNode.isExpressible (e : ErrorNode) : Bool := Text.fitsSigned e.code

def ProgramNode.isExpressible (p : ProgramNode) : Bool :=
  p.accounts.all (·.isExpressible) && areExpressibleInstructions p.instructions
    && p.definedTypes.all (·.isExpressible) && p.pdas.all (·.isExpressible)
    && p.errors.all (·.isExpressible)

def RootNode.isExpressible (root : RootNode) : Bool := root.programs.all (·.isExpressible)

end ClientGen.Idl
