/-!
# Type and value nodes

The tree of a Codama interface description. A type node tells how bytes are laid out, a count node
how many items a collection holds, and a value node is a literal or a placeholder that the caller
fills in. Struct fields and enum variants are type nodes too, so that they can be lowered alone.
-/
namespace ClientGen.Idl

/-- A fixed-width number: its format, such as `u32`, and its byte order. -/
structure NumberType where
  format : String
  endian : String
deriving DecidableEq, Repr

def littleEndian : String := "le"

def bigEndian : String := "be"

def NumberType.little (format : String) : NumberType := ⟨format, littleEndian⟩

/-- What a placeholder value stands for. -/
inductive Placeholder where
  | programId
  | account
  | argument
  | pda
  | identity
  | payer
  | accountBump
  | resolver
  | conditional
  | programLink
deriving DecidableEq, Repr

mutual

/-- How a value is laid out in bytes. -/
inductive TypeNode where
  | number (type : NumberType)
  | boolean (size : TypeNode)
  /-- Exactly `size` bytes. -/
  | fixedSize (size : Int) (type : TypeNode)
  /-- The length of `type`, written as the number `length`, and then `type`. -/
  | sizePrefix (length type : TypeNode)
  /-- Bytes whose number an enclosing wrapper tells. -/
  | bytes
  /-- Text whose length an enclosing wrapper tells. -/
  | string (encoding : String)
  | array (item : TypeNode) (count : CountNode)
  /-- A flag of type `flag` and then the item. -/
  | option (item flag : TypeNode) (fixed : Bool)
  | struct (fields : List FieldNode)
  | field (node : FieldNode)
  | enum (variants : List VariantNode) (size : TypeNode)
  | variant (node : VariantNode)
  | map (key value : TypeNode) (count : CountNode)
  | set (item : TypeNode) (count : CountNode)
  | tuple (items : List TypeNode)
  | publicKey
  | link (name : String)
  | amount (number : TypeNode) (decimals : Int) (unit : String)
  | solAmount (number : TypeNode)
  | dateTime (number : TypeNode)

/-- How many items a collection holds. -/
inductive CountNode where
  | fixed (value : Int)
  | prefixed (number : TypeNode)
  | remainder

structure FieldNode where
  name : String
  type : TypeNode
  docs : List String
  defaultValue : Option ValueNode
  strategy : String

inductive VariantNode where
  | empty (name : String) (discriminator : Option Int)
  | tuple (name : String) (type : TypeNode) (discriminator : Option Int)
  | struct (name : String) (type : TypeNode) (discriminator : Option Int)

/-- A literal, or a placeholder for a value known at the call only. -/
inductive ValueNode where
  | array (items : List ValueNode)
  | boolean (value : Bool)
  | bytes (data encoding : String)
  | constant (type : TypeNode) (value : ValueNode)
  | enum (link : Option String) (variant : String) (payload : Option ValueNode)
  | map (entries : List EntryNode)
  | entry (node : EntryNode)
  | absent
  /-- A number as the text it was written as. -/
  | number (text : String)
  | publicKey (key identifier : String)
  | set (items : List ValueNode)
  | present (value : ValueNode)
  | string (text : String)
  | struct (fields : List ValueFieldNode)
  | field (node : ValueFieldNode)
  | tuple (items : List ValueNode)
  | placeholder (kind : Placeholder) (name : String)

/-- A key and its value in a map literal. -/
structure EntryNode where
  key : ValueNode
  value : ValueNode

structure ValueFieldNode where
  name : String
  value : ValueNode

end

def VariantNode.name : VariantNode → String
  | .empty name _ => name
  | .tuple name _ _ => name
  | .struct name _ _ => name

/-- Whether a variant carries no data. -/
def VariantNode.isEmpty : VariantNode → Bool
  | .empty .. => true
  | _ => false

inductive TypeKind where
  | number
  | boolean
  | fixedSize
  | sizePrefix
  | bytes
  | string
  | array
  | option
  | struct
  | field
  | enum
  | emptyVariant
  | tupleVariant
  | structVariant
  | map
  | set
  | tuple
  | publicKey
  | link
  | amount
  | solAmount
  | dateTime
deriving DecidableEq, Repr

/-- The name of a kind of type node in a document. -/
def TypeKind.name : TypeKind → String
  | .number => "numberTypeNode"
  | .boolean => "booleanTypeNode"
  | .fixedSize => "fixedSizeTypeNode"
  | .sizePrefix => "sizePrefixTypeNode"
  | .bytes => "bytesTypeNode"
  | .string => "stringTypeNode"
  | .array => "arrayTypeNode"
  | .option => "optionTypeNode"
  | .struct => "structTypeNode"
  | .field => "structFieldTypeNode"
  | .enum => "enumTypeNode"
  | .emptyVariant => "enumEmptyVariantTypeNode"
  | .tupleVariant => "enumTupleVariantTypeNode"
  | .structVariant => "enumStructVariantTypeNode"
  | .map => "mapTypeNode"
  | .set => "setTypeNode"
  | .tuple => "tupleTypeNode"
  | .publicKey => "publicKeyTypeNode"
  | .link => "definedTypeLinkNode"
  | .amount => "amountTypeNode"
  | .solAmount => "solAmountTypeNode"
  | .dateTime => "dateTimeTypeNode"

def TypeKind.all : List TypeKind :=
  [.number, .boolean, .fixedSize, .sizePrefix, .bytes, .string, .array, .option, .struct, .field,
   .enum, .emptyVariant, .tupleVariant, .structVariant, .map, .set, .tuple, .publicKey, .link,
   .amount, .solAmount, .dateTime]

def TypeKind.ofName? (name : String) : Option TypeKind := all.find? (·.name == name)

inductive CountKind where
  | fixed
  | prefixed
  | remainder
deriving DecidableEq, Repr

/-- The name of a kind of count node in a document. -/
def CountKind.name : CountKind → String
  | .fixed => "fixedCountNode"
  | .prefixed => "prefixedCountNode"
  | .remainder => "remainderCountNode"

def CountKind.ofName? (name : String) : Option CountKind :=
  [fixed, prefixed, remainder].find? (·.name == name)

/-- The name of a kind of placeholder in a document. -/
def Placeholder.name : Placeholder → String
  | .programId => "programIdValueNode"
  | .account => "accountValueNode"
  | .argument => "argumentValueNode"
  | .pda => "pdaValueNode"
  | .identity => "identityValueNode"
  | .payer => "payerValueNode"
  | .accountBump => "accountBumpValueNode"
  | .resolver => "resolverValueNode"
  | .conditional => "conditionalValueNode"
  | .programLink => "programLinkNode"

def Placeholder.all : List Placeholder :=
  [.programId, .account, .argument, .pda, .identity, .payer, .accountBump, .resolver,
   .conditional, .programLink]

def Placeholder.ofName? (name : String) : Option Placeholder := all.find? (·.name == name)

/-- The kind of a value node that is not a placeholder. -/
inductive ValueKind where
  | array
  | boolean
  | bytes
  | constant
  | enum
  | map
  | entry
  | absent
  | number
  | publicKey
  | set
  | present
  | string
  | struct
  | field
  | tuple
deriving DecidableEq, Repr

/-- The name of a kind of value node in a document. -/
def ValueKind.name : ValueKind → String
  | .array => "arrayValueNode"
  | .boolean => "booleanValueNode"
  | .bytes => "bytesValueNode"
  | .constant => "constantValueNode"
  | .enum => "enumValueNode"
  | .map => "mapValueNode"
  | .entry => "mapEntryValueNode"
  | .absent => "noneValueNode"
  | .number => "numberValueNode"
  | .publicKey => "publicKeyValueNode"
  | .set => "setValueNode"
  | .present => "someValueNode"
  | .string => "stringValueNode"
  | .struct => "structValueNode"
  | .field => "structFieldValueNode"
  | .tuple => "tupleValueNode"

/-- Every kind of value node that is not a placeholder. -/
def ValueKind.all : List ValueKind :=
  [.array, .boolean, .bytes, .constant, .enum, .map, .entry, .absent, .number, .publicKey, .set,
   .present, .string, .struct, .field, .tuple]

def ValueKind.ofName? (name : String) : Option ValueKind := all.find? (·.name == name)

def VariantNode.kind : VariantNode → TypeKind
  | .empty .. => .emptyVariant
  | .tuple .. => .tupleVariant
  | .struct .. => .structVariant

def TypeNode.kind : TypeNode → TypeKind
  | .number _ => .number
  | .boolean _ => .boolean
  | .fixedSize .. => .fixedSize
  | .sizePrefix .. => .sizePrefix
  | .bytes => .bytes
  | .string _ => .string
  | .array .. => .array
  | .option .. => .option
  | .struct _ => .struct
  | .field _ => .field
  | .enum .. => .enum
  | .variant node => node.kind
  | .map .. => .map
  | .set .. => .set
  | .tuple _ => .tuple
  | .publicKey => .publicKey
  | .link _ => .link
  | .amount .. => .amount
  | .solAmount _ => .solAmount
  | .dateTime _ => .dateTime

def CountNode.kind : CountNode → CountKind
  | .fixed _ => .fixed
  | .prefixed _ => .prefixed
  | .remainder => .remainder

/-- The name that the kind of a value node has in a document. -/
def ValueNode.kindName : ValueNode → String
  | .array _ => ValueKind.name .array
  | .boolean _ => ValueKind.name .boolean
  | .bytes .. => ValueKind.name .bytes
  | .constant .. => ValueKind.name .constant
  | .enum .. => ValueKind.name .enum
  | .map _ => ValueKind.name .map
  | .entry _ => ValueKind.name .entry
  | .absent => ValueKind.name .absent
  | .number _ => ValueKind.name .number
  | .publicKey .. => ValueKind.name .publicKey
  | .set _ => ValueKind.name .set
  | .present _ => ValueKind.name .present
  | .string _ => ValueKind.name .string
  | .struct _ => ValueKind.name .struct
  | .field _ => ValueKind.name .field
  | .tuple _ => ValueKind.name .tuple
  | .placeholder kind _ => kind.name

/-- Whether a value can be written as a literal of the source. -/
def ValueNode.isLiteral : ValueNode → Bool
  | .placeholder .. => false
  | _ => true

/-- Whether a value stands for the address of the program. -/
def ValueNode.isProgramId : ValueNode → Bool
  | .placeholder .programId _ => true
  | _ => false

/-- The number below any wrappers for size, amount and time, if the type is a number. -/
def TypeNode.number? : TypeNode → Option NumberType
  | .number type => some type
  | .fixedSize _ type => type.number?
  | .sizePrefix _ type => type.number?
  | .amount inner _ _ => inner.number?
  | .solAmount inner => inner.number?
  | .dateTime inner => inner.number?
  | _ => none

/-- Whether every variant of an enum is empty. -/
def isScalar (variants : List VariantNode) : Bool := variants.all (·.isEmpty)

/-- The strategy that hides an argument behind its default value. -/
def omittedStrategy : String := "omitted"

/-- Whether a default value can be written as a literal. -/
def hasLiteral (defaultValue : Option ValueNode) : Bool := defaultValue.any (·.isLiteral)

end ClientGen.Idl
