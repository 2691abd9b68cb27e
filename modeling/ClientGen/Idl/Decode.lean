import ClientGen.Idl.DecodeError
import ClientGen.Json.Fields
/-!
# Decoding type and value nodes

A node is an object whose `kind` tells what it is. Before a node is looked at in depth, all the
fields that any kind of node knows must have the right JSON type. A missing node and a null are
the same.
-/
namespace ClientGen.Idl

open ClientGen.Json

/-- The outcome of decoding. -/
abbrev Decoded (α : Type) := Except DecodeError α

/-- Adds a place around the fault of a failed decoding. -/
def Decoded.inside {α : Type} (place : Place) : Decoded α → Decoded α
  | .ok a => .ok a
  | .error cause => .error (.inside place cause)

/-- Requires the members of an object to conform to a record. -/
def requireShape (shape : RecordShape) (members : List Member) : Decoded Unit :=
  if conforms shape members then .ok () else .error .malformed

/-- The members of an object; a null counts as an object without members. -/
def membersOf : Value → Decoded (List Member)
  | .object members => .ok members
  | .null => .ok []
  | _ => .error .malformed

def kindOf (members : List Member) : Decoded String := do
  requireShape [("kind", .text)] members
  let kind := textOf "kind" members
  if kind.isEmpty then .error .noKind else .ok kind

/-- The fields of all kinds of type nodes. -/
def typeShape : RecordShape :=
  [("format", .text), ("endian", .text), ("encoding", .text), ("name", .text), ("size", .any),
   ("type", .any), ("prefix", .any), ("item", .any), ("items", .list), ("count", .any),
   ("fixed", .flag), ("fields", .list), ("docs", .texts), ("defaultValue", .any),
   ("defaultValueStrategy", .text), ("variants", .list), ("discriminator", .int),
   ("struct", .any), ("tuple", .any), ("key", .any), ("value", .any), ("number", .any),
   ("decimals", .int), ("unit", .text)]

/-- The fields of all kinds of value nodes but placeholders. -/
def valueShape : RecordShape :=
  [("items", .list), ("entries", .list), ("fields", .list), ("type", .any), ("value", .any),
   ("key", .any), ("enum", .any), ("variant", .text), ("name", .text), ("boolean", .flag),
   ("number", .number), ("string", .text), ("publicKey", .text), ("identifier", .text),
   ("data", .text), ("encoding", .text)]

/-- The text of a field, or `standard` when it is empty. -/
def textOr (standard : String) (field : String) (members : List Member) : String :=
  let text := textOf field members
  if text.isEmpty then standard else text

/-- The integer in a field that has to be there; a null counts as zero. -/
def requiredInt (field : String) (members : List Member) : Decoded Int :=
  match lastMember? field members with
  | some m =>
    match m.value with
    | .null => .ok 0
    | .number text =>
      match int64? text with
      | some i => .ok i
      | none => .error .malformed
    | _ => .error .malformed
  | none => .error .malformed

/-- The name in a link that has to be there; a null counts as the empty name. -/
def requiredLink (field : String) (members : List Member) : Decoded String :=
  match lastMember? field members with
  | some m => do
    let inner ← membersOf m.value
    requireShape [("name", .text)] inner
    .ok (textOf "name" inner)
  | none => .error .malformed

/-- The type node that flags and sizes have when none is given. -/
def byteType : TypeNode := .number (.little "u8")

def TypeNode.field? : TypeNode → Option FieldNode
  | .field node => some node
  | _ => none

def TypeNode.variant? : TypeNode → Option VariantNode
  | .variant node => some node
  | _ => none

/-- The map entry that a value node is. -/
def ValueNode.entry? : ValueNode → Option EntryNode
  | .entry node => some node
  | _ => none

/-- The struct field that a value node is. -/
def ValueNode.field? : ValueNode → Option ValueFieldNode
  | .field node => some node
  | _ => none

mutual

def decodeType (v : Value) : Decoded TypeNode :=
  match v with
  | .null => .error (.missing .type)
  | .object members => do
    let kind ← kindOf members
    Decoded.inside (.decoding kind) (requireShape typeShape members)
    match TypeKind.ofName? kind with
    | none => .error (.unknownKind .type kind)
    | some .number =>
      return .number ⟨textOf "format" members, textOr littleEndian "endian" members⟩
    | some .boolean =>
      let size ← Decoded.inside (.part kind "size") (decodeTypeOr (lastValue "size" members))
      return .boolean size
    | some .fixedSize =>
      let size ← Decoded.inside (.part kind "size") (requiredInt "size" members)
      let type ← Decoded.inside (.part kind "type") (decodeType (lastValue "type" members))
      return .fixedSize size type
    | some .sizePrefix =>
      let length ← Decoded.inside (.part kind "prefix") (decodeType (lastValue "prefix" members))
      let type ← Decoded.inside (.part kind "type") (decodeType (lastValue "type" members))
      return .sizePrefix length type
    | some .bytes => return .bytes
    | some .string => return .string (textOr "utf8" "encoding" members)
    | some .array =>
      let item ← Decoded.inside (.part kind "item") (decodeType (lastValue "item" members))
      let count ← Decoded.inside (.part kind "count") (decodeCount (lastValue "count" members))
      return .array item count
    | some .option =>
      let item ← Decoded.inside (.part kind "item") (decodeType (lastValue "item" members))
      let flag ← Decoded.inside (.part kind "prefix") (decodeTypeOr (lastValue "prefix" members))
      return .option item flag (flagOf "fixed" members)
    | some .struct =>
      return .struct (← decodeFields kind 0 (listOf "fields" members))
    | some .field =>
      let name := textOf "name" members
      let type ← Decoded.inside (.field name) (decodeType (lastValue "type" members))
      let value ← Decoded.inside (.fieldDefault name)
        (decodeValue? (lastValue "defaultValue" members))
      return .field
        ⟨name, type, textsOf "docs" members, value, textOf "defaultValueStrategy" members⟩
    | some .enum =>
      let variants ← decodeVariants kind 0 (listOf "variants" members)
      let size ← Decoded.inside (.part kind "size") (decodeTypeOr (lastValue "size" members))
      return .enum variants size
    | some .emptyVariant =>
      return .variant (.empty (textOf "name" members) (intOf? "discriminator" members))
    | some .tupleVariant =>
      let name := textOf "name" members
      let type ← Decoded.inside (.variant name) (decodeType (lastValue "tuple" members))
      return .variant (.tuple name type (intOf? "discriminator" members))
    | some .structVariant =>
      let name := textOf "name" members
      let type ← Decoded.inside (.variant name) (decodeType (lastValue "struct" members))
      return .variant (.struct name type (intOf? "discriminator" members))
    | some .map =>
      let key ← Decoded.inside (.part kind "key") (decodeType (lastValue "key" members))
      let value ← Decoded.inside (.part kind "value") (decodeType (lastValue "value" members))
      let count ← Decoded.inside (.part kind "count") (decodeCount (lastValue "count" members))
      return .map key value count
    | some .set =>
      let item ← Decoded.inside (.part kind "item") (decodeType (lastValue "item" members))
      let count ← Decoded.inside (.part kind "count") (decodeCount (lastValue "count" members))
      return .set item count
    | some .tuple => return .tuple (← decodeTypes kind 0 (listOf "items" members))
    | some .publicKey => return .publicKey
    | some .link => return .link (textOf "name" members)
    | some .amount =>
      let number ← Decoded.inside (.part kind "number") (decodeType (lastValue "number" members))
      return .amount number (intOf "decimals" members) (textOf "unit" members)
    | some .solAmount =>
      let number ← Decoded.inside (.part kind "number") (decodeType (lastValue "number" members))
      return .solAmount number
    | some .dateTime =>
      let number ← Decoded.inside (.part kind "number") (decodeType (lastValue "number" members))
      return .dateTime number
  | _ => .error .malformed
termination_by 2 * sizeOf v
decreasing_by
  all_goals
    first
    | exact weight_lastValue_lt _ _
    | exact weight_lastValue_succ_lt _ _
    | exact weight_listOf_lt _ _

/-- Decodes a type node that is a byte when it is missing. -/
def decodeTypeOr (v : Value) : Decoded TypeNode :=
  match v with
  | .null => .ok byteType
  | v => decodeType v
termination_by 2 * sizeOf v + 1
decreasing_by omega

def decodeCount (v : Value) : Decoded CountNode :=
  match v with
  | .null => .error (.missing .count)
  | .object members => do
    let kind ← kindOf members
    match CountKind.ofName? kind with
    | none => .error (.unknownKind .count kind)
    | some .fixed =>
      requireShape [("value", .int)] members
      return .fixed (intOf "value" members)
    | some .prefixed =>
      let number ← Decoded.inside (.part kind "prefix") (decodeType (lastValue "prefix" members))
      return .prefixed number
    | some .remainder => return .remainder
  | _ => .error .malformed
termination_by 2 * sizeOf v
decreasing_by exact weight_lastValue_lt _ _

/-- Decodes the items of a tuple, the first of which has number `index`. -/
def decodeTypes (kind : String) (index : Nat) (items : List Value) : Decoded (List TypeNode) :=
  match items with
  | [] => .ok []
  | v :: rest => do
    let type ← Decoded.inside (.item kind "items" index) (decodeType v)
    return type :: (← decodeTypes kind (index + 1) rest)
termination_by 2 * sizeOf items
decreasing_by all_goals simp only [List.cons.sizeOf_spec]; omega

/-- Decodes the fields of a struct, the first of which has number `index`. -/
def decodeFields (kind : String) (index : Nat) (items : List Value) : Decoded (List FieldNode) :=
  match items with
  | [] => .ok []
  | v :: rest => do
    let place := Place.item kind "fields" index
    let type ← Decoded.inside place (decodeType v)
    match type.field? with
    | none => .error (.misplaced place (TypeKind.name .field) type.kind.name)
    | some node => return node :: (← decodeFields kind (index + 1) rest)
termination_by 2 * sizeOf items
decreasing_by all_goals simp only [List.cons.sizeOf_spec]; omega

/-- Decodes the variants of an enum, the first of which has number `index`. -/
def decodeVariants (kind : String) (index : Nat) (items : List Value) :
    Decoded (List VariantNode) :=
  match items with
  | [] => .ok []
  | v :: rest => do
    let place := Place.item kind "variants" index
    let type ← Decoded.inside place (decodeType v)
    match type.variant? with
    | none => .error (.misplaced place "enum variant" type.kind.name)
    | some node => return node :: (← decodeVariants kind (index + 1) rest)
termination_by 2 * sizeOf items
decreasing_by all_goals simp only [List.cons.sizeOf_spec]; omega

def decodeValue (v : Value) : Decoded ValueNode :=
  match v with
  | .null => .error (.missing .value)
  | .object members => do
    let kind ← kindOf members
    match Placeholder.ofName? kind with
    | some placeholder =>
      requireShape [("name", .text)] members
      return .placeholder placeholder (textOf "name" members)
    | none =>
      Decoded.inside (.decoding kind) (requireShape valueShape members)
      match ValueKind.ofName? kind with
      | none => .error (.unknownKind .value kind)
      | some .array => return .array (← decodeValues kind 0 (listOf "items" members))
      | some .set => return .set (← decodeValues kind 0 (listOf "items" members))
      | some .tuple => return .tuple (← decodeValues kind 0 (listOf "items" members))
      | some .boolean => return .boolean (flagOf "boolean" members)
      | some .bytes => return .bytes (textOf "data" members) (textOf "encoding" members)
      | some .number =>
        let text := numberOf "number" members
        if text.isEmpty then .error .noNumber else return .number text
      | some .string => return .string (textOf "string" members)
      | some .publicKey =>
        return .publicKey (textOf "publicKey" members) (textOf "identifier" members)
      | some .absent => return .absent
      | some .present =>
        let value ← Decoded.inside (.part kind "value") (decodeValue (lastValue "value" members))
        return .present value
      | some .constant =>
        let type ← Decoded.inside (.part kind "type") (decodeType (lastValue "type" members))
        let value ← Decoded.inside (.part kind "value") (decodeValue (lastValue "value" members))
        return .constant type value
      | some .enum =>
        let link ← Decoded.inside (.part kind "enum") (requiredLink "enum" members)
        let payload ← Decoded.inside (.part kind "value")
          (decodeValue? (lastValue "value" members))
        return .enum link (textOf "variant" members) payload
      | some .map => return .map (← decodeEntries kind 0 (listOf "entries" members))
      | some .entry =>
        let key ← Decoded.inside (.part kind "key") (decodeValue (lastValue "key" members))
        let value ← Decoded.inside (.part kind "value") (decodeValue (lastValue "value" members))
        return .entry ⟨key, value⟩
      | some .struct => return .struct (← decodeValueFields kind 0 (listOf "fields" members))
      | some .field =>
        let name := textOf "name" members
        let value ← Decoded.inside (.valueField name) (decodeValue (lastValue "value" members))
        return .field ⟨name, value⟩
  | _ => .error .malformed
termination_by 2 * sizeOf v
decreasing_by
  all_goals
    first
    | exact weight_lastValue_lt _ _
    | exact weight_lastValue_succ_lt _ _
    | exact weight_listOf_lt _ _

def decodeValue? (v : Value) : Decoded (Option ValueNode) :=
  match v with
  | .null => .ok none
  | v => some <$> decodeValue v
termination_by 2 * sizeOf v + 1
decreasing_by omega

/-- Decodes the items of a collection, the first of which has number `index`. -/
def decodeValues (kind : String) (index : Nat) (items : List Value) : Decoded (List ValueNode) :=
  match items with
  | [] => .ok []
  | v :: rest => do
    let value ← Decoded.inside (.item kind "items" index) (decodeValue v)
    return value :: (← decodeValues kind (index + 1) rest)
termination_by 2 * sizeOf items
decreasing_by all_goals simp only [List.cons.sizeOf_spec]; omega

/-- Decodes the entries of a map, the first of which has number `index`. -/
def decodeEntries (kind : String) (index : Nat) (items : List Value) : Decoded (List EntryNode) :=
  match items with
  | [] => .ok []
  | v :: rest => do
    let place := Place.item kind "entries" index
    let value ← Decoded.inside place (decodeValue v)
    match value.entry? with
    | none => .error (.misplaced place (ValueKind.name .entry) value.kindName)
    | some node => return node :: (← decodeEntries kind (index + 1) rest)
termination_by 2 * sizeOf items
decreasing_by all_goals simp only [List.cons.sizeOf_spec]; omega

/-- Decodes the fields of a struct literal, the first of which has number `index`. -/
def decodeValueFields (kind : String) (index : Nat) (items : List Value) :
    Decoded (List ValueFieldNode) :=
  match items with
  | [] => .ok []
  | v :: rest => do
    let place := Place.item kind "fields" index
    let value ← Decoded.inside place (decodeValue v)
    match value.field? with
    | none => .error (.misplaced place (ValueKind.name .field) value.kindName)
    | some node => return node :: (← decodeValueFields kind (index + 1) rest)
termination_by 2 * sizeOf items
decreasing_by all_goals simp only [List.cons.sizeOf_spec]; omega

end

/-- Decodes the text of a single node. An empty text and a bare null are a missing node; a null
with blanks around it is an object without members. -/
def decodeText {α : Type} (decode : Value → Decoded α) (text : String) : Decoded α :=
  if text.isEmpty || text == "null" then decode .null
  else
    match read .replace text with
    | .error fault => .error (.ofReading fault)
    | .ok .null => .error .noKind
    | .ok v => decode v

def decodeTypeText (text : String) : Decoded TypeNode := decodeText decodeType text

def decodeValueText (text : String) : Decoded ValueNode := decodeText decodeValue text

end ClientGen.Idl
