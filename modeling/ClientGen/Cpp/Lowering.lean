import ClientGen.Cpp.Declaration
import ClientGen.Cpp.Literal
/-!
# Lowering types

A type node becomes the spelling of a C++ type. Structs and enums below the top are hoisted into
declarations of their own, named after the path that leads to them. The length of a fixed array
stays beside the spelling, to be written behind the name of a member, and is folded into the
spelling wherever no name follows.
-/
namespace ClientGen.Cpp

open ClientGen.Idl

/-- The length that an enclosing wrapper gives to the type it wraps. -/
inductive SizeHint where
  | none
  | fixed (size : Int)
  | prefixed (number : NumberType)
deriving DecidableEq, Repr

/-- What a type inherits from the types around it. -/
structure Context where
  /-- The name of the enclosing declaration, or nothing. -/
  parent : String
  /-- Structs and enums are hoisted into declarations of their own. -/
  nested : Bool
  /-- Structs are written as bare bodies. -/
  inlined : Bool
  /-- The length that a wrapper gives to this very type. -/
  size : SizeHint
  /-- Array members are folded, so that they can be assigned. -/
  assignable : Bool
deriving DecidableEq, Repr

/-- The context of a declaration. -/
def Context.root (parent : String) : Context := ⟨parent, false, false, .none, false⟩

/-- The context of a part: the length belongs to the whole and not to its parts. -/
def Context.child (ctx : Context) : Context := { ctx with size := .none }

/-- The outcome of lowering a type. -/
structure Manifest where
  /-- The spelling where the type is used, or a whole declaration at the top. -/
  type : String
  /-- The lengths of a fixed array, outermost first, that are not yet part of the spelling. -/
  dims : List Int
  includes : IncludeSet
  /-- Hoisted declarations, innermost first. -/
  nested : List Declaration

/-- The array declarator that follows the name of a member. -/
def Manifest.suffix (m : Manifest) : String := dimsText m.dims

/-- The manifest of a spelling that needs at most one header. -/
def Manifest.plain (type : String) (header : Option String) : Manifest :=
  ⟨type, [], IncludeSet.ofPaths header.toList, []⟩

/-- Folds the lengths of a fixed array into the spelling. -/
def Manifest.materialize (target : Target) (m : Manifest) : Manifest :=
  if m.dims.isEmpty then m
  else
    { m with
      type := m.dims.foldr (fun n type => target.flavor.arrayOf type n) m.type
      dims := []
      includes := m.includes.add target.flavor.fixedArray.header }

/-- Makes a manifest the argument of a generic type. -/
def Manifest.wrap (target : Target) (outer : GenericType) (m : Manifest) : Manifest :=
  let item := m.materialize target
  { item with
    type := outer.spelling.apply item.type
    includes := item.includes.add outer.header }

def unsupported {α : Type} (construct : Unsupported) : Generated α :=
  .error (.unsupported construct)

/-- Lowers a number. Only little-endian numbers have a counterpart. -/
def lowerNumber (target : Target) (number : NumberType) : Generated Manifest :=
  if number.endian != littleEndian then unsupported (.endianness number.endian number.format)
  else
    match target.flavor.number? number.format with
    | some spelling => .ok (.plain spelling target.flavor.numberHeader)
    | none => unsupported (.numberFormat number.format)

/-- Whether a number is a single little-endian byte. -/
def isByte (number : NumberType) : Bool := number == .little "u8"

/-- Lowers a boolean, which must be stored as a byte. -/
def lowerBoolean (target : Target) (size : TypeNode) : Generated Manifest :=
  if size.number?.any isByte then .ok (.plain target.flavor.bool none)
  else unsupported (.booleanSize size.number?)

/-- The little-endian numbers that may count the items of an array. -/
def isArrayPrefix (number : NumberType) : Bool :=
  number.endian == littleEndian && ["u8", "u16", "u32", "u64"].contains number.format

/-- Lowers an array whose length is stored in front of the items. -/
def prefixedArray (target : Target) (number : Option NumberType) (item : Manifest) :
    Generated Manifest :=
  if number.any isArrayPrefix then .ok (item.wrap target target.flavor.sequence)
  else unsupported (.arrayPrefix number)

def lowerArray (target : Target) (item : Manifest) : CountNode → Generated Manifest
  | .fixed size => .ok { item with dims := size :: item.dims }
  | .prefixed number => prefixedArray target number.number? item
  | .remainder => .ok (item.wrap target target.flavor.sequence)

/-- Lowers bytes as an array of bytes that the length around them counts. -/
def lowerBytes (target : Target) (size : SizeHint) : Generated Manifest := do
  let item ← lowerNumber target (.little "u8")
  match size with
  | .none => return item.wrap target target.flavor.sequence
  | .fixed n => return { item with dims := n :: item.dims }
  | .prefixed number => prefixedArray target (some number) item

/-- Lowers text, which must have its length in front as a little-endian `u32`. -/
def lowerString (target : Target) : SizeHint → Generated Manifest
  | .fixed n => unsupported (.fixedString n)
  | .none => unsupported .unboundedString
  | .prefixed number =>
    if number == .little "u32" then
      .ok (.plain target.flavor.string.spelling (some target.flavor.string.header))
    else unsupported (.stringPrefix number)

/-- Requires the name of an enclosing declaration. -/
def requireParent (what : String) (ctx : Context) : Generated Unit :=
  if ctx.parent.isEmpty then .error (.missingContext what) else .ok ()

def enumeratorOf : VariantNode → Enumerator
  | .empty name discriminator => ⟨Naming.pascal name, discriminator⟩
  | .tuple name _ _ => ⟨Naming.pascal name, none⟩
  | .struct name _ _ => ⟨Naming.pascal name, none⟩

/-- Lowers an enum, all of whose variants must be empty. -/
def lowerEnum (target : Target) (variants : List VariantNode) (size : TypeNode) (ctx : Context) :
    Generated Manifest := do
  requireParent "enum" ctx
  if !isScalar variants then unsupported (.dataEnum ctx.parent)
  else
    match size.number? with
    | none => unsupported (.enumSize none)
    | some number =>
      if number.endian != littleEndian then unsupported (.enumSize (some number))
      else
        match target.flavor.number? number.format with
        | none => unsupported (.enumSize (some number))
        | some base =>
          let name := target.flavor.structName ctx.parent
          let decl := Declaration.enum name base (variants.map enumeratorOf)
          let includes := IncludeSet.ofPaths target.flavor.numberHeader.toList
          if ctx.nested then return ⟨name, [], includes, [decl]⟩
          else return ⟨decl.text, [], includes, []⟩

structure LoweredFields where
  members : List Member
  includes : IncludeSet
  nested : List Declaration

structure LoweredField where
  member : Member
  includes : IncludeSet
  nested : List Declaration

/-- The struct that lowered fields make in a context. -/
def structManifest (target : Target) (ctx : Context) (fields : LoweredFields) : Manifest :=
  let name := target.flavor.structName ctx.parent
  let decl := Declaration.struct name fields.members
  if ctx.inlined then
    ⟨block "" (fields.members.map (·.text)), [], fields.includes, fields.nested⟩
  else if ctx.nested then ⟨name, [], fields.includes, fields.nested ++ [decl]⟩
  else ⟨decl.text, [], fields.includes, fields.nested⟩

/-- The value that a field is preset to: a literal default that the caller cannot change. -/
def presetValue (defaultValue : Option ValueNode) (strategy : String) : Option ValueNode :=
  if strategy == omittedStrategy then defaultValue.filter (·.isLiteral) else none

/-- The member of a field whose type has been lowered. A preset member starts with its value and
keeps its declarator; any other member of an assignable struct is folded. -/
def fieldMember (target : Target) (assignable : Bool) (name : String) (docs : List String)
    (preset : Option ValueNode) (m : Manifest) : Generated LoweredField :=
  let pascal := Naming.pascal name
  match preset with
  | some value => do
    let initial ← Generated.inside (.field name) (literal target false value)
    return ⟨⟨docs, m.type, pascal, m.dims, some initial.text⟩, m.includes.merge initial.includes,
      m.nested⟩
  | none =>
    let m := if assignable then m.materialize target else m
    .ok ⟨⟨docs, m.type, pascal, m.dims, none⟩, m.includes, m.nested⟩

def Context.field (ctx : Context) (name : String) : Context :=
  ⟨ctx.parent ++ Naming.pascal name, true, false, .none, false⟩

def Context.item (ctx : Context) (index : Nat) : Context :=
  if ctx.parent.isEmpty then ctx.child
  else { ctx.child with parent := ctx.parent ++ "Item" ++ index.repr }

/-- Writes a variant around the type it carries. -/
def Manifest.asVariant (name : String) (m : Manifest) : Manifest :=
  { m with type := Naming.pascal name ++ " " ++ m.type ++ "," }

mutual

def lower (target : Target) (ctx : Context) : TypeNode → Generated Manifest
  | .number type => lowerNumber target type
  | .amount inner _ _ => lower target ctx inner
  | .solAmount inner => lower target ctx inner
  | .dateTime inner => lower target ctx inner
  | .boolean size => lowerBoolean target size
  | .fixedSize size inner => lower target { ctx with size := .fixed size } inner
  | .sizePrefix length inner =>
    match length.number? with
    | none => unsupported (.sizePrefix length.kind)
    | some number => lower target { ctx with size := .prefixed number } inner
  | .bytes => lowerBytes target ctx.size
  | .string _ => lowerString target ctx.size
  | .array inner count => do
    let item ← lower target ctx.child inner
    lowerArray target item count
  | .option inner flag _ =>
    if flag.number?.any isByte then do
      let item ← lower target ctx.child inner
      return item.wrap target target.flavor.optional
    else unsupported (.optionPrefix flag.number?)
  | .struct fields => do
    requireParent "struct" ctx
    let fields ← lowerFieldsOver target ctx.child .empty fields
    return structManifest target ctx fields
  | .field node => do
    let field ← lowerField target ctx node
    return ⟨field.member.text, [], field.includes, field.nested⟩
  | .enum variants size => lowerEnum target variants size ctx
  | .variant node => lowerVariant target ctx node
  | .tuple items => do
    let (types, includes, nested) ← lowerItems target ctx 0 .empty items
    return ⟨target.flavor.tuple.spelling.apply (String.intercalate ", " types), [],
      includes.add target.flavor.tuple.header, nested⟩
  | .publicKey =>
    .ok (.plain target.flavor.publicKey.spelling (some target.flavor.publicKey.header))
  | .link name =>
    .ok (.plain (target.flavor.structName (Naming.pascal name)) (some (target.typeHeader name)))
  | .map .. => unsupported .mapTypes
  | .set .. => unsupported .setTypes

def lowerField (target : Target) (ctx : Context) : FieldNode → Generated LoweredField
  | ⟨name, type, docs, defaultValue, strategy⟩ => do
    requireParent "struct field" ctx
    let m ← Generated.inside (.field name) (lower target (ctx.field name) type)
    fieldMember target ctx.assignable name docs (presetValue defaultValue strategy) m

/-- Lowers the fields of a struct and joins their headers and hoisted declarations in order. -/
def lowerFieldsOver (target : Target) (ctx : Context) (includes : IncludeSet) :
    List FieldNode → Generated LoweredFields
  | [] => .ok ⟨[], includes, []⟩
  | node :: rest => do
    let first ← lowerField target ctx node
    let fields ← lowerFieldsOver target ctx (includes.merge first.includes) rest
    return ⟨first.member :: fields.members, fields.includes, first.nested ++ fields.nested⟩

/-- Lowers the items of a tuple, the first of which has number `index`. -/
def lowerItems (target : Target) (ctx : Context) (index : Nat) (includes : IncludeSet) :
    List TypeNode → Generated (List String × IncludeSet × List Declaration)
  | [] => .ok ([], includes, [])
  | item :: rest => do
    let m ← lower target (ctx.item index) item
    let first := m.materialize target
    let (types, includes, nested) ←
      lowerItems target ctx (index + 1) (includes.merge first.includes) rest
    return (first.type :: types, includes, first.nested ++ nested)

/-- Lowers a variant that stands alone. -/
def lowerVariant (target : Target) (ctx : Context) : VariantNode → Generated Manifest
  | .empty name discriminator => do
    requireParent "enum variant" ctx
    return .plain (Enumerator.text ⟨Naming.pascal name, discriminator⟩) none
  | .struct name type _ => do
    requireParent "enum struct variant" ctx
    let ctx := { ctx.child with
      parent := ctx.parent ++ Naming.pascal name, inlined := true, nested := false }
    let m ← lower target ctx type
    return m.asVariant name
  | .tuple name type _ => do
    requireParent "enum tuple variant" ctx
    let ctx := { ctx.child with parent := ctx.parent ++ Naming.pascal name, inlined := false }
    let m ← lower target ctx type
    return m.asVariant name

end

def lower? (target : Target) (ctx : Context) : Option TypeNode → Generated Manifest
  | none => unsupported .missingType
  | some type => lower target ctx type

end ClientGen.Cpp
