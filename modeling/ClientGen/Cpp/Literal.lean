import ClientGen.Cpp.Error
import ClientGen.Flavor
import ClientGen.IncludeSet
import ClientGen.Naming
/-!
# Literals

Values of the description as expressions of C++. A byte string becomes the list of its bytes,
whatever encoding the description writes it in. Placeholders have no literal.
-/
namespace ClientGen.Cpp

open ClientGen.Idl

/-- What is generated for: a dialect, and the name of the module. -/
structure Target where
  flavor : Flavor
  plugin : String

/-- An expression and the headers it needs. -/
structure Literal where
  text : String
  includes : IncludeSet

def Literal.plain (text : String) : Literal := ⟨text, .empty⟩

/-- Checks that a key is thirty-two bytes in base 58. -/
def checkPublicKey (key : String) : Except InvalidValue Unit :=
  match Encoding.Base58.decode key with
  | .error fault => .error (.keyNotBase58 key fault)
  | .ok bytes =>
    if bytes.length = publicKeySize then .ok () else .error (.keySize key bytes.length)

/-- The bytes that a text denotes in an encoding; a text without encoding is taken as it is. -/
def bytesOf (encoding data : String) : Generated (List UInt8) :=
  if encoding == "utf8" || encoding == "" then .ok data.toUTF8.toList
  else if encoding == "base16" then
    (Encoding.Base16.decode data).mapError fun fault => .invalidValue (.base16 data fault)
  else if encoding == "base58" then
    (Encoding.Base58.decode data).mapError fun fault => .invalidValue (.base58 data fault)
  else if encoding == "base64" then
    (Encoding.Base64.decode data).mapError fun fault => .invalidValue (.base64 data fault)
  else .error (.unsupported (.bytesEncoding encoding))

def braced (items : List String) : String := "\x7b" ++ String.intercalate ", " items ++ "\x7d"

def bytesLiteral (encoding data : String) : Generated Literal := do
  let bytes ← bytesOf encoding data
  return .plain (braced (bytes.map fun b => b.toNat.repr))

/-- A string. A short one is a bare quoted literal. -/
def stringLiteral (target : Target) (short : Bool) (text : String) : Literal :=
  let quoted := Text.quoted text
  if short then .plain quoted
  else
    ⟨target.flavor.stringLiteral.apply quoted, IncludeSet.ofPaths [target.flavor.string.header]⟩

/-- An address. -/
def publicKeyLiteral (target : Target) (key : String) : Generated Literal :=
  match checkPublicKey key with
  | .error value => .error (.invalidValue value)
  | .ok () =>
    .ok ⟨target.flavor.publicKeyLiteral.apply (Text.quoted key),
      IncludeSet.ofPaths [target.flavor.publicKey.header]⟩

def Target.typeHeader (target : Target) (name : String) : String :=
  target.plugin ++ "/Types/" ++ Naming.pascal name ++ ".h"

def Target.moduleHeader (target : Target) : String := target.plugin ++ ".h"

/-- The bytes of a number in the byte order of its type. -/
def numberBytes (target : Target) (number : NumberType) (text : String) : Generated Literal :=
  match target.flavor.number? number.format with
  | none => .error (.unsupported (.constantFormat number.format))
  | some spelling =>
    let call := if number.endian == bigEndian then "ToBeBytes" else "ToLeBytes"
    .ok ⟨call ++ "<" ++ spelling ++ ">(" ++ text ++ ")",
      IncludeSet.ofPaths [target.moduleHeader]⟩

/-- A value that is serialised as a type: byte strings and strings become the list of their bytes,
and numbers a call to the helper of the module. -/
def constantLiteral (target : Target) (type : TypeNode) (value : ValueNode) : Generated Literal :=
  match type, value with
  | _, .bytes data encoding => bytesLiteral encoding data
  | .string encoding, .string text => bytesLiteral encoding text
  | .publicKey, .publicKey key _ => publicKeyLiteral target key
  | type, .number text =>
    match type.number? with
    | some number => numberBytes target number text
    | none => .error (.unsupported (.constant value.kindName type.kind.name))
  | type, value => .error (.unsupported (.constant value.kindName type.kind.name))

/-- A variant of an enum, followed by its payload if it has one. -/
def variantLiteral (target : Target) (link variant : String) (payload : Option Literal) :
    Literal :=
  let head := target.flavor.structName (Naming.pascal link) ++ "::" ++ Naming.pascal variant
  let includes := IncludeSet.ofPaths [target.typeHeader link]
  match payload with
  | none => ⟨head, includes⟩
  | some inner => ⟨head ++ " " ++ inner.text, includes.merge inner.includes⟩

mutual

/-- A value as an expression. With `short`, strings are bare quoted literals. -/
def literal (target : Target) (short : Bool) : ValueNode → Generated Literal
  | .number text => .ok (.plain text)
  | .boolean value => .ok (.plain (if value then "true" else "false"))
  | .string text => .ok (stringLiteral target short text)
  | .bytes data encoding => bytesLiteral encoding data
  | .array items => do
    let (texts, includes) ← literals target short .empty items
    return ⟨braced texts, includes⟩
  | .tuple items => do
    let (texts, includes) ← literals target short .empty items
    return ⟨target.flavor.tupleLiteral.apply (String.intercalate ", " texts),
      includes.add target.flavor.tuple.header⟩
  | .struct fields => do
    let (texts, includes) ← fieldLiterals target short .empty fields
    if texts.isEmpty then return ⟨"\x7b\x7d", includes⟩
    else return ⟨"\x7b " ++ String.intercalate ", " texts ++ " \x7d", includes⟩
  | .field node => fieldLiteral target short node
  | .enum none _ _ => .error (.unsupported .unlinkedEnum)
  | .enum (some link) variant payload => do
    let inner ← payloadLiteral target short payload
    return variantLiteral target link variant inner
  | .present value => do
    let inner ← literal target short value
    return ⟨target.flavor.presentLiteral.apply inner.text,
      inner.includes.add target.flavor.optional.header⟩
  | .publicKey key _ => publicKeyLiteral target key
  | .constant type value => constantLiteral target type value
  | .map _ => .error (.unsupported .mapValues)
  | .entry _ => .error (.unsupported .entryValues)
  | .set _ => .error (.unsupported .setValues)
  | .absent => .error (.unsupported .absentValues)
  | .placeholder kind _ => .error (.unsupported (.placeholder kind.name))

/-- The expressions of some values, and the headers of all of them on top of `includes`. -/
def literals (target : Target) (short : Bool) (includes : IncludeSet) :
    List ValueNode → Generated (List String × IncludeSet)
  | [] => .ok ([], includes)
  | value :: rest => do
    let first ← literal target short value
    let (texts, includes) ← literals target short (includes.merge first.includes) rest
    return (first.text :: texts, includes)

def fieldLiteral (target : Target) (short : Bool) : ValueFieldNode → Generated Literal
  | ⟨name, value⟩ => do
    let inner ← literal target short value
    return ⟨"." ++ Naming.pascal name ++ " = " ++ inner.text, inner.includes⟩

/-- The fields of a struct literal, and the headers of all of them on top of `includes`. -/
def fieldLiterals (target : Target) (short : Bool) (includes : IncludeSet) :
    List ValueFieldNode → Generated (List String × IncludeSet)
  | [] => .ok ([], includes)
  | node :: rest => do
    let first ← fieldLiteral target short node
    let (texts, includes) ← fieldLiterals target short (includes.merge first.includes) rest
    return (first.text :: texts, includes)

/-- The payload of a variant, if it has one. -/
def payloadLiteral (target : Target) (short : Bool) :
    Option ValueNode → Generated (Option Literal)
  | none => .ok none
  | some value => do
    let inner ← literal target short value
    return some inner

end

def literal? (target : Target) (short : Bool) : Option ValueNode → Generated Literal
  | none => .error (.unsupported .missingValue)
  | some value => literal target short value

end ClientGen.Cpp
