import ClientGen.Encoding.Base16
import ClientGen.Encoding.Base58
import ClientGen.Encoding.Base64
import ClientGen.Idl.Node
/-!
# Why code cannot be generated

A construct of the description may have no counterpart in C++, a declaration may lack the name it
needs, a literal may not denote anything, a derived address may not be declared, or two files may
claim one path. The message names the places around the cause from the outside in.
-/
namespace ClientGen.Cpp

open ClientGen.Idl

/-- A construct without a counterpart. -/
inductive Unsupported where
  | missingType
  | mapTypes
  | setTypes
  | sizePrefix (kind : TypeKind)
  | endianness (endian format : String)
  | numberFormat (format : String)
  | booleanSize (number : Option NumberType)
  | fixedString (size : Int)
  | unboundedString
  | stringPrefix (number : NumberType)
  | arrayPrefix (number : Option NumberType)
  | optionPrefix (number : Option NumberType)
  | dataEnum (name : String)
  | enumSize (number : Option NumberType)
  | structSeed (name : String)
  | missingValue
  | mapValues
  | entryValues
  | setValues
  | absentValues
  | placeholder (kind : String)
  | unlinkedEnum
  | bytesEncoding (encoding : String)
  | constantFormat (format : String)
  | constant (valueKind typeKind : String)
deriving DecidableEq, Repr

/-- How messages describe a number type that may be missing. -/
def describeNumber : Option NumberType → String
  | none => "of non-number type"
  | some number => number.format ++ "/" ++ number.endian

def Unsupported.message : Unsupported → String
  | .missingType => "missing type node"
  | .mapTypes => "map types"
  | .setTypes => "set types"
  | .sizePrefix kind => "size prefix of kind " ++ kind.name
  | .endianness endian format => "number endianness " ++ Text.displayed endian ++ " for " ++ format
  | .numberFormat format => "number format " ++ format
  | .booleanSize number => "boolean size " ++ describeNumber number
  | .fixedString size => "fixed-size strings (" ++ Text.decimalText size ++ " bytes)"
  | .unboundedString => "strings without a size prefix"
  | .stringPrefix number => "string prefix " ++ describeNumber (some number)
  | .arrayPrefix number => "array prefix " ++ describeNumber number
  | .optionPrefix number => "option prefix " ++ describeNumber number
  | .dataEnum name => "data-carrying enum " ++ name
  | .enumSize number => "enum size " ++ describeNumber number
  | .structSeed name => "struct-typed seed " ++ name
  | .missingValue => "missing value node"
  | .mapValues => "map values"
  | .entryValues => "map entry values"
  | .setValues => "set values"
  | .absentValues => "none values"
  | .placeholder kind => "contextual value " ++ kind ++ " as a literal"
  | .unlinkedEnum => "enum value without enum link"
  | .bytesEncoding encoding => "bytes encoding " ++ Text.displayed encoding
  | .constantFormat format => "constant of number format " ++ format
  | .constant valueKind typeKind => "constant value " ++ valueKind ++ " of type " ++ typeKind

/-- The number of bytes of an address. -/
def publicKeySize : Nat := 32

/-- Why a literal denotes nothing. -/
inductive InvalidValue where
  | keyNotBase58 (key : String) (fault : Encoding.Base58.Fault)
  | keySize (key : String) (size : Nat)
  | base16 (data : String) (fault : Encoding.Base16.Fault)
  | base58 (data : String) (fault : Encoding.Base58.Fault)
  | base64 (data : String) (fault : Encoding.Base64.Fault)
deriving DecidableEq, Repr

def InvalidValue.message : InvalidValue → String
  | .keyNotBase58 key fault =>
    "public key " ++ Text.displayed key ++ " is not base58: " ++ fault.message
  | .keySize key size =>
    "public key " ++ Text.displayed key ++ " decodes to " ++ size.repr ++ " bytes, want "
      ++ publicKeySize.repr
  | .base16 data fault => "base16 bytes " ++ Text.displayed data ++ ": " ++ fault.message
  | .base58 data fault => "base58 bytes " ++ Text.displayed data ++ ": " ++ fault.message
  | .base64 data fault => "base64 bytes " ++ Text.displayed data ++ ": " ++ fault.message

/-- A place in the description. -/
inductive Place where
  | program (name : String)
  | account (name : String)
  | definedType (name : String)
  | instruction (name : String)
  | errors
  | field (name : String)
  | argument (name : String)
  | argumentDefault (name : String)
  | instructionData
  | seed (name : String)
  | constantSeed
deriving DecidableEq, Repr

/-- How messages name a place. -/
def Place.text : Place → String
  | .program name => "program " ++ name
  | .account name => "account " ++ name
  | .definedType name => "defined type " ++ name
  | .instruction name => "instruction " ++ name
  | .errors => "errors"
  | .field name => "field " ++ name
  | .argument name => "argument " ++ name
  | .argumentDefault name => "argument " ++ name ++ " default"
  | .instructionData => "instruction data"
  | .seed name => "seed " ++ name
  | .constantSeed => "constant seed"

/-- Why code could not be generated. -/
inductive Error where
  | unsupported (construct : Unsupported)
  | missingContext (what : String)
  | invalidValue (value : InvalidValue)
  | missingPda (name : String)
  | duplicatePath (path : String)
  | missingRoot
  | inside (place : Place) (cause : Error)
deriving DecidableEq, Repr

/-- The reason itself, without the places around it. -/
def Error.cause : Error → Error
  | .inside _ inner => inner.cause
  | error => error

def Error.message : Error → String
  | .unsupported construct => construct.message
  | .missingContext what => what ++ " must have a parent name"
  | .invalidValue value => value.message
  | .missingPda name => "pda " ++ Text.displayed name ++ " not found"
  | .duplicatePath path => path ++ " rendered twice"
  | .missingRoot => "nil root node"
  | .inside place inner => place.text ++ ": " ++ inner.message

/-- What is proposed to mend an error, if anything is. -/
def Error.hint? (error : Error) : Option String :=
  match error.cause with
  | .missingContext _ => some "visit it through an account, defined type or instruction"
  | .missingPda _ => some "declare the pda in the program's pdas list"
  | _ => none

abbrev Generated (α : Type) := Except Error α

/-- Adds a place around the error of a failed step. -/
def Generated.inside {α : Type} (place : Place) : Generated α → Generated α
  | .ok a => .ok a
  | .error inner => .error (.inside place inner)

end ClientGen.Cpp
