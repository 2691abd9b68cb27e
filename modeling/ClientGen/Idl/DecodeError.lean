import ClientGen.Idl.Node
import ClientGen.Json.Reader
import ClientGen.Text.Quoted
/-!
# Faults of a document

Why a document could not be decoded into a tree of nodes, and where in the tree the fault lies.
The message of a fault names the places around it from the outside in.
-/
namespace ClientGen.Idl

/-- The part that a node plays. -/
inductive NodeRole where
  | type
  | count
  | value
deriving DecidableEq, Repr

def NodeRole.word : NodeRole → String
  | .type => "type"
  | .count => "count"
  | .value => "value"

/-- A place in a document. -/
inductive Place where
  | decoding (what : String)
  | part (kind member : String)
  | item (kind list : String) (index : Nat)
  | additionalProgram (index : Nat)
  | ofProgram (name list : String) (index : Nat)
  | ofInstruction (name list : String) (index : Nat)
  | ofAccount (name member : String)
  | field (name : String)
  | fieldDefault (name : String)
  | argument (name : String)
  | argumentDefault (name : String)
  | definedType (name : String)
  | variant (name : String)
  | seed (pda : String) (index : Nat)
  | valueField (name : String)
deriving DecidableEq, Repr

/-- How messages name a place. -/
def Place.text : Place → String
  | .decoding what => "decoding " ++ what
  | .part kind member => kind ++ "." ++ member
  | .item kind list index => kind ++ "." ++ list ++ "[" ++ index.repr ++ "]"
  | .additionalProgram index => "additionalPrograms[" ++ index.repr ++ "]"
  | .ofProgram name list index => "program " ++ name ++ ": " ++ list ++ "[" ++ index.repr ++ "]"
  | .ofInstruction name list index =>
    "instruction " ++ name ++ ": " ++ list ++ "[" ++ index.repr ++ "]"
  | .ofAccount name member => "account " ++ name ++ ": " ++ member
  | .field name => "field " ++ name
  | .fieldDefault name => "field " ++ name ++ ": defaultValue"
  | .argument name => "argument " ++ name
  | .argumentDefault name => "argument " ++ name ++ ": defaultValue"
  | .definedType name => "defined type " ++ name
  | .variant name => "variant " ++ name
  | .seed pda index => "pda " ++ pda ++ ": seeds[" ++ index.repr ++ "]"
  | .valueField name => "structFieldValueNode " ++ name

/-- Why a document could not be decoded. -/
inductive DecodeError where
  /-- The text is not JSON, or a field has a value of the wrong type. -/
  | malformed
  /-- The text nests deeper than JSON is read. -/
  | tooDeep
  | unexpectedKind (expected got : String)
  | noProgram
  | noKind
  | missing (role : NodeRole)
  | unknownKind (role : NodeRole) (kind : String)
  | unknownSeedKind (pda kind : String)
  | misplaced (place : Place) (expected got : String)
  | invalidSigner (account source : String)
  | noNumber
  | inside (place : Place) (cause : DecodeError)
deriving DecidableEq, Repr

/-- The fault itself, without the places around it. -/
def DecodeError.cause : DecodeError → DecodeError
  | .inside _ cause => cause.cause
  | error => error

/-- The fault of a text that is not read. -/
def DecodeError.ofReading : Json.ReadFault → DecodeError
  | .malformed => .malformed
  | .tooDeep => .tooDeep

/-- The message of a fault; `malformed` is the text for a fault of the JSON text itself. -/
def DecodeError.message (malformed : String) : DecodeError → String
  | .malformed => malformed
  | .tooDeep => "exceeded max depth"
  | .unexpectedKind expected got => "expected " ++ expected ++ ", got " ++ Text.displayed got
  | .noProgram => "rootNode has no program"
  | .noKind => "node has no kind"
  | .missing role => "missing " ++ role.word ++ " node"
  | .unknownKind role kind => role.word ++ " node kind " ++ Text.displayed kind
  | .unknownSeedKind pda kind => "pda " ++ pda ++ ": seed kind " ++ Text.displayed kind
  | .misplaced place expected got => place.text ++ ": expected " ++ expected ++ ", got " ++ got
  | .invalidSigner account source => "account " ++ account ++ ": invalid isSigner " ++ source
  | .noNumber => "numberValueNode without number"
  | .inside place cause => place.text ++ ": " ++ cause.message malformed

/-- Whether a fault comes from a kind that nobody knows. -/
def DecodeError.isUnknownKind (error : DecodeError) : Bool :=
  match error.cause with
  | .unknownKind .. => true
  | .unknownSeedKind .. => true
  | _ => false

/-- Whether a fault comes from the JSON text itself. -/
def DecodeError.isMalformed (error : DecodeError) : Bool := error.cause == .malformed

end ClientGen.Idl
