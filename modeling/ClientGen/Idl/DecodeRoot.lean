import ClientGen.Idl.Decode
import ClientGen.Idl.Root
/-!
# Decoding programs

Decoding of a whole document: the root, its programs and everything they declare. The text may go
on behind the root, and what follows it is not read.
-/
namespace ClientGen.Idl

open ClientGen.Json

/-- Decodes the items of a list one after another, with the place of each around its faults. -/
def decodeItems {α : Type} (place : Nat → Place) (decode : Value → Decoded α) :
    (index : Nat) → List Value → Decoded (List α)
  | _, [] => .ok []
  | index, v :: rest => do
    let item ← Decoded.inside (place index) (decode v)
    return item :: (← decodeItems place decode (index + 1) rest)

def decodeAccount (v : Value) : Decoded AccountNode := do
  let members ← membersOf v
  requireShape [("name", .text), ("docs", .texts), ("data", .any), ("pda", .link),
    ("size", .int), ("internal", .flag)] members
  let name := textOf "name" members
  let data ← Decoded.inside (.ofAccount name "data") (decodeType (lastValue "data" members))
  return ⟨name, textsOf "docs" members, data, linkOf "pda" members, intOf? "size" members,
    flagOf "internal" members⟩

/-- Tells whether an account signs, from the text of the field: escapes in it are not undone. -/
def decodeSigner (account : String) (source : Option String) : Decoded Signer :=
  match source with
  | none => .ok .never
  | some source =>
    if source == "null" || source == "false" then .ok .never
    else if source == "true" then .ok .always
    else if source == "\"either\"" then .ok .either
    else .error (.invalidSigner account source)

def decodeInstructionAccount (v : Value) : Decoded InstructionAccountNode := do
  let members ← membersOf v
  requireShape [("name", .text), ("docs", .texts), ("isWritable", .flag), ("isSigner", .any),
    ("isOptional", .flag), ("defaultValue", .any)] members
  let name := textOf "name" members
  let signer ← decodeSigner name ((lastMember? "isSigner" members).map (·.source))
  let value ← Decoded.inside (.ofAccount name "defaultValue")
    (decodeValue? (lastValue "defaultValue" members))
  return ⟨name, textsOf "docs" members, flagOf "isWritable" members, signer,
    flagOf "isOptional" members, value⟩

def decodeArgument (v : Value) : Decoded ArgumentNode := do
  let members ← membersOf v
  requireShape [("name", .text), ("docs", .texts), ("type", .any), ("defaultValue", .any),
    ("defaultValueStrategy", .text)] members
  let name := textOf "name" members
  let type ← Decoded.inside (.argument name) (decodeType (lastValue "type" members))
  let value ← Decoded.inside (.argumentDefault name)
    (decodeValue? (lastValue "defaultValue" members))
  return ⟨name, textsOf "docs" members, type, value, textOf "defaultValueStrategy" members⟩

mutual

/-- Decodes an instruction and the instructions below it. -/
def decodeInstruction (v : Value) : Decoded InstructionNode :=
  match v with
  | .object members => do
    requireShape [("name", .text), ("docs", .texts), ("accounts", .list), ("arguments", .list),
      ("subInstructions", .list), ("internal", .flag)] members
    let name := textOf "name" members
    let accounts ← decodeItems (.ofInstruction name "accounts") decodeInstructionAccount 0
      (listOf "accounts" members)
    let arguments ← decodeItems (.ofInstruction name "arguments") decodeArgument 0
      (listOf "arguments" members)
    let subs ← decodeInstructions name 0 (listOf "subInstructions" members)
    return ⟨name, textsOf "docs" members, accounts, arguments, subs, flagOf "internal" members⟩
  | .null => .ok ⟨"", [], [], [], [], false⟩
  | _ => .error .malformed
termination_by sizeOf v
decreasing_by exact sizeOf_listOf_lt _ _

/-- Decodes the instructions below one, the first of which has number `index`. -/
def decodeInstructions (parent : String) (index : Nat) (items : List Value) :
    Decoded (List InstructionNode) :=
  match items with
  | [] => .ok []
  | v :: rest => do
    let ix ← Decoded.inside (.ofInstruction parent "subInstructions" index) (decodeInstruction v)
    return ix :: (← decodeInstructions parent (index + 1) rest)
termination_by sizeOf items
decreasing_by all_goals simp only [List.cons.sizeOf_spec]; omega

end

def decodeDefinedType (v : Value) : Decoded DefinedTypeNode := do
  let members ← membersOf v
  requireShape [("name", .text), ("docs", .texts), ("type", .any), ("internal", .flag)] members
  let name := textOf "name" members
  let type ← Decoded.inside (.definedType name) (decodeType (lastValue "type" members))
  return ⟨name, textsOf "docs" members, type, flagOf "internal" members⟩

/-- Decodes the seed with number `index` of a derived address. The type of the seed's fields is
the one fault that is told without naming the seed. -/
def decodeSeed (pda : String) (index : Nat) (v : Value) : Decoded SeedNode := do
  let place := Place.seed pda index
  let members ← Decoded.inside place (membersOf v)
  let kind ← Decoded.inside place (kindOf members)
  requireShape [("name", .text), ("docs", .texts), ("type", .any), ("value", .any)] members
  let type ← Decoded.inside place (decodeType (lastValue "type" members))
  if kind == "constantPdaSeedNode" then
    let value ← Decoded.inside place (decodeValue (lastValue "value" members))
    return .constant type value
  else if kind == "variablePdaSeedNode" then
    return .variable (textOf "name" members) (textsOf "docs" members) type
  else .error (.unknownSeedKind pda kind)

/-- Decodes the seeds of a derived address, the first of which has number `index`. -/
def decodeSeeds (pda : String) : (index : Nat) → List Value → Decoded (List SeedNode)
  | _, [] => .ok []
  | index, v :: rest => do
    let seed ← decodeSeed pda index v
    return seed :: (← decodeSeeds pda (index + 1) rest)

/-- Decodes a derived address. -/
def decodePda (v : Value) : Decoded PdaNode := do
  let members ← membersOf v
  requireShape [("name", .text), ("docs", .texts), ("seeds", .list)] members
  let name := textOf "name" members
  let seeds ← decodeSeeds name 0 (listOf "seeds" members)
  return ⟨name, textsOf "docs" members, seeds⟩

def decodeError (v : Value) : Decoded ErrorNode := do
  let members ← membersOf v
  requireShape [("name", .text), ("code", .int), ("message", .text), ("docs", .texts)] members
  return ⟨textOf "name" members, intOf "code" members, textOf "message" members,
    textsOf "docs" members⟩

def decodeProgram (v : Value) : Decoded ProgramNode := do
  let members ← Decoded.inside (.decoding "program") (membersOf v)
  Decoded.inside (.decoding "program") (requireShape
    [("kind", .text), ("name", .text), ("publicKey", .text), ("version", .text),
      ("origin", .text), ("docs", .texts), ("accounts", .list), ("instructions", .list),
      ("definedTypes", .list), ("pdas", .list), ("errors", .list), ("internal", .flag)] members)
  let kind := textOf "kind" members
  if kind != "programNode" then .error (.unexpectedKind "programNode" kind)
  else
    let name := textOf "name" members
    let accounts ← decodeItems (.ofProgram name "accounts") decodeAccount 0
      (listOf "accounts" members)
    let instructions ← decodeItems (.ofProgram name "instructions") decodeInstruction 0
      (listOf "instructions" members)
    let definedTypes ← decodeItems (.ofProgram name "definedTypes") decodeDefinedType 0
      (listOf "definedTypes" members)
    let pdas ← decodeItems (.ofProgram name "pdas") decodePda 0 (listOf "pdas" members)
    let errors ← decodeItems (.ofProgram name "errors") decodeError 0 (listOf "errors" members)
    return ⟨name, textOf "publicKey" members, textOf "version" members, textOf "origin" members,
      textsOf "docs" members, accounts, instructions, definedTypes, pdas, errors,
      flagOf "internal" members⟩

def decodeRoot (v : Value) : Decoded RootNode := do
  let members ← Decoded.inside (.decoding "root") (membersOf v)
  Decoded.inside (.decoding "root") (requireShape
    [("kind", .text), ("standard", .text), ("version", .text), ("program", .any),
      ("additionalPrograms", .list)] members)
  let kind := textOf "kind" members
  if kind != "rootNode" then .error (.unexpectedKind "rootNode" kind)
  else
    match lastMember? "program" members with
    | none => .error .noProgram
    | some m =>
      let program ← decodeProgram m.value
      let additional ← decodeItems .additionalProgram decodeProgram 0
        (listOf "additionalPrograms" members)
      return ⟨textOf "standard" members, textOf "version" members, program, additional⟩

/-- Decodes the first value of a text as the root of a document. -/
def decodeRootText (text : String) : Decoded RootNode :=
  match readFirst .replace text with
  | .error fault => .error (.inside (.decoding "root") (.ofReading fault))
  | .ok (v, _) => decodeRoot v

end ClientGen.Idl
