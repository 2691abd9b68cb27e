/-!
# Error codes

The codes under which the commands report what went wrong.
-/
namespace ClientGen

/-- The kind of a reported failure. -/
inductive ErrorCode where
  /-- Anything without a code of its own. -/
  | generic
  /-- A file could not be read. -/
  | unreadable
  /-- The text of a document is malformed. -/
  | malformed
  /-- There is no file at a path. -/
  | notFound
  /-- A document does not match the schema. -/
  | schema
  /-- The output could not be written. -/
  | unwritable
  /-- The settings are unusable. -/
  | settings
  /-- No document was given. -/
  | noInput
  /-- A document could not be decoded into nodes. -/
  | undecodable
  /-- Two entities share a generated name, or two errors a code. -/
  | duplicate
  /-- The address of a program is not a public key. -/
  | publicKey
  /-- A version is not a semantic version. -/
  | version
  /-- Code could not be generated. -/
  | render
  /-- A construct has no counterpart in C++. -/
  | unsupported
  /-- A declaration lacks the name around it. -/
  | missingContext
  /-- A literal denotes nothing. -/
  | invalidValue
  /-- Two entities claim one file. -/
  | duplicatePath
  /-- A scenario failed. -/
  | scenario
deriving DecidableEq, Repr

/-- How a code is written. -/
def ErrorCode.text : ErrorCode → String
  | .generic => "E001"
  | .unreadable => "E002"
  | .malformed => "E004"
  | .notFound => "E005"
  | .schema => "E006"
  | .unwritable => "E007"
  | .settings => "E008"
  | .noInput => "E009"
  | .undecodable => "E104"
  | .duplicate => "E105"
  | .publicKey => "E106"
  | .version => "E107"
  | .render => "E201"
  | .unsupported => "E202"
  | .missingContext => "E203"
  | .invalidValue => "E204"
  | .duplicatePath => "E205"
  | .scenario => "E_TEST_FAILED"

end ClientGen
