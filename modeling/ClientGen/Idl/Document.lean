import ClientGen.FileTree
import ClientGen.Formats
import ClientGen.Idl.Check
import ClientGen.Idl.DecodeRoot
/-!
# Documents

A document is built from its text, joined with the schema, decoded and checked. Whoever reads it
leniently takes problems with versions as warnings; whoever reads it strictly refuses every problem.
-/
namespace ClientGen.Idl

/-- A document that was read and checked. -/
structure Document where
  path : String
  root : RootNode
  warnings : List Problem

/-- Why a document could not be read. -/
inductive LoadError where
  /-- The work was called off. -/
  | cancelled
  | notFound (path : String)
  | inaccessible (fault : FileFault)
  | notFile (path : String)
  | unreadable (fault : FileFault)
  | unknownExtension (extension : String)
  | malformed (name : String) (fault : EngineFault)
  | schemaMismatch (name : String) (fault : EngineFault)
  | undecodable (source : String) (cause : DecodeError)
  | problems (first : Problem) (more : List Problem)
deriving DecidableEq, Repr

namespace LoadError

/-- The code of an error, which for problems is that of the first. -/
def code : LoadError → ErrorCode
  | .cancelled => .generic
  | .notFound _ => .notFound
  | .inaccessible _ => .notFound
  | .notFile _ => .notFound
  | .unreadable _ => .unreadable
  | .unknownExtension _ => .malformed
  | .malformed .. => .malformed
  | .schemaMismatch .. => .schema
  | .undecodable .. => .undecodable
  | .problems first _ => first.code

/-- The message of an error, which for problems is that of the first. -/
def message (formats : Formats) : LoadError → String
  | .cancelled => "context canceled"
  | .notFound path => "IDL file not found: " ++ path
  | .inaccessible fault => "error accessing IDL file: " ++ fault.message
  | .notFile path => "not a file: " ++ path
  | .unreadable fault => "reading IDL file: " ++ fault.message
  | .unknownExtension ext =>
    "unsupported IDL extension " ++ Text.displayed ext ++ " (want .json or .cue)"
  | .malformed _ fault => fault.message
  | .schemaMismatch _ fault => fault.message
  | .undecodable source cause => cause.message (formats.json source)
  | .problems first _ => first.message

/-- The place that an error tells, if it tells one. -/
def position? : LoadError → Option Position
  | .malformed name fault => fault.position? name
  | .schemaMismatch name fault => fault.position? name
  | _ => none

/-- Everything that is said about an error in one line. -/
def text (formats : Formats) (error : LoadError) : String :=
  let told := error.code.text ++ ": " ++ error.message formats
  match error with
  | .cancelled => error.message formats
  | .problems _ more =>
    told ++ (if more.isEmpty then "" else " (and " ++ more.length.repr ++ " more)")
  | _ =>
    match error.position? with
    | none => told
    | some position => position.text ++ ": " ++ told

end LoadError

/-- What reading a document gives, and the problems that were logged on the way. -/
structure Loading where
  logged : List Problem
  result : Except LoadError Document

def Loading.failed (error : LoadError) : Loading := ⟨[], .error error⟩

/-- The message under which a problem is logged. -/
def versionNotice : String := "idl version is not semver"

def documentRoot (reader : DocumentReader) (name text : String) : Except LoadError RootNode :=
  match DocumentFormat.ofPath? name with
  | none => .error (.unknownExtension (Path.extension name))
  | some format => do
    let built ← (reader.build format name text).mapError (.malformed name)
    let source ← (reader.complete built).mapError (.schemaMismatch name)
    (decodeRootText source).mapError (.undecodable source)

/-- Whether a problem does not stop a lenient reader. -/
def Problem.isTolerable (problem : Problem) : Bool := problem.code == .version

/-- The document of some nodes, if its problems allow it. -/
def settleProblems (strict : Bool) (path : String) (root : RootNode) : Loading :=
  let logged := if strict then [] else root.problems.filter (·.isTolerable)
  let fatal := if strict then root.problems else root.problems.filter (!·.isTolerable)
  match fatal with
  | [] => ⟨logged, .ok ⟨path, root, logged⟩⟩
  | first :: more => ⟨logged, .error (.problems first more)⟩

/-- Reads a document from its text. -/
def parse (reader : DocumentReader) (cancelled strict : Bool) (name text : String) : Loading :=
  if cancelled then .failed .cancelled
  else
    match documentRoot reader name text with
    | .error e => .failed e
    | .ok root => settleProblems strict name root

/-- Reads a document from a file. -/
def load (reader : DocumentReader) (tree : FileTree) (cancelled strict : Bool) (path : String) :
    Loading :=
  match tree.find path with
  | .error .missing => .failed (.notFound path)
  | .error reason => .failed (.inaccessible ⟨"stat", path, reason⟩)
  | .ok (_, .directory) => .failed (.notFile path)
  | .ok (_, .file _) =>
    match tree.read path with
    | .error fault => .failed (.unreadable fault)
    | .ok text => parse reader cancelled strict path text

end ClientGen.Idl
