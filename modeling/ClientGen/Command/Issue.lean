import ClientGen.Console.Reply
import ClientGen.FileTree
import ClientGen.Formatter
import ClientGen.Idl.Document
/-!
# Issues

What commands share: the world around them, how they end, and the problems that they report about
a document.
-/
namespace ClientGen.Command

open ClientGen.Console ClientGen.Json

/-- The world around a command. -/
structure Surroundings where
  formats : Formats
  /-- Whether the work was called off before it began. -/
  cancelled : Bool
  programs : Formatter.Programs
  /-- What tells a run from all others. -/
  runId : String

/-- The end of a command. -/
structure Execution where
  printed : Printed
  tree : FileTree
  failure : Option Failure

def Execution.exitCode (e : Execution) : Int :=
  (e.failure.map (·.code)).getD Failure.successCode

/-- A problem with a document. -/
structure Issue where
  code : ErrorCode
  message : String
  /-- The place in the document that is told, if one is. -/
  position : Option Idl.Position
  /-- The flavor that the document was rendered in, if it was. -/
  flavor : Option String
  hint : Option String
deriving DecidableEq, Repr

namespace Issue

def ofProblem (p : Idl.Problem) : Issue := ⟨p.code, p.message, none, none, none⟩

/-- The issues of a document that could not be read: the first one and those behind it. -/
def ofLoadError (formats : Formats) (e : Idl.LoadError) : Issue × List Issue :=
  match e with
  | .problems first more => (ofProblem first, more.map ofProblem)
  | e => (⟨e.code, e.message formats, e.position?, none, none⟩, [])

def renderCode (e : Cpp.Error) : ErrorCode :=
  match e.cause with
  | .unsupported _ => .unsupported
  | .missingContext _ => .missingContext
  | .invalidValue _ => .invalidValue
  | .duplicatePath _ => .duplicatePath
  | _ => .render

/-- The issue of a document that could not be rendered. -/
def ofRenderError (flavor : String) (e : Cpp.Error) : Issue :=
  ⟨renderCode e, e.message, none, some flavor, e.hint?⟩

/-- The members for a place; those that are empty are left out. -/
def positionMembers (p : Idl.Position) : List (String × Value) :=
  (if p.file.isEmpty then [] else [("file", .string p.file)])
    ++ (if p.line = 0 then [] else [("line", .natural p.line)])
    ++ (if p.column = 0 then [] else [("column", .natural p.column)])

def value (i : Issue) : Value :=
  .record ([("code", .string i.code.text), ("message", .string i.message)]
    ++ (i.position.map positionMembers).getD []
    ++ (i.flavor.map fun f => ("flavor", Value.string f)).toList
    ++ (i.hint.map fun h => ("hint", Value.string h)).toList)

/-- The line for a place; it is left out if the place has no line. -/
def positionLine (p : Idl.Position) : String := if p.line = 0 then "" else p.text ++ "\n"

def text (i : Issue) : String :=
  (i.position.map positionLine).getD "" ++ "  " ++ (i.flavor.map fun f => "[" ++ f ++ "] ").getD "" ++ i.code.text ++ ": " ++ i.message
    ++ "\n" ++ (i.hint.map fun h => "  hint: " ++ h ++ "\n").getD "" ++ "\n"

/-- Whether an issue is that there is no document to be read. -/
def isAboutInput (i : Issue) : Bool := i.code == .notFound || i.code == .unreadable

end Issue

def issuesValue (issues : List Issue) : Value := .array (issues.map (·.value))

/-- What a command exits with if a document could not be read. -/
def loadExitCode (issues : List Issue) : Int :=
  if issues.any (·.isAboutInput) then Failure.misuseCode else Failure.failureCode

/-- Ends a command that could not start its work. -/
def misuse (s : Speaker) (tree : FileTree) (code : ErrorCode) (message : String) : Execution :=
  ⟨s.error code.text message none, tree,
    some ⟨Failure.misuseCode, code.text ++ ": " ++ message, none⟩⟩

/-- Ends a command with issues, the first of which is told apart. -/
def reportIssues (s : Speaker) (tree : FileTree) (what : String) (exit : Int) (first : Issue)
    (more : List Issue) : Execution :=
  let issues := first :: more
  let printed :=
    match s.format with
    | .json => s.error first.code.text first.message (some (issuesValue issues))
    | .text => .ofText ("✗ " ++ what ++ "\n\n" ++ String.join (issues.map (·.text)))
  ⟨printed, tree,
    some ⟨exit, what ++ ": " ++ first.code.text ++ ": " ++ first.message, none⟩⟩

end ClientGen.Command
