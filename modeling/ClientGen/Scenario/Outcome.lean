import ClientGen.Idl.Document
import ClientGen.Render.Outcome
import ClientGen.Scenario.Basic
/-!
# Outcomes

The document of a scenario is read and rendered. Where an error is expected, the run has to fail
with a message that has the expected text in it; where none is, it has to succeed and every
assertion has to hold. Everything that is not as expected is listed.
-/
namespace ClientGen

/-- Why a document could not be turned into files. -/
inductive GenerationError where
  | load (error : Idl.LoadError)
  | unknownFlavor (name : String)
  | render (error : Cpp.Error)
deriving DecidableEq, Repr

def GenerationError.message (formats : Formats) : GenerationError → String
  | .load error => error.text formats
  | .unknownFlavor name => Flavor.unknownMessage name
  | .render error => error.message

/-- Something about a run that is not as expected. -/
inductive Complaint where
  | failed (message : String)
  | otherError (expected message : String)
  | noError (expected : String)
  | assertion (failure : AssertionFailure)
deriving DecidableEq, Repr

def Complaint.message : Complaint → String
  | .failed message => "generation failed: " ++ message
  | .otherError expected message =>
    "expected error containing " ++ Text.displayed expected ++ ", got: " ++ message
  | .noError expected =>
    "expected error containing " ++ Text.displayed expected ++ ", generation succeeded"
  | .assertion failure => failure.message

/-- What came out of a scenario. -/
structure Outcome where
  files : Except GenerationError Render.FileMap
  complaints : List Complaint

namespace Outcome

/-- Whether everything was as expected. -/
def passes (o : Outcome) : Bool := o.complaints.isEmpty

/-- The message of the error that ended the run; empty if none did. -/
def runError (formats : Formats) (o : Outcome) : String :=
  match o.files with
  | .ok _ => ""
  | .error e => e.message formats

/-- The digest of the files; empty if there are none. -/
def digest (o : Outcome) : String :=
  match o.files with
  | .ok map => map.digest
  | .error _ => ""

def errors (o : Outcome) : List String := o.complaints.map (·.message)

end Outcome

namespace Scenario

/-- The files of a scenario. -/
def generate (reader : Idl.DocumentReader) (tree : FileTree) (cancelled : Bool) (s : Scenario) :
    Except GenerationError Render.FileMap := do
  let document ← (Idl.load reader tree cancelled false s.idl).result.mapError .load
  match s.options.renderer? with
  | none => throw (.unknownFlavor s.options.flavorName)
  | some r => (r.render document.root).files.mapError .render

/-- What may come of generating the files of a scenario, in any order of files. -/
def MayGenerate (reader : Idl.DocumentReader) (tree : FileTree) (s : Scenario)
    (files : Except GenerationError Render.FileMap) : Prop :=
  match (Idl.load reader tree false false s.idl).result with
  | .error e => files = .error (.load e)
  | .ok document =>
    match s.options.renderer? with
    | none => files = .error (.unknownFlavor s.options.flavorName)
    | some r => ∃ out, r.Outcome document.root out ∧ files = out.mapError .render

/-- What is not as expected about the end of a run. -/
def complaints (formats : Formats) (s : Scenario) :
    Except GenerationError Render.FileMap → List Complaint
  | .error e =>
    let message := e.message formats
    if s.expectedError.isEmpty then [.failed message]
    else if Text.includes message s.expectedError then []
    else [.otherError s.expectedError message]
  | .ok map =>
    (if s.expectedError.isEmpty then [] else [.noError s.expectedError])
      ++ (assertionFailures map s.assertions).map .assertion

/-- Runs a scenario, unless the work was called off. -/
def run (formats : Formats) (tree : FileTree) (cancelled : Bool) (s : Scenario) : Option Outcome :=
  if cancelled then none
  else
    let files := s.generate formats.documents tree cancelled
    some ⟨files, s.complaints formats files⟩

/-- What may come of running a scenario, in any order of files. -/
def MayEnd (formats : Formats) (tree : FileTree) (s : Scenario) (o : Outcome) : Prop :=
  ∃ files, s.MayGenerate formats.documents tree files ∧ o = ⟨files, s.complaints formats files⟩

/-- An outcome in one text: the files, or the error. -/
def snapshot (formats : Formats) (s : Scenario) (o : Outcome) : String :=
  "scenario: " ++ s.name ++ "\n" ++
    match o.files with
    | .ok map => map.archive
    | .error e => "error: " ++ e.message formats ++ "\n"

end Scenario

end ClientGen
