import ClientGen.Settings
import ClientGen.Text.ShellWords
/-!
# Formatters

A program may be run over the generated sources. That it is missing, that its arguments are
malformed or that it fails is worth a warning, but never stops a run.
-/
namespace ClientGen.Formatter

/-- How a program ends when it is run with arguments. -/
inductive Ending where
  | succeeded
  /-- With what it said. -/
  | failed (said : String)
deriving DecidableEq, Repr

/-- The programs that can be run: whether there is one of a name, and how it ends. -/
abbrev Programs := String → Option (List String → Ending)

/-- Why files are not formatted. -/
inductive Warning where
  | notFound (command : String)
  | malformedArguments (arguments : String)
  | failed (command said : String)
deriving DecidableEq, Repr

def Warning.message : Warning → String
  | .notFound _ => "formatter not found, leaving files unformatted"
  | .malformedArguments _ => "invalid formatter arguments"
  | .failed .. => "formatter failed"

def isSource (path : String) : Bool :=
  Path.lowerExtension path == ".h" || Path.lowerExtension path == ".cpp"

/-- The command that is run, the standard one if none is set. -/
def commandName (command : String) : String :=
  if command.isEmpty then Settings.standardFormatter else command

/-- Runs a command over the sources among some files. Gives the files that were formatted. -/
def run (programs : Programs) (command arguments : String) (files : List String) :
    Except Warning (List String) :=
  let sources := files.filter isSource
  let command := commandName command
  if sources.isEmpty then .ok []
  else
    match programs command with
    | none => .error (.notFound command)
    | some program =>
      match Text.shellWords? arguments with
      | none => .error (.malformedArguments arguments)
      | some words =>
        match program (words ++ "-i" :: sources) with
        | .succeeded => .ok sources
        | .failed said => .error (.failed command said)

end ClientGen.Formatter
