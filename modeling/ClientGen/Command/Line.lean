import ClientGen.Command.Flags
import ClientGen.Console.Reply
import ClientGen.Text.CaseMapping
import ClientGen.Text.EditDistance
/-!
# Command lines

The first word of a command line names the command. Flags that all commands share may stand in
front of it. A flag in front of the command that is not one of those is taken to have a value.
-/
namespace ClientGen.Command

def programName : String := "idlcpp"

inductive Name where
  | generate
  | validate
  | flavors
  | test
deriving DecidableEq, Repr

namespace Name

/-- How a command is written. -/
def text : Name → String
  | .generate => "generate"
  | .validate => "validate"
  | .flavors => "flavors"
  | .test => "test"

def all : List Name := [.generate, .validate, .flavors, .test]

def find? (word : String) : Option Name := all.find? fun name => name.text == word

def flags : Name → List FlagSpec
  | .generate =>
    [⟨"config", none, .text⟩, ⟨"output", some 'o', .text⟩, ⟨"plugin", none, .text⟩,
      ⟨"flavor", none, .text⟩, ⟨"render-parent-instructions", none, .switch⟩,
      ⟨"include-internal", none, .switch⟩, ⟨"format-code", none, .switch⟩,
      ⟨"formatter", none, .text⟩, ⟨"formatter-args", none, .text⟩,
      ⟨"keep-output", none, .switch⟩, ⟨"dry-run", none, .switch⟩]
  | .validate => [⟨"flavor", none, .text⟩]
  | .flavors => []
  | .test => [⟨"update", none, .switch⟩, ⟨"filter", none, .text⟩]

end Name

def sharedFlags : List FlagSpec :=
  [⟨"verbose", some 'v', .switch⟩, ⟨"format", none, .text⟩, ⟨"log-json", none, .switch⟩]

def helpFlag : FlagSpec := ⟨"help", some 'h', .switch⟩

/-- Commands that print how to use the program. -/
def helpNames : List String := ["help", "completion"]

/-- Whether the argument behind a flag in front of a command belongs to it. -/
def takesNext (specs : List FlagSpec) (argument : String) : Bool :=
  match argument.toList with
  | '-' :: '-' :: body =>
    !body.contains '=' && ((findFlag? specs (String.ofList body)).map (·.kind)) != some .switch
  | ['-', c] =>
    c != '=' && c.utf8Size == 1 && ((findLetter? specs c).map (·.kind)) != some .switch
  | _ => false

/-- The words of arguments, without flags and what belongs to them. -/
def wordsOf (specs : List FlagSpec) : List String → List String
  | [] => []
  | argument :: rest =>
    if argument == "--" then []
    else if takesNext specs argument then
      match rest with
      | [] => []
      | [_] => []
      | _ :: next :: more => wordsOf specs (next :: more)
    else if argument.isEmpty || argument.toList.head? == some '-' then wordsOf specs rest
    else argument :: wordsOf specs rest

/-- Arguments without a word, where it stands first. -/
def withoutWord (specs : List FlagSpec) (word : String) : List String → List String
  | [] => []
  | argument :: rest =>
    if argument == "--" then argument :: rest
    else if takesNext specs argument then
      match rest with
      | [] => [argument]
      | value :: more => argument :: value :: withoutWord specs word more
    else if argument == word then rest
    else argument :: withoutWord specs word rest

inductive LineFault where
  | flag (fault : FlagFault)
  | unknownCommand (word : String) (similar : List String)
  | unexpectedWord (word : String) (command : Name)
  | notExactly (expected received : Nat)
  | tooMany (most received : Nat)
  | unknownFormat (format : String)
deriving DecidableEq, Repr

/-- The lines that propose commands. -/
def proposal (names : List String) : String :=
  if names.isEmpty then ""
  else "\n\nDid you mean this?\n" ++ String.join (names.map fun name => "\t" ++ name ++ "\n")

def LineFault.message : LineFault → String
  | .flag fault => fault.message
  | .unknownCommand word similar =>
    "unknown command " ++ Text.displayed word ++ " for " ++ Text.displayed programName
      ++ proposal similar
  | .unexpectedWord word command =>
    "unknown command " ++ Text.displayed word ++ " for "
      ++ Text.displayed (programName ++ " " ++ command.text)
  | .notExactly expected received =>
    "accepts " ++ expected.repr ++ " arg(s), received " ++ received.repr
  | .tooMany most received =>
    "accepts at most " ++ most.repr ++ " arg(s), received " ++ received.repr
  | .unknownFormat format =>
    "invalid format " ++ Text.displayed format ++ ": must be one of ["
      ++ String.intercalate " " (Console.Format.all.map (·.name)) ++ "]"

/-- The largest edit distance of words that are similar. -/
def similarDistance : Nat := 2

/-- Whether a word may have been meant to be a name: it is the start of it, or little different. -/
def isSimilar (word name : String) : Bool :=
  let word := Text.lower word
  Text.editDistance word.toUTF8.toList name.toUTF8.toList ≤ similarDistance
    || word.toList.isPrefixOf name.toList

/-- The commands that a word may have been meant to be. -/
def similarNames (word : String) : List String :=
  (Name.all.map (·.text) ++ ["completion"]).filter (isSimilar word)

/-- The fault of the words behind a command, if there is one. -/
def Name.wordsFault? (name : Name) (words : List String) : Option LineFault :=
  match name with
  | .generate => if words.length ≤ 1 then none else some (.tooMany 1 words.length)
  | .validate => if words.length = 1 then none else some (.notExactly 1 words.length)
  | .flavors => words.head?.map fun word => .unexpectedWord word .flavors
  | .test => if words.length = 1 then none else some (.notExactly 1 words.length)

/-- What a command line asks for. -/
inductive Request where
  | help
  | command (name : Name) (format : Console.Format) (arguments : Arguments)
deriving DecidableEq, Repr

def formatOf (arguments : Arguments) : Except LineFault Console.Format :=
  let format := (arguments.text? "format").getD Console.Format.text.name
  match Console.Format.find? format with
  | none => .error (.unknownFormat format)
  | some format => .ok format

def readCommand (name : Name) (arguments : List String) : Except LineFault Request := do
  let arguments ← (readArguments (sharedFlags ++ name.flags ++ [helpFlag]) arguments).mapError .flag
  if arguments.isOn helpFlag.name then return .help
  match name.wordsFault? arguments.words with
  | some fault => throw fault
  | none => return .command name (← formatOf arguments) arguments

def readLine (arguments : List String) : Except LineFault Request :=
  match wordsOf sharedFlags arguments with
  | [] => ((readArguments (sharedFlags ++ [helpFlag]) arguments).mapError .flag).map fun _ => .help
  | word :: _ =>
    match Name.find? word with
    | some name => readCommand name (withoutWord sharedFlags word arguments)
    | none =>
      if helpNames.contains word then .ok .help
      else .error (.unknownCommand word (similarNames word))

end ClientGen.Command
