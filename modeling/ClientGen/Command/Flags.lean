import ClientGen.Text.Quoted
/-!
# Flags

Arguments of a command are flags and words. A flag has a long name and may have a letter; it takes
a text, or it is a switch, which stands for `true` unless it is given a value with `=`. Letters can
be joined behind one dash. Behind two dashes alone everything is a word. Flags and words may stand
in any order.
-/
namespace ClientGen.Command

/-- What a flag takes. -/
inductive FlagKind where
  | text
  | switch
deriving DecidableEq, Repr

structure FlagSpec where
  name : String
  letter : Option Char
  kind : FlagKind
deriving DecidableEq, Repr

/-- How messages name a flag. -/
def FlagSpec.title (spec : FlagSpec) : String :=
  match spec.letter with
  | none => "--" ++ spec.name
  | some c => "-" ++ String.singleton c ++ ", --" ++ spec.name

def findFlag? (specs : List FlagSpec) (name : String) : Option FlagSpec :=
  specs.find? fun spec => spec.name == name

def findLetter? (specs : List FlagSpec) (letter : Char) : Option FlagSpec :=
  specs.find? fun spec => spec.letter == some letter

inductive FlagValue where
  | text (value : String)
  | switch (value : Bool)
deriving DecidableEq, Repr

/-- Why flags could not be read. -/
inductive FlagFault where
  | malformed (argument : String)
  | unknown (name : String)
  | unknownLetter (letter : Char) (letters : String)
  | noValue (argument : String)
  | noLetterValue (letter : Char) (letters : String)
  | notSwitchValue (value : String) (spec : FlagSpec)
deriving DecidableEq, Repr

def FlagFault.message : FlagFault → String
  | .malformed argument => "bad flag syntax: " ++ argument
  | .unknown name => "unknown flag: --" ++ name
  | .unknownLetter letter letters =>
    "unknown shorthand flag: " ++ Text.displayedSingle letter ++ " in -" ++ letters
  | .noValue argument => "flag needs an argument: " ++ argument
  | .noLetterValue letter letters =>
    "flag needs an argument: " ++ Text.displayedSingle letter ++ " in -" ++ letters
  | .notSwitchValue value spec =>
    "invalid argument " ++ Text.displayed value ++ " for " ++ Text.displayed spec.title
      ++ " flag: strconv.ParseBool: parsing " ++ Text.displayed value ++ ": invalid syntax"

/-- The value of a switch that a text says. -/
def switchValue? (text : String) : Option Bool :=
  if ["1", "t", "T", "true", "TRUE", "True"].contains text then some true
  else if ["0", "f", "F", "false", "FALSE", "False"].contains text then some false
  else none

abbrev Given := String × FlagValue

/-- A flag with a value that was written for it. -/
def given (spec : FlagSpec) (value : String) : Except FlagFault Given :=
  match spec.kind with
  | .text => .ok (spec.name, .text value)
  | .switch =>
    match switchValue? value with
    | some b => .ok (spec.name, .switch b)
    | none => .error (.notSwitchValue value spec)

/-- What one argument says. -/
inductive Reading where
  | word
  /-- All further arguments are words. -/
  | wordsOnly
  | flags (given : List Given)
  /-- The next argument is the value of a flag; a fault if there is none. -/
  | awaiting (given : List Given) (name : String) (fault : FlagFault)

/-- Reads a long flag without its dashes. -/
def readLong (specs : List FlagSpec) (argument : String) (body : List Char) :
    Except FlagFault Reading :=
  if body.head? == some '-' || body.head? == some '=' then .error (.malformed argument)
  else
    let name := String.ofList (body.takeWhile (· != '='))
    match findFlag? specs name, body.dropWhile (· != '=') with
    | none, _ => .error (.unknown name)
    | some spec, _ :: value => (given spec (String.ofList value)).map fun g => .flags [g]
    | some spec, [] =>
      match spec.kind with
      | .switch => .ok (.flags [(spec.name, .switch true)])
      | .text => .ok (.awaiting [] spec.name (.noValue argument))

/-- The first byte of a character as a character. -/
def leadingByte (c : Char) : Char :=
  ((String.singleton c).toUTF8.toList.head?.map fun b => Char.ofNat b.toNat).getD c

def readLetters (specs : List FlagSpec) (before : List Given) : List Char → Except FlagFault Reading
  | [] => .ok (.flags before)
  | c :: rest =>
    let letters := String.ofList (c :: rest)
    match findLetter? specs c, rest with
    | none, _ => .error (.unknownLetter (leadingByte c) letters)
    | some spec, '=' :: d :: value =>
      (given spec (String.ofList (d :: value))).map fun g => .flags (before ++ [g])
    | some spec, rest =>
      match spec.kind, rest with
      | .switch, rest => readLetters specs (before ++ [(spec.name, .switch true)]) rest
      | .text, [] => .ok (.awaiting before spec.name (.noLetterValue c letters))
      | .text, rest => .ok (.flags (before ++ [(spec.name, .text (String.ofList rest))]))

def readArgument (specs : List FlagSpec) (argument : String) : Except FlagFault Reading :=
  match argument.toList with
  | ['-', '-'] => .ok .wordsOnly
  | '-' :: '-' :: body => readLong specs argument body
  | '-' :: c :: rest => readLetters specs [] (c :: rest)
  | _ => .ok .word

/-- The arguments of a command. -/
structure Arguments where
  /-- The flags in the order in which they were given. -/
  flags : List Given
  words : List String
deriving DecidableEq, Repr

/-- Reads arguments, up to the first fault. -/
def readArguments (specs : List FlagSpec) : List String → Except FlagFault Arguments
  | [] => .ok ⟨[], []⟩
  | argument :: rest => do
    match ← readArgument specs argument, rest with
    | .word, rest =>
      let after ← readArguments specs rest
      return { after with words := argument :: after.words }
    | .wordsOnly, rest => return ⟨[], rest⟩
    | .flags before, rest =>
      let after ← readArguments specs rest
      return { after with flags := before ++ after.flags }
    | .awaiting _ _ fault, [] => throw fault
    | .awaiting before name _, value :: rest =>
      let after ← readArguments specs rest
      return { after with flags := before ++ (name, .text value) :: after.flags }

namespace Arguments

/-- The text that a flag was given last. -/
def text? (a : Arguments) (name : String) : Option String :=
  a.flags.reverse.findSome? fun g =>
    match g with
    | (other, .text value) => if other == name then some value else none
    | _ => none

/-- The value that a switch was given last. -/
def switch? (a : Arguments) (name : String) : Option Bool :=
  a.flags.reverse.findSome? fun g =>
    match g with
    | (other, .switch value) => if other == name then some value else none
    | _ => none

/-- Whether a switch is on; it is off if it was not given. -/
def isOn (a : Arguments) (name : String) : Bool := (a.switch? name).getD false

end Arguments

end ClientGen.Command
