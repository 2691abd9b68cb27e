import ClientGen.Json.Reader
/-!
# Spellings of JSON values

A JSON text is more than the value it denotes: it has blanks between its tokens, and a character of
a string can be written as itself, as a letter behind a backslash or as one or two units of sixteen
bits. A spelling is a value with all these choices made. It tells its text and the value that the
text denotes, so two texts denote one value exactly if they have spellings of it.

No spelling can be malformed: blanks, escapes and digits are data, and a plain character and a
number carry the proof that they may stand where they are.
-/
namespace ClientGen.Json

/-! ### Blanks -/

inductive Blank where
  | space
  | tab
  | newline
  | carriageReturn
deriving DecidableEq, Repr

def Blank.char : Blank → Char
  | .space => ' '
  | .tab => '\t'
  | .newline => '\n'
  | .carriageReturn => '\r'

def blankText (blanks : List Blank) : List Char := blanks.map (·.char)

/-! ### Numbers -/

def IsDigits (s : List Char) : Prop := s ≠ [] ∧ ∀ c ∈ s, Text.isDigit c = true

/-- A whole number is a zero, or digits of which the first is not a zero. -/
def IsWhole (s : List Char) : Prop := s = ['0'] ∨ IsDigits s ∧ s.head? ≠ some '0'

def IsFraction (s : List Char) : Prop := s = [] ∨ ∃ digits, IsDigits digits ∧ s = '.' :: digits

def IsExponent (s : List Char) : Prop :=
  s = [] ∨ ∃ mark sign digits, (mark = 'e' ∨ mark = 'E') ∧
    (sign = [] ∨ sign = ['+'] ∨ sign = ['-']) ∧ IsDigits digits ∧ s = mark :: sign ++ digits

/-- The grammar of numbers. -/
def IsNumeral (s : List Char) : Prop :=
  ∃ minus whole fraction exponent, (minus = [] ∨ minus = ['-']) ∧ IsWhole whole ∧
    IsFraction fraction ∧ IsExponent exponent ∧ s = minus ++ whole ++ fraction ++ exponent

/-! ### Strings -/

/-- A character that is written as a backslash and a letter. -/
inductive Escape where
  | quotationMark
  | backslash
  | slash
  | backspace
  | formFeed
  | newline
  | carriageReturn
  | tab
deriving DecidableEq, Repr

def Escape.letter : Escape → Char
  | .quotationMark => '"'
  | .backslash => '\\'
  | .slash => '/'
  | .backspace => 'b'
  | .formFeed => 'f'
  | .newline => 'n'
  | .carriageReturn => 'r'
  | .tab => 't'

def Escape.char : Escape → Char
  | .quotationMark => '"'
  | .backslash => '\\'
  | .slash => '/'
  | .backspace => '\x08'
  | .formFeed => '\x0c'
  | .newline => '\n'
  | .carriageReturn => '\r'
  | .tab => '\t'

structure HexDigit where
  value : Fin 16
  isUpper : Bool
deriving DecidableEq, Repr

def HexDigit.char (d : HexDigit) : Char :=
  if d.isUpper then Text.hexDigitUpper d.value else Text.hexDigit d.value

/-- A unit of sixteen bits, written as four digits. -/
structure HexUnit where
  first : HexDigit
  second : HexDigit
  third : HexDigit
  fourth : HexDigit
deriving DecidableEq, Repr

def HexUnit.value (u : HexUnit) : Nat :=
  ((u.first.value * 16 + u.second.value) * 16 + u.third.value) * 16 + u.fourth.value

/-- What a character of a string is written as. -/
inductive Piece where
  | plain (c : Char) (h : c ≠ '"' ∧ c ≠ '\\' ∧ 0x20 ≤ c.toNat)
  | escape (e : Escape)
  | unit (u : HexUnit)
deriving DecidableEq

def Piece.text : Piece → List Char
  | .plain c _ => [c]
  | .escape e => ['\\', e.letter]
  | .unit u => ['\\', 'u', u.first.char, u.second.char, u.third.char, u.fourth.char]

def piecesText (pieces : List Piece) : List Char := pieces.flatMap (·.text)

/-- The characters that are written. Two units that are a pair name one character, and one half of a
pair by itself stands for the replacement character. -/
def piecesChars : List Piece → List Char
  | [] => []
  | .plain c _ :: rest => c :: piecesChars rest
  | .escape e :: rest => e.char :: piecesChars rest
  | .unit u :: rest =>
    if u.value < 0xD800 ∨ 0xDFFF < u.value then Char.ofNat u.value :: piecesChars rest
    else
      match rest with
      | .unit low :: rest' =>
        match pairedChar? u.value low.value with
        | some char => char :: piecesChars rest'
        | none => '\uFFFD' :: piecesChars (.unit low :: rest')
      | rest => '\uFFFD' :: piecesChars rest

/-! ### Values -/

mutual

/-- A value with everything that its text leaves open. -/
inductive Spelling where
  | null
  | bool (value : Bool)
  | number (text : String) (h : IsNumeral text.toList)
  | string (pieces : List Piece)
  | emptyArray (inside : List Blank)
  | array (items : SpelledItems)
  | emptyObject (inside : List Blank)
  | object (members : SpelledMembers)

/-- One or more items, each between blanks. -/
inductive SpelledItems where
  | last (before : List Blank) (item : Spelling) (after : List Blank)
  | next (before : List Blank) (item : Spelling) (after : List Blank) (rest : SpelledItems)

/-- One or more members, with blanks around the name and around the value. -/
inductive SpelledMembers where
  | last (before : List Blank) (name : List Piece) (behind inner : List Blank) (value : Spelling)
      (after : List Blank)
  | next (before : List Blank) (name : List Piece) (behind inner : List Blank) (value : Spelling)
      (after : List Blank) (rest : SpelledMembers)

end

mutual

def Spelling.text : Spelling → List Char
  | .null => ['n', 'u', 'l', 'l']
  | .bool true => ['t', 'r', 'u', 'e']
  | .bool false => ['f', 'a', 'l', 's', 'e']
  | .number text _ => text.toList
  | .string pieces => '"' :: (piecesText pieces ++ ['"'])
  | .emptyArray inside => '[' :: (blankText inside ++ [']'])
  | .array items => '[' :: items.text
  | .emptyObject inside => '{' :: (blankText inside ++ ['}'])
  | .object members => '{' :: members.text

def SpelledItems.text : SpelledItems → List Char
  | .last before item after => blankText before ++ (item.text ++ (blankText after ++ [']']))
  | .next before item after rest =>
    blankText before ++ (item.text ++ (blankText after ++ ',' :: rest.text))

def SpelledMembers.text : SpelledMembers → List Char
  | .last before name behind inner value after =>
    blankText before ++ ('"' :: (piecesText name ++ ('"' :: (blankText behind ++ (':' ::
      (blankText inner ++ (value.text ++ (blankText after ++ ['}']))))))))
  | .next before name behind inner value after rest =>
    blankText before ++ ('"' :: (piecesText name ++ ('"' :: (blankText behind ++ (':' ::
      (blankText inner ++ (value.text ++ (blankText after ++ ',' :: rest.text))))))))

end

mutual

/-- The value that a spelling is one of. Members keep the text of their values. -/
def Spelling.value : Spelling → Value
  | .null => .null
  | .bool b => .bool b
  | .number text _ => .number text
  | .string pieces => .string (String.ofList (piecesChars pieces))
  | .emptyArray _ => .array []
  | .array items => .array items.values
  | .emptyObject _ => .object []
  | .object members => .object members.members

def SpelledItems.values : SpelledItems → List Value
  | .last _ item _ => [item.value]
  | .next _ item _ rest => item.value :: rest.values

def SpelledMembers.members : SpelledMembers → List Member
  | .last _ name _ _ value _ =>
    [⟨String.ofList (piecesChars name), value.value, String.ofList value.text⟩]
  | .next _ name _ _ value _ rest =>
    ⟨String.ofList (piecesChars name), value.value, String.ofList value.text⟩ :: rest.members

end

/-- A text that holds a value and nothing else but blanks. -/
def Denotes (text : String) (v : Value) : Prop :=
  ∃ (before : List Blank) (spelling : Spelling) (after : List Blank),
    text = String.ofList (blankText before ++ (spelling.text ++ blankText after)) ∧
      spelling.value = v

/-! ### Depth -/

mutual

/-- How deep arrays and objects nest in a value. -/
def Value.nesting : Value → Nat
  | .array items => itemsNesting items + 1
  | .object members => membersNesting members + 1
  | _ => 0

def itemsNesting : List Value → Nat
  | [] => 0
  | item :: rest => max item.nesting (itemsNesting rest)

def membersNesting : List Member → Nat
  | [] => 0
  | ⟨_, value, _⟩ :: rest => max value.nesting (membersNesting rest)

end

end ClientGen.Json
