import ClientGen.Json.Value
/-!
# Reading JSON

A reader of JSON text. It reads the value at the front of a text and returns what follows it.
Values nest at most ten thousand deep; a text that nests deeper is told apart from one that is not
JSON. An escape that names half of a surrogate pair reads as the
replacement character or is refused, as the caller asks.
-/
namespace ClientGen.Json

/-- What to do with an escape that names one half of a surrogate pair. -/
inductive HalfPair where
  | replace
  | refuse
deriving DecidableEq, Repr

/-- The deepest nesting of arrays and objects. -/
def maxDepth : Nat := 10000

/-- Whether a character may stand between tokens. -/
def isBlank (c : Char) : Bool := c == ' ' || c == '\t' || c == '\n' || c == '\r'

def skipBlanks (s : List Char) : List Char := s.dropWhile isBlank

def hexQuad? (a b c d : Char) : Option Nat := do
  let a ← Text.hexValue? a
  let b ← Text.hexValue? b
  let c ← Text.hexValue? c
  let d ← Text.hexValue? d
  return ((a * 16 + b) * 16 + c) * 16 + d

/-- The character that a backslash and a letter stand for. -/
def simpleEscape? (c : Char) : Option Char :=
  match c with
  | '"' => some '"'
  | '\\' => some '\\'
  | '/' => some '/'
  | 'b' => some '\x08'
  | 'f' => some '\x0c'
  | 'n' => some '\n'
  | 'r' => some '\r'
  | 't' => some '\t'
  | _ => none

/-- The character that two units of sixteen bits name, if they are a pair. -/
def pairedChar? (high low : Nat) : Option Char :=
  if 0xD800 ≤ high ∧ high < 0xDC00 ∧ 0xDC00 ≤ low ∧ low < 0xE000 then
    some (Char.ofNat (0x10000 + (high - 0xD800) * 0x400 + (low - 0xDC00)))
  else none

/-- Reads the rest of a string, up to and with the closing quotation mark. -/
def readString (half : HalfPair) : List Char → Option (List Char × List Char)
  | [] => none
  | '"' :: rest => some ([], rest)
  | '\\' :: 'u' :: a :: b :: c :: d :: rest => do
    let unit ← hexQuad? a b c d
    if unit < 0xD800 ∨ 0xDFFF < unit then
      let (text, rest) ← readString half rest
      return (Char.ofNat unit :: text, rest)
    else
      match rest with
      | '\\' :: 'u' :: e :: f :: g :: h :: rest' =>
        match (hexQuad? e f g h).bind (pairedChar? unit) with
        | some char =>
          let (text, rest) ← readString half rest'
          return (char :: text, rest)
        | none =>
          if half == .refuse then none
          else
            let (text, rest) ← readString half ('\\' :: 'u' :: e :: f :: g :: h :: rest')
            return ('\uFFFD' :: text, rest)
      | rest =>
        if half == .refuse then none
        else
          let (text, rest) ← readString half rest
          return ('\uFFFD' :: text, rest)
  | '\\' :: e :: rest => do
    let char ← simpleEscape? e
    let (text, rest) ← readString half rest
    return (char :: text, rest)
  | c :: rest =>
    if c.toNat < 0x20 then none
    else do
      let (text, rest) ← readString half rest
      return (c :: text, rest)

def readDigits (s : List Char) : Option (List Char × List Char) :=
  let digits := s.takeWhile Text.isDigit
  if digits.isEmpty then none else some (digits, s.dropWhile Text.isDigit)

/-- Reads the whole part of a number, which has no leading zero. -/
def readWhole : List Char → Option (List Char × List Char)
  | '0' :: rest => some (['0'], rest)
  | s => readDigits s

/-- Reads the fraction of a number, if there is one. -/
def readFraction : List Char → Option (List Char × List Char)
  | '.' :: rest => (readDigits rest).map fun (digits, rest) => ('.' :: digits, rest)
  | s => some ([], s)

/-- Reads the sign of an exponent, if there is one. -/
def readSign : List Char → List Char × List Char
  | '+' :: rest => (['+'], rest)
  | '-' :: rest => (['-'], rest)
  | s => ([], s)

/-- Reads the exponent of a number, if there is one. -/
def readExponent : List Char → Option (List Char × List Char)
  | c :: rest =>
    if c = 'e' ∨ c = 'E' then
      let (sign, rest) := readSign rest
      (readDigits rest).map fun (digits, rest) => (c :: sign ++ digits, rest)
    else some ([], c :: rest)
  | [] => some ([], [])

/-- Reads a number as the text it is written as. -/
def readNumber (s : List Char) : Option (List Char × List Char) := do
  let (minus, s) :=
    match s with
    | '-' :: rest => (['-'], rest)
    | s => ([], s)
  let (whole, s) ← readWhole s
  let (fraction, s) ← readFraction s
  let (exponent, s) ← readExponent s
  return (minus ++ whole ++ fraction ++ exponent, s)

def isNumber (text : String) : Bool :=
  match readNumber text.toList with
  | some (_, []) => true
  | _ => false

/-- The part of a text in front of one of its ends. -/
def sourceBefore (s rest : List Char) : String :=
  String.ofList (s.take (s.length - rest.length))

inductive ReadFault where
  /-- What stands there is not JSON. -/
  | malformed
  /-- Another array or object opens at the deepest nesting. -/
  | tooDeep
deriving DecidableEq, Repr

/-- A part of a text that has to be there. -/
def required {α : Type} : Option α → Except ReadFault α
  | some a => .ok a
  | none => .error .malformed

@[simp]
theorem required_some {α : Type} (a : α) : required (some a) = .ok a := rfl

mutual

/-- Reads the value at the front of a text. Whatever is wrong first is reported. -/
def readValue (half : HalfPair) :
    (fuel depth : Nat) → List Char → Except ReadFault (Value × List Char)
  | 0, _, _ => .error .malformed
  | fuel + 1, depth, s =>
    match s with
    | 'n' :: 'u' :: 'l' :: 'l' :: rest => .ok (.null, rest)
    | 't' :: 'r' :: 'u' :: 'e' :: rest => .ok (.bool true, rest)
    | 'f' :: 'a' :: 'l' :: 's' :: 'e' :: rest => .ok (.bool false, rest)
    | '"' :: rest => do
      let (text, rest) ← required (readString half rest)
      return (.string (String.ofList text), rest)
    | '[' :: rest =>
      match depth with
      | 0 => .error .tooDeep
      | depth + 1 =>
        match skipBlanks rest with
        | ']' :: rest => .ok (.array [], rest)
        | s => do
          let (items, rest) ← readItems half fuel depth s
          return (.array items, rest)
    | '{' :: rest =>
      match depth with
      | 0 => .error .tooDeep
      | depth + 1 =>
        match skipBlanks rest with
        | '}' :: rest => .ok (.object [], rest)
        | s => do
          let (members, rest) ← readMembers half fuel depth s
          return (.object members, rest)
    | s => do
      let (text, rest) ← required (readNumber s)
      return (.number (String.ofList text), rest)

/-- Reads the items of an array that has at least one more, and the closing bracket. -/
def readItems (half : HalfPair) :
    (fuel depth : Nat) → List Char → Except ReadFault (List Value × List Char)
  | 0, _, _ => .error .malformed
  | fuel + 1, depth, s => do
    let (item, rest) ← readValue half fuel depth s
    match skipBlanks rest with
    | ']' :: rest => return ([item], rest)
    | ',' :: rest =>
      let (items, rest) ← readItems half fuel depth (skipBlanks rest)
      return (item :: items, rest)
    | _ => throw .malformed

/-- Reads the members of an object that has at least one more, and the closing brace. -/
def readMembers (half : HalfPair) :
    (fuel depth : Nat) → List Char → Except ReadFault (List Member × List Char)
  | 0, _, _ => .error .malformed
  | fuel + 1, depth, s =>
    match s with
    | '"' :: s => do
      let (name, rest) ← required (readString half s)
      match skipBlanks rest with
      | ':' :: rest =>
        let s := skipBlanks rest
        let (value, rest) ← readValue half fuel depth s
        let member : Member := ⟨String.ofList name, value, sourceBefore s rest⟩
        match skipBlanks rest with
        | '}' :: rest => return ([member], rest)
        | ',' :: rest =>
          let (members, rest) ← readMembers half fuel depth (skipBlanks rest)
          return (member :: members, rest)
        | _ => throw .malformed
      | _ => throw .malformed
    | _ => .error .malformed

end

/-- Reads the first value of a text, behind any blanks; every step takes a character or ends one
of the two calls that a character can start. -/
def readFirst (half : HalfPair) (text : String) : Except ReadFault (Value × List Char) :=
  let s := skipBlanks text.toList
  readValue half (2 * s.length + 2) maxDepth s

/-- Reads a text that holds one value and nothing else but blanks. -/
def read (half : HalfPair) (text : String) : Except ReadFault Value := do
  let (value, rest) ← readFirst half text
  if (skipBlanks rest).isEmpty then return value else throw .malformed

end ClientGen.Json
