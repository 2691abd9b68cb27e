import ClientGen.Text.Digits
/-!
# A place in a text

A text that is being read, with the line and the column that reading has reached. Line ends are
made equal first, and a text with control characters is refused.
-/
namespace ClientGen.Yaml

/-- Whether a character is a blank inside a line. -/
def isBlank (c : Char) : Bool := c == ' ' || c == '\t'

def isBreak (c : Char) : Bool := c == '\n' || c == '\u2028' || c == '\u2029'

/-- Whether a text ends here, or a blank or the end of a line follows. -/
def atGap : List Char → Bool
  | [] => true
  | c :: _ => isBlank c || isBreak c

/-- Whether a character may stand in a text. -/
def isAllowed (c : Char) : Bool :=
  let n := c.toNat
  n == 0x09 || n == 0x0A || n == 0x0D || (0x20 ≤ n && n ≤ 0x7E) || n == 0x85
    || (0xA0 ≤ n && n ≤ 0xD7FF) || (0xE000 ≤ n && n ≤ 0xFFFD && n != 0xFEFF) || 0x10000 ≤ n

/-- Makes all line ends equal, but for the two separators that are kept. -/
def unifyBreaks : List Char → List Char
  | '\r' :: '\n' :: rest => '\n' :: unifyBreaks rest
  | c :: rest => (if c == '\r' || c == '\u0085' then '\n' else c) :: unifyBreaks rest
  | [] => []

/-- A text from some place on. -/
structure Cursor where
  rest : List Char
  line : Nat
  column : Nat
  offset : Nat

namespace Cursor

/-- The start of a text, without a byte order mark. Refuses control characters. -/
def start? (text : String) : Option Cursor :=
  let s :=
    match text.toList with
    | '\uFEFF' :: rest => rest
    | s => s
  if s.all isAllowed then some ⟨unifyBreaks s, 0, 0, 0⟩ else none

def next (c : Cursor) : Cursor :=
  match c.rest with
  | [] => c
  | x :: rest =>
    if isBreak x then ⟨rest, c.line + 1, 0, c.offset + 1⟩
    else ⟨rest, c.line, c.column + 1, c.offset + 1⟩

/-- Some characters further on the same line. -/
def skip (c : Cursor) (n : Nat) : Cursor :=
  ⟨c.rest.drop n, c.line, c.column + n, c.offset + n⟩

/-- Whether three equal characters and a gap stand at the start of a line. -/
def hasMark (mark : Char) (c : Cursor) : Bool :=
  c.column == 0
    && match c.rest with
      | x :: y :: z :: rest => x == mark && y == mark && z == mark && atGap rest
      | _ => false

/-- Whether a line starts here that divides documents. -/
def atDivider (c : Cursor) : Bool := c.hasMark '-' || c.hasMark '.'

end Cursor

end ClientGen.Yaml
