import ClientGen.Text.Digits
import ClientGen.Text.Printable
/-!
# Quoted text

Two ways to put a text between quotation marks. `quoted` is the string of a JSON document, which
is also a string literal of C++: only what would break the literal is escaped. `displayed` is for
messages: everything that cannot be printed is escaped.
-/
namespace ClientGen.Text

/-- How one character is written inside a JSON string. With `markup` the characters that are
special in markup are escaped too. -/
def quotedChar (markup : Bool) (c : Char) : List Char :=
  if c = '"' then ['\\', '"']
  else if c = '\\' then ['\\', '\\']
  else if c = '\n' then ['\\', 'n']
  else if c = '\r' then ['\\', 'r']
  else if c = '\t' then ['\\', 't']
  else if c = '\x08' then ['\\', 'b']
  else if c = '\x0c' then ['\\', 'f']
  else if c.toNat < 0x20 ∨ c.toNat = 0x2028 ∨ c.toNat = 0x2029
      ∨ (markup ∧ (c = '<' ∨ c = '>' ∨ c = '&')) then
    '\\' :: 'u' :: hexPadded 4 c.toNat
  else [c]

/-- A text as a JSON string; everything but quotation marks, backslashes, controls and the two
line separators stands for itself. -/
def quoted (s : String) : String :=
  String.ofList ('"' :: s.toList.flatMap (quotedChar false) ++ ['"'])

/-- A text as a JSON string that is safe inside markup. -/
def quotedForMarkup (s : String) : String :=
  String.ofList ('"' :: s.toList.flatMap (quotedChar true) ++ ['"'])

/-- How one character is displayed between the quotation marks `mark`. -/
def displayedChar (mark c : Char) : List Char :=
  if c = mark ∨ c = '\\' then ['\\', c]
  else if isPrintable c then [c]
  else if c = '\x07' then ['\\', 'a']
  else if c = '\x08' then ['\\', 'b']
  else if c = '\x0c' then ['\\', 'f']
  else if c = '\n' then ['\\', 'n']
  else if c = '\r' then ['\\', 'r']
  else if c = '\t' then ['\\', 't']
  else if c = '\x0b' then ['\\', 'v']
  else if c.toNat < 0x20 ∨ c.toNat = 0x7F then '\\' :: 'x' :: hexPadded 2 c.toNat
  else if c.toNat < 0x10000 then '\\' :: 'u' :: hexPadded 4 c.toNat
  else '\\' :: 'U' :: hexPadded 8 c.toNat

/-- A text as messages show it. -/
def displayed (s : String) : String :=
  String.ofList ('"' :: s.toList.flatMap (displayedChar '"') ++ ['"'])

/-- A character as messages show it. -/
def displayedSingle (c : Char) : String :=
  String.ofList ('\'' :: displayedChar '\'' c ++ ['\''])

end ClientGen.Text
