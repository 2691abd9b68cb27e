import ClientGen.Text.Digits
/-!
# Values of a settings file

The values of a file of tables: texts, numbers, flags, moments, arrays and tables. Of a number or
a moment only that it is one matters.
-/
namespace ClientGen.Toml

inductive Value where
  | text (value : String)
  | flag (value : Bool)
  | number
  | moment
  | array (items : List Value)
  | table (entries : List (String × Value))

/-- The keys that lead to a value. -/
abbrev KeyPath := List String

/-- A line of a file that says something. -/
inductive Statement where
  /-- The following lines are about a table, or about one more table of an array. -/
  | header (path : KeyPath) (isArray : Bool)
  | assign (path : KeyPath) (value : Value)

/-- Whether a character may stand in a key without quotation marks. -/
def isBareKeyChar (c : Char) : Bool :=
  Text.isDigit c || ('a' ≤ c && c ≤ 'z') || ('A' ≤ c && c ≤ 'Z') || c == '_' || c == '-'

/-- How one character of a key is written between quotation marks. -/
def keyChar (c : Char) : List Char :=
  if c == '"' then ['\\', '"']
  else if c == '\\' then ['\\', '\\']
  else if c == '\x08' then ['\\', 'b']
  else if c == '\t' then ['\\', 't']
  else if c == '\n' then ['\\', 'n']
  else if c == '\x0c' then ['\\', 'f']
  else if c == '\r' then ['\\', 'r']
  else if c.toNat < 0x20 || c.toNat == 0x7F then '\\' :: 'u' :: Text.hexPadded 4 c.toNat
  else [c]

/-- How a key is written, with quotation marks only where they are needed. -/
def keyText (key : String) : String :=
  if !key.isEmpty && key.toList.all isBareKeyChar then key
  else String.ofList ('"' :: key.toList.flatMap keyChar ++ ['"'])

/-- How the keys that lead to a value are written. -/
def pathText (path : KeyPath) : String := String.intercalate "." (path.map keyText)

end ClientGen.Toml
