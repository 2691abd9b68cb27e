import ClientGen.Yaml.Scalar
/-!
# Tokens

A text as a list of tokens. Indentation becomes tokens that open and close blocks. A token that
turns out to be the key of a mapping gets a token in front of it that says so, and possibly one
that opens the mapping. Where a text is malformed the list ends with `invalid`, so that a reader
of the first document is not disturbed by what follows it.
-/
namespace ClientGen.Yaml

/-- A token. -/
inductive Token where
  | streamEnd
  | versionDirective (isKnown : Bool)
  | otherDirective
  | documentStart
  | documentEnd
  | blockSequenceStart
  | blockMappingStart
  | blockEnd
  | flowSequenceStart
  | flowSequenceEnd
  | flowMappingStart
  | flowMappingEnd
  | blockEntry
  | flowEntry
  | key
  | value
  | alias (name : String)
  | anchor (name : String)
  | tag (text : String)
  | scalar (text : String) (isPlain : Bool)
  | invalid
deriving DecidableEq, Repr

/-- A token that may turn out to be a key. -/
structure PossibleKey where
  /-- Whether anything but a key would be an error. -/
  isRequired : Bool
  /-- The number of tokens in front of it. -/
  index : Nat
  line : Nat
  column : Nat
  offset : Nat

/-- A text on its way into tokens. -/
structure Scanner where
  cursor : Cursor
  /-- The columns of the open blocks, the innermost first. -/
  indents : List Nat
  /-- Whether a key may stand here. -/
  keyAllowed : Bool
  /-- The token that may be a key, inside the innermost brackets. -/
  possibleKey : Option PossibleKey
  /-- The same for the brackets around, one for each open bracket. -/
  outerKeys : List (Option PossibleKey)
  /-- The tokens so far, the last first. -/
  tokens : List Token

namespace Scanner

/-- Whether there are open brackets. -/
def inFlow (s : Scanner) : Bool := !s.outerKeys.isEmpty

/-- The column from which on a line belongs to the innermost block. -/
def innerColumn (s : Scanner) : Nat := (s.indents.head?.map (· + 1)).getD 0

def emit (s : Scanner) (token : Token) : Scanner := { s with tokens := token :: s.tokens }

/-- Adds a token in front of the last ones, so that `index` tokens stand in front of it. -/
def emitAt (s : Scanner) (index : Nat) (token : Token) : Scanner :=
  { s with tokens := s.tokens.insertIdx (s.tokens.length - index) token }

/-- Closes the blocks that start right of a column. -/
def closeRightOf (s : Scanner) (column : Nat) : Scanner :=
  if s.inFlow then s
  else
    let closed := s.indents.takeWhile (column < ·)
    { s with
      indents := s.indents.drop closed.length
      tokens := List.replicate closed.length .blockEnd ++ s.tokens }

/-- Closes all blocks. -/
def closeAll (s : Scanner) : Scanner :=
  if s.inFlow then s
  else { s with
    indents := []
    tokens := List.replicate s.indents.length .blockEnd ++ s.tokens }

/-- Opens a block at a column that is right of the innermost one; its token is put where `index`
tokens stand in front of it. -/
def openBlock (s : Scanner) (column index : Nat) (token : Token) : Scanner :=
  if s.inFlow || s.indents.head?.any (column ≤ ·) then s
  else { s.emitAt index token with indents := column :: s.indents }

/-- Gives up on the token that might have been a key. -/
def dropKey (s : Scanner) : Option Scanner :=
  if s.possibleKey.any (·.isRequired) then none else some { s with possibleKey := none }

/-- Remembers that the next token may be a key. -/
def markKey (s : Scanner) : Option Scanner :=
  if s.keyAllowed then
    s.dropKey.map fun s => { s with
      possibleKey := some ⟨!s.inFlow && s.indents.head? == some s.cursor.column,
        s.tokens.length, s.cursor.line, s.cursor.column, s.cursor.offset⟩ }
  else some s

/-- The token that is a key because a colon follows. It stands on the same line and not too far
away. -/
def usableKey (s : Scanner) : Option (Option PossibleKey) :=
  match s.possibleKey with
  | none => some none
  | some k =>
    if k.line < s.cursor.line || k.offset + 1024 < s.cursor.offset then
      if k.isRequired then none else some none
    else some (some k)

/-- Skips blanks, comments and line ends. A new line may start with a key. -/
def skipGaps : (fuel : Nat) → Scanner → Scanner
  | 0, s => s
  | fuel + 1, s =>
    match s.cursor.rest with
    | ' ' :: _ => skipGaps fuel { s with cursor := s.cursor.next }
    | '\t' :: _ =>
      if s.inFlow || !s.keyAllowed then skipGaps fuel { s with cursor := s.cursor.next } else s
    | '#' :: _ =>
      let comment := s.cursor.rest.takeWhile (!isBreak ·)
      skipGaps fuel { s with cursor := s.cursor.skip comment.length }
    | x :: _ =>
      if isBreak x then
        skipGaps fuel { s with cursor := s.cursor.next, keyAllowed := s.keyAllowed || !s.inFlow }
      else s
    | [] => s

def move (s : Scanner) (cursor : Cursor) (token : Token) : Scanner :=
  { s.emit token with cursor := cursor }

/-- Reads a token of some characters. -/
def mark (s : Scanner) (length : Nat) (token : Token) : Scanner :=
  s.move (s.cursor.skip length) token

/-- Reads a line that divides documents. -/
def readDivider (s : Scanner) (token : Token) : Option Scanner :=
  s.closeAll.dropKey.map fun s => { s.mark 3 token with keyAllowed := false }

/-- Reads a directive line. Only one version is known. -/
def readDirective (s : Scanner) : Option Scanner :=
  let line := s.cursor.rest.takeWhile (!isBreak ·)
  let words := ((String.ofList (line.drop 1)).splitOn " ").filter (!·.isEmpty)
  let words := words.takeWhile (!·.startsWith "#")
  match words with
  | [] => none
  | name :: arguments =>
    let token : Token :=
      if name == "YAML" then .versionDirective (arguments == ["1.1"]) else .otherDirective
    s.closeAll.dropKey.map fun s => { s.mark line.length token with keyAllowed := false }

def readOpening (s : Scanner) (token : Token) : Option Scanner :=
  s.markKey.map fun s => { s.mark 1 token with
    possibleKey := none
    outerKeys := s.possibleKey :: s.outerKeys
    keyAllowed := true }

def readClosing (s : Scanner) (token : Token) : Option Scanner :=
  s.dropKey.map fun s => { s.mark 1 token with
    possibleKey := s.outerKeys.head?.getD none
    outerKeys := s.outerKeys.drop 1
    keyAllowed := false }

def readComma (s : Scanner) : Option Scanner :=
  s.dropKey.map fun s => { s.mark 1 .flowEntry with keyAllowed := true }

def readDash (s : Scanner) : Option Scanner :=
  if !s.inFlow && !s.keyAllowed then none
  else
    (s.openBlock s.cursor.column s.tokens.length .blockSequenceStart).dropKey.map fun s =>
      { s.mark 1 .blockEntry with keyAllowed := true }

def readQuestion (s : Scanner) : Option Scanner :=
  if !s.inFlow && !s.keyAllowed then none
  else
    (s.openBlock s.cursor.column s.tokens.length .blockMappingStart).dropKey.map fun s =>
      { s.mark 1 .key with keyAllowed := !s.inFlow }

def readColon (s : Scanner) : Option Scanner :=
  match s.usableKey with
  | none => none
  | some (some k) =>
    let s := (s.emitAt k.index .key).openBlock k.column k.index .blockMappingStart
    some { s.mark 1 .value with possibleKey := none, keyAllowed := false }
  | some none =>
    if !s.inFlow && !s.keyAllowed then none
    else
      let s := s.openBlock s.cursor.column s.tokens.length .blockMappingStart
      some { s.mark 1 .value with possibleKey := none, keyAllowed := !s.inFlow }

/-- Whether a character may stand in the name of an anchor. -/
def isNameChar (c : Char) : Bool :=
  Text.isDigit c || ('a' ≤ c && c ≤ 'z') || ('A' ≤ c && c ≤ 'Z') || c == '_' || c == '-'

/-- Reads an anchor or a reference to one. -/
def readName (s : Scanner) (token : String → Token) : Option Scanner := do
  let s ← s.markKey
  let name := (s.cursor.rest.drop 1).takeWhile isNameChar
  let after := s.cursor.rest.drop (1 + name.length)
  let ends := atGap after || (after.head?.map ("?:,]\x7d%@\x60".contains ·)).getD false
  if name.isEmpty || !ends then none
  else some { s.mark (1 + name.length) (token (String.ofList name)) with keyAllowed := false }

/-- Reads a tag. Handles other than the two standard ones are unknown. -/
def readTag (s : Scanner) : Option Scanner := do
  let s ← s.markKey
  let text := s.cursor.rest.takeWhile fun c =>
    !(isBlank c || isBreak c || (s.inFlow && ",[]\x7b\x7d".contains c))
  let suffix := if text.take 2 == ['!', '!'] then text.drop 2 else text.drop 1
  if suffix.contains '!' then none
  else
    some { s.mark text.length (.tag (String.ofList text)) with keyAllowed := false }

/-- Reads a scalar that is a block of lines. -/
def readBlockScalar (s : Scanner) (isLiteral : Bool) : Option Scanner := do
  let s ← s.dropKey
  let (text, cursor) ← readBlock isLiteral s.indents.head? s.cursor
  return { s.move cursor (.scalar (String.ofList text) false) with keyAllowed := true }

def readQuotedScalar (s : Scanner) (mark : Char) : Option Scanner := do
  let s ← s.markKey
  let (text, cursor) ← readQuoted mark s.cursor
  return { s.move cursor (.scalar (String.ofList text) false) with keyAllowed := false }

def readPlainScalar (s : Scanner) : Option Scanner := do
  let s ← s.markKey
  let plain ← readPlain s.inFlow s.innerColumn s.cursor
  return { s.move plain.cursor (.scalar (String.ofList plain.text) true) with
    keyAllowed := plain.endsAfterBreak }

/-- Whether a plain scalar may start here. -/
def startsPlain (inFlow : Bool) (c : Char) (rest : List Char) : Bool :=
  !(isBlank c || isBreak c || "-?:,[]\x7b\x7d#&*!|>'\"%@\x60".contains c)
    || (c == '-' && !(rest.head?.map isBlank).getD false)
    || (!inFlow && (c == '?' || c == ':') && !atGap rest)

def readToken (s : Scanner) : Option Scanner :=
  let c := s.cursor
  match c.rest with
  | [] => none
  | x :: rest =>
    if c.column == 0 && x == '%' then s.readDirective
    else if c.hasMark '-' then s.readDivider .documentStart
    else if c.hasMark '.' then s.readDivider .documentEnd
    else if x == '[' then s.readOpening .flowSequenceStart
    else if x == '\x7b' then s.readOpening .flowMappingStart
    else if x == ']' then s.readClosing .flowSequenceEnd
    else if x == '\x7d' then s.readClosing .flowMappingEnd
    else if x == ',' then s.readComma
    else if x == '-' && atGap rest then s.readDash
    else if x == '?' && (s.inFlow || atGap rest) then s.readQuestion
    else if x == ':' && (s.inFlow || atGap rest) then s.readColon
    else if x == '*' then s.readName .alias
    else if x == '&' then s.readName .anchor
    else if x == '!' then s.readTag
    else if x == '|' && !s.inFlow then s.readBlockScalar true
    else if x == '>' && !s.inFlow then s.readBlockScalar false
    else if x == '\'' || x == '"' then s.readQuotedScalar x
    else if startsPlain s.inFlow x rest then s.readPlainScalar
    else none

/-- Reads tokens up to the end, or up to a fault. -/
def run : (fuel : Nat) → Scanner → List Token
  | 0, s => (Token.invalid :: s.tokens).reverse
  | fuel + 1, s =>
    let s := s.skipGaps (s.cursor.rest.length + 1)
    if s.cursor.rest.isEmpty then
      match s.closeAll.dropKey with
      | none => (Token.invalid :: s.closeAll.tokens).reverse
      | some s => (Token.streamEnd :: s.tokens).reverse
    else
      let s := s.closeRightOf s.cursor.column
      match s.readToken with
      | none => (Token.invalid :: s.tokens).reverse
      | some s => run fuel s

end Scanner

/-- The tokens of a text; every token takes at least one character. -/
def tokens (text : String) : List Token :=
  match Cursor.start? text with
  | none => [.invalid]
  | some cursor => Scanner.run (cursor.rest.length + 1) ⟨cursor, [], true, none, [], []⟩

end ClientGen.Yaml
