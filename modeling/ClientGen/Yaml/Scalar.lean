import ClientGen.Yaml.Cursor
/-!
# Scalars

The three ways to write a scalar: plain, between quotation marks, and as a block of lines. In the
first two the end of a line counts as a space, and empty lines as ends of lines.
-/
namespace ClientGen.Yaml

/-- What stands between two words: blanks, or line ends with any blanks around them. -/
structure Gap where
  blanks : List Char
  breaks : List Char

namespace Gap

def none : Gap := ⟨[], []⟩

/-- What a gap stands for. -/
def text (gap : Gap) : List Char :=
  match gap.breaks with
  | [] => gap.blanks
  | first :: more =>
    if first != '\n' then first :: more else if more.isEmpty then [' '] else more

/-- Reads a gap. With a limit, tabs in front of that column are refused at the start of a line. -/
def take (limit : Nat) : (fuel : Nat) → Cursor → Gap → Option (Gap × Cursor)
  | 0, c, gap => some (gap, c)
  | fuel + 1, c, gap =>
    match c.rest with
    | [] => some (gap, c)
    | x :: _ =>
      if isBreak x then take limit fuel c.next ⟨[], gap.breaks ++ [x]⟩
      else if !isBlank x then some (gap, c)
      else if gap.breaks.isEmpty then take limit fuel c.next ⟨gap.blanks ++ [x], []⟩
      else if x == '\t' && c.column < limit then .none
      else take limit fuel c.next gap

end Gap

/-- Reads a word of a plain scalar. A colon in front of a gap ends it, and inside brackets so do
commas, question marks and brackets. -/
def plainWord (inFlow : Bool) : List Char → List Char
  | [] => []
  | x :: rest =>
    if isBlank x || isBreak x || (x == ':' && atGap rest) || (inFlow && ",?[]\x7b\x7d".contains x)
    then []
    else x :: plainWord inFlow rest

/-- A plain scalar, where it ends, and whether the end is on a later line. -/
structure PlainScalar where
  text : List Char
  cursor : Cursor
  endsAfterBreak : Bool

/-- Reads the words of a plain scalar after some gap. Outside of brackets the scalar ends in front
of a line that starts before the column `indent`. -/
def plainWords (inFlow : Bool) (indent : Nat) :
    (fuel : Nat) → Cursor → List Char → Gap → Option PlainScalar
  | 0, _, _, _ => none
  | fuel + 1, c, done, gap =>
    let stop : Option PlainScalar := some ⟨done, c, !gap.breaks.isEmpty⟩
    if c.atDivider || c.rest.head? == some '#' then stop
    else
      let word := plainWord inFlow c.rest
      if word.isEmpty then stop
      else
        let done := done ++ gap.text ++ word
        let c := c.skip word.length
        if c.rest.isEmpty || !atGap c.rest then some ⟨done, c, false⟩
        else
          match Gap.take indent (c.rest.length + 1) c .none with
          | none => none
          | some (gap, c) =>
            if !inFlow && c.column < indent then some ⟨done, c, !gap.breaks.isEmpty⟩
            else plainWords inFlow indent fuel c done gap

def readPlain (inFlow : Bool) (indent : Nat) (c : Cursor) : Option PlainScalar :=
  plainWords inFlow indent (c.rest.length + 1) c [] .none

/-- The character that some hexadecimal digits name. -/
def hexChar? (digits : List Char) : Option Char := do
  let n ← digits.foldlM (fun n d => (Text.hexValue? d).map (16 * n + ·)) 0
  if (0xD800 ≤ n && n ≤ 0xDFFF) || 0x10FFFF < n then none else some (Char.ofNat n)

/-- The character that a backslash and a letter stand for. -/
def escaped? (c : Char) : Option Char :=
  match c with
  | '0' => some '\x00'
  | 'a' => some '\x07'
  | 'b' => some '\x08'
  | 't' => some '\t'
  | '\t' => some '\t'
  | 'n' => some '\n'
  | 'v' => some '\x0b'
  | 'f' => some '\x0c'
  | 'r' => some '\r'
  | 'e' => some '\x1b'
  | ' ' => some ' '
  | '"' => some '"'
  | '/' => some '/'
  | '\\' => some '\\'
  | 'N' => some '\u0085'
  | '_' => some '\u00a0'
  | 'L' => some '\u2028'
  | 'P' => some '\u2029'
  | _ => none

/-- The number of hexadecimal digits behind a letter. -/
def hexPlaces? (c : Char) : Option Nat :=
  match c with
  | 'x' => some 2
  | 'u' => some 4
  | 'U' => some 8
  | _ => none

/-- Reads the rest of a scalar between the quotation marks `mark`. A mark is written twice between
single ones; between double ones a backslash starts an escape. -/
def quotedRest (mark : Char) : (fuel : Nat) → Cursor → List Char → Option (List Char × Cursor)
  | 0, _, _ => none
  | fuel + 1, c, done =>
    if c.atDivider then none
    else
      match c.rest with
      | [] => none
      | x :: rest =>
        if isBlank x || isBreak x then do
          let (gap, c) ← Gap.take 0 (c.rest.length + 1) c .none
          quotedRest mark fuel c (done ++ gap.text)
        else if x == mark then
          if mark == '\'' && rest.head? == some '\'' then
            quotedRest mark fuel (c.skip 2) (done ++ ['\''])
          else some (done, c.skip 1)
        else if mark == '"' && x == '\\' then
          match rest with
          | [] => none
          | e :: rest =>
            if isBreak e then do
              let (gap, c) ← Gap.take 0 (c.rest.length + 1) (c.skip 1) .none
              quotedRest mark fuel c (done ++ gap.breaks.drop 1)
            else
              match hexPlaces? e with
              | some places =>
                if rest.length < places then none
                else do
                  let char ← hexChar? (rest.take places)
                  quotedRest mark fuel (c.skip (2 + places)) (done ++ [char])
              | none => do
                let char ← escaped? e
                quotedRest mark fuel (c.skip 2) (done ++ [char])
        else quotedRest mark fuel c.next (done ++ [x])

/-- Reads a scalar between quotation marks, from the first mark on. -/
def readQuoted (mark : Char) (c : Cursor) : Option (List Char × Cursor) :=
  quotedRest mark (c.rest.length + 1) (c.skip 1) []

/-- Which line ends at the end of a block are kept. -/
inductive Chomping where
  | strip
  | clip
  | keep
deriving DecidableEq

/-- The line that opens a block: what is kept at the end, and how far the block is indented. -/
structure BlockHeader where
  chomping : Chomping
  increment : Nat

/-- Reads the indicators behind the mark of a block. -/
def blockIndicators : (fuel : Nat) → BlockHeader → List Char → Option (BlockHeader × List Char)
  | 0, header, s => some (header, s)
  | fuel + 1, header, s =>
    match s with
    | '+' :: rest =>
      if header.chomping == .clip then blockIndicators fuel { header with chomping := .keep } rest
      else some (header, s)
    | '-' :: rest =>
      if header.chomping == .clip then blockIndicators fuel { header with chomping := .strip } rest
      else some (header, s)
    | '0' :: _ => if header.increment == 0 then none else some (header, s)
    | d :: rest =>
      if Text.isDigit d && header.increment == 0 then
        blockIndicators fuel { header with increment := d.toNat - 48 } rest
      else some (header, s)
    | [] => some (header, s)

/-- Reads the empty lines in front of a line of a block: the breaks, and the deepest column. -/
def blockBreaks (indent : Nat) :
    (fuel : Nat) → Cursor → List Char → (deepest : Nat) → Option (List Char × Nat × Cursor)
  | 0, c, breaks, deepest => some (breaks, deepest, c)
  | fuel + 1, c, breaks, deepest =>
    let inside := indent == 0 || c.column < indent
    match c.rest with
    | [] => some (breaks, max deepest c.column, c)
    | x :: _ =>
      if inside && x == ' ' then blockBreaks indent fuel c.next breaks deepest
      else if inside && x == '\t' then none
      else if isBreak x then
        blockBreaks indent fuel c.next (breaks ++ [x]) (max deepest c.column)
      else some (breaks, max deepest c.column, c)

/-- Reads the lines of a block that is indented to a column. `lead` is the break behind the line
before, `breaks` are those of the empty lines after it. -/
def blockLines (isLiteral : Bool) (indent : Nat) :
    (fuel : Nat) → Cursor → (done lead breaks : List Char) → (leadBlank : Bool) →
      Option (List Char × List Char × List Char × Cursor)
  | 0, _, _, _, _, _ => none
  | fuel + 1, c, done, lead, breaks, leadBlank =>
    if c.column != indent || c.rest.isEmpty then some (done, lead, breaks, c)
    else
      let startsBlank := (c.rest.head?.map isBlank).getD false
      let folds := !isLiteral && !leadBlank && !startsBlank && lead == ['\n']
      let joint := if folds then (if breaks.isEmpty then [' '] else []) else lead
      let line := c.rest.takeWhile (!isBreak ·)
      let c := c.skip line.length
      let done := done ++ joint ++ breaks ++ line
      let lead := (c.rest.take 1)
      match blockBreaks indent (c.rest.length + 1) c.next [] 0 with
      | none => none
      | some (breaks, _, c) => blockLines isLiteral indent fuel c done lead breaks startsBlank

/-- Reads a block, from its mark on. `outer` is the column of the collection around it, if there
is one. -/
def readBlock (isLiteral : Bool) (outer : Option Nat) (c : Cursor) :
    Option (List Char × Cursor) := do
  let (header, rest) ← blockIndicators 2 ⟨.clip, 0⟩ (c.rest.drop 1)
  let rest := rest.dropWhile isBlank
  let comment := if rest.head? == some '#' then rest.takeWhile (!isBreak ·) else []
  let rest := rest.drop comment.length
  if !rest.isEmpty && !(rest.head?.map isBreak).getD false then none
  let used := c.rest.length - rest.length
  let c := (c.skip used).next
  let fixed := if header.increment == 0 then 0 else outer.getD 0 + header.increment
  let (breaks, deepest, c) ← blockBreaks fixed (c.rest.length + 1) c [] 0
  let least := max 1 ((outer.map (· + 1)).getD 0)
  let indent := if fixed == 0 then max deepest least else fixed
  let (text, lead, breaks, c) ←
    blockLines isLiteral indent (c.rest.length + 1) c [] [] breaks false
  let tail :=
    match header.chomping with
    | .strip => []
    | .clip => lead
    | .keep => lead ++ breaks
  return (text ++ tail, c)

end ClientGen.Yaml
