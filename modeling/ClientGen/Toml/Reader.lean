import ClientGen.Text.WordSize
import ClientGen.Toml.Value
/-!
# Reading statements

The lines of a file of tables. Texts stand between single or double quotation marks, or three of
them if they go over several lines; only between double ones there are escapes.
-/
namespace ClientGen.Toml

def isBlank (c : Char) : Bool := c == ' ' || c == '\t'

def skipBlanks (s : List Char) : List Char := s.dropWhile isBlank

/-- Whether a character may stand in a text or a comment. -/
def isAllowed (c : Char) : Bool := c == '\t' || (0x20 ≤ c.toNat && c.toNat != 0x7F)

/-- Drops a comment, if there is one; controls in it are refused. -/
def skipComment : List Char → Option (List Char)
  | '#' :: rest =>
    let comment := rest.takeWhile (· != '\n')
    let after := rest.drop comment.length
    let comment :=
      if comment.getLast? == some '\r' && !after.isEmpty then comment.dropLast else comment
    if comment.all isAllowed then some after else none
  | s => some s

def skipBreak : List Char → Option (List Char)
  | '\n' :: rest => some rest
  | '\r' :: '\n' :: rest => some rest
  | _ => none

/-- Drops blanks, a comment and the end of a line; a text may end instead. -/
def skipLineEnd (s : List Char) : Option (List Char) := do
  let s ← skipComment (skipBlanks s)
  if s.isEmpty then some [] else skipBreak s

def skipLines : (fuel : Nat) → List Char → Option (List Char)
  | 0, s => some s
  | fuel + 1, s => do
    let s ← skipComment (skipBlanks s)
    match skipBreak s with
    | none => some s
    | some s => skipLines fuel s

/-- The character that some hexadecimal digits name. -/
def hexChar? (digits : List Char) : Option Char := do
  let n ← digits.foldlM (fun n d => (Text.hexValue? d).map (16 * n + ·)) 0
  if (0xD800 ≤ n && n ≤ 0xDFFF) || 0x10FFFF < n then none else some (Char.ofNat n)

def readEscape : List Char → Option (Char × List Char)
  | [] => none
  | e :: rest =>
    let hex (places : Nat) : Option (Char × List Char) :=
      if rest.length < places then none
      else (hexChar? (rest.take places)).map fun c => (c, rest.drop places)
    match e with
    | 'b' => some ('\x08', rest)
    | 't' => some ('\t', rest)
    | 'n' => some ('\n', rest)
    | 'f' => some ('\x0c', rest)
    | 'r' => some ('\r', rest)
    | 'e' => some ('\x1b', rest)
    | '"' => some ('"', rest)
    | '\\' => some ('\\', rest)
    | 'x' => hex 2
    | 'u' => hex 4
    | 'U' => hex 8
    | _ => none

/-- Reads the rest of a text on one line. -/
def readLineText (mark : Char) : (fuel : Nat) → List Char → Option (List Char × List Char)
  | 0, _ => none
  | fuel + 1, s =>
    match s with
    | [] => none
    | c :: rest =>
      if c == mark then some ([], rest)
      else if c == '\\' && mark == '"' then do
        let (c, rest) ← readEscape rest
        let (text, rest) ← readLineText mark fuel rest
        return (c :: text, rest)
      else if isAllowed c then do
        let (text, rest) ← readLineText mark fuel rest
        return (c :: text, rest)
      else none

/-- Whether a text goes on behind a backslash at the end of a line, and where. -/
def skipJoint (s : List Char) : Option (List Char) :=
  (skipBreak (skipBlanks s)).map fun s =>
    s.dropWhile fun c => isBlank c || c == '\n' || c == '\r'

/-- Reads the rest of a text over several lines. Up to two marks in front of the closing three
belong to it. -/
def readLongText (mark : Char) : (fuel : Nat) → List Char → Option (List Char × List Char)
  | 0, _ => none
  | fuel + 1, s =>
    let marks := s.takeWhile (· == mark)
    if 3 ≤ marks.length then
      let kept := min (marks.length - 3) 2
      some (List.replicate kept mark, s.drop (kept + 3))
    else
      match s with
      | [] => none
      | c :: rest =>
        if c == '\\' && mark == '"' then
          match skipJoint rest with
          | some rest => readLongText mark fuel rest
          | none => do
            let (c, rest) ← readEscape rest
            let (text, rest) ← readLongText mark fuel rest
            return (c :: text, rest)
        else
          match skipBreak s with
          | some rest => do
            let (text, rest) ← readLongText mark fuel rest
            return ('\n' :: text, rest)
          | none =>
            if isAllowed c then do
              let (text, rest) ← readLongText mark fuel rest
              return (c :: text, rest)
            else none

def readText (s : List Char) : Option (String × List Char) :=
  let read : Option (List Char × List Char) :=
    match s with
    | '"' :: '"' :: '"' :: rest =>
      readLongText '"' (rest.length + 1) ((skipBreak rest).getD rest)
    | '\'' :: '\'' :: '\'' :: rest =>
      readLongText '\'' (rest.length + 1) ((skipBreak rest).getD rest)
    | '"' :: rest => readLineText '"' (rest.length + 1) rest
    | '\'' :: rest => readLineText '\'' (rest.length + 1) rest
    | _ => none
  read.map fun (text, rest) => (String.ofList text, rest)

def readKey (s : List Char) : Option (String × List Char) :=
  match s with
  | '"' :: rest =>
    (readLineText '"' (rest.length + 1) rest).map fun (k, rest) => (String.ofList k, rest)
  | '\'' :: rest =>
    (readLineText '\'' (rest.length + 1) rest).map fun (k, rest) => (String.ofList k, rest)
  | s =>
    let key := s.takeWhile isBareKeyChar
    if key.isEmpty then none else some (String.ofList key, s.drop key.length)

/-- Reads keys with stops between them. -/
def readPath : (fuel : Nat) → List Char → Option (KeyPath × List Char)
  | 0, _ => none
  | fuel + 1, s => do
    let (key, s) ← readKey (skipBlanks s)
    match skipBlanks s with
    | '.' :: rest =>
      let (path, s) ← readPath fuel rest
      return (key :: path, s)
    | s => some ([key], s)

/-- Whether digits are in groups with single underscores between them. -/
def isGrouped (isDigit : Char → Bool) (s : List Char) : Bool :=
  (s.splitOn '_').all fun group => !group.isEmpty && group.all isDigit

/-- Whether a text is a decimal number without needless zeros. -/
def isWholePart (s : List Char) : Bool :=
  isGrouped Text.isDigit s && (s.length == 1 || s.head? != some '0')

/-- Whether a text is a whole number of sixty-four bits. -/
def isInteger (s : List Char) : Bool :=
  let fits (base : Nat) (digits : List Char) (limit : Nat) : Bool :=
    (digits.filter (· != '_')).foldl
      (fun n d => base * n + (Text.hexValue? d).getD 0) 0 ≤ limit
  let isDigitOf (base : Nat) (c : Char) : Bool := (Text.hexValue? c).any (· < base)
  match s with
  | '0' :: 'x' :: rest => isGrouped (isDigitOf 16) rest && fits 16 rest (Text.signedLimit - 1)
  | '0' :: 'o' :: rest => isGrouped (isDigitOf 8) rest && fits 8 rest (Text.signedLimit - 1)
  | '0' :: 'b' :: rest => isGrouped (isDigitOf 2) rest && fits 2 rest (Text.signedLimit - 1)
  | '-' :: rest => isWholePart rest && fits 10 rest Text.signedLimit
  | '+' :: rest => isWholePart rest && fits 10 rest (Text.signedLimit - 1)
  | s => isWholePart s && fits 10 s (Text.signedLimit - 1)

/-- Whether a text is a number with a fraction or an exponent. -/
def isFloat (s : List Char) : Bool :=
  let body := if s.head? == some '-' || s.head? == some '+' then s.drop 1 else s
  let isMark (c : Char) : Bool := c == 'e' || c == 'E'
  let mantissa := body.takeWhile (!isMark ·)
  let exponent := body.drop mantissa.length
  let before := mantissa.takeWhile (· != '.')
  let after := mantissa.drop before.length
  let unsigned (s : List Char) : List Char :=
    if s.head? == some '-' || s.head? == some '+' then s.drop 1 else s
  body == ['i', 'n', 'f'] || body == ['n', 'a', 'n']
    || (isWholePart before && (after.isEmpty || isGrouped Text.isDigit (after.drop 1))
      && (exponent.isEmpty || isGrouped Text.isDigit (unsigned (exponent.drop 1)))
      && !(after.isEmpty && exponent.isEmpty))

/-- The number of two digits, if a text is that. -/
def pair? : List Char → Option Nat
  | [a, b] =>
    if Text.isDigit a && Text.isDigit b then some (Text.decimalValue [a, b]) else none
  | _ => none

def monthDays (year month : Nat) : Nat :=
  if month == 2 then
    if year % 4 == 0 && (year % 100 != 0 || year % 400 == 0) then 29 else 28
  else if month == 4 || month == 6 || month == 9 || month == 11 then 30 else 31

/-- Whether a text is a day of the calendar. -/
def isDate (s : List Char) : Bool :=
  match s with
  | [a, b, c, d, '-', e, f, '-', g, h] =>
    match pair? [a, b], pair? [c, d], pair? [e, f], pair? [g, h] with
    | some century, some year, some month, some day =>
      1 ≤ month && month ≤ 12 && 1 ≤ day && day ≤ monthDays (100 * century + year) month
    | _, _, _, _ => false
  | _ => false

/-- Whether a text is a time of day; the seconds and their fraction may be missing. -/
def isTime (s : List Char) : Bool :=
  let clock := s.takeWhile (· != '.')
  let fraction := s.drop clock.length
  let isPart (limit : Nat) (s : List Char) : Bool := (pair? s).any (· < limit)
  match clock.splitOn ':' with
  | [h, m] => isPart 24 h && isPart 60 m && fraction.isEmpty
  | [h, m, sec] =>
    isPart 24 h && isPart 60 m && isPart 60 sec
      && (fraction.isEmpty || (1 < fraction.length && (fraction.drop 1).all Text.isDigit))
  | _ => false

/-- Whether a text is a time of day with or without the distance from universal time. -/
def isZonedTime (s : List Char) : Bool :=
  let clock := s.takeWhile fun c => c != 'Z' && c != 'z' && c != '+' && c != '-'
  let zone := s.drop clock.length
  isTime clock
    && match zone with
      | [] => true
      | [c] => c == 'Z' || c == 'z'
      | [_, a, b, ':', c, d] => (pair? [a, b]).any (· < 24) && (pair? [c, d]).any (· < 60)
      | _ => false

/-- Whether a text is a date, a time, or both. -/
def isMoment (s : List Char) : Bool :=
  let joint := (s.drop 10).head?
  isDate s || isTime s
    || (isDate (s.take 10) && (joint == some 'T' || joint == some 't' || joint == some ' ')
      && isZonedTime (s.drop 11))

/-- Whether a character may stand in a number or a moment. -/
def isWordChar (c : Char) : Bool :=
  isBareKeyChar c || c == '+' || c == '.' || c == ':'

/-- Reads a value that is written as a word. A date may have a time behind a space. -/
def readWord (s : List Char) : Option (Value × List Char) :=
  let word := s.takeWhile isWordChar
  let rest := s.drop word.length
  let time := if rest.head? == some ' ' then (rest.drop 1).takeWhile isWordChar else []
  if isDate word && !time.isEmpty && isMoment (word ++ ' ' :: time) then
    some (.moment, rest.drop (1 + time.length))
  else if word == ['t', 'r', 'u', 'e'] then some (.flag true, rest)
  else if word == ['f', 'a', 'l', 's', 'e'] then some (.flag false, rest)
  else if isInteger word || isFloat word then some (.number, rest)
  else if isMoment word then some (.moment, rest)
  else none

/-- A step of keys on the way to a value inside braces. -/
def nest : KeyPath → Value → Value
  | [], value => value
  | key :: rest, value => .table [(key, nest rest value)]

/-- Puts a value inside braces at its keys; no key can be given twice. -/
def assignInline : KeyPath → Value → List (String × Value) → Option (List (String × Value))
  | [], _, _ => none
  | key :: rest, value, [] => some [(key, nest rest value)]
  | key :: rest, value, (name, old) :: entries =>
    if key == name then
      match rest, old with
      | [], _ => none
      | rest, .table inner => (assignInline rest value inner).map fun inner =>
          (name, .table inner) :: entries
      | _, _ => none
    else (assignInline (key :: rest) value entries).map ((name, old) :: ·)
termination_by path _ entries => (path.length, entries.length)

mutual

def readValue : (fuel : Nat) → List Char → Option (Value × List Char)
  | 0, _ => none
  | fuel + 1, s =>
    match s with
    | '"' :: _ => (readText s).map fun (text, rest) => (.text text, rest)
    | '\'' :: _ => (readText s).map fun (text, rest) => (.text text, rest)
    | '[' :: rest => (readItems fuel rest).map fun (items, rest) => (.array items, rest)
    | '\x7b' :: rest => (readEntries fuel [] rest).map fun (entries, rest) => (.table entries, rest)
    | s => readWord s

/-- Reads the items of an array and the closing bracket. -/
def readItems : (fuel : Nat) → List Char → Option (List Value × List Char)
  | 0, _ => none
  | fuel + 1, s => do
    let s ← skipLines (s.length + 1) s
    match s with
    | ']' :: rest => some ([], rest)
    | s =>
      let (item, s) ← readValue fuel s
      let s ← skipLines (s.length + 1) s
      match s with
      | ']' :: rest => some ([item], rest)
      | ',' :: rest =>
        let (items, rest) ← readItems fuel rest
        some (item :: items, rest)
      | _ => none

/-- Reads the entries of a table between braces and the closing brace. -/
def readEntries : (fuel : Nat) → List (String × Value) → List Char →
    Option (List (String × Value) × List Char)
  | 0, _, _ => none
  | fuel + 1, done, s => do
    let s ← skipLines (s.length + 1) s
    match s with
    | '\x7d' :: rest => some (done, rest)
    | s =>
      let (path, s) ← readPath (s.length + 1) s
      match s with
      | '=' :: rest =>
        let (value, s) ← readValue fuel (skipBlanks rest)
        let done ← assignInline path value done
        let s ← skipLines (s.length + 1) s
        match s with
        | '\x7d' :: rest => some (done, rest)
        | ',' :: rest => readEntries fuel done rest
        | _ => none
      | _ => none

end

def readStatement (s : List Char) : Option (Statement × List Char) :=
  match s with
  | '[' :: '[' :: rest => do
    let (path, s) ← readPath (rest.length + 1) rest
    match s with
    | ']' :: ']' :: rest => some (.header path true, rest)
    | _ => none
  | '[' :: rest => do
    let (path, s) ← readPath (rest.length + 1) rest
    match s with
    | ']' :: rest => some (.header path false, rest)
    | _ => none
  | s => do
    let (path, s) ← readPath (s.length + 1) s
    match s with
    | '=' :: rest =>
      let (value, rest) ← readValue (rest.length + 1) (skipBlanks rest)
      some (.assign path value, rest)
    | _ => none

def readStatements : (fuel : Nat) → List Char → Option (List Statement)
  | 0, _ => none
  | fuel + 1, s => do
    let s ← skipLines (s.length + 1) s
    if s.isEmpty then some []
    else
      let (statement, s) ← readStatement s
      let s ← skipLineEnd s
      return statement :: (← readStatements fuel s)

/-- The statements of a text; every one takes at least one character. -/
def statements (text : String) : Option (List Statement) :=
  let s :=
    match text.toList with
    | '\uFEFF' :: rest => rest
    | s => s
  readStatements (s.length + 1) s

end ClientGen.Toml
