import ClientGen.Text.WordSize
import ClientGen.Yaml.Node
/-!
# Typed nodes

What a node means where a text, a flag, a whole number, a list or a record is expected. A plain
scalar may stand for nothing at all; then what was there before stays. The outer option is empty
if a node does not have the expected type.
-/
namespace ClientGen.Yaml

/-- What a plain scalar denotes. -/
inductive Meaning where
  | null
  | flag (value : Bool)
  | whole (value : Int)
  /-- A number with a fraction or an exponent, without its fraction. -/
  | fraction (wholePart : Int)
  | mergeKey
  | text
deriving DecidableEq, Repr

/-- The value of digits in a base, at least one. -/
def digitsValue? (base : Nat) (digits : List Char) : Option Nat :=
  if digits.isEmpty then none
  else digits.foldlM (fun n d => do
    let v ← Text.hexValue? d
    if v < base then some (base * n + v) else none) 0

/-- A number without sign: decimal, or in the base that its first characters name. -/
def unsigned? : List Char → Option Nat
  | '0' :: c :: rest =>
    if c == 'x' || c == 'X' then digitsValue? 16 rest
    else if c == 'o' || c == 'O' then digitsValue? 8 rest
    else if c == 'b' || c == 'B' then digitsValue? 2 rest
    else digitsValue? 8 (c :: rest)
  | s => digitsValue? 10 s

/-- A whole number that fits sixty-four bits, with or without sign. -/
def whole? (s : List Char) : Option Int :=
  match s with
  | '-' :: rest => do
    let n ← unsigned? rest
    if n ≤ Text.signedLimit then some (-n : Int) else none
  | '+' :: rest => do
    let n ← unsigned? rest
    if n < Text.signedLimit then some (n : Int) else none
  | s => (unsigned? s).bind fun n => if n < Text.wordCount then some (n : Int) else none

/-- The exponent of a number behind its mark, if the text is one. -/
def exponent? : List Char → Option Int
  | [] => some 0
  | mark :: rest =>
    if mark != 'e' && mark != 'E' then none
    else
      match rest with
      | '-' :: digits => (digitsValue? 10 digits).map fun n => -(n : Int)
      | '+' :: digits => (digitsValue? 10 digits).map fun n => (n : Int)
      | digits => (digitsValue? 10 digits).map fun n => (n : Int)

/-- The part of a decimal number in front of its point, toward zero. Numbers too large for a float
are no numbers. -/
def fraction? (s : List Char) : Option Int := do
  let (isNegative, s) :=
    match s with
    | '-' :: rest => (true, rest)
    | '+' :: rest => (false, rest)
    | s => (false, s)
  let before := s.takeWhile Text.isDigit
  let rest := s.drop before.length
  let after := if rest.head? == some '.' then (rest.drop 1).takeWhile Text.isDigit else []
  let rest := if rest.head? == some '.' then rest.drop (1 + after.length) else rest
  if before.isEmpty && after.isEmpty then none
  let exponent ← exponent? rest
  if 308 < exponent then none
  let scale := exponent - after.length
  let digits := Text.decimalValue (before ++ after)
  let n := if 0 ≤ scale then digits * Nat.pow 10 scale.toNat
    else if 400 + s.length < scale.natAbs then 0 else digits / Nat.pow 10 scale.natAbs
  return if isNegative then -(n : Int) else n

/-- What a plain scalar denotes. -/
def meaning (text : String) : Meaning :=
  if ["", "~", "null", "Null", "NULL"].contains text then .null
  else if ["true", "True", "TRUE"].contains text then .flag true
  else if ["false", "False", "FALSE"].contains text then .flag false
  else if text == "<<" then .mergeKey
  else
    match text.toList with
    | [] => .text
    | c :: rest =>
      if Text.isDigit c || c == '+' || c == '-' then
        let s := (c :: rest).filter (· != '_')
        match whole? s with
        | some i => .whole i
        | none =>
          match fraction? s with
          | some i => .fraction i
          | none => .text
      else if c == '.' then
        match fraction? (c :: rest) with
        | some i => .fraction i
        | none => .text
      else .text

/-- The standard tag of what a scalar denotes. -/
def Meaning.tag : Meaning → String
  | .null => "!!null"
  | .flag _ => "!!bool"
  | .whole _ => "!!int"
  | .fraction _ => "!!float"
  | .mergeKey => "!!merge"
  | .text => "!!str"

/-- What a scalar denotes; its tag has to fit. -/
def scalarMeaning (tag : Option String) (text : String) (isPlain : Bool) : Option Meaning :=
  let natural := if isPlain then meaning text else .text
  match tag with
  | none => some natural
  | some "!" => some natural
  | some "!!str" => some .text
  | some tag =>
    let m := meaning text
    if tag == m.tag then some m
    else
      match tag, m with
      | "!!float", .whole i => some (.fraction i)
      | _, _ => none

/-- Whether a node stands for nothing. -/
def Node.isNull : Node → Bool
  | .scalar tag text isPlain => scalarMeaning tag text isPlain == some .null
  | _ => false

/-- A node as a text; every scalar but the empty one is. -/
def Node.asText : Node → Option (Option String)
  | .scalar tag text isPlain =>
    (scalarMeaning tag text isPlain).map fun m => if m == .null then none else some text
  | _ => none

/-- A node as a flag. Some words are flags although they are texts. -/
def Node.asFlag : Node → Option (Option Bool)
  | .scalar tag text isPlain =>
    match scalarMeaning tag text isPlain with
    | some .null => some none
    | some (.flag b) => some (some b)
    | some .text =>
      if ["y", "Y", "yes", "Yes", "YES", "on", "On", "ON"].contains text then some (some true)
      else if ["n", "N", "no", "No", "NO", "off", "Off", "OFF"].contains text then
        some (some false)
      else none
    | _ => none
  | _ => none

/-- A node as a whole number of sixty-four bits; a fraction is cut off. -/
def Node.asWhole : Node → Option (Option Int)
  | .scalar tag text isPlain =>
    let fit (i : Int) : Option (Option Int) :=
      if Text.fitsSigned i then some (some i) else none
    match scalarMeaning tag text isPlain with
    | some .null => some none
    | some (.whole i) => fit i
    | some (.fraction i) => fit i
    | _ => none
  | _ => none

def Node.asItems : Node → Option (Option (List Node))
  | .sequence items => some (some items)
  | node => if node.isNull then some none else none

/-- Whether two keys are the same; all collections are. -/
def sameKey : Node → Node → Bool
  | .scalar _ a _, .scalar _ b _ => a == b
  | .sequence _, .sequence _ => true
  | .mapping _, .mapping _ => true
  | _, _ => false

def hasRepeatedKey : List (Node × Node) → Bool
  | [] => false
  | entry :: rest => rest.any (fun other => sameKey entry.1 other.1) || hasRepeatedKey rest

/-- Whether a key asks for the entries of other mappings. -/
def isMergeKey : Node → Bool
  | .scalar tag text isPlain => scalarMeaning tag text isPlain == some .mergeKey
  | _ => false

/-- The entries that a merge key brings in. -/
def mergedEntries : Node → Option (List (Node × Node))
  | .mapping entries => if hasRepeatedKey entries then none else some entries
  | .sequence items => items.foldrM (fun item entries =>
      match item with
      | .mapping own => if hasRepeatedKey own then none else some (own ++ entries)
      | _ => none) []
  | _ => none

/-- Keeps the first entry of every key. -/
def firstEntries (entries : List (Node × Node)) : List (Node × Node) :=
  (entries.foldl (fun kept e => if kept.any (fun k => sameKey k.1 e.1) then kept else e :: kept)
    []).reverse

/-- A node as a record: its entries with different keys, those that are brought in last. -/
def Node.asEntries : Node → Option (Option (List (Node × Node)))
  | .mapping entries =>
    if hasRepeatedKey entries then none
    else
      let own := entries.filter (!isMergeKey ·.1)
      match entries.find? (isMergeKey ·.1) with
      | none => some (some own)
      | some (_, source) =>
        (mergedEntries source).map fun more =>
          some (firstEntries (own ++ more.filter (!isMergeKey ·.1)))
  | node => if node.isNull then some none else none

end ClientGen.Yaml
