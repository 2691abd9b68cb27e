import ClientGen.Text.Decomposition
/-!
# Composed normal form

The canonical composition of a text: every character is decomposed, marks are put into the order
of their combining classes, and what can be composed is composed again. Two spellings of one
letter so become one. A run of more than thirty marks is cut by a combining grapheme joiner, as
the stream-safe text format asks.
-/
namespace ClientGen.Text

/-- Finds a key in a list of keys in increasing order. -/
def lookupSorted {α : Type} (n : Nat) : List (Nat × α) → Option α
  | [] => none
  | (key, value) :: rest =>
    if n < key then none else if n == key then some value else lookupSorted n rest

/-- The canonical combining class; zero for everything that is not a combining mark. -/
def combiningClass (n : Nat) : Nat := search combiningClassRuns
where
  search : List (Nat × Nat × Nat) → Nat
    | [] => 0
    | (low, high, cls) :: rest =>
      if n < low then 0 else if n ≤ high then cls else search rest

/-- Number of syllables that share a leading consonant. -/
def hangulBlock : Nat := 588

/-- Number of syllables that share a leading consonant and a vowel. -/
def hangulColumn : Nat := 28

/-- The jamo of a Hangul syllable, if the code point is one. -/
def hangulJamo (n : Nat) : Option (List Nat) :=
  if 0xAC00 ≤ n ∧ n ≤ 0xD7A3 then
    let index := n - 0xAC00
    let lead := 0x1100 + index / hangulBlock
    let vowel := 0x1161 + index % hangulBlock / hangulColumn
    let tail := index % hangulColumn
    some (if tail = 0 then [lead, vowel] else [lead, vowel, 0x11A7 + tail])
  else none

/-- The Hangul syllable of a pair, if the pair makes one. -/
def hangulSyllable (a b : Nat) : Option Nat :=
  if 0x1100 ≤ a ∧ a ≤ 0x1112 ∧ 0x1161 ≤ b ∧ b ≤ 0x1175 then
    some (0xAC00 + (a - 0x1100) * hangulBlock + (b - 0x1161) * hangulColumn)
  else if 0xAC00 ≤ a ∧ a ≤ 0xD7A3 ∧ (a - 0xAC00) % hangulColumn = 0 ∧ 0x11A8 ≤ b ∧ b ≤ 0x11C2 then
    some (a + (b - 0x11A7))
  else none

/-- Decomposes a code point through at most `depth` levels of the tables. -/
def decomposeTo : (depth : Nat) → Nat → List Nat
  | 0, n => [n]
  | depth + 1, n =>
    match lookupSorted n singletonTable with
    | some m => decomposeTo depth m
    | none =>
      match lookupSorted n pairTable with
      | some (a, b) => decomposeTo depth a ++ [b]
      | none => [n]

/-- The full canonical decomposition; the tables nest no deeper than four levels. -/
def decomposeCode (n : Nat) : List Nat := (hangulJamo n).getD (decomposeTo 4 n)

def composePair (a b : Nat) : Option Nat :=
  match hangulSyllable a b with
  | some n => some n
  | none =>
    (pairTable.find? fun e => e.2.1 == a && e.2.2 == b && !uncomposedCodes.contains e.1).map (·.1)

/-- Whether a code point can be composed with one before it. -/
def combinesBackward (n : Nat) : Bool :=
  (0x1161 ≤ n && n ≤ 0x1175) || (0x11A8 ≤ n && n ≤ 0x11C2)
    || pairTable.any fun e => e.2.2 == n && !uncomposedCodes.contains e.1

/-- Whether a code point belongs to the character before it. -/
def isTrailing (n : Nat) : Bool := 0 < combiningClass n || (0x80 ≤ n && combinesBackward n)

def graphemeJoiner : Nat := 0x34F

/-- The longest run of trailing code points that is left in one piece. -/
def trailingLimit : Nat := 30

/-- Decomposes a text and cuts every run of trailing code points that is over the limit. -/
def decomposeAll (run : Nat) : List Nat → List Nat
  | [] => []
  | n :: rest =>
    let parts := decomposeCode n
    let leading := (parts.takeWhile isTrailing).length
    if leading = 0 then
      parts ++ decomposeAll (parts.reverse.takeWhile isTrailing).length rest
    else if trailingLimit < run + leading then
      graphemeJoiner :: parts ++ decomposeAll leading rest
    else
      parts ++ decomposeAll (run + leading) rest

/-- Puts a code point in front of an ordered text, behind the marks of lower class. -/
def insertMark (n : Nat) : List Nat → List Nat
  | [] => [n]
  | m :: rest =>
    if 0 < combiningClass m && combiningClass m < combiningClass n then m :: insertMark n rest
    else n :: m :: rest

/-- Orders every run of marks by combining class and keeps equal classes in place. -/
def orderMarks : List Nat → List Nat
  | [] => []
  | n :: rest => insertMark n (orderMarks rest)

/-- Composes a text behind the starter `base`, with the marks that stayed apart from it in reverse
order. A mark is blocked when one of its class or a higher one stayed before it. -/
def composeAfter (base : Nat) (marks : List Nat) : List Nat → List Nat
  | [] => base :: marks.reverse
  | n :: rest =>
    let blocked :=
      match marks with
      | [] => false
      | last :: _ => combiningClass n ≤ combiningClass last
    match if blocked then none else composePair base n with
    | some m => composeAfter m marks rest
    | none =>
      if combiningClass n = 0 then base :: marks.reverse ++ composeAfter n [] rest
      else composeAfter base (n :: marks) rest

def composeAll : List Nat → List Nat
  | [] => []
  | n :: rest => if combiningClass n = 0 then composeAfter n [] rest else n :: composeAll rest

/-- The composed normal form of a text. -/
def normalForm (s : List Char) : List Char :=
  if s.all fun c => c.toNat < 0x80 then s
  else (composeAll (orderMarks (decomposeAll 0 (s.map Char.toNat)))).map Char.ofNat

end ClientGen.Text
