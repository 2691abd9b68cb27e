/-!
# Glob patterns

Patterns for paths: a star stands for any part of a name without a slash, a question mark for one
character that is no slash, and brackets for one character of a class. A backslash takes the
character behind it as it is. A star ends at the first place from which the steps up to the next
star match, and is not moved again.
-/
namespace ClientGen

namespace Glob

/-- A character of a pattern. -/
structure Mark where
  char : Char
  /-- Whether a backslash stood in front of it. -/
  escaped : Bool
deriving DecidableEq, Repr

/-- Whether a mark is a character with its special meaning. -/
def Mark.isBare (m : Mark) (c : Char) : Bool := m.char == c && !m.escaped

/-- The marks of a pattern; a backslash at the end is malformed. -/
def marks? : List Char → Option (List Mark)
  | [] => some []
  | ['\\'] => none
  | '\\' :: c :: rest => (marks? rest).map (⟨c, true⟩ :: ·)
  | c :: rest => (marks? rest).map (⟨c, false⟩ :: ·)

structure CharRange where
  low : Char
  high : Char
deriving DecidableEq, Repr

def CharRange.contains (range : CharRange) (c : Char) : Bool := range.low ≤ c && c ≤ range.high

/-- What stands for one character. -/
inductive Step where
  | literal (c : Char)
  /-- Any character but a slash. -/
  | any
  /-- A character that is in one of the ranges, or in none of them. -/
  | oneOf (negated : Bool) (ranges : List CharRange)
deriving DecidableEq, Repr

/-- A part of a pattern. -/
inductive Token where
  | star
  | step (step : Step)
deriving DecidableEq, Repr

/-- A class whose end was not reached yet. -/
structure OpenClass where
  negated : Bool
  ranges : List CharRange
deriving DecidableEq, Repr

/-- A class with one more range. -/
def OpenClass.add (c : OpenClass) (low high : Mark) : OpenClass :=
  { c with ranges := c.ranges ++ [⟨low.char, high.char⟩] }

/-- Whether a mark cannot be an end of a range. -/
def Mark.isClassSign (m : Mark) : Bool := m.isBare '-' || m.isBare ']'

/-- The tokens of marks, inside a class or outside. A class has at least one range and an end. -/
def tokens? : Option OpenClass → List Mark → Option (List Token)
  | none, [] => some []
  | some _, [] => none
  | none, m :: rest =>
    if m.isBare '*' then (tokens? none rest).map (.star :: ·)
    else if m.isBare '?' then (tokens? none rest).map (.step .any :: ·)
    else if m.isBare '[' then
      match rest with
      | [] => none
      | sign :: inner =>
        if sign.isBare '^' then tokens? (some ⟨true, []⟩) inner
        else tokens? (some ⟨false, []⟩) (sign :: inner)
    else (tokens? none rest).map (.step (.literal m.char) :: ·)
  | some c, m :: rest =>
    if m.isBare ']' then
      if c.ranges.isEmpty then none
      else (tokens? none rest).map (.step (.oneOf c.negated c.ranges) :: ·)
    else if m.isClassSign then none
    else
      match rest with
      | [] => none
      | [last] => tokens? (some (c.add m m)) [last]
      | dash :: high :: after =>
        if dash.isBare '-' then
          if high.isClassSign then none else tokens? (some (c.add m high)) after
        else tokens? (some (c.add m m)) (dash :: high :: after)

end Glob

/-- A pattern: steps from the start of a name on, and steps behind each star. -/
structure Glob where
  start : List Glob.Step
  starred : List (List Glob.Step)
deriving DecidableEq, Repr

namespace Glob

/-- Puts a token in front of a pattern. Stars in a row are one. -/
def prepend : Token → Glob → Glob
  | .step s, g => { g with start := s :: g.start }
  | .star, g => if g.start.isEmpty && !g.starred.isEmpty then g else ⟨[], g.start :: g.starred⟩

def ofTokens (tokens : List Token) : Glob := tokens.foldr prepend ⟨[], []⟩

def parse? (text : String) : Option Glob :=
  ((marks? text.toList).bind (tokens? none)).map ofTokens

/-- What messages say about a malformed pattern. -/
def malformedText : String := "syntax error in pattern"

/-- What is left of a name. Stars end at bytes, so there may be bytes of the character in which a
star ended. -/
inductive Piece where
  | char (c : Char)
  | stray
deriving DecidableEq, Repr

def pieces (name : String) : List Piece := name.toList.map .char

def Piece.isSlash (p : Piece) : Bool := p == .char '/'

/-- The character as which a class sees a piece. -/
def Piece.seen : Piece → Char
  | .char c => c
  | .stray => '\uFFFD'

/-- Whether a step stands for a piece. -/
def Step.accepts : Step → Piece → Bool
  | .literal c, p => p == .char c
  | .any, p => !p.isSlash
  | .oneOf negated ranges, p => ranges.any (·.contains p.seen) != negated

/-- What is left behind steps, if they match the start of a name. -/
def follow : List Step → List Piece → Option (List Piece)
  | [], name => some name
  | _ :: _, [] => none
  | s :: steps, p :: name => if s.accepts p then follow steps name else none

/-- The number of bytes of a piece behind its first. -/
def Piece.innerSize : Piece → Nat
  | .char c => c.utf8Size - 1
  | .stray => 0

/-- What is left behind each end that a star can have, the shortest star first. -/
def starEnds : List Piece → List (List Piece)
  | [] => [[]]
  | p :: name =>
    (p :: name) ::
      if p.isSlash then []
      else
        (List.range p.innerSize).map (fun n => List.replicate (p.innerSize - n) .stray ++ name)
          ++ starEnds name

/-- What is left behind a star and the steps after it. The last steps have to match up to the end
of the name. -/
def followStar (isLast : Bool) (steps : List Step) (name : List Piece) : Option (List Piece) :=
  (starEnds name).findSome? fun rest =>
    (follow steps rest).filter fun left => !isLast || left.isEmpty

/-- Whether stars with their steps match a name. A star at the end takes all that has no slash. -/
def starsMatch : List (List Step) → List Piece → Bool
  | [], name => name.isEmpty
  | steps :: more, name =>
    if steps.isEmpty && more.isEmpty then !name.any (·.isSlash)
    else
      match followStar more.isEmpty steps name with
      | none => false
      | some rest => starsMatch more rest

def isMatch (g : Glob) (name : String) : Bool :=
  match follow g.start (pieces name) with
  | none => false
  | some rest => starsMatch g.starred rest

end Glob

/-- Whether the pattern of a text matches a name; a malformed one matches nothing. -/
def globMatches (pattern name : String) : Bool :=
  ((Glob.parse? pattern).map (·.isMatch name)).getD false

end ClientGen
