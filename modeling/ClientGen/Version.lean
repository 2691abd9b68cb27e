import ClientGen.Text.Digits
import ClientGen.Text.Quoted
import ClientGen.Text.WordSize
/-!
# Versions

Semantic versions, read leniently: a leading `v` is skipped, minor and patch may be missing, and
the three numbers may have leading zeros.
-/
namespace ClientGen

/-- A semantic version. -/
structure Version where
  major : UInt64
  minor : UInt64
  patch : UInt64
  preRelease : String
  metadata : String
deriving DecidableEq, Repr

namespace Version

inductive Fault where
  | malformed
  | outOfRange (digits : String)
  | leadingZero
deriving DecidableEq, Repr

def Fault.message : Fault → String
  | .malformed => "invalid semantic version"
  | .outOfRange digits =>
    "error parsing version segment: strconv.ParseUint: parsing " ++ Text.displayed digits
      ++ ": value out of range"
  | .leadingZero => "version segment starts with 0"

def isLabelChar (c : Char) : Bool :=
  Text.isDigit c || ('a' ≤ c && c ≤ 'z') || ('A' ≤ c && c ≤ 'Z') || c == '-'

def splitStops (s : List Char) : List (List Char) := s.splitOn '.'

/-- Whether a text is one or more labels with stops between them. -/
def isLabels (s : List Char) : Bool :=
  (splitStops s).all fun label => !label.isEmpty && label.all isLabelChar

/-- Reads a number behind a stop, if there is one. -/
def readSegment : List Char → Option (List Char) × List Char
  | '.' :: rest =>
    let digits := rest.takeWhile Text.isDigit
    if digits.isEmpty then (none, '.' :: rest) else (some digits, rest.dropWhile Text.isDigit)
  | s => (none, s)

/-- Reads the labels behind the numbers: those of a pre-release after a hyphen, then those of the
metadata after a plus sign. -/
def readLabels (s : List Char) : Option (List Char × List Char) :=
  let (pre, rest) :=
    match s with
    | '-' :: rest => (some (rest.takeWhile (· != '+')), rest.dropWhile (· != '+'))
    | s => (none, s)
  let metadata :=
    match rest with
    | '+' :: rest => some (some rest)
    | [] => some none
    | _ => none
  match metadata with
  | none => none
  | some metadata =>
    if pre.all isLabels && metadata.all isLabels then some (pre.getD [], metadata.getD []) else none

/-- The value of some digits, if it fits sixty-four bits. -/
def segmentValue (digits : List Char) : Except Fault UInt64 :=
  let n := Text.decimalValue digits
  if n < Text.wordCount then .ok (UInt64.ofNat n) else .error (.outOfRange (String.ofList digits))

/-- Whether a label of a pre-release is a number with a leading zero. -/
def hasLeadingZero (label : List Char) : Bool :=
  label.all Text.isDigit && label.length > 1 && label.head? == some '0'

/-- Reads a version. -/
def parse (text : String) : Except Fault Version := do
  let s :=
    match text.toList with
    | 'v' :: rest => rest
    | s => s
  let major := s.takeWhile Text.isDigit
  if major.isEmpty then throw .malformed
  let (minor, s) := readSegment (s.dropWhile Text.isDigit)
  let (patch, s) := readSegment s
  match readLabels s with
  | none => throw .malformed
  | some (pre, metadata) =>
    let major ← segmentValue major
    let minor ← segmentValue (minor.getD [])
    let patch ← segmentValue (patch.getD [])
    if !pre.isEmpty && (splitStops pre).any hasLeadingZero then throw .leadingZero
    return ⟨major, minor, patch, String.ofList pre, String.ofList metadata⟩

def core (v : Version) : String :=
  v.major.toNat.repr ++ "." ++ v.minor.toNat.repr ++ "." ++ v.patch.toNat.repr

def text (v : Version) : String :=
  v.core ++ (if v.preRelease.isEmpty then "" else "-" ++ v.preRelease)
    ++ (if v.metadata.isEmpty then "" else "+" ++ v.metadata)

/-- The number that orders versions in a plugin; it wraps at sixty-four bits. -/
def code (v : Version) : UInt64 := v.major * 10000 + v.minor * 100 + v.patch

/-- The version of a module when no program has one. -/
def standard : Version := ⟨1, 0, 0, "", ""⟩

end Version

end ClientGen
