import ClientGen.Glob
import ClientGen.Render.FileMap
import ClientGen.Text.Printable
import ClientGen.Text.Search
/-!
# Assertions

What a scenario says about the generated files: that there is a file or none, that a file has a
text in it or has not, and how many files there are. An assertion of a type that nobody knows
fails. The failure of an assertion tells what was expected and what is there.
-/
namespace ClientGen

/-- What an assertion is about. -/
inductive AssertionType where
  | fileExists
  | fileAbsent
  | fileContains
  | fileLacks
  | fileCount
deriving DecidableEq, Repr

namespace AssertionType

def name : AssertionType → String
  | .fileExists => "file_exists"
  | .fileAbsent => "file_absent"
  | .fileContains => "file_contains"
  | .fileLacks => "file_lacks"
  | .fileCount => "file_count"

def all : List AssertionType := [.fileExists, .fileAbsent, .fileContains, .fileLacks, .fileCount]

def find? (name : String) : Option AssertionType := all.find? fun type => type.name == name

end AssertionType

/-- A statement about the generated files. -/
structure Assertion where
  type : String
  /-- The path of a file, or a pattern of those that are counted. -/
  path : String
  /-- The text to look for. -/
  text : String
  /-- The number of files. -/
  count : Int
deriving DecidableEq, Repr

/-- Why an assertion does not hold. -/
inductive AssertionFailure where
  | unknownType (type : String)
  /-- The file is not among those that are there. -/
  | missing (type : AssertionType) (path : String) (present : List String)
  | present (path : String)
  | textMissing (path text : String)
  | textFound (path text : String)
  | wrongCount (expected : Int) (pattern : String) (matching : List String)
deriving DecidableEq, Repr

namespace AssertionFailure

def listing (paths : List String) : String :=
  if paths.isEmpty then ""
  else "\nRendered files:\n" ++ String.join (paths.map fun path => "  " ++ path ++ "\n")

def report (type : AssertionType) (expected actual : String) (paths : List String) : String :=
  "Assertion failed: " ++ type.name ++ "\n  Expected: " ++ expected ++ "\n  Actual: " ++ actual
    ++ "\n" ++ listing paths

def message : AssertionFailure → String
  | .unknownType type => "unknown assertion type " ++ Text.displayed type
  | .missing type path others => report type ("file " ++ path) "not rendered" others
  | .present path => report .fileAbsent ("no file " ++ path) "file was rendered" []
  | .textMissing path text =>
    report .fileContains (path ++ " to contain " ++ Text.displayed text) "text not found" []
  | .textFound path text =>
    report .fileLacks (path ++ " not to contain " ++ Text.displayed text) "text found" []
  | .wrongCount expected pattern matching =>
    report .fileCount (toString expected ++ " file(s) matching " ++ pattern)
      (matching.length.repr ++ " file(s)") matching

end AssertionFailure

namespace Assertion

open ClientGen.Render

/-- Why an assertion of a type does not hold of some files, if it does not. -/
def check (type : AssertionType) (a : Assertion) (map : FileMap) : Option AssertionFailure :=
  match type with
  | .fileExists => if map.contains a.path then none else some (.missing type a.path map.paths)
  | .fileAbsent => if map.contains a.path then some (.present a.path) else none
  | .fileContains =>
    match map.get? a.path with
    | none => some (.missing type a.path map.paths)
    | some content => if Text.includes content a.text then none else some (.textMissing a.path a.text)
  | .fileLacks =>
    match map.get? a.path with
    | none => some (.missing type a.path map.paths)
    | some content => if Text.includes content a.text then some (.textFound a.path a.text) else none
  | .fileCount =>
    let matching := map.paths.filter (globMatches a.path)
    if (matching.length : Int) = a.count then none
    else some (.wrongCount a.count a.path matching)

/-- Why an assertion does not hold of some files, if it does not. -/
def failure? (a : Assertion) (map : FileMap) : Option AssertionFailure :=
  match AssertionType.find? a.type with
  | none => some (.unknownType a.type)
  | some type => a.check type map

/-- What is wrong with the fields of an assertion. -/
inductive Fault where
  | noType
  | noPath (type : String)
  | noText (type : AssertionType)
  | negativeCount
  | malformedPattern (pattern : String)
  | unknownType (type : String)
deriving DecidableEq, Repr

def Fault.message : Fault → String
  | .noType => "type is required"
  | .noPath type => "path is required for " ++ type
  | .noText type => "text is required for " ++ type.name
  | .negativeCount => "count must be non-negative for " ++ AssertionType.fileCount.name
  | .malformedPattern pattern =>
    "invalid glob " ++ Text.displayed pattern ++ ": " ++ Glob.malformedText
  | .unknownType type => "unknown assertion type " ++ Text.displayed type

/-- The first thing wrong with the fields of an assertion, if anything is. -/
def fault? (a : Assertion) : Option Fault :=
  if a.type.isEmpty then some .noType
  else if a.path.isEmpty then some (.noPath a.type)
  else
    match AssertionType.find? a.type with
    | none => some (.unknownType a.type)
    | some .fileExists => none
    | some .fileAbsent => none
    | some .fileContains => if a.text.isEmpty then some (.noText .fileContains) else none
    | some .fileLacks => if a.text.isEmpty then some (.noText .fileLacks) else none
    | some .fileCount =>
      if a.count < 0 then some .negativeCount
      else if (Glob.parse? a.path).isNone then some (.malformedPattern a.path)
      else none

end Assertion

/-- The failures of assertions about some files, in the order of the assertions. -/
def assertionFailures (map : Render.FileMap) (assertions : List Assertion) :
    List AssertionFailure :=
  assertions.filterMap fun a => a.failure? map

end ClientGen
