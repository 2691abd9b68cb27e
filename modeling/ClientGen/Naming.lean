import ClientGen.Text.CaseMapping
import ClientGen.Text.Letter
import ClientGen.Text.NormalForm
import ClientGen.Text.WordBoundary
/-!
# Names

A name of an IDL comes in any casing style. It is split into words first, and the words are
joined again in the style that the generated code asks for.
-/
namespace ClientGen.Naming

open ClientGen.Text

/-- Whether a character separates words: a hyphen, underscore, stop, plus sign or white space. -/
def isSeparator (c : Char) : Bool :=
  c == '-' || c == '_' || c == '.' || c == '+' || isWhiteSpace c

/-- Splits a text into words, given the reversed letters of the word that is being read. An
upper-case letter starts a new word and separators are dropped. -/
def splitWords (word : List Char) : List Char → List (List Char)
  | [] => close word
  | c :: rest =>
    if isSeparator c then close word ++ splitWords [] rest
    else if isUpperCase c then close word ++ splitWords [c] rest
    else splitWords (c :: word) rest
where
  /-- The finished word, if it has a letter. -/
  close (word : List Char) : List (List Char) := if word.isEmpty then [] else [word.reverse]

/-- The words of a name in composed normal form. -/
def words (name : String) : List String :=
  (splitWords [] (normalForm name.toList)).map String.ofList

/-- Title-cases a text. `inWord` tells that a cased letter has been seen since the last boundary
and `afterMiddle` that the character before stands in the middle of words. -/
def titleFrom (inWord afterMiddle : Bool) : List Char → List Char
  | [] => []
  | c :: rest =>
    let role := wordRole c
    let middle := role == .middle
    let inWord := inWord && !(afterMiddle && middle)
    if isCased c then
      (if inWord then [c] else titleCase c) ++ titleFrom true middle rest
    else
      c :: titleFrom (inWord && role != .breaks) middle rest

/-- Raises the first cased letter of every piece of a word that is between word boundaries. -/
def titleWord (word : String) : String := String.ofList (titleFrom false false word.toList)

/-- `Create Metadata Account` -/
def title (name : String) : String :=
  String.intercalate " " ((words name).map fun w => titleWord (lower w))

/-- `CreateMetadataAccount` -/
def pascal (name : String) : String :=
  String.ofList ((title name).toList.filter (· != ' '))

/-- `createMetadataAccount` -/
def camel (name : String) : String :=
  match (pascal name).toList with
  | [] => ""
  | c :: rest => String.ofList (lowerCase c :: rest)

/-- `create_metadata_account` -/
def snake (name : String) : String := lower (String.intercalate "_" (words name))

/-- `create-metadata-account` -/
def kebab (name : String) : String := lower (String.intercalate "-" (words name))

/-- `CREATE_METADATA_ACCOUNT` -/
def constant (name : String) : String := upper (snake name)

end ClientGen.Naming
