import ClientGen.Idl.DocumentReader
/-!
# Formats of files

Files are written in formats that are defined elsewhere. How documents are read and what is said
about texts that do not fit their format are parameters of everything that reads files.
-/
namespace ClientGen

/-- The formats of files. What is said about a text depends on the text alone. -/
structure Formats where
  documents : Idl.DocumentReader
  /-- What is said about JSON text that is malformed or has a value of the wrong type. -/
  json : (text : String) → String
  /-- What is said about malformed settings. -/
  settings : (path text : String) → String
  /-- What is said about a malformed scenario. -/
  scenario : (text : String) → String

/-- Formats of which everything is written as JSON, and little is said about what is not. -/
def Formats.standard : Formats where
  documents := .plain "malformed document"
  json _ := "unexpected JSON value"
  settings _ _ := "malformed settings"
  scenario _ := "malformed scenario"

end ClientGen
