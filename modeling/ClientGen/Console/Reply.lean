import ClientGen.Console.Table
import ClientGen.Json.Indented
/-!
# Replies

What a command says, for people or for programs. A reply for programs is one JSON object with a
status, and either what was asked for or what went wrong.
-/
namespace ClientGen.Console

open ClientGen.Json

/-- Whom a reply is for. -/
inductive Format where
  /-- For people. -/
  | text
  /-- For programs. -/
  | json
deriving DecidableEq, Repr

namespace Format

/-- How a format is written. -/
def name : Format → String
  | .text => "text"
  | .json => "json"

def all : List Format := [.text, .json]

def find? (name : String) : Option Format := all.find? fun f => f.name == name

end Format

/-- What was written to the output and to the output for diagnostics. -/
structure Printed where
  out : String
  err : String
deriving DecidableEq, Repr

namespace Printed

def nothing : Printed := ⟨"", ""⟩

/-- Something on the output. -/
def ofText (text : String) : Printed := ⟨text, ""⟩

/-- One thing after another. -/
def append (a b : Printed) : Printed := ⟨a.out ++ b.out, a.err ++ b.err⟩

instance : Append Printed := ⟨append⟩

end Printed

structure ReplyError where
  code : String
  message : String
  details : Option Value

def ReplyError.value (e : ReplyError) : Value :=
  .record ([("code", .string e.code), ("message", .string e.message)]
    ++ (e.details.map fun d => ("details", d)).toList)

/-- The JSON object of a reply; it tells of an error if there is one. -/
def reply (data : Option Value) (error : Option ReplyError) : Value :=
  .record ([("status", .string (if error.isSome then "error" else "ok"))]
    ++ (data.map fun d => ("data", d)).toList
    ++ (error.map fun e => ("error", e.value)).toList)

def replyText (data : Option Value) (error : Option ReplyError) : String :=
  (reply data error).indented 0 ++ "\n"

/-- How a detail is shown to people. -/
def detailText : Value → String
  | .string text => text
  | value => value.compact

/-- How a command speaks. -/
structure Speaker where
  format : Format
  verbose : Bool
  /-- Whether there is an output of its own for diagnostics. -/
  separateErrors : Bool
deriving DecidableEq, Repr

namespace Speaker

def success (s : Speaker) (text : String) (data : Value) : Printed :=
  match s.format with
  | .json => .ofText (replyText (some data) none)
  | .text => .ofText (text ++ "\n")

def error (s : Speaker) (code message : String) (details : Option Value) : Printed :=
  match s.format with
  | .json => .ofText (replyText none (some ⟨code, message, details⟩))
  | .text =>
    let more := if s.verbose then details else none
    .ofText ("Error [" ++ code ++ "]: " ++ message ++ "\n"
      ++ String.join (more.toList.map fun d => "Details: " ++ detailText d ++ "\n"))

def table (rows : List (List String)) : Printed := .ofText (tableText rows ++ "\n")

/-- Tells what only those who want to know everything are told. -/
def remark (s : Speaker) (message : String) : Printed :=
  if !s.verbose then .nothing
  else if s.separateErrors then ⟨"", message ++ "\n"⟩
  else ⟨message ++ "\n", ""⟩

end Speaker

/-- The end of a command that failed. -/
structure Failure where
  /-- What the command exits with. -/
  code : Int
  message : String
  cause : Option String
deriving DecidableEq, Repr

namespace Failure

/-- What a command exits with if all went well. -/
def successCode : Int := 0

/-- What a command exits with if there is something wrong with a document or a scenario. -/
def failureCode : Int := 1

/-- What a command exits with if it could not start its work. -/
def misuseCode : Int := 2

/-- What is said about a failure. -/
def text (f : Failure) : String :=
  match f.cause with
  | none => f.message
  | some cause => f.message ++ ": " ++ cause

end Failure

end ClientGen.Console
