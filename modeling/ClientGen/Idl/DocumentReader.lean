import ClientGen.Idl.Schema
import ClientGen.Json.Reader
import ClientGen.Path
/-!
# Readers of documents

The language of documents is defined elsewhere, and so is the engine that evaluates it. Whatever
reads documents here takes that engine as a parameter: it builds what a text says, joins it with the
schema and writes the result as JSON. What it finds wrong comes with the places that it names.
Documents that are written as JSON can be read without such an engine.
-/
namespace ClientGen.Idl

open ClientGen.Json

/-- The ways to write a document. -/
inductive DocumentFormat where
  | json
  | cue
deriving DecidableEq, Repr

/-- The format of a document, by the extension of its path in any case. -/
def DocumentFormat.ofPath? (path : String) : Option DocumentFormat :=
  match Path.lowerExtension path with
  | ".json" => some .json
  | ".cue" => some .cue
  | _ => none

/-- A place in a file; lines and columns count from one. -/
structure Position where
  file : String
  line : Nat
  column : Nat
deriving DecidableEq, Repr

def Position.text (p : Position) : String :=
  p.file ++ ":" ++ p.line.repr ++ ":" ++ p.column.repr

/-- What an engine finds wrong with a document. -/
structure EngineFault where
  /-- All that is said at once. -/
  text : String
  /-- What is said about each fault, if there are several. -/
  parts : List String
  /-- The places that are named, those in the schema among them. -/
  positions : List Position
deriving DecidableEq, Repr

namespace EngineFault

def message (fault : EngineFault) : String := fault.parts.head?.getD fault.text

def schemaFile : String := "schema.cue"

/-- The place to tell: one in the document itself, or else the first if it is not in the schema. -/
def position? (fault : EngineFault) (file : String) : Option Position :=
  (fault.positions.find? (·.file == file)).or
    (fault.positions.head?.filter (·.file != schemaFile))

/-- A place that is told was named, and it is in the document if any of them is. It is never in the
schema, unless the document has that name itself. -/
theorem position?_spec {fault : EngineFault} {file : String} {position : Position}
    (h : fault.position? file = some position) :
    position ∈ fault.positions ∧
      ((∃ p ∈ fault.positions, p.file = file) → position.file = file) ∧
      (file ≠ schemaFile → position.file ≠ schemaFile) := by
  rw [position?] at h
  cases hfound : fault.positions.find? (·.file == file) with
  | some p =>
    rw [hfound] at h
    obtain rfl : p = position := Option.some.inj h
    have hmatch := List.find?_some hfound
    have hfile : p.file = file := beq_iff_eq.mp hmatch
    exact ⟨List.mem_of_find?_eq_some hfound, fun _ => hfile, fun hne => hfile ▸ hne⟩
  | none =>
    rw [hfound, Option.none_or, Option.filter_eq_some_iff] at h
    obtain ⟨hhead, hschema⟩ := h
    refine ⟨List.mem_of_head? hhead, ?_, fun _ => bne_iff_ne.mp hschema⟩
    rintro ⟨p, hp, hfile⟩
    exact absurd (beq_iff_eq.mpr hfile) (List.find?_eq_none.mp hfound p hp)

example :
    let fault : EngineFault := ⟨"", [], [⟨schemaFile, 7, 9⟩, ⟨"bad_kind.json", 4, 13⟩]⟩
    fault.position? "bad_kind.json" = some ⟨"bad_kind.json", 4, 13⟩ ∧ fault.position? "a.json" = none := by
  decide

end EngineFault

/-- An engine for the language of documents. It gives the same for the same text, whoever asks. -/
structure DocumentReader where
  /-- What a text is built into. -/
  Built : Type
  build : DocumentFormat → (name text : String) → Except EngineFault Built
  /-- Joins what was built with the schema; all of it has to be known then. Gives JSON text. -/
  complete : Built → Except EngineFault String

/-- The character that may stand in front of a text, but not in it. -/
def byteOrderMark : Char := '\uFEFF'

/-- The value of a text, without repeated names. Escapes of half a pair and byte order marks are
refused. -/
def readDocument (text : String) : Option Value :=
  if text.toList.contains byteOrderMark then none
  else (read .refuse text).toOption.bind Value.settle

/-- Reads documents that are written as JSON, in either format. A blank text of the second format
has no members. Whatever is wrong, `said` is said about it, and no place is named. -/
def DocumentReader.plain (said : String) : DocumentReader where
  Built := Value
  build format _ text :=
    if format == .cue && (skipBlanks text.toList).isEmpty then .ok (.object [])
    else
      match readDocument text with
      | none => .error ⟨said, [], []⟩
      | some value => .ok value
  complete value :=
    match conform (.one .root) value with
    | none => .error ⟨said, [], []⟩
    | some value => .ok value.compact

end ClientGen.Idl
