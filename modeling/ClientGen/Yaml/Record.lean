import ClientGen.Yaml.Typed
/-!
# Records

Records are read entry by entry on top of a value that holds what is not mentioned. A step that
does not know a key fails, and so does the whole record.
-/
namespace ClientGen.Yaml

/-- Takes over the value of a field, if there is one. -/
def field {α β : Type} (read : Option (Option α)) (s : β) (put : β → α → β) : Option β :=
  read.map fun value => (value.map (put s)).getD s

/-- Reads the entries of a record one after another; entries without a key are left out. -/
def readRecord {σ : Type} (step : σ → String → Node → Option σ) :
    List (Node × Node) → σ → Option σ
  | [], s => some s
  | (key, value) :: rest, s => do
    match ← key.asText with
    | none => readRecord step rest s
    | some name => readRecord step rest (← step s name value)

/-- Reads a node that is a record; nothing changes if it stands for nothing. -/
def recordField {σ : Type} (node : Node) (step : σ → String → Node → Option σ) (s : σ) :
    Option σ := do
  match ← node.asEntries with
  | none => some s
  | some entries => readRecord step entries s

/-- Reads a list of records; items that stand for nothing are left out. -/
def readRecords {σ : Type} (step : σ → String → Node → Option σ) (start : σ) :
    List Node → Option (List σ)
  | [] => some []
  | node :: rest =>
    if node.isNull then readRecords step start rest
    else do
      let item ← recordField node step start
      return item :: (← readRecords step start rest)

end ClientGen.Yaml
