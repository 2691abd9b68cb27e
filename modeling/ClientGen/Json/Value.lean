import ClientGen.Text.Quoted
/-!
# JSON values

Numbers keep their text, so that no digit is lost, and the members of an object keep their order
and their repetitions. A member also keeps the text that its value was written as.
-/
namespace ClientGen.Json

mutual

/-- A JSON value. -/
inductive Value where
  | null
  | bool (value : Bool)
  | number (text : String)
  | string (text : String)
  | array (items : List Value)
  | object (members : List Member)

structure Member where
  name : String
  value : Value
  /-- The text of the value in the document, without the blanks around it. -/
  source : String

end

instance : Inhabited Value := ⟨.null⟩

mutual

/-- The text of a value without any blanks. -/
def Value.compact : Value → String
  | .null => "null"
  | .bool b => if b then "true" else "false"
  | .number text => text
  | .string text => Text.quoted text
  | .array items => "[" ++ String.intercalate "," (compactItems items) ++ "]"
  | .object members => "\x7b" ++ String.intercalate "," (compactMembers members) ++ "\x7d"

def compactItems : List Value → List String
  | [] => []
  | item :: rest => item.compact :: compactItems rest

def compactMembers : List Member → List String
  | [] => []
  | ⟨name, value, _⟩ :: rest => (Text.quoted name ++ ":" ++ value.compact) :: compactMembers rest

end

/-- A member whose value is written without blanks. -/
def Member.of (name : String) (value : Value) : Member := ⟨name, value, value.compact⟩

end ClientGen.Json
