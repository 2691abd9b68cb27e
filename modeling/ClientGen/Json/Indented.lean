import ClientGen.Json.Value
/-!
# Indented JSON

Values with one item or member to a line, each level two blanks further in. Texts are written so
that they can stand in markup.
-/
namespace ClientGen.Json

/-- A line end and the blanks of a level. -/
def lineBreak (level : Nat) : String := "\n" ++ String.ofList (List.replicate (2 * level) ' ')

/-- Parts between brackets, each on a line of its own. -/
def bracketed (level : Nat) (opening closing : String) (parts : List String) : String :=
  if parts.isEmpty then opening ++ closing
  else
    opening ++ lineBreak (level + 1) ++ String.intercalate ("," ++ lineBreak (level + 1)) parts
      ++ lineBreak level ++ closing

mutual

/-- The text of a value that starts at a level. -/
def Value.indented (level : Nat) : Value → String
  | .null => "null"
  | .bool b => if b then "true" else "false"
  | .number text => text
  | .string text => Text.quotedForMarkup text
  | .array items => bracketed level "[" "]" (indentedItems (level + 1) items)
  | .object members => bracketed level "\x7b" "\x7d" (indentedMembers (level + 1) members)

def indentedItems (level : Nat) : List Value → List String
  | [] => []
  | item :: rest => item.indented level :: indentedItems level rest

def indentedMembers (level : Nat) : List Member → List String
  | [] => []
  | ⟨name, value, _⟩ :: rest =>
    (Text.quotedForMarkup name ++ ": " ++ value.indented level) :: indentedMembers level rest

end

/-- An object of named values. -/
def Value.record (members : List (String × Value)) : Value :=
  .object (members.map fun m => .of m.1 m.2)

def Value.texts (texts : List String) : Value := .array (texts.map .string)

def Value.natural (n : Nat) : Value := .number n.repr

end ClientGen.Json
