import ClientGen.Json.Reader
import ClientGen.Text.WordSize
/-!
# Fields of an object

Reading the fields of a record out of an object. A member belongs to the field whose name it has
up to case. When several members belong to one field each must have the field's type and the last
one wins, but a null leaves a plain field as it was. Members of no field are ignored.

`conforms` checks the types of all members at once; the readers behind it are total.
-/
namespace ClientGen.Json

/-- Folds case: the letters of ASCII, the Kelvin sign and the long s. -/
def foldChar (c : Char) : Char :=
  if c = '\u212A' then 'k' else if c = '\u017F' then 's' else c.toLower

/-- Whether the name of a member is the name of a field up to case. -/
def sameName (field name : String) : Bool :=
  field == name || field.toList.map foldChar == name.toList.map foldChar

/-- The type of a field. -/
inductive FieldType where
  | text
  | flag
  | int
  /-- A number, or a string that holds one. -/
  | number
  /-- A list of strings, in which null is the empty string. -/
  | texts
  | list
  /-- An object with a name, or null for none. -/
  | link
  | any
deriving DecidableEq, Repr

/-- The integer that a number denotes, if it is written without fraction and exponent and fits
sixty-four bits. -/
def int64? (text : String) : Option Int :=
  let inRange (i : Int) : Option Int :=
    if Text.fitsSigned i then some i else none
  let whole (digits : List Char) : Bool := !digits.isEmpty && digits.all Text.isDigit
  match text.toList with
  | '-' :: digits => if whole digits then inRange (-(Text.decimalValue digits : Int)) else none
  | digits => if whole digits then inRange (Text.decimalValue digits) else none

/-- Whether a value may stand in a list of strings. -/
def isTextOrNull : Value → Bool
  | .null => true
  | .string _ => true
  | _ => false

/-- Whether a value has the type of a field. -/
def FieldType.accepts : FieldType → Value → Bool
  | .any, _ => true
  | _, .null => true
  | .text, .string _ => true
  | .flag, .bool _ => true
  | .int, .number digits => (int64? digits).isSome
  | .number, .number _ => true
  | .number, .string digits => isNumber digits
  | .texts, .array items => items.all isTextOrNull
  | .list, .array _ => true
  | .link, .object members =>
    members.all fun m => !sameName "name" m.name || isTextOrNull m.value
  | _, _ => false

/-- The fields of a record and their types. -/
abbrev RecordShape := List (String × FieldType)

/-- Whether every member that belongs to a field has the field's type. -/
def conforms (shape : RecordShape) (members : List Member) : Bool :=
  members.all fun m =>
    match shape.find? fun field => sameName field.1 m.name with
    | some (_, type) => type.accepts m.value
    | none => true

/-- The values of the members that belong to a field. -/
def valuesOf (field : String) (members : List Member) : List Value :=
  (members.filter fun m => sameName field m.name).map (·.value)

/-- The last member that belongs to a field. -/
def lastMember? (field : String) (members : List Member) : Option Member :=
  (members.filter fun m => sameName field m.name).getLast?

/-- The last value of a field, or null. -/
def lastValue (field : String) (members : List Member) : Value :=
  match lastMember? field members with
  | some m => m.value
  | none => .null

/-- Reads a text over the one that was there before. -/
def textOver (before : String) (field : String) (members : List Member) : String :=
  (valuesOf field members).foldl (fun text v =>
    match v with
    | .string s => s
    | _ => text) before

/-- The text of a field, empty when there is none. -/
def textOf (field : String) (members : List Member) : String := textOver "" field members

/-- The truth value of a field, false when there is none. -/
def flagOf (field : String) (members : List Member) : Bool :=
  (valuesOf field members).foldl (fun flag v =>
    match v with
    | .bool b => b
    | _ => flag) false

/-- The integer of a field, zero when there is none. -/
def intOf (field : String) (members : List Member) : Int :=
  (valuesOf field members).foldl (fun i v =>
    match v with
    | .number text => (int64? text).getD i
    | _ => i) 0

/-- The integer of a field that may be missing; a null takes it away. -/
def intOf? (field : String) (members : List Member) : Option Int :=
  match lastValue field members with
  | .number text => int64? text
  | _ => none

/-- The text of the number of a field, empty when there is none. -/
def numberOf (field : String) (members : List Member) : String :=
  (valuesOf field members).foldl (fun text v =>
    match v with
    | .number s => s
    | .string s => s
    | _ => text) ""

def listOf (field : String) (members : List Member) : List Value :=
  match lastValue field members with
  | .array items => items
  | _ => []

/-- Reads a list of strings over the strings in `slots`: a null leaves its slot as it was. -/
def textsOver (slots : List String) : List Value → List String
  | [] => []
  | .string s :: rest => s :: textsOver slots.tail rest
  | _ :: rest => slots.headD "" :: textsOver slots.tail rest

/-- The strings of a field. A null item keeps the string that an earlier member of the field put
in its place; an empty list or a null in place of the list forgets them all. -/
def textsOf (field : String) (members : List Member) : List String :=
  let read (state : List String × Nat) (v : Value) : List String × Nat :=
    match v with
    | .array [] => ([], 0)
    | .array items => (textsOver state.1 items ++ state.1.drop items.length, items.length)
    | _ => ([], 0)
  let (slots, size) := (valuesOf field members).foldl read ([], 0)
  slots.take size

/-- The name in a field that holds a link. A second object is read over the first one and a null
takes the link away. -/
def linkOf (field : String) (members : List Member) : Option String :=
  (valuesOf field members).foldl (fun link v =>
    match v with
    | .object inner => some (textOver (link.getD "") "name" inner)
    | _ => none) none

theorem sizeOf_lastMember_lt {field : String} {members : List Member} {m : Member}
    (h : lastMember? field members = some m) : sizeOf m.value < sizeOf members := by
  have hm : m ∈ members := (List.mem_filter.mp (List.mem_of_getLast? h)).1
  have hlt := List.sizeOf_lt_of_mem hm
  have hvalue : sizeOf m.value < sizeOf m := by
    cases m
    simp only [Member.mk.sizeOf_spec]
    omega
  omega

theorem sizeOf_members_pos (members : List Member) : 0 < sizeOf members := by
  cases members with
  | nil =>
    rw [List.nil.sizeOf_spec]
    omega
  | cons m rest =>
    rw [List.cons.sizeOf_spec]
    omega

theorem sizeOf_lastValue_lt (field : String) (members : List Member) :
    sizeOf (lastValue field members) < sizeOf (Value.object members) := by
  rw [Value.object.sizeOf_spec, lastValue]
  split
  · rename_i m h
    have := sizeOf_lastMember_lt h
    omega
  · have := sizeOf_members_pos members
    simp only [Value.null.sizeOf_spec]
    omega

theorem sizeOf_listOf_lt (field : String) (members : List Member) :
    sizeOf (listOf field members) < sizeOf (Value.object members) := by
  have h := sizeOf_lastValue_lt field members
  rw [listOf]
  split
  · rename_i items heq
    rw [heq, Value.array.sizeOf_spec] at h
    omega
  · rw [Value.object.sizeOf_spec] at h ⊢
    have := sizeOf_members_pos members
    simp only [List.nil.sizeOf_spec]
    omega

theorem weight_lastValue_lt (field : String) (members : List Member) :
    2 * sizeOf (lastValue field members) < 2 * sizeOf (Value.object members) := by
  have := sizeOf_lastValue_lt field members
  omega

theorem weight_lastValue_succ_lt (field : String) (members : List Member) :
    2 * sizeOf (lastValue field members) + 1 < 2 * sizeOf (Value.object members) := by
  have := sizeOf_lastValue_lt field members
  omega

theorem weight_listOf_lt (field : String) (members : List Member) :
    2 * sizeOf (listOf field members) < 2 * sizeOf (Value.object members) := by
  have := sizeOf_listOf_lt field members
  omega

end ClientGen.Json
