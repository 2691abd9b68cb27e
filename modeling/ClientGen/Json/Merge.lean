import ClientGen.Json.Decimal
/-!
# Merging values

A document may say a thing twice, if it says the same both times. Members of an object that have
one name are merged: equal scalars are one, objects are joined member by member, and arrays of one
length item by item. Afterwards the names of an object differ, and numbers have their standard
text.
-/
namespace ClientGen.Json

def findMember? (name : String) : List Member → Option Value
  | [] => none
  | ⟨name', value, _⟩ :: rest => if name' == name then some value else findMember? name rest

def sameNumber (a b : String) : Bool :=
  match Decimal.parse a, Decimal.parse b with
  | some a, some b => a.same b
  | _, _ => false

mutual

/-- What two values say together, if they agree. -/
def Value.merge : Value → Value → Option Value
  | .null, .null => some .null
  | .bool a, .bool b => if a == b then some (.bool a) else none
  | .number a, .number b => if sameNumber a b then some (.number a) else none
  | .string a, .string b => if a == b then some (.string a) else none
  | .array as, .array bs => (mergeItems as bs).map .array
  | .object as, .object bs =>
    (mergeMembers as bs).map fun merged =>
      .object (merged ++ bs.filter fun b => (findMember? b.name as).isNone)
  | _, _ => none

/-- What two lists of one length say together. -/
def mergeItems : List Value → List Value → Option (List Value)
  | [], [] => some []
  | a :: as, b :: bs => do return (← a.merge b) :: (← mergeItems as bs)
  | _, _ => none

/-- What the members of an object say together with those of the same names of another. -/
def mergeMembers : List Member → List Member → Option (List Member)
  | [], _ => some []
  | ⟨name, value, source⟩ :: rest, others => do
    let value ←
      match findMember? name others with
      | none => some value
      | some other => value.merge other
    return ⟨name, value, source⟩ :: (← mergeMembers rest others)

end

/-- Puts a member behind others, or merges it with the one of its name. -/
def addMember (members : List Member) (name : String) (value : Value) : Option (List Member) :=
  match members with
  | [] => some [.of name value]
  | m :: rest =>
    if m.name == name then (m.value.merge value).map fun value => .of name value :: rest
    else (addMember rest name value).map (m :: ·)

mutual

/-- A value without repeated names and with standard numbers, if its parts agree. -/
def Value.settle : Value → Option Value
  | .null => some .null
  | .bool b => some (.bool b)
  | .string text => some (.string text)
  | .number text => do
    let d ← Decimal.parse text
    if d.inBounds then some (.number d.text) else none
  | .array items => (settleItems items).map .array
  | .object members => (settleMembers [] members).map .object

def settleItems : List Value → Option (List Value)
  | [] => some []
  | item :: rest => do return (← item.settle) :: (← settleItems rest)

/-- Settles members behind others that are settled. -/
def settleMembers (before : List Member) : List Member → Option (List Member)
  | [] => some before
  | ⟨name, value, _⟩ :: rest => do
    let value ← value.settle
    settleMembers (← addMember before name value) rest

end

end ClientGen.Json
