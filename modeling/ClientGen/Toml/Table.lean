import ClientGen.Toml.Reader
/-!
# Tables of a settings file

The statements of a file put together. A table can be opened by one header only; a header or dotted
keys may go through tables that are there, but not into a value.
-/
namespace ClientGen.Toml

/-- How a table came to be. -/
inductive Origin where
  /-- It is on the way of a header. -/
  | passed
  /-- A header names it. -/
  | named
  /-- It is on the way of dotted keys. -/
  | dotted
deriving DecidableEq, Repr

/-- What is at a key while statements are put together. -/
inductive Item where
  | value (value : Value)
  | table (origin : Origin) (entries : List (String × Item))
  /-- Tables under one header, the last first. -/
  | tables (elements : List (List (String × Item)))

abbrev Entries := List (String × Item)

/-- Changes what is at a key, or adds it behind the others. -/
def alter (key : String) (f : Option Item → Option Item) : Entries → Option Entries
  | [] => (f none).map fun item => [(key, item)]
  | (name, item) :: rest =>
    if name == key then (f (some item)).map fun item => (name, item) :: rest
    else (alter key f rest).map ((name, item) :: ·)

/-- Goes through what is at a key, as a header does. -/
def throughHeader (f : Entries → Option Entries) : Option Item → Option Item
  | none => (f []).map (.table .passed)
  | some (.table origin entries) => (f entries).map (.table origin)
  | some (.tables (last :: before)) => (f last).map fun last => .tables (last :: before)
  | some _ => none

/-- Goes through what is at a key, as dotted keys do. -/
def throughDots (f : Entries → Option Entries) : Option Item → Option Item
  | none => (f []).map (.table .dotted)
  | some (.table .named _) => none
  | some (.table origin entries) => (f entries).map (.table origin)
  | some _ => none

def openTable (isArray : Bool) : KeyPath → Entries → Option Entries
  | [], _ => none
  | [key], entries =>
    alter key (fun item =>
      match isArray, item with
      | false, none => some (.table .named [])
      | false, some (.table .passed entries) => some (.table .named entries)
      | true, none => some (.tables [[]])
      | true, some (.tables elements) => some (.tables ([] :: elements))
      | _, _ => none) entries
  | key :: rest, entries => alter key (throughHeader (openTable isArray rest)) entries

/-- Puts a value at dotted keys. -/
def assignAt (value : Value) : KeyPath → Entries → Option Entries
  | [], _ => none
  | [key], entries =>
    alter key (fun item => if item.isNone then some (.value value) else none) entries
  | key :: rest, entries => alter key (throughDots (assignAt value rest)) entries

/-- Puts a value at dotted keys in the table of a header. -/
def assignUnder (value : Value) (path : KeyPath) : KeyPath → Entries → Option Entries
  | [], entries => assignAt value path entries
  | key :: rest, entries => alter key (throughHeader (assignUnder value path rest)) entries

/-- Puts statements together, those up to the next header into the table of the last one. -/
def assemble (header : KeyPath) (entries : Entries) : List Statement → Option Entries
  | [] => some entries
  | .header path isArray :: rest => do
    assemble path (← openTable isArray path entries) rest
  | .assign path value :: rest => do
    assemble header (← assignUnder value path header entries) rest

mutual

def Item.toValue : Item → Value
  | .value value => value
  | .table _ entries => .table (entryValues entries)
  | .tables elements => .array (elementValues elements).reverse

def entryValues : List (String × Item) → List (String × Value)
  | [] => []
  | (key, item) :: rest => (key, item.toValue) :: entryValues rest

def elementValues : List (List (String × Item)) → List Value
  | [] => []
  | entries :: rest => .table (entryValues entries) :: elementValues rest

end

mutual

/-- The keys inside a value, behind those that lead to it. -/
def keysInside (path : KeyPath) : Value → List KeyPath
  | .table entries => keysOfEntries path entries
  | .array items => keysOfItems path items
  | _ => []

/-- The keys of entries and inside them. -/
def keysOfEntries (path : KeyPath) : List (String × Value) → List KeyPath
  | [] => []
  | (key, value) :: rest =>
    (path ++ [key]) :: keysInside (path ++ [key]) value ++ keysOfEntries path rest

def keysOfItems (path : KeyPath) : List Value → List KeyPath
  | [] => []
  | item :: rest => keysInside path item ++ keysOfItems path rest

end

/-- The keys that statements name, in their order. -/
def namedKeys (header : KeyPath) : List Statement → List KeyPath
  | [] => []
  | .header path _ :: rest => path :: namedKeys path rest
  | .assign path value :: rest =>
    (header ++ path) :: keysInside (header ++ path) value ++ namedKeys header rest

/-- A file of tables: what it holds, and the keys that it names. -/
structure File where
  entries : List (String × Value)
  keys : List KeyPath

def File.parse (text : String) : Option File := do
  let statements ← statements text
  let entries ← assemble [] [] statements
  return ⟨entryValues entries, namedKeys [] statements⟩

end ClientGen.Toml
