import ClientGen.Yaml.Token
/-!
# Nodes

The first document of a text as a tree of scalars, sequences and mappings. References are replaced
by what they refer to.
-/
namespace ClientGen.Yaml

/-- A part of a document. -/
inductive Node where
  | scalar (tag : Option String) (text : String) (isPlain : Bool)
  | sequence (items : List Node)
  | mapping (entries : List (Node × Node))

/-- A scalar that is not written. -/
def Node.absent : Node := .scalar none "" true

/-- Tokens to be read, and the nodes that can be referred to. -/
structure Source where
  tokens : List Token
  anchors : List (String × Node)

namespace Source

/-- The next token. -/
def peek (s : Source) : Token := s.tokens.head?.getD .streamEnd

def advance (s : Source) : Source := { s with tokens := s.tokens.drop 1 }

/-- Remembers a node under the name of an anchor. -/
def remember (s : Source) (anchor : Option String) (node : Node) : Source :=
  match anchor with
  | none => s
  | some name => { s with anchors := (name, node) :: s.anchors }

end Source

/-- What a node says about itself in front of its content. -/
structure Properties where
  anchor : Option String
  tag : Option String

/-- Reads an anchor and a tag in any order. -/
def readProperties : (fuel : Nat) → Properties → Source → Properties × Source
  | 0, p, s => (p, s)
  | fuel + 1, p, s =>
    match s.peek with
    | .anchor name =>
      if p.anchor.isSome then (p, s) else readProperties fuel { p with anchor := some name } s.advance
    | .tag text =>
      if p.tag.isSome then (p, s) else readProperties fuel { p with tag := some text } s.advance
    | _ => (p, s)

mutual

/-- Reads a node. With `block` it may be a block, and with `dashes` a sequence that is not
indented. -/
def readNode (block dashes : Bool) : (fuel : Nat) → Source → Option (Node × Source)
  | 0, _ => none
  | fuel + 1, s =>
    match s.peek with
    | .alias name => (s.anchors.lookup name).map fun node => (node, s.advance)
    | _ =>
      let (p, s) := readProperties 2 ⟨none, none⟩ s
      let content : Option (Node × Source) :=
        match s.peek with
        | .scalar text isPlain => some (.scalar p.tag text isPlain, s.advance)
        | .flowSequenceStart =>
          (readFlowItems true fuel s.advance).map fun (items, s) => (.sequence items, s)
        | .flowMappingStart =>
          (readFlowEntries true fuel s.advance).map fun (entries, s) => (.mapping entries, s)
        | .blockSequenceStart =>
          if block then
            (readBlockItems fuel s.advance).map fun (items, s) => (.sequence items, s)
          else none
        | .blockMappingStart =>
          if block then
            (readBlockEntries fuel s.advance).map fun (entries, s) => (.mapping entries, s)
          else none
        | .blockEntry =>
          if dashes then (readDashes fuel s).map fun (items, s) => (.sequence items, s)
          else if p.anchor.isSome || p.tag.isSome then some (.scalar p.tag "" true, s)
          else none
        | .invalid => none
        | _ =>
          if p.anchor.isSome || p.tag.isSome then some (.scalar p.tag "" true, s) else none
      content.map fun (node, s) => (node, s.remember p.anchor node)

/-- Reads the items of a block sequence up to its end. -/
def readBlockItems : (fuel : Nat) → Source → Option (List Node × Source)
  | 0, _ => none
  | fuel + 1, s =>
    match s.peek with
    | .blockEnd => some ([], s.advance)
    | .blockEntry => do
      let s := s.advance
      let (item, s) ←
        match s.peek with
        | .blockEntry => some (Node.absent, s)
        | .blockEnd => some (Node.absent, s)
        | _ => readNode true false fuel s
      let (items, s) ← readBlockItems fuel s
      return (item :: items, s)
    | _ => none

/-- Reads the items of a sequence that is not indented. -/
def readDashes : (fuel : Nat) → Source → Option (List Node × Source)
  | 0, _ => none
  | fuel + 1, s =>
    match s.peek with
    | .blockEntry => do
      let s := s.advance
      let (item, s) ←
        match s.peek with
        | .blockEntry => some (Node.absent, s)
        | .key => some (Node.absent, s)
        | .value => some (Node.absent, s)
        | .blockEnd => some (Node.absent, s)
        | _ => readNode true false fuel s
      let (items, s) ← readDashes fuel s
      return (item :: items, s)
    | _ => some ([], s)

/-- Reads a key or a value of a block mapping, which may be missing. -/
def readBlockPart : (fuel : Nat) → Source → Option (Node × Source)
  | 0, _ => none
  | fuel + 1, s =>
    match s.peek with
    | .key => some (.absent, s)
    | .value => some (.absent, s)
    | .blockEnd => some (.absent, s)
    | _ => readNode true true fuel s

/-- Reads the entries of a block mapping up to its end. -/
def readBlockEntries : (fuel : Nat) → Source → Option (List (Node × Node) × Source)
  | 0, _ => none
  | fuel + 1, s =>
    match s.peek with
    | .blockEnd => some ([], s.advance)
    | .key => do
      let (key, s) ← readBlockPart fuel s.advance
      let (value, s) ←
        match s.peek with
        | .value => readBlockPart fuel s.advance
        | _ => some (Node.absent, s)
      let (entries, s) ← readBlockEntries fuel s
      return ((key, value) :: entries, s)
    | _ => none

def readFlowItems (first : Bool) : (fuel : Nat) → Source → Option (List Node × Source)
  | 0, _ => none
  | fuel + 1, s =>
    match s.peek with
    | .flowSequenceEnd => some ([], s.advance)
    | token => do
      let s ← if first then some s else if token == .flowEntry then some s.advance else none
      match s.peek with
      | .flowSequenceEnd => some ([], s.advance)
      | .key =>
        let (entry, s) ← readFlowEntry fuel s
        let (items, s) ← readFlowItems false fuel s
        return (.mapping [entry] :: items, s)
      | _ =>
        let (item, s) ← readNode false false fuel s
        let (items, s) ← readFlowItems false fuel s
        return (item :: items, s)

/-- Reads an entry between brackets, from the token in front of its key on. -/
def readFlowEntry : (fuel : Nat) → Source → Option ((Node × Node) × Source)
  | 0, _ => none
  | fuel + 1, s => do
    let s := s.advance
    let (key, s) ←
      match s.peek with
      | .value => some (Node.absent, s)
      | .flowEntry => some (Node.absent, s)
      | .flowMappingEnd => some (Node.absent, s)
      | .flowSequenceEnd => some (Node.absent, s)
      | _ => readNode false false fuel s
    match s.peek with
    | .value =>
      let s := s.advance
      match s.peek with
      | .flowEntry => some ((key, .absent), s)
      | .flowMappingEnd => some ((key, .absent), s)
      | .flowSequenceEnd => some ((key, .absent), s)
      | _ =>
        let (value, s) ← readNode false false fuel s
        return ((key, value), s)
    | _ => some ((key, .absent), s)

def readFlowEntries (first : Bool) : (fuel : Nat) → Source → Option (List (Node × Node) × Source)
  | 0, _ => none
  | fuel + 1, s =>
    match s.peek with
    | .flowMappingEnd => some ([], s.advance)
    | token => do
      let s ← if first then some s else if token == .flowEntry then some s.advance else none
      match s.peek with
      | .flowMappingEnd => some ([], s.advance)
      | .key =>
        let (entry, s) ← readFlowEntry fuel s
        let (entries, s) ← readFlowEntries false fuel s
        return (entry :: entries, s)
      | _ =>
        let (key, s) ← readNode false false fuel s
        let (entries, s) ← readFlowEntries false fuel s
        return ((key, .absent) :: entries, s)

end

/-- The first document of a text. -/
inductive FirstDocument where
  /-- The text holds no document. -/
  | none
  | malformed
  | node (root : Node)

/-- Whether a list of tokens starts with directives that are understood. -/
def goodDirective : Token → Bool
  | .versionDirective isKnown => isKnown
  | .otherDirective => true
  | _ => false

def isDirective : Token → Bool
  | .versionDirective _ => true
  | .otherDirective => true
  | _ => false

/-- Whether a document without content ends here. -/
def endsDocument : Token → Bool
  | .documentStart => true
  | .documentEnd => true
  | .streamEnd => true
  | token => isDirective token

/-- Reads the first document. Two tokens behind it are looked at. -/
def firstDocument (text : String) : FirstDocument :=
  let ts := (tokens text).dropWhile (· == .documentEnd)
  if ts.head? == some .streamEnd then .none
  else
    let directives := ts.takeWhile isDirective
    let rest := ts.drop directives.length
    let isExplicit := rest.head? == some .documentStart
    if !directives.all goodDirective || (!directives.isEmpty && !isExplicit) then .malformed
    else
      let body := if isExplicit then rest.drop 1 else rest
      let read : Option (Node × Source) :=
        if (body.head?.map endsDocument).getD true then some (.absent, ⟨body, []⟩)
        else readNode true false (4 * body.length + 4) ⟨body, []⟩
      match read with
      | Option.none => .malformed
      | some (node, s) => if (s.tokens.take 3).contains .invalid then .malformed else .node node

end ClientGen.Yaml
