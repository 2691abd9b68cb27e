import Mathlib.Data.List.Forall2
import ClientGen.Idl.Root
/-!
# Documents without their documentation

Every node that can carry documentation is stripped of it, wherever it stands: in types, below
them in the types of constants, and in everything that a program declares. Two documents differ in
their documentation only if they are the same without it. What a name, a kind or a number tells
about a node is not affected.
-/
namespace ClientGen.Idl

mutual

/-- A type without the documentation of its fields. -/
def TypeNode.withoutDocs : TypeNode → TypeNode
  | .number type => .number type
  | .boolean size => .boolean size.withoutDocs
  | .fixedSize size type => .fixedSize size type.withoutDocs
  | .sizePrefix length type => .sizePrefix length.withoutDocs type.withoutDocs
  | .bytes => .bytes
  | .string encoding => .string encoding
  | .array item count => .array item.withoutDocs count.withoutDocs
  | .option item flag fixed => .option item.withoutDocs flag.withoutDocs fixed
  | .struct fields => .struct (fieldsWithoutDocs fields)
  | .field node => .field node.withoutDocs
  | .enum variants size => .enum (variantsWithoutDocs variants) size.withoutDocs
  | .variant node => .variant node.withoutDocs
  | .map key value count => .map key.withoutDocs value.withoutDocs count.withoutDocs
  | .set item count => .set item.withoutDocs count.withoutDocs
  | .tuple items => .tuple (typesWithoutDocs items)
  | .publicKey => .publicKey
  | .link name => .link name
  | .amount number decimals unit => .amount number.withoutDocs decimals unit
  | .solAmount number => .solAmount number.withoutDocs
  | .dateTime number => .dateTime number.withoutDocs

def typesWithoutDocs : List TypeNode → List TypeNode
  | [] => []
  | type :: rest => type.withoutDocs :: typesWithoutDocs rest

def CountNode.withoutDocs : CountNode → CountNode
  | .fixed value => .fixed value
  | .prefixed number => .prefixed number.withoutDocs
  | .remainder => .remainder

def FieldNode.withoutDocs : FieldNode → FieldNode
  | ⟨name, type, _, defaultValue, strategy⟩ =>
    ⟨name, type.withoutDocs, [], valueWithoutDocs? defaultValue, strategy⟩

def fieldsWithoutDocs : List FieldNode → List FieldNode
  | [] => []
  | field :: rest => field.withoutDocs :: fieldsWithoutDocs rest

def VariantNode.withoutDocs : VariantNode → VariantNode
  | .empty name discriminator => .empty name discriminator
  | .tuple name type discriminator => .tuple name type.withoutDocs discriminator
  | .struct name type discriminator => .struct name type.withoutDocs discriminator

def variantsWithoutDocs : List VariantNode → List VariantNode
  | [] => []
  | variant :: rest => variant.withoutDocs :: variantsWithoutDocs rest

/-- A value without the documentation in the types of its constants. -/
def ValueNode.withoutDocs : ValueNode → ValueNode
  | .array items => .array (valuesWithoutDocs items)
  | .boolean value => .boolean value
  | .bytes data encoding => .bytes data encoding
  | .constant type value => .constant type.withoutDocs value.withoutDocs
  | .enum link variant payload => .enum link variant (valueWithoutDocs? payload)
  | .map entries => .map (entriesWithoutDocs entries)
  | .entry node => .entry node.withoutDocs
  | .absent => .absent
  | .number text => .number text
  | .publicKey key identifier => .publicKey key identifier
  | .set items => .set (valuesWithoutDocs items)
  | .present value => .present value.withoutDocs
  | .string text => .string text
  | .struct fields => .struct (valueFieldsWithoutDocs fields)
  | .field node => .field node.withoutDocs
  | .tuple items => .tuple (valuesWithoutDocs items)
  | .placeholder kind name => .placeholder kind name

def valueWithoutDocs? : Option ValueNode → Option ValueNode
  | none => none
  | some value => some value.withoutDocs

def valuesWithoutDocs : List ValueNode → List ValueNode
  | [] => []
  | value :: rest => value.withoutDocs :: valuesWithoutDocs rest

def EntryNode.withoutDocs : EntryNode → EntryNode
  | ⟨key, value⟩ => ⟨key.withoutDocs, value.withoutDocs⟩

def entriesWithoutDocs : List EntryNode → List EntryNode
  | [] => []
  | entry :: rest => entry.withoutDocs :: entriesWithoutDocs rest

def ValueFieldNode.withoutDocs : ValueFieldNode → ValueFieldNode
  | ⟨name, value⟩ => ⟨name, value.withoutDocs⟩

def valueFieldsWithoutDocs : List ValueFieldNode → List ValueFieldNode
  | [] => []
  | field :: rest => field.withoutDocs :: valueFieldsWithoutDocs rest

end

/-! ### Programs -/

def SeedNode.withoutDocs : SeedNode → SeedNode
  | .constant type value => .constant type.withoutDocs value.withoutDocs
  | .variable name _ type => .variable name [] type.withoutDocs

def PdaNode.withoutDocs (pda : PdaNode) : PdaNode :=
  { pda with docs := [], seeds := pda.seeds.map (·.withoutDocs) }

def AccountNode.withoutDocs (a : AccountNode) : AccountNode :=
  { a with docs := [], data := a.data.withoutDocs }

def InstructionAccountNode.withoutDocs (a : InstructionAccountNode) : InstructionAccountNode :=
  { a with docs := [], defaultValue := valueWithoutDocs? a.defaultValue }

def ArgumentNode.withoutDocs (a : ArgumentNode) : ArgumentNode :=
  { a with
    docs := []
    type := a.type.withoutDocs
    defaultValue := valueWithoutDocs? a.defaultValue }

mutual

def InstructionNode.withoutDocs : InstructionNode → InstructionNode
  | ⟨name, _, accounts, arguments, subs, isInternal⟩ =>
    ⟨name, [], accounts.map (·.withoutDocs), arguments.map (·.withoutDocs),
      instructionsWithoutDocs subs, isInternal⟩

def instructionsWithoutDocs : List InstructionNode → List InstructionNode
  | [] => []
  | ix :: rest => ix.withoutDocs :: instructionsWithoutDocs rest

end

def DefinedTypeNode.withoutDocs (d : DefinedTypeNode) : DefinedTypeNode :=
  { d with docs := [], type := d.type.withoutDocs }

def ErrorNode.withoutDocs (e : ErrorNode) : ErrorNode := { e with docs := [] }

def ProgramNode.withoutDocs (p : ProgramNode) : ProgramNode :=
  { p with
    docs := []
    accounts := p.accounts.map (·.withoutDocs)
    instructions := p.instructions.map (·.withoutDocs)
    definedTypes := p.definedTypes.map (·.withoutDocs)
    pdas := p.pdas.map (·.withoutDocs)
    errors := p.errors.map (·.withoutDocs) }

/-- A document without any documentation. -/
def RootNode.withoutDocs (root : RootNode) : RootNode :=
  { root with
    program := root.program.withoutDocs
    additionalPrograms := root.additionalPrograms.map (·.withoutDocs) }

/-! ### What documentation does not affect -/

theorem TypeNode.number?_withoutDocs : ∀ type : TypeNode, type.withoutDocs.number? = type.number?
  | .number _ => rfl
  | .fixedSize _ type => by simp only [withoutDocs, number?, type.number?_withoutDocs]
  | .sizePrefix _ type => by simp only [withoutDocs, number?, type.number?_withoutDocs]
  | .amount inner _ _ => by simp only [withoutDocs, number?, inner.number?_withoutDocs]
  | .solAmount inner => by simp only [withoutDocs, number?, inner.number?_withoutDocs]
  | .dateTime inner => by simp only [withoutDocs, number?, inner.number?_withoutDocs]
  | .boolean _ | .bytes | .string _ | .array .. | .option .. | .struct _ | .field _ | .enum ..
  | .variant _ | .map .. | .set .. | .tuple _ | .publicKey | .link _ => rfl

theorem TypeNode.kind_withoutDocs (type : TypeNode) : type.withoutDocs.kind = type.kind := by
  cases type with
  | variant node => cases node <;> rfl
  | _ => rfl

theorem ValueNode.isLiteral_withoutDocs (value : ValueNode) :
    value.withoutDocs.isLiteral = value.isLiteral := by
  cases value <;> rfl

theorem ValueNode.isProgramId_withoutDocs (value : ValueNode) :
    value.withoutDocs.isProgramId = value.isProgramId := by
  cases value <;> rfl

theorem isScalar_variantsWithoutDocs (variants : List VariantNode) :
    isScalar (variantsWithoutDocs variants) = isScalar variants := by
  unfold isScalar
  induction variants with
  | nil => rfl
  | cons variant rest ih =>
    rw [variantsWithoutDocs, List.all_cons, List.all_cons, ih]
    cases variant <;> rfl

theorem filter_isLiteral_withoutDocs (value : Option ValueNode) :
    (valueWithoutDocs? value).filter (·.isLiteral) =
      valueWithoutDocs? (value.filter (·.isLiteral)) := by
  cases value with
  | none => rfl
  | some value =>
    rw [valueWithoutDocs?, Option.filter_some, Option.filter_some, value.isLiteral_withoutDocs]
    split <;> rfl

theorem InstructionNode.conflicts_withoutDocs : ∀ ix : InstructionNode,
    ix.withoutDocs.conflicts = ix.conflicts
  | ⟨name, docs, accounts, arguments, subs, isInternal⟩ => by
    simp only [withoutDocs, conflicts, List.map_map]
    rfl

theorem InstructionNode.data_withoutDocs : ∀ ix : InstructionNode,
    ix.withoutDocs.data = fieldsWithoutDocs ix.data
  | ⟨name, docs, accounts, arguments, subs, isInternal⟩ => by
    rw [InstructionNode.withoutDocs, InstructionNode.data, InstructionNode.data]
    dsimp only
    induction arguments with
    | nil => rfl
    | cons a rest ih =>
      rw [List.map_cons, List.map_cons, List.map_cons, fieldsWithoutDocs, ih]
      rfl

/-! ### Documents that differ in documentation only -/

theorem instructionsWithoutDocs_eq_map (list : List InstructionNode) :
    instructionsWithoutDocs list = list.map (·.withoutDocs) := by
  induction list with
  | nil => rfl
  | cons ix rest ih => rw [instructionsWithoutDocs, List.map_cons, ih]

mutual

theorem InstructionNode.flatten_withoutDocs (leavesOnly : Bool) : ∀ ix : InstructionNode,
    ix.withoutDocs.flatten leavesOnly = (ix.flatten leavesOnly).map (·.withoutDocs)
  | ⟨name, docs, accounts, arguments, subs, isInternal⟩ => by
    have hbelow := flattenAll_withoutDocs leavesOnly subs
    have hempty : (instructionsWithoutDocs subs).isEmpty = subs.isEmpty := by cases subs <;> rfl
    rw [InstructionNode.withoutDocs, InstructionNode.flatten, InstructionNode.flatten, hempty,
      hbelow]
    split
    · rfl
    · rw [List.map_cons, InstructionNode.withoutDocs]

theorem flattenAll_withoutDocs (leavesOnly : Bool) : ∀ list : List InstructionNode,
    flattenAll leavesOnly (instructionsWithoutDocs list) =
      (flattenAll leavesOnly list).map (·.withoutDocs)
  | [] => rfl
  | ix :: rest => by
    rw [instructionsWithoutDocs, flattenAll, flattenAll, List.map_append,
      ix.flatten_withoutDocs leavesOnly, flattenAll_withoutDocs leavesOnly rest]

end

theorem ProgramNode.allInstructions_withoutDocs (p : ProgramNode) (leavesOnly : Bool) :
    p.withoutDocs.allInstructions leavesOnly =
      (p.allInstructions leavesOnly).map (·.withoutDocs) := by
  unfold allInstructions
  rw [← flattenAll_withoutDocs, instructionsWithoutDocs_eq_map]
  rfl

theorem RootNode.programs_withoutDocs (root : RootNode) :
    root.withoutDocs.programs = root.programs.map (·.withoutDocs) := rfl

end ClientGen.Idl
