import Mathlib.Logic.Relation
import ClientGen.Proofs.Cpp.Faithful
/-!
# Visits

Lowering a type lowers the types below it, each in a context that is made from the one around it. On
the way down the name of the enclosing declaration only ever grows. So a name that stands around a
type is never lost below it, whatever is nested in what.
-/
namespace ClientGen.Cpp

open ClientGen.Idl

/-- A type that is lowered, in its context. -/
structure Visit where
  ctx : Context
  type : TypeNode

namespace Visit

/-- From a type to one that is lowered as a part of it. The fields of a struct and the variants of
an enum are visited on their own, and the type of a field or variant below them. -/
inductive Enters : Visit → Visit → Prop
  | amount {ctx : Context} {inner : TypeNode} {decimals : Int} {unit : String} :
    Enters ⟨ctx, .amount inner decimals unit⟩ ⟨ctx, inner⟩
  | solAmount {ctx : Context} {inner : TypeNode} : Enters ⟨ctx, .solAmount inner⟩ ⟨ctx, inner⟩
  | dateTime {ctx : Context} {inner : TypeNode} : Enters ⟨ctx, .dateTime inner⟩ ⟨ctx, inner⟩
  | fixedSize {ctx : Context} {size : Int} {inner : TypeNode} :
    Enters ⟨ctx, .fixedSize size inner⟩ ⟨{ ctx with size := .fixed size }, inner⟩
  | sizePrefix {ctx : Context} {length inner : TypeNode} {number : NumberType}
    (h : length.number? = some number) :
    Enters ⟨ctx, .sizePrefix length inner⟩ ⟨{ ctx with size := .prefixed number }, inner⟩
  | array {ctx : Context} {inner : TypeNode} {count : CountNode} :
    Enters ⟨ctx, .array inner count⟩ ⟨ctx.child, inner⟩
  | option {ctx : Context} {inner flag : TypeNode} {fixed : Bool} :
    Enters ⟨ctx, .option inner flag fixed⟩ ⟨ctx.child, inner⟩
  | structField {ctx : Context} {fields : List FieldNode} {node : FieldNode} (h : node ∈ fields) :
    Enters ⟨ctx, .struct fields⟩ ⟨ctx.child, .field node⟩
  | field {ctx : Context} {node : FieldNode} :
    Enters ⟨ctx, .field node⟩ ⟨ctx.field node.name, node.type⟩
  | enumVariant {ctx : Context} {variants : List VariantNode} {size : TypeNode} {node : VariantNode}
    (h : node ∈ variants) :
    Enters ⟨ctx, .enum variants size⟩ ⟨{ ctx.child with nested := false }, .variant node⟩
  | structVariant {ctx : Context} {name : String} {type : TypeNode} {discriminator : Option Int} :
    Enters ⟨ctx, .variant (.struct name type discriminator)⟩
      ⟨{ ctx.child with
        parent := ctx.parent ++ Naming.pascal name, inlined := true, nested := false }, type⟩
  | tupleVariant {ctx : Context} {name : String} {type : TypeNode} {discriminator : Option Int} :
    Enters ⟨ctx, .variant (.tuple name type discriminator)⟩
      ⟨{ ctx.child with parent := ctx.parent ++ Naming.pascal name, inlined := false }, type⟩
  | item {ctx : Context} {items : List TypeNode} {index : Nat} {type : TypeNode}
    (h : items[index]? = some type) : Enters ⟨ctx, .tuple items⟩ ⟨ctx.item index, type⟩

/-- From a type to one at any depth below it, or to itself. -/
def Reaches : Visit → Visit → Prop := Relation.ReflTransGen Enters

variable {visit below : Visit}

/-- One step down leaves the name as it is or adds to it. -/
theorem Enters.parent (h : visit.Enters below) :
    ∃ path, below.ctx.parent = visit.ctx.parent ++ path := by
  have hsame (name : String) : ∃ path, name = name ++ path := ⟨"", String.append_empty.symm⟩
  cases h with
  | amount | solAmount | dateTime | fixedSize | sizePrefix | array | option | structField
  | enumVariant => exact hsame _
  | field | structVariant | tupleVariant => exact ⟨_, rfl⟩
  | @item ctx items index type h =>
    -- Items are numbered only under a name.
    change ∃ path, (ctx.item index).parent = ctx.parent ++ path
    unfold Context.item
    split
    · exact hsame _
    · exact ⟨"Item" ++ index.repr, String.append_assoc⟩

/-- The name around a type stays in front, however deep the visit goes. -/
theorem Reaches.parent (h : visit.Reaches below) :
    ∃ path, below.ctx.parent = visit.ctx.parent ++ path := by
  induction h with
  | refl => exact ⟨"", String.append_empty.symm⟩
  | tail _ hstep ih =>
    obtain ⟨path, hpath⟩ := ih
    obtain ⟨more, hmore⟩ := hstep.parent
    refine ⟨path ++ more, ?_⟩
    rw [hmore, hpath, String.append_assoc]

end Visit

end ClientGen.Cpp
