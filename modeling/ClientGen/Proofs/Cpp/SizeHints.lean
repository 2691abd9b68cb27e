import ClientGen.Cpp.Lowering
/-!
# How far a length reaches

The length that a wrapper gives goes to the very type it wraps. Marks for amounts and times hand it
on, a further wrapper replaces it, and every type with parts keeps it from them. So it shows in the
lowering of bytes and text alone, and there the innermost wrapper decides.
-/
namespace ClientGen.Cpp

open ClientGen.Idl

/-- A type without the marks of amounts and times around it. -/
def unmarked : TypeNode → TypeNode
  | .amount inner _ _ => unmarked inner
  | .solAmount inner => unmarked inner
  | .dateTime inner => unmarked inner
  | type => type

/-- Whether a type is bytes or text, whose lowering needs a length. -/
def isCounted (type : TypeNode) : Bool :=
  match unmarked type with
  | .bytes | .string _ => true
  | _ => false

/-- The same context with another length. -/
def Context.withSize (ctx : Context) (size : SizeHint) : Context := { ctx with size := size }

/-- A layer around a type that is lowered as the type itself. -/
inductive Layer where
  | amount (decimals : Int) (unit : String)
  | solAmount
  | dateTime
  | fixedSize (size : Int)
  | sizePrefix (length : TypeNode)

namespace Layer

def around : Layer → TypeNode → TypeNode
  | .amount decimals unit, inner => .amount inner decimals unit
  | .solAmount, inner => .solAmount inner
  | .dateTime, inner => .dateTime inner
  | .fixedSize size, inner => .fixedSize size inner
  | .sizePrefix length, inner => .sizePrefix length inner

def isMark : Layer → Bool
  | .fixedSize _ | .sizePrefix _ => false
  | _ => true

/-- The length that a layer gives, if it is a size whose prefix is a number. -/
def size? : Layer → Option SizeHint
  | .fixedSize size => some (.fixed size)
  | .sizePrefix length => length.number?.map .prefixed
  | _ => none

end Layer

section

variable {target : Target} {ctx : Context}

@[simp] theorem Context.withSize_size (size : SizeHint) : (ctx.withSize size).size = size := rfl

@[simp] theorem Context.withSize_withSize (size size' : SizeHint) :
    (ctx.withSize size).withSize size' = ctx.withSize size' := rfl

@[simp] theorem Context.withSize_self : ctx.withSize ctx.size = ctx := rfl

@[simp] theorem Context.child_withSize (size : SizeHint) : (ctx.withSize size).child = ctx.child :=
  rfl

@[simp] theorem Context.item_withSize (size : SizeHint) (index : Nat) :
    (ctx.withSize size).item index = ctx.item index := rfl

/-! ### Types that do not see a length -/

theorem lowerField_withSize (size : SizeHint) (node : FieldNode) :
    lowerField target (ctx.withSize size) node = lowerField target ctx node := by
  obtain ⟨name, type, docs, defaultValue, strategy⟩ := node
  rw [lowerField, lowerField]
  rfl

theorem lowerItems_withSize (size : SizeHint) (index : Nat) (includes : IncludeSet)
    (items : List TypeNode) :
    lowerItems target (ctx.withSize size) index includes items =
      lowerItems target ctx index includes items := by
  induction items generalizing index includes with
  | nil => rfl
  | cons item rest ih => simp only [lowerItems, Context.item_withSize, ih]

theorem lowerVariant_withSize (size : SizeHint) (node : VariantNode) :
    lowerVariant target (ctx.withSize size) node = lowerVariant target ctx node := by
  cases node <;> rw [lowerVariant, lowerVariant] <;> rfl

/-- Whatever is not bytes or text is lowered alike with any length around it. -/
theorem lower_withSize (size : SizeHint) : ∀ type : TypeNode, isCounted type = false →
    lower target (ctx.withSize size) type = lower target ctx type
  | .number _, _ => by rw [lower, lower]
  | .amount inner _ _, h => by
    rw [lower, lower]
    exact lower_withSize size inner h
  | .solAmount inner, h => by
    rw [lower, lower]
    exact lower_withSize size inner h
  | .dateTime inner, h => by
    rw [lower, lower]
    exact lower_withSize size inner h
  | .boolean _, _ => by rw [lower, lower]
  | .fixedSize _ _, _ => by
    rw [lower, lower]
    rfl
  | .sizePrefix _ _, _ => by
    rw [lower, lower]
    rfl
  | .array _ _, _ => by rw [lower, lower, Context.child_withSize]
  | .option _ _ _, _ => by rw [lower, lower, Context.child_withSize]
  | .struct _, _ => by
    rw [lower, lower, Context.child_withSize]
    rfl
  | .field node, _ => by rw [lower, lower, lowerField_withSize]
  | .enum _ _, _ => by
    rw [lower, lower]
    rfl
  | .variant node, _ => by rw [lower, lower, lowerVariant_withSize]
  | .tuple items, _ => by rw [lower, lower, lowerItems_withSize]
  | .publicKey, _ => by rw [lower, lower]
  | .link _, _ => by rw [lower, lower]
  | .map _ _ _, _ => by rw [lower, lower]
  | .set _ _, _ => by rw [lower, lower]

/-! ### Layers -/

theorem lower_unmarked : ∀ type : TypeNode,
    lower target ctx type = lower target ctx (unmarked type)
  | .amount inner _ _ => by
    rw [lower, unmarked]
    exact lower_unmarked inner
  | .solAmount inner => by
    rw [lower, unmarked]
    exact lower_unmarked inner
  | .dateTime inner => by
    rw [lower, unmarked]
    exact lower_unmarked inner
  | .number _ | .boolean _ | .fixedSize _ _ | .sizePrefix _ _ | .bytes | .string _ | .array _ _
  | .option _ _ _ | .struct _ | .field _ | .enum _ _ | .variant _ | .tuple _ | .publicKey | .link _
  | .map _ _ _ | .set _ _ => rfl

theorem lower_mark {layer : Layer} (h : layer.isMark = true) (type : TypeNode) :
    lower target ctx (layer.around type) = lower target ctx type := by
  cases layer with
  | amount | solAmount | dateTime => rw [Layer.around, lower]
  | fixedSize | sizePrefix => cases h

theorem lower_size {layer : Layer} {size : SizeHint} (h : layer.size? = some size)
    (type : TypeNode) :
    lower target ctx (layer.around type) = lower target (ctx.withSize size) type := by
  cases layer with
  | amount | solAmount | dateTime => cases h
  | fixedSize n =>
    cases h
    rw [Layer.around, lower]
    rfl
  | sizePrefix length =>
    obtain ⟨number, hnumber, rfl⟩ := Option.map_eq_some_iff.mp h
    rw [Layer.around, lower, hnumber]
    rfl

/-- Readable layers give the type inside them some length, or the one around them. -/
theorem lower_layers {layers : List Layer}
    (h : ∀ layer ∈ layers, layer.isMark = true ∨ layer.size?.isSome = true) (type : TypeNode) :
    ∃ size, lower target ctx (layers.foldr Layer.around type) =
      lower target (ctx.withSize size) type := by
  induction layers generalizing ctx with
  | nil => exact ⟨ctx.size, rfl⟩
  | cons layer rest ih =>
    rw [List.forall_mem_cons] at h
    rw [List.foldr_cons]
    rcases h.1 with hmark | hsize
    · rw [lower_mark hmark]
      exact ih h.2
    · obtain ⟨size, hsize⟩ := Option.isSome_iff_exists.mp hsize
      rw [lower_size hsize]
      exact ih h.2

theorem lower_marks {layers : List Layer} (h : ∀ layer ∈ layers, layer.isMark = true)
    (type : TypeNode) :
    lower target ctx (layers.foldr Layer.around type) = lower target ctx type := by
  induction layers with
  | nil => rfl
  | cons layer rest ih =>
    rw [List.forall_mem_cons] at h
    rw [List.foldr_cons, lower_mark h.1, ih h.2]

/-- A length shows in the lowering of bytes and text alone, and of sizes around each other the
innermost one gives it. -/
theorem size_reaches_wrapped_type (target : Target) (ctx : Context) (type : TypeNode) :
    (isCounted type = false → ∀ size size' : SizeHint,
      lower target (ctx.withSize size) type = lower target (ctx.withSize size') type) ∧
    (∀ (outer : List Layer) (innermost : Layer) (marks : List Layer) (size : SizeHint),
      (∀ layer ∈ outer, layer.isMark = true ∨ layer.size?.isSome = true) →
      innermost.size? = some size → (∀ layer ∈ marks, layer.isMark = true) →
      lower target ctx ((outer ++ innermost :: marks).foldr Layer.around type) =
        lower target (ctx.withSize size) type) ∧
    (∀ size, unmarked type = .bytes →
      lower target (ctx.withSize size) type = lowerBytes target size) ∧
    ∀ size encoding, unmarked type = .string encoding →
      lower target (ctx.withSize size) type = lowerString target size := by
  refine ⟨?_, ?_, ?_, ?_⟩
  · intro h size size'
    rw [lower_withSize size type h, lower_withSize size' type h]
  · intro outer innermost marks size houter hsize hmarks
    rw [List.foldr_append, List.foldr_cons]
    obtain ⟨around, hlower⟩ := lower_layers houter
      (innermost.around (marks.foldr Layer.around type))
    rw [hlower, lower_size hsize, lower_marks hmarks, Context.withSize_withSize]
  · intro size h
    rw [lower_unmarked, h, lower, Context.withSize_size]
  · intro size encoding h
    rw [lower_unmarked, h, lower, Context.withSize_size]

/-- A length in front of a list is none of its items', and one around another is not seen. -/
theorem size_reaches_wrapped_type_titles :
    let target : Target := ⟨.unreal5, "Vault"⟩
    let ctx := Context.root ""
    let length : SizeHint := .prefixed (.little "u32")
    let titles := TypeNode.array (.string "utf8") .remainder
    let title := TypeNode.sizePrefix (.number (.little "u32")) (.solAmount (.string "utf8"))
    isCounted titles = false ∧
      lower target (ctx.withSize length) titles = lower target (ctx.withSize .none) titles ∧
      lower target ctx (.fixedSize 4 (.amount title 2 "")) =
        lower target (ctx.withSize length) (.string "utf8") ∧
      lower target (ctx.withSize length) (.string "utf8") = lowerString target length := by
  intro target ctx length titles title
  have hitems : isCounted titles = false := rfl
  have hlist := (size_reaches_wrapped_type target ctx titles).1 hitems length .none
  obtain ⟨-, hlayers, -, htext⟩ := size_reaches_wrapped_type target ctx (.string "utf8")
  refine ⟨hitems, hlist, ?_, htext length "utf8" rfl⟩
  apply hlayers [.fixedSize 4, .amount 2 ""] (.sizePrefix (.number (.little "u32"))) [.solAmount]
  · decide
  · rfl
  · decide

end

end ClientGen.Cpp
