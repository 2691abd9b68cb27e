import ClientGen.Cpp.Lowering
/-!
# What generating code fails for

Lowering a type or writing a literal fails for three causes only: a construct without counterpart,
a literal that denotes nothing, or a declaration without a name around it. The last one cannot
arise below a name, since every part of a type is lowered under a name that extends the one of the
whole.
-/
namespace ClientGen.Cpp

open ClientGen.Idl

/-- Any failure has one of some causes, whatever the places around it. -/
structure Generated.FailsOnly {α : Type} (x : Generated α) (causes : Error → Prop) : Prop where
  of_error : ∀ e, x = .error e → causes e.cause

section

variable {α β : Type} {x : Generated α} {causes : Error → Prop}

theorem Generated.failsOnly_ok (a : α) : Generated.FailsOnly (.ok a) causes := by
  constructor
  intro e h
  cases h

theorem Generated.failsOnly_error {e : Error} (h : causes e.cause) :
    Generated.FailsOnly (.error e : Generated α) causes := by
  constructor
  intro e' he
  cases he
  exact h

theorem Generated.FailsOnly.mono {causes' : Error → Prop} (h : Generated.FailsOnly x causes)
    (himp : ∀ e, causes e → causes' e) : Generated.FailsOnly x causes' :=
  ⟨fun e he => himp e.cause (h.of_error e he)⟩

theorem Generated.FailsOnly.bind {f : α → Generated β} (h : Generated.FailsOnly x causes)
    (hf : ∀ a, x = .ok a → Generated.FailsOnly (f a) causes) :
    Generated.FailsOnly (x >>= f) causes := by
  cases x with
  | error e => exact Generated.failsOnly_error (h.of_error e rfl)
  | ok a => exact hf a rfl

theorem Generated.FailsOnly.inside (place : Place) (h : Generated.FailsOnly x causes) :
    Generated.FailsOnly (Generated.inside place x) causes := by
  cases x with
  | error e => exact Generated.failsOnly_error (h.of_error e rfl)
  | ok a => exact Generated.failsOnly_ok a

end

/-- The causes that lie in a type or in a value itself. A name is missing only where the
declaration around it has none. -/
inductive Inherent (unnamed : Prop) : Error → Prop
  | unsupported (construct : Unsupported) : Inherent unnamed (.unsupported construct)
  | invalidValue (value : InvalidValue) : Inherent unnamed (.invalidValue value)
  | missingContext (what : String) (h : unnamed) : Inherent unnamed (.missingContext what)

theorem Inherent.mono {unnamed unnamed' : Prop} (himp : unnamed → unnamed') {e : Error}
    (h : Inherent unnamed e) : Inherent unnamed' e := by
  cases h with
  | unsupported construct => exact .unsupported construct
  | invalidValue value => exact .invalidValue value
  | missingContext what h => exact .missingContext what (himp h)

theorem unsupported_failsOnly {α : Type} {unnamed : Prop} (construct : Unsupported) :
    Generated.FailsOnly (unsupported construct : Generated α) (Inherent unnamed) :=
  Generated.failsOnly_error (.unsupported construct)

/-! ### Literals -/

section

variable {target : Target} {unnamed : Prop}

private theorem mapError_failsOnly {α ε : Type} (x : Except ε α) (value : ε → InvalidValue) :
    Generated.FailsOnly (x.mapError fun fault => Error.invalidValue (value fault))
      (Inherent unnamed) := by
  cases x with
  | error fault => exact Generated.failsOnly_error (.invalidValue (value fault))
  | ok a => exact Generated.failsOnly_ok a

theorem bytesLiteral_failsOnly (encoding data : String) :
    Generated.FailsOnly (bytesLiteral encoding data) (Inherent unnamed) := by
  have hbytes : Generated.FailsOnly (bytesOf encoding data) (Inherent unnamed) := by
    unfold bytesOf
    split
    · exact Generated.failsOnly_ok _
    · split
      · exact mapError_failsOnly _ _
      · split
        · exact mapError_failsOnly _ _
        · split
          · exact mapError_failsOnly _ _
          · exact unsupported_failsOnly _
  exact hbytes.bind fun _ _ => Generated.failsOnly_ok _

theorem publicKeyLiteral_failsOnly (key : String) :
    Generated.FailsOnly (publicKeyLiteral target key) (Inherent unnamed) := by
  unfold publicKeyLiteral
  cases checkPublicKey key with
  | error value => exact Generated.failsOnly_error (.invalidValue value)
  | ok _ => exact Generated.failsOnly_ok _

theorem numberBytes_failsOnly (number : NumberType) (text : String) :
    Generated.FailsOnly (numberBytes target number text) (Inherent unnamed) := by
  unfold numberBytes
  cases target.flavor.number? number.format with
  | none => exact unsupported_failsOnly _
  | some spelling => exact Generated.failsOnly_ok _

theorem constantLiteral_failsOnly (type : TypeNode) (value : ValueNode) :
    Generated.FailsOnly (constantLiteral target type value) (Inherent unnamed) := by
  unfold constantLiteral
  split
  · exact bytesLiteral_failsOnly _ _
  · exact bytesLiteral_failsOnly _ _
  · exact publicKeyLiteral_failsOnly _
  · cases type.number? with
    | none => exact unsupported_failsOnly _
    | some number => exact numberBytes_failsOnly number _
  · exact unsupported_failsOnly _

mutual

/-- A value has no literal only for a cause that lies in it. -/
theorem literal_failsOnly (short : Bool) : ∀ value : ValueNode,
    Generated.FailsOnly (literal target short value) (Inherent unnamed)
  | .number _ => Generated.failsOnly_ok _
  | .boolean _ => Generated.failsOnly_ok _
  | .string _ => Generated.failsOnly_ok _
  | .bytes data encoding => bytesLiteral_failsOnly encoding data
  | .array items => by
    rw [literal]
    exact (literals_failsOnly short .empty items).bind fun _ _ => Generated.failsOnly_ok _
  | .tuple items => by
    rw [literal]
    exact (literals_failsOnly short .empty items).bind fun _ _ => Generated.failsOnly_ok _
  | .struct fields => by
    rw [literal]
    apply (fieldLiterals_failsOnly short .empty fields).bind
    rintro ⟨texts, includes⟩ -
    dsimp only
    split <;> exact Generated.failsOnly_ok _
  | .field node => fieldLiteral_failsOnly short node
  | .enum none _ _ => unsupported_failsOnly _
  | .enum (some link) variant none => by
    rw [literal]
    exact Generated.failsOnly_ok _
  | .enum (some link) variant (some payload) => by
    rw [literal, payloadLiteral]
    exact ((literal_failsOnly short payload).bind fun _ _ => Generated.failsOnly_ok _).bind
      fun _ _ => Generated.failsOnly_ok _
  | .present value => by
    rw [literal]
    exact (literal_failsOnly short value).bind fun _ _ => Generated.failsOnly_ok _
  | .publicKey key _ => publicKeyLiteral_failsOnly key
  | .constant type value => constantLiteral_failsOnly type value
  | .map _ => unsupported_failsOnly _
  | .entry _ => unsupported_failsOnly _
  | .set _ => unsupported_failsOnly _
  | .absent => unsupported_failsOnly _
  | .placeholder _ _ => unsupported_failsOnly _

theorem literals_failsOnly (short : Bool) (includes : IncludeSet) : ∀ items : List ValueNode,
    Generated.FailsOnly (literals target short includes items) (Inherent unnamed)
  | [] => Generated.failsOnly_ok _
  | value :: rest => by
    rw [literals]
    exact (literal_failsOnly short value).bind fun _ _ =>
      (literals_failsOnly short _ rest).bind fun _ _ => Generated.failsOnly_ok _

theorem fieldLiteral_failsOnly (short : Bool) : ∀ node : ValueFieldNode,
    Generated.FailsOnly (fieldLiteral target short node) (Inherent unnamed)
  | ⟨name, value⟩ => by
    rw [fieldLiteral]
    exact (literal_failsOnly short value).bind fun _ _ => Generated.failsOnly_ok _

theorem fieldLiterals_failsOnly (short : Bool) (includes : IncludeSet) :
    ∀ fields : List ValueFieldNode,
      Generated.FailsOnly (fieldLiterals target short includes fields) (Inherent unnamed)
  | [] => Generated.failsOnly_ok _
  | node :: rest => by
    rw [fieldLiterals]
    exact (fieldLiteral_failsOnly short node).bind fun _ _ =>
      (fieldLiterals_failsOnly short _ rest).bind fun _ _ => Generated.failsOnly_ok _

end

/-! ### Types -/

theorem lowerNumber_failsOnly (number : NumberType) :
    Generated.FailsOnly (lowerNumber target number) (Inherent unnamed) := by
  unfold lowerNumber
  split
  · exact unsupported_failsOnly _
  · cases target.flavor.number? number.format with
    | none => exact unsupported_failsOnly _
    | some spelling => exact Generated.failsOnly_ok _

theorem lowerBoolean_failsOnly (size : TypeNode) :
    Generated.FailsOnly (lowerBoolean target size) (Inherent unnamed) := by
  unfold lowerBoolean
  split
  · exact Generated.failsOnly_ok _
  · exact unsupported_failsOnly _

theorem prefixedArray_failsOnly (number : Option NumberType) (m : Manifest) :
    Generated.FailsOnly (prefixedArray target number m) (Inherent unnamed) := by
  unfold prefixedArray
  split
  · exact Generated.failsOnly_ok _
  · exact unsupported_failsOnly _

theorem lowerArray_failsOnly (m : Manifest) (count : CountNode) :
    Generated.FailsOnly (lowerArray target m count) (Inherent unnamed) := by
  cases count with
  | fixed size => exact Generated.failsOnly_ok _
  | prefixed number => exact prefixedArray_failsOnly _ m
  | remainder => exact Generated.failsOnly_ok _

theorem lowerBytes_failsOnly (size : SizeHint) :
    Generated.FailsOnly (lowerBytes target size) (Inherent unnamed) := by
  unfold lowerBytes
  apply (lowerNumber_failsOnly (.little "u8")).bind
  intro item _
  cases size with
  | none => exact Generated.failsOnly_ok _
  | fixed n => exact Generated.failsOnly_ok _
  | prefixed number => exact prefixedArray_failsOnly _ item

theorem lowerString_failsOnly (size : SizeHint) :
    Generated.FailsOnly (lowerString target size) (Inherent unnamed) := by
  cases size with
  | none => exact unsupported_failsOnly _
  | fixed n => exact unsupported_failsOnly _
  | prefixed number =>
    rw [lowerString]
    split
    · exact Generated.failsOnly_ok _
    · exact unsupported_failsOnly _

theorem requireParent_failsOnly (what : String) (ctx : Context) :
    Generated.FailsOnly (requireParent what ctx) (Inherent (ctx.parent = "")) := by
  unfold requireParent
  split
  · rename_i hempty
    exact Generated.failsOnly_error (.missingContext what (String.isEmpty_iff.mp hempty))
  · exact Generated.failsOnly_ok ()

theorem lowerEnum_failsOnly (variants : List VariantNode) (size : TypeNode) (ctx : Context) :
    Generated.FailsOnly (lowerEnum target variants size ctx) (Inherent (ctx.parent = "")) := by
  unfold lowerEnum
  refine (requireParent_failsOnly "enum" ctx).bind fun _ _ => ?_
  split
  · exact unsupported_failsOnly _
  · split
    · exact unsupported_failsOnly _
    · split
      · exact unsupported_failsOnly _
      · split
        · exact unsupported_failsOnly _
        · dsimp only
          split <;> exact Generated.failsOnly_ok _

theorem fieldMember_failsOnly (assignable : Bool) (name : String) (docs : List String)
    (preset : Option ValueNode) (m : Manifest) :
    Generated.FailsOnly (fieldMember target assignable name docs preset m) (Inherent unnamed) := by
  unfold fieldMember
  cases preset with
  | none => exact Generated.failsOnly_ok _
  | some value =>
    exact ((literal_failsOnly false value).inside (.field name)).bind
      fun _ _ => Generated.failsOnly_ok _

private theorem unnamed_of_append {parent name : String} (h : parent ++ name = "") :
    parent = "" :=
  (String.append_eq_empty_iff.mp h).1

private theorem item_unnamed {ctx : Context} {index : Nat} (h : (ctx.item index).parent = "") :
    ctx.parent = "" := by
  unfold Context.item at h
  split at h
  · exact h
  · exact unnamed_of_append (unnamed_of_append h)

mutual

/-- A type cannot be lowered only for a cause that lies in it, and a name is missing only if there
is none around the whole type. -/
theorem lower_failsOnly : ∀ (ctx : Context) (type : TypeNode),
    Generated.FailsOnly (lower target ctx type) (Inherent (ctx.parent = ""))
  | _, .number number => lowerNumber_failsOnly number
  | ctx, .amount inner _ _ => lower_failsOnly ctx inner
  | ctx, .solAmount inner => lower_failsOnly ctx inner
  | ctx, .dateTime inner => lower_failsOnly ctx inner
  | _, .boolean size => lowerBoolean_failsOnly size
  | ctx, .fixedSize size inner => lower_failsOnly { ctx with size := .fixed size } inner
  | ctx, .sizePrefix length inner => by
    rw [lower]
    cases length.number? with
    | none => exact unsupported_failsOnly _
    | some number => exact lower_failsOnly { ctx with size := .prefixed number } inner
  | ctx, .bytes => lowerBytes_failsOnly ctx.size
  | ctx, .string _ => lowerString_failsOnly ctx.size
  | ctx, .array inner count => by
    rw [lower]
    exact (lower_failsOnly ctx.child inner).bind fun _ _ => lowerArray_failsOnly _ count
  | ctx, .option inner flag _ => by
    rw [lower]
    split
    · exact (lower_failsOnly ctx.child inner).bind fun _ _ => Generated.failsOnly_ok _
    · exact unsupported_failsOnly _
  | ctx, .struct fields => by
    rw [lower]
    exact (requireParent_failsOnly "struct" ctx).bind fun _ _ =>
      (lowerFieldsOver_failsOnly ctx.child .empty fields).bind fun _ _ => Generated.failsOnly_ok _
  | ctx, .field node => by
    rw [lower]
    exact (lowerField_failsOnly ctx node).bind fun _ _ => Generated.failsOnly_ok _
  | ctx, .enum variants size => lowerEnum_failsOnly variants size ctx
  | ctx, .variant node => lowerVariant_failsOnly ctx node
  | ctx, .tuple items => by
    rw [lower]
    exact (lowerItems_failsOnly ctx 0 .empty items).bind fun _ _ => Generated.failsOnly_ok _
  | _, .publicKey => Generated.failsOnly_ok _
  | _, .link _ => Generated.failsOnly_ok _
  | _, .map .. => unsupported_failsOnly _
  | _, .set .. => unsupported_failsOnly _

theorem lowerField_failsOnly : ∀ (ctx : Context) (node : FieldNode),
    Generated.FailsOnly (lowerField target ctx node) (Inherent (ctx.parent = ""))
  | ctx, ⟨name, type, docs, defaultValue, strategy⟩ => by
    rw [lowerField]
    refine (requireParent_failsOnly "struct field" ctx).bind fun _ _ => ?_
    have htype := (lower_failsOnly (ctx.field name) type).mono
      fun _ => Inherent.mono unnamed_of_append
    exact (htype.inside (.field name)).bind fun _ _ => fieldMember_failsOnly _ name docs _ _

theorem lowerFieldsOver_failsOnly : ∀ (ctx : Context) (includes : IncludeSet)
    (fields : List FieldNode),
    Generated.FailsOnly (lowerFieldsOver target ctx includes fields) (Inherent (ctx.parent = ""))
  | _, _, [] => Generated.failsOnly_ok _
  | ctx, includes, node :: rest => by
    rw [lowerFieldsOver]
    exact (lowerField_failsOnly ctx node).bind fun _ _ =>
      (lowerFieldsOver_failsOnly ctx _ rest).bind fun _ _ => Generated.failsOnly_ok _

theorem lowerItems_failsOnly : ∀ (ctx : Context) (index : Nat) (includes : IncludeSet)
    (items : List TypeNode),
    Generated.FailsOnly (lowerItems target ctx index includes items) (Inherent (ctx.parent = ""))
  | _, _, _, [] => Generated.failsOnly_ok _
  | ctx, index, includes, item :: rest => by
    rw [lowerItems]
    have hitem := (lower_failsOnly (ctx.item index) item).mono fun _ => Inherent.mono item_unnamed
    exact hitem.bind fun _ _ =>
      (lowerItems_failsOnly ctx (index + 1) _ rest).bind fun _ _ => Generated.failsOnly_ok _

theorem lowerVariant_failsOnly : ∀ (ctx : Context) (node : VariantNode),
    Generated.FailsOnly (lowerVariant target ctx node) (Inherent (ctx.parent = ""))
  | ctx, .empty name discriminator => by
    rw [lowerVariant]
    exact (requireParent_failsOnly "enum variant" ctx).bind fun _ _ => Generated.failsOnly_ok _
  | ctx, .struct name type _ => by
    rw [lowerVariant]
    refine (requireParent_failsOnly "enum struct variant" ctx).bind fun _ _ => ?_
    have htype := (lower_failsOnly { ctx.child with
      parent := ctx.parent ++ Naming.pascal name, inlined := true, nested := false } type).mono
      fun _ => Inherent.mono unnamed_of_append
    exact htype.bind fun _ _ => Generated.failsOnly_ok _
  | ctx, .tuple name type _ => by
    rw [lowerVariant]
    refine (requireParent_failsOnly "enum tuple variant" ctx).bind fun _ _ => ?_
    have htype := (lower_failsOnly { ctx.child with
      parent := ctx.parent ++ Naming.pascal name, inlined := false } type).mono
      fun _ => Inherent.mono unnamed_of_append
    exact htype.bind fun _ _ => Generated.failsOnly_ok _

end

end

end ClientGen.Cpp
