import ClientGen.Proofs.Cpp.Tracking
import ClientGen.Proofs.IncludeSet
/-!
# Headers of lowered types

Which headers a type needs can be told from the constructs that occur in it, without lowering it.
Every construct has its headers. Fixed arrays are the one construct that depends on the place: one
that stands where a member name follows stays a declarator and needs none, and one that is folded
needs the header of fixed arrays. Hoisting moves the text of a declaration but not its headers.
-/
namespace ClientGen.Cpp

open ClientGen.Idl

/-- What the generated code needs a header for. -/
inductive Construct where
  | number
  | string
  | key
  | sequence
  /-- A fixed array that is written as a type. -/
  | foldedArray
  | optional
  | tuple
  /-- A defined type. -/
  | link (name : String)
  /-- The helper of the module that turns a number into bytes. -/
  | byteHelper
deriving DecidableEq, Repr

/-- The headers of a construct. Only numbers may need none. -/
def Construct.headers (target : Target) : Construct → List String
  | .number => target.flavor.numberHeader.toList
  | .string => [target.flavor.string.header]
  | .key => [target.flavor.publicKey.header]
  | .sequence => [target.flavor.sequence.header]
  | .foldedArray => [target.flavor.fixedArray.header]
  | .optional => [target.flavor.optional.header]
  | .tuple => [target.flavor.tuple.header]
  | .link name => [target.typeHeader name]
  | .byteHelper => [target.moduleHeader]

def headersOf (target : Target) (constructs : List Construct) : List String :=
  constructs.flatMap (·.headers target)

@[simp] theorem headersOf_nil (target : Target) : headersOf target [] = [] := rfl

@[simp] theorem headersOf_append (target : Target) (first second : List Construct) :
    headersOf target (first ++ second) = headersOf target first ++ headersOf target second :=
  List.flatMap_append

@[simp] theorem headersOf_cons (target : Target) (c : Construct) (rest : List Construct) :
    headersOf target (c :: rest) = c.headers target ++ headersOf target rest := rfl

/-- The constructs of a value that is serialised as a type. -/
def constantConstructs : TypeNode → ValueNode → List Construct
  | _, .bytes _ _ => []
  | .string _, .string _ => []
  | .publicKey, .publicKey _ _ => [.key]
  | _, .number _ => [.byteHelper]
  | _, _ => []

mutual

/-- The constructs of a value that is written as an expression. -/
def valueConstructs : ValueNode → List Construct
  | .string _ => [.string]
  | .array items => valueItemConstructs items
  | .tuple items => valueItemConstructs items ++ [.tuple]
  | .struct fields => valueFieldConstructs fields
  | .field ⟨_, value⟩ => valueConstructs value
  | .enum (some link) _ (some payload) => .link link :: valueConstructs payload
  | .enum (some link) _ none => [.link link]
  | .present value => valueConstructs value ++ [.optional]
  | .publicKey _ _ => [.key]
  | .constant type value => constantConstructs type value
  | _ => []

def valueItemConstructs : List ValueNode → List Construct
  | [] => []
  | value :: rest => valueConstructs value ++ valueItemConstructs rest

def valueFieldConstructs : List ValueFieldNode → List Construct
  | [] => []
  | ⟨_, value⟩ :: rest => valueConstructs value ++ valueFieldConstructs rest

end

def SizeHint.isFixed : SizeHint → Bool
  | .fixed _ => true
  | _ => false

/-- Whether a type is a fixed array, given whether the wrapper around it fixes its length. -/
def isFixedArray (fixed : Bool) : TypeNode → Bool
  | .amount inner _ _ => isFixedArray fixed inner
  | .solAmount inner => isFixedArray fixed inner
  | .dateTime inner => isFixedArray fixed inner
  | .fixedSize _ inner => isFixedArray true inner
  | .sizePrefix _ inner => isFixedArray false inner
  | .bytes => fixed
  | .array _ (.fixed _) => true
  | _ => false

/-- What a type needs on top where no name follows it. -/
def folding (isArray : Bool) : List Construct := if isArray then [.foldedArray] else []

/-- What the initial value of a member, or the lack of one, adds to its type. -/
def memberConstructs (assignable : Bool) (type : TypeNode) : Option ValueNode → List Construct
  | some value => valueConstructs value
  | none => folding (assignable && isFixedArray false type)

mutual

/-- The constructs of a type, given whether it belongs to an assignable struct and whether the
wrapper around it fixes its length. -/
def constructs (assignable fixed : Bool) : TypeNode → List Construct
  | .number _ => [.number]
  | .amount inner _ _ => constructs assignable fixed inner
  | .solAmount inner => constructs assignable fixed inner
  | .dateTime inner => constructs assignable fixed inner
  | .fixedSize _ inner => constructs assignable true inner
  | .sizePrefix _ inner => constructs assignable false inner
  | .bytes => if fixed then [.number] else [.number, .sequence]
  | .string _ => [.string]
  | .array inner (.fixed _) => constructs assignable false inner
  | .array inner _ =>
    constructs assignable false inner ++ folding (isFixedArray false inner) ++ [.sequence]
  | .option inner _ _ =>
    constructs assignable false inner ++ folding (isFixedArray false inner) ++ [.optional]
  | .struct fields => fieldConstructs assignable fields
  | .enum _ _ => [.number]
  | .tuple items => itemConstructs assignable items ++ [.tuple]
  | .publicKey => [.key]
  | .link name => [.link name]
  | _ => []

/-- The constructs of the members of a struct. -/
def fieldConstructs (assignable : Bool) : List FieldNode → List Construct
  | [] => []
  | ⟨_, type, _, defaultValue, strategy⟩ :: rest =>
    constructs false false type
      ++ memberConstructs assignable type (presetValue defaultValue strategy)
      ++ fieldConstructs assignable rest

/-- The constructs of the items of a tuple. -/
def itemConstructs (assignable : Bool) : List TypeNode → List Construct
  | [] => []
  | item :: rest =>
    constructs assignable false item ++ folding (isFixedArray false item)
      ++ itemConstructs assignable rest

end

/-- A property of the outcome, if there is one. -/
structure Generated.Ensures {α : Type} (x : Generated α) (post : α → Prop) : Prop where
  of_ok : ∀ a, x = .ok a → post a

section

variable {α β : Type} {x : Generated α} {post : α → Prop} {post' : β → Prop}

theorem Generated.ensures_error (e : Error) :
    Generated.Ensures (.error e : Generated α) post := by
  constructor
  intro a h
  cases h

theorem Generated.ensures_ok {a : α} (h : post a) : Generated.Ensures (.ok a) post := by
  constructor
  intro b hb
  cases hb
  exact h

theorem Generated.ensures_true : Generated.Ensures x fun _ => True := ⟨fun _ _ => trivial⟩

theorem Generated.Ensures.bind {f : α → Generated β} (h : Generated.Ensures x post)
    (hf : ∀ a, post a → Generated.Ensures (f a) post') : Generated.Ensures (x >>= f) post' := by
  constructor
  intro b hb
  obtain ⟨a, ha, hfa⟩ := Generated.bind_eq_ok_iff.mp hb
  exact (hf a (h.of_ok a ha)).of_ok b hfa

theorem Generated.Ensures.inside (place : Place) (h : Generated.Ensures x post) :
    Generated.Ensures (Generated.inside place x) post := by
  constructor
  intro a ha
  exact h.of_ok a (Generated.inside_eq_ok_iff.mp ha)

end

section

variable {target : Target}

/-- A literal needs exactly the headers of some constructs. -/
def Literal.Needs (target : Target) (used : List Construct) (l : Literal) : Prop :=
  l.includes.Lists (headersOf target used)

theorem bytesLiteral_needs (encoding data : String) :
    Generated.Ensures (bytesLiteral encoding data) (Literal.Needs target []) :=
  Generated.ensures_true.bind fun _ _ => Generated.ensures_ok IncludeSet.Lists.empty

theorem publicKeyLiteral_needs (key : String) :
    Generated.Ensures (publicKeyLiteral target key) (Literal.Needs target [.key]) := by
  unfold publicKeyLiteral
  cases checkPublicKey key with
  | error value => exact Generated.ensures_error _
  | ok _ => exact Generated.ensures_ok (IncludeSet.Lists.ofPaths _)

theorem numberBytes_needs (number : NumberType) (text : String) :
    Generated.Ensures (numberBytes target number text) (Literal.Needs target [.byteHelper]) := by
  unfold numberBytes
  cases target.flavor.number? number.format with
  | none => exact Generated.ensures_error _
  | some spelling => exact Generated.ensures_ok (IncludeSet.Lists.ofPaths _)

theorem constantLiteral_needs (type : TypeNode) (value : ValueNode) :
    Generated.Ensures (constantLiteral target type value)
      (Literal.Needs target (constantConstructs type value)) := by
  unfold constantLiteral constantConstructs
  split
  · exact bytesLiteral_needs _ _
  · exact bytesLiteral_needs _ _
  · exact publicKeyLiteral_needs _
  · cases type.number? with
    | none => exact Generated.ensures_error _
    | some number => exact numberBytes_needs number _
  · exact Generated.ensures_error _

/-- The constructs that need their headers where strings may be bare quoted literals. -/
def written (short : Bool) (used : List Construct) : List Construct :=
  if short then used.filter (· != .string) else used

@[simp] theorem written_nil (short : Bool) : written short [] = [] := by cases short <;> rfl

@[simp] theorem written_append (short : Bool) (first second : List Construct) :
    written short (first ++ second) = written short first ++ written short second := by
  cases short with
  | false => rfl
  | true => exact List.filter_append ..

@[simp] theorem written_singleton (short : Bool) (c : Construct) (h : c ≠ .string) :
    written short [c] = [c] := by
  cases short with
  | false => rfl
  | true => simp [written, h]

theorem stringLiteral_needs (short : Bool) (text : String) :
    Literal.Needs target (written short [.string]) (stringLiteral target short text) := by
  cases short with
  | false => exact IncludeSet.Lists.ofPaths _
  | true => exact IncludeSet.Lists.empty

theorem constantConstructs_written (short : Bool) (type : TypeNode) (value : ValueNode) :
    written short (constantConstructs type value) = constantConstructs type value := by
  unfold constantConstructs
  split <;> simp

mutual

/-- An expression needs exactly the headers of the constructs of its value. -/
theorem literal_needs_written (short : Bool) : ∀ value : ValueNode,
    Generated.Ensures (literal target short value)
      (Literal.Needs target (written short (valueConstructs value)))
  | .number _ => by
    cases short <;> exact Generated.ensures_ok IncludeSet.Lists.empty
  | .boolean _ => by
    cases short <;> exact Generated.ensures_ok IncludeSet.Lists.empty
  | .string text => Generated.ensures_ok (stringLiteral_needs short text)
  | .bytes data encoding => by
    cases short <;> exact bytesLiteral_needs encoding data
  | .array items => by
    rw [literal, valueConstructs]
    apply (literals_needs short IncludeSet.Lists.empty items).bind
    rintro ⟨texts, includes⟩ h
    exact Generated.ensures_ok h
  | .tuple items => by
    rw [literal, valueConstructs]
    apply (literals_needs short IncludeSet.Lists.empty items).bind
    rintro ⟨texts, includes⟩ h
    apply Generated.ensures_ok
    have hadd := h.add target.flavor.tuple.header
    simpa [Literal.Needs, Construct.headers] using hadd
  | .struct fields => by
    rw [literal, valueConstructs]
    apply (fieldLiterals_needs short IncludeSet.Lists.empty fields).bind
    rintro ⟨texts, includes⟩ h
    dsimp only
    split <;> exact Generated.ensures_ok h
  | .field node => fieldLiteral_needs short node
  | .enum none _ _ => Generated.ensures_error _
  | .enum (some link) variant none => by
    rw [literal, valueConstructs, written_singleton short (.link link) nofun]
    exact Generated.ensures_ok (IncludeSet.Lists.ofPaths [target.typeHeader link])
  | .enum (some link) variant (some payload) => by
    rw [literal, valueConstructs, payloadLiteral, ← List.singleton_append, written_append,
      written_singleton short (.link link) nofun]
    have hpayload : Generated.Ensures (literal target short payload >>= fun l => .ok (some l))
        fun inner => ∃ l, inner = some l ∧
          Literal.Needs target (written short (valueConstructs payload)) l := by
      apply (literal_needs_written short payload).bind
      intro inner h
      exact Generated.ensures_ok ⟨inner, rfl, h⟩
    apply hpayload.bind
    rintro _ ⟨inner, rfl, h⟩
    exact Generated.ensures_ok ((IncludeSet.Lists.ofPaths [target.typeHeader link]).merge h)
  | .present value => by
    rw [literal, valueConstructs]
    apply (literal_needs_written short value).bind
    intro inner h
    apply Generated.ensures_ok
    have hadd := h.add target.flavor.optional.header
    simpa [Literal.Needs, Construct.headers] using hadd
  | .publicKey key _ => by
    rw [valueConstructs, written_singleton short .key nofun]
    exact publicKeyLiteral_needs key
  | .constant type value => by
    rw [valueConstructs, constantConstructs_written]
    exact constantLiteral_needs type value
  | .map _ => Generated.ensures_error _
  | .entry _ => Generated.ensures_error _
  | .set _ => Generated.ensures_error _
  | .absent => Generated.ensures_error _
  | .placeholder _ _ => Generated.ensures_error _

theorem literals_needs (short : Bool) {includes : IncludeSet}
    {given : List String} (hgiven : includes.Lists given) : ∀ items : List ValueNode,
    Generated.Ensures (literals target short includes items) fun out =>
      out.2.Lists (given ++ headersOf target (written short (valueItemConstructs items)))
  | [] => Generated.ensures_ok (by simpa [valueItemConstructs] using hgiven)
  | value :: rest => by
    rw [literals, valueItemConstructs]
    apply (literal_needs_written short value).bind
    intro first hfirst
    apply (literals_needs short (hgiven.merge hfirst) rest).bind
    rintro ⟨texts, includes'⟩ h
    apply Generated.ensures_ok
    simpa using h

theorem fieldLiteral_needs (short : Bool) : ∀ node : ValueFieldNode,
    Generated.Ensures (fieldLiteral target short node)
      (Literal.Needs target (written short (valueConstructs (.field node))))
  | ⟨name, value⟩ => by
    rw [fieldLiteral, valueConstructs]
    exact (literal_needs_written short value).bind fun _ h => Generated.ensures_ok h

theorem fieldLiterals_needs (short : Bool) {includes : IncludeSet}
    {given : List String} (hgiven : includes.Lists given) : ∀ fields : List ValueFieldNode,
    Generated.Ensures (fieldLiterals target short includes fields) fun out =>
      out.2.Lists (given ++ headersOf target (written short (valueFieldConstructs fields)))
  | [] => Generated.ensures_ok (by simpa [valueFieldConstructs] using hgiven)
  | ⟨name, value⟩ :: rest => by
    rw [fieldLiterals, valueFieldConstructs]
    apply (fieldLiteral_needs short ⟨name, value⟩).bind
    intro first hfirst
    rw [valueConstructs] at hfirst
    apply (fieldLiterals_needs short (hgiven.merge hfirst) rest).bind
    rintro ⟨texts, includes'⟩ h
    apply Generated.ensures_ok
    simpa using h

end

theorem literal_needs (value : ValueNode) :
    Generated.Ensures (literal target false value) (Literal.Needs target (valueConstructs value)) :=
  literal_needs_written false value

/-! ### Types -/

/-- A manifest against the constructs of a type: whether lengths are left beside the spelling, and
exactly which headers are needed. -/
structure Manifest.Needs (target : Target) (isArray : Bool) (used : List Construct)
    (m : Manifest) : Prop where
  dims : m.dims.isEmpty = !isArray
  includes : m.includes.Lists (headersOf target used)

section

variable {m : Manifest} {isArray : Bool} {used : List Construct}

theorem Manifest.Needs.plain (type : String) (c : Construct) (header : Option String)
    (hheader : header.toList = c.headers target) :
    (Manifest.plain type header).Needs target false [c] := by
  refine ⟨rfl, ?_⟩
  have hpaths := IncludeSet.Lists.ofPaths header.toList
  simpa [Manifest.plain, hheader] using hpaths

/-- Folding needs the header of fixed arrays only if there is a length to fold. -/
theorem Manifest.Needs.materialize (h : m.Needs target isArray used) :
    (m.materialize target).Needs target false (used ++ folding isArray) := by
  refine ⟨by simp, ?_⟩
  unfold Manifest.materialize
  rw [h.dims]
  cases isArray with
  | false => simpa [folding] using h.includes
  | true =>
    have hadd := h.includes.add target.flavor.fixedArray.header
    simpa [folding, Construct.headers] using hadd

theorem Manifest.Needs.wrap (h : m.Needs target isArray used) {outer : GenericType} (c : Construct)
    (hheader : c.headers target = [outer.header]) :
    (m.wrap target outer).Needs target false (used ++ folding isArray ++ [c]) := by
  refine ⟨by simp [Manifest.wrap], ?_⟩
  have hadd := h.materialize.includes.add outer.header
  simpa [Manifest.wrap, hheader] using hadd

theorem Manifest.Needs.array (h : m.Needs target isArray used) (size : Int) :
    { m with dims := size :: m.dims : Manifest }.Needs target true used :=
  ⟨rfl, h.includes⟩

theorem lowerNumber_needs (number : NumberType) :
    Generated.Ensures (lowerNumber target number) (Manifest.Needs target false [.number]) := by
  unfold lowerNumber
  split
  · exact Generated.ensures_error _
  · cases target.flavor.number? number.format with
    | none => exact Generated.ensures_error _
    | some spelling => exact Generated.ensures_ok (.plain spelling .number _ rfl)

theorem lowerBoolean_needs (size : TypeNode) :
    Generated.Ensures (lowerBoolean target size) (Manifest.Needs target false []) := by
  unfold lowerBoolean
  split
  · exact Generated.ensures_ok ⟨rfl, IncludeSet.Lists.empty⟩
  · exact Generated.ensures_error _

theorem prefixedArray_needs (number : Option NumberType) (h : m.Needs target isArray used) :
    Generated.Ensures (prefixedArray target number m)
      (Manifest.Needs target false (used ++ folding isArray ++ [.sequence])) := by
  unfold prefixedArray
  split
  · exact Generated.ensures_ok (h.wrap .sequence rfl)
  · exact Generated.ensures_error _

theorem lowerBytes_needs (size : SizeHint) :
    Generated.Ensures (lowerBytes target size)
      (Manifest.Needs target size.isFixed
        (if size.isFixed then [.number] else [.number, .sequence])) := by
  unfold lowerBytes
  apply (lowerNumber_needs (.little "u8")).bind
  intro item h
  cases size with
  | none => exact Generated.ensures_ok (h.wrap .sequence rfl)
  | fixed n => exact Generated.ensures_ok (h.array n)
  | prefixed number => exact prefixedArray_needs (some number) h

theorem lowerString_needs (size : SizeHint) :
    Generated.Ensures (lowerString target size) (Manifest.Needs target false [.string]) := by
  cases size with
  | none => exact Generated.ensures_error _
  | fixed n => exact Generated.ensures_error _
  | prefixed number =>
    rw [lowerString]
    split
    · exact Generated.ensures_ok (.plain _ .string _ rfl)
    · exact Generated.ensures_error _

theorem lowerEnum_needs (variants : List VariantNode) (size : TypeNode) (ctx : Context) :
    Generated.Ensures (lowerEnum target variants size ctx)
      (Manifest.Needs target false [.number]) := by
  unfold lowerEnum
  refine Generated.ensures_true.bind fun _ _ => ?_
  have hheader := IncludeSet.Lists.ofPaths target.flavor.numberHeader.toList
  split
  · exact Generated.ensures_error _
  · split
    · exact Generated.ensures_error _
    · split
      · exact Generated.ensures_error _
      · split
        · exact Generated.ensures_error _
        · dsimp only
          split <;> exact Generated.ensures_ok ⟨rfl, by simpa [Construct.headers] using hheader⟩

theorem structManifest_needs (ctx : Context) (fields : LoweredFields)
    (h : fields.includes.Lists (headersOf target used)) :
    (structManifest target ctx fields).Needs target false used := by
  unfold structManifest
  dsimp only
  split
  · exact ⟨rfl, h⟩
  · split <;> exact ⟨rfl, h⟩

/-- A member needs what its type needs, and either what its initial value needs or the header of
the array that is folded. -/
theorem fieldMember_needs (assignable : Bool) (name : String) (docs : List String)
    (type : TypeNode) (preset : Option ValueNode)
    (h : m.Needs target (isFixedArray false type) used) :
    Generated.Ensures (fieldMember target assignable name docs preset m) fun field =>
      field.includes.Lists
        (headersOf target (used ++ memberConstructs assignable type preset)) := by
  unfold fieldMember memberConstructs
  cases preset with
  | some value =>
    apply ((literal_needs value).inside (.field name)).bind
    intro initial hinitial
    have hmerge := h.includes.merge hinitial
    exact Generated.ensures_ok (by simpa using hmerge)
  | none =>
    cases assignable with
    | false => exact Generated.ensures_ok (by simpa [folding] using h.includes)
    | true => exact Generated.ensures_ok (by simpa using h.materialize.includes)

end

mutual

/-- A lowered type needs exactly the headers of its constructs. -/
theorem lower_needs : ∀ (ctx : Context) (type : TypeNode), wellPlaced type = true →
    Generated.Ensures (lower target ctx type)
      (Manifest.Needs target (isFixedArray ctx.size.isFixed type)
        (constructs ctx.assignable ctx.size.isFixed type))
  | _, .number number, _ => lowerNumber_needs number
  | ctx, .amount inner _ _, hplaced => lower_needs ctx inner hplaced
  | ctx, .solAmount inner, hplaced => lower_needs ctx inner hplaced
  | ctx, .dateTime inner, hplaced => lower_needs ctx inner hplaced
  | _, .boolean size, _ => lowerBoolean_needs size
  | ctx, .fixedSize size inner, hplaced =>
    lower_needs { ctx with size := .fixed size } inner hplaced
  | ctx, .sizePrefix length inner, hplaced => by
    rw [lower]
    cases length.number? with
    | none => exact Generated.ensures_error _
    | some number => exact lower_needs { ctx with size := .prefixed number } inner hplaced
  | ctx, .bytes, _ => lowerBytes_needs ctx.size
  | ctx, .string _, _ => lowerString_needs ctx.size
  | ctx, .array inner count, hplaced => by
    rw [lower]
    apply (lower_needs ctx.child inner hplaced).bind
    intro item h
    cases count with
    | fixed size => exact Generated.ensures_ok (h.array size)
    | prefixed number => exact prefixedArray_needs number.number? h
    | remainder => exact Generated.ensures_ok (h.wrap .sequence rfl)
  | ctx, .option inner flag _, hplaced => by
    rw [lower]
    split
    · apply (lower_needs ctx.child inner hplaced).bind
      intro item h
      exact Generated.ensures_ok (h.wrap .optional rfl)
    · exact Generated.ensures_error _
  | ctx, .struct fields, hplaced => by
    rw [lower]
    refine Generated.ensures_true.bind fun _ _ => ?_
    apply (lowerFieldsOver_needs ctx.child IncludeSet.Lists.empty fields hplaced).bind
    intro lowered h
    exact Generated.ensures_ok (structManifest_needs ctx lowered h)
  | ctx, .enum variants size, _ => lowerEnum_needs variants size ctx
  | ctx, .tuple items, hplaced => by
    rw [lower]
    apply (lowerItems_needs ctx 0 IncludeSet.Lists.empty items hplaced).bind
    rintro ⟨types, includes, nested⟩ h
    refine Generated.ensures_ok ⟨rfl, ?_⟩
    have hadd := h.add target.flavor.tuple.header
    simpa [constructs, Construct.headers] using hadd
  | _, .publicKey, _ => Generated.ensures_ok (.plain _ .key _ rfl)
  | _, .link name, _ => Generated.ensures_ok (.plain _ (.link name) _ rfl)
  | _, .map .., _ => Generated.ensures_error _
  | _, .set .., _ => Generated.ensures_error _

theorem lowerFieldsOver_needs : ∀ (ctx : Context) {includes : IncludeSet} {given : List String},
    includes.Lists given → ∀ fields : List FieldNode, wellPlacedFields fields = true →
      Generated.Ensures (lowerFieldsOver target ctx includes fields) fun out =>
        out.includes.Lists (given ++ headersOf target (fieldConstructs ctx.assignable fields))
  | _, _, _, hgiven, [], _ => Generated.ensures_ok (by simpa [fieldConstructs] using hgiven)
  | ctx, _, _, hgiven, ⟨name, type, docs, defaultValue, strategy⟩ :: rest, hplaced => by
    rw [wellPlacedFields, Bool.and_eq_true] at hplaced
    have hfield : Generated.Ensures
        (lowerField target ctx ⟨name, type, docs, defaultValue, strategy⟩) fun field =>
          field.includes.Lists (headersOf target (constructs false false type
            ++ memberConstructs ctx.assignable type (presetValue defaultValue strategy))) := by
      rw [lowerField]
      refine Generated.ensures_true.bind fun _ _ => ?_
      apply ((lower_needs (ctx.field name) type hplaced.1).inside (.field name)).bind
      intro m h
      exact fieldMember_needs ctx.assignable name docs type _ h
    rw [lowerFieldsOver]
    apply hfield.bind
    intro first hfirst
    apply (lowerFieldsOver_needs ctx (hgiven.merge hfirst) rest hplaced.2).bind
    intro lowered h
    apply Generated.ensures_ok
    simpa [fieldConstructs] using h

theorem lowerItems_needs : ∀ (ctx : Context) (index : Nat) {includes : IncludeSet}
    {given : List String}, includes.Lists given →
      ∀ items : List TypeNode, wellPlacedItems items = true →
        Generated.Ensures (lowerItems target ctx index includes items) fun out =>
          out.2.1.Lists (given ++ headersOf target (itemConstructs ctx.assignable items))
  | _, _, _, _, hgiven, [], _ => Generated.ensures_ok (by simpa [itemConstructs] using hgiven)
  | ctx, index, _, _, hgiven, item :: rest, hplaced => by
    rw [wellPlacedItems, Bool.and_eq_true] at hplaced
    obtain ⟨parent, hctx⟩ := ctx.item_eq index
    rw [lowerItems, hctx]
    apply (lower_needs { ctx.child with parent := parent } item hplaced.1).bind
    intro m h
    apply (lowerItems_needs ctx (index + 1) (hgiven.merge h.materialize.includes) rest
      hplaced.2).bind
    rintro ⟨types, includes', nested⟩ hrest
    apply Generated.ensures_ok
    simpa [itemConstructs, Context.child, SizeHint.isFixed] using hrest

end

end

end ClientGen.Cpp
