import ClientGen.Proofs.Cpp.Tracking
/-!
# Generating for two targets

Dialects differ in spellings and headers, and modules in their names. Neither decides whether a
value or a type has a counterpart: for any two targets whose dialects have the same number
formats, both are generated, or both fail for the same reason.
-/
namespace ClientGen.Cpp

open ClientGen.Idl

/-- Errors that differ at most in the path that is claimed twice. -/
inductive Error.Alike : Error → Error → Prop
  | refl (e : Error) : Alike e e
  | duplicatePath (path path' : String) : Alike (.duplicatePath path) (.duplicatePath path')
  | inside (place : Place) {e e' : Error} (h : Alike e e') :
      Alike (.inside place e) (.inside place e')

/-- An error below some places, outermost first. -/
def Error.within (places : List Place) (e : Error) : Error := places.foldr .inside e

theorem Error.Alike.eq_or_duplicatePath {e e' : Error} (h : e.Alike e') :
    e = e' ∨ ∃ places path path',
      e = .within places (.duplicatePath path) ∧ e' = .within places (.duplicatePath path') := by
  induction h with
  | refl e => exact .inl rfl
  | duplicatePath path path' => exact .inr ⟨[], path, path', rfl, rfl⟩
  | inside place h ih =>
    rcases ih with rfl | ⟨places, path, path', rfl, rfl⟩
    · exact .inl rfl
    · exact .inr ⟨place :: places, path, path', rfl, rfl⟩

/-- Outcomes that agree: two results that are related, or two errors that are alike. -/
inductive Agree {α β : Type} (rel : α → β → Prop) : Generated α → Generated β → Prop
  | ok {a : α} {b : β} (h : rel a b) : Agree rel (.ok a) (.ok b)
  | error {e e' : Error} (h : e.Alike e') : Agree rel (.error e) (.error e')

section

variable {α α' β β' : Type} {rel : α → β → Prop} {rel' : α' → β' → Prop} {x : Generated α}
  {y : Generated β}

theorem Agree.fail (e : Error) : Agree rel (.error e) (.error e) := .error (.refl e)

theorem Agree.bind {f : α → Generated α'} {g : β → Generated β'} (h : Agree rel x y)
    (hf : ∀ a b, rel a b → Agree rel' (f a) (g b)) : Agree rel' (x >>= f) (y >>= g) := by
  cases h with
  | ok h => exact hf _ _ h
  | error h => exact .error h

theorem Agree.inside (place : Place) (h : Agree rel x y) :
    Agree rel (Generated.inside place x) (Generated.inside place y) := by
  cases h with
  | ok h => exact .ok h
  | error h => exact .error (.inside place h)

theorem Agree.mono {rel' : α → β → Prop} (h : Agree rel x y) (hrel : ∀ a b, rel a b → rel' a b) :
    Agree rel' x y := by
  cases h with
  | ok h => exact .ok (hrel _ _ h)
  | error h => exact .error h

theorem Agree.ok_iff (h : Agree rel x y) : (∃ a, x = .ok a) ↔ ∃ b, y = .ok b := by
  cases h <;> simp

theorem Agree.alike {e e' : Error} (h : Agree rel (.error e) (.error e')) : e.Alike e' := by
  cases h with
  | error h => exact h

end

/-- Outcomes of which only the failures matter. -/
abbrev FailAlike {α β : Type} : Generated α → Generated β → Prop := Agree fun _ _ => True

theorem FailAlike.refl {α : Type} (x : Generated α) : FailAlike x x := by
  cases x with
  | ok a => exact .ok trivial
  | error e => exact .fail e

/-- Dialects that have a spelling for the same number formats. -/
def SameFormats (flavor flavor' : Flavor) : Prop :=
  ∀ format, (flavor.number? format).isSome = (flavor'.number? format).isSome

/-- The formats of every dialect. -/
def numberFormats : List String :=
  ["u8", "u16", "u32", "u64", "u128", "i8", "i16", "i32", "i64", "i128", "f32", "f64", "usize",
    "isize"]

theorem number?_isSome {flavor : Flavor} (h : flavor ∈ Flavor.all) (format : String) :
    (flavor.number? format).isSome = numberFormats.contains format := by
  have hformats : flavor.numbers.map (·.1) = numberFormats := by
    rw [Flavor.all, List.mem_cons, List.mem_singleton] at h
    rcases h with rfl | rfl <;> rfl
  rw [← hformats, Bool.eq_iff_iff, Flavor.number?, List.lookup_isSome_iff, List.contains_iff_mem,
    List.mem_map]
  constructor
  · rintro ⟨entry, hentry, hformat⟩
    exact ⟨entry, hentry, (beq_iff_eq.mp hformat).symm⟩
  · rintro ⟨entry, hentry, rfl⟩
    exact ⟨entry, hentry, beq_self_eq_true _⟩

theorem sameFormats_of_mem_all {flavor flavor' : Flavor} (h : flavor ∈ Flavor.all)
    (h' : flavor' ∈ Flavor.all) : SameFormats flavor flavor' := by
  intro format
  rw [number?_isSome h, number?_isSome h']

section

variable {target target' : Target}

/-! ### Literals -/

theorem publicKeyLiteral_agrees (key : String) :
    FailAlike (publicKeyLiteral target key) (publicKeyLiteral target' key) := by
  unfold publicKeyLiteral
  cases checkPublicKey key with
  | error value => exact .fail _
  | ok _ => exact .ok trivial

theorem numberBytes_agrees (hformats : SameFormats target.flavor target'.flavor)
    (number : NumberType) (text : String) :
    FailAlike (numberBytes target number text) (numberBytes target' number text) := by
  have hformat := hformats number.format
  unfold numberBytes
  cases h : target.flavor.number? number.format <;>
    cases h' : target'.flavor.number? number.format <;> rw [h, h'] at hformat
  · exact .fail _
  · cases hformat
  · cases hformat
  · exact .ok trivial

theorem constantLiteral_agrees (hformats : SameFormats target.flavor target'.flavor)
    (type : TypeNode) (value : ValueNode) :
    FailAlike (constantLiteral target type value) (constantLiteral target' type value) := by
  unfold constantLiteral
  split
  · exact .refl _
  · exact .refl _
  · exact publicKeyLiteral_agrees _
  · split
    · exact numberBytes_agrees hformats _ _
    · exact .fail _
  · exact .fail _

mutual

/-- A value has a literal for both targets, or for neither and for the same reason. -/
theorem literal_agrees (hformats : SameFormats target.flavor target'.flavor)
    (short : Bool) : ∀ value : ValueNode,
    FailAlike (literal target short value) (literal target' short value)
  | .number _ => .ok trivial
  | .boolean _ => .ok trivial
  | .string _ => .ok trivial
  | .bytes data encoding => .refl _
  | .array items =>
    (literals_agrees hformats short .empty .empty items).bind fun _ _ _ => .ok trivial
  | .tuple items =>
    (literals_agrees hformats short .empty .empty items).bind fun _ _ _ => .ok trivial
  | .struct fields => by
    apply (fieldLiterals_agrees hformats short .empty .empty fields).bind
    rintro ⟨texts, includes⟩ ⟨texts', includes'⟩ -
    cases texts <;> cases texts' <;> exact .ok trivial
  | .field node => fieldLiteral_agrees hformats short node
  | .enum none _ _ => .fail _
  | .enum (some _) _ payload =>
    (payloadLiteral_agrees hformats short payload).bind fun _ _ _ => .ok trivial
  | .present value => (literal_agrees hformats short value).bind fun _ _ _ => .ok trivial
  | .publicKey key _ => publicKeyLiteral_agrees key
  | .constant type value => constantLiteral_agrees hformats type value
  | .map _ => .fail _
  | .entry _ => .fail _
  | .set _ => .fail _
  | .absent => .fail _
  | .placeholder _ _ => .fail _

theorem literals_agrees (hformats : SameFormats target.flavor target'.flavor)
    (short : Bool) (includes includes' : IncludeSet) :
    ∀ values : List ValueNode,
      FailAlike (literals target short includes values) (literals target' short includes' values)
  | [] => .ok trivial
  | value :: rest =>
    (literal_agrees hformats short value).bind fun _ _ _ =>
      (literals_agrees hformats short _ _ rest).bind fun _ _ _ => .ok trivial

theorem fieldLiteral_agrees (hformats : SameFormats target.flavor target'.flavor)
    (short : Bool) : ∀ node : ValueFieldNode,
    FailAlike (fieldLiteral target short node) (fieldLiteral target' short node)
  | ⟨_, value⟩ => (literal_agrees hformats short value).bind fun _ _ _ => .ok trivial

theorem fieldLiterals_agrees (hformats : SameFormats target.flavor target'.flavor)
    (short : Bool) (includes includes' : IncludeSet) :
    ∀ nodes : List ValueFieldNode,
      FailAlike (fieldLiterals target short includes nodes)
        (fieldLiterals target' short includes' nodes)
  | [] => .ok trivial
  | node :: rest =>
    (fieldLiteral_agrees hformats short node).bind fun _ _ _ =>
      (fieldLiterals_agrees hformats short _ _ rest).bind fun _ _ _ => .ok trivial

theorem payloadLiteral_agrees (hformats : SameFormats target.flavor target'.flavor)
    (short : Bool) : ∀ payload : Option ValueNode,
    FailAlike (payloadLiteral target short payload) (payloadLiteral target' short payload)
  | none => .ok trivial
  | some value => (literal_agrees hformats short value).bind fun _ _ _ => .ok trivial

end

/-! ### Types -/

/-- Manifests with as many hoisted declarations. -/
structure Manifest.Matches (m m' : Manifest) : Prop where
  nested : m.nested.length = m'.nested.length

theorem Manifest.Matches.materialize {m m' : Manifest} (h : m.Matches m') :
    (m.materialize target).Matches (m'.materialize target') := by
  refine ⟨?_⟩
  rw [materialize_nested, materialize_nested]
  exact h.nested

theorem Manifest.Matches.wrap {m m' : Manifest} (outer outer' : GenericType) (h : m.Matches m') :
    (m.wrap target outer).Matches (m'.wrap target' outer') :=
  ⟨h.materialize.nested⟩

theorem Manifest.Matches.asVariant {m m' : Manifest} {name : String} (h : m.Matches m') :
    (m.asVariant name).Matches (m'.asVariant name) := by
  refine ⟨?_⟩
  unfold Manifest.asVariant
  exact h.nested

theorem prefixedArray_agrees (number : Option NumberType) {m m' : Manifest} (h : m.Matches m') :
    Agree Manifest.Matches (prefixedArray target number m) (prefixedArray target' number m') := by
  unfold prefixedArray
  by_cases hcount : number.any isArrayPrefix = true
  · rw [if_pos hcount, if_pos hcount]
    exact .ok (h.wrap _ _)
  · rw [if_neg hcount, if_neg hcount]
    exact .fail _

theorem lowerArray_agrees {m m' : Manifest} (h : m.Matches m') (count : CountNode) :
    Agree Manifest.Matches (lowerArray target m count) (lowerArray target' m' count) := by
  cases count with
  | fixed size => exact .ok ⟨h.nested⟩
  | prefixed number => exact prefixedArray_agrees number.number? h
  | remainder => exact .ok (h.wrap _ _)

theorem lowerString_agrees (hint : SizeHint) :
    Agree Manifest.Matches (lowerString target hint) (lowerString target' hint) := by
  cases hint with
  | none => exact .fail _
  | fixed size => exact .fail _
  | prefixed number =>
    rw [lowerString, lowerString]
    by_cases hnumber : (number == .little "u32") = true
    · rw [if_pos hnumber, if_pos hnumber]
      exact .ok ⟨rfl⟩
    · rw [if_neg hnumber, if_neg hnumber]
      exact .fail _

theorem lowerBoolean_agrees (size : TypeNode) :
    Agree Manifest.Matches (lowerBoolean target size) (lowerBoolean target' size) := by
  unfold lowerBoolean
  by_cases hbyte : size.number?.any isByte = true
  · rw [if_pos hbyte, if_pos hbyte]
    exact .ok ⟨rfl⟩
  · rw [if_neg hbyte, if_neg hbyte]
    exact .fail _

theorem requireParent_agrees (what : String) (ctx : Context) :
    FailAlike (requireParent what ctx) (requireParent what ctx) :=
  .refl _

theorem lowerNumber_agrees (hformats : SameFormats target.flavor target'.flavor)
    (number : NumberType) :
    Agree Manifest.Matches (lowerNumber target number) (lowerNumber target' number) := by
  have hformat := hformats number.format
  unfold lowerNumber
  by_cases hendian : (number.endian != littleEndian) = true
  · rw [if_pos hendian, if_pos hendian]
    exact .fail _
  · rw [if_neg hendian, if_neg hendian]
    cases h : target.flavor.number? number.format <;>
      cases h' : target'.flavor.number? number.format <;> rw [h, h'] at hformat
    · exact .fail _
    · cases hformat
    · cases hformat
    · exact .ok ⟨rfl⟩

theorem lowerBytes_agrees (hformats : SameFormats target.flavor target'.flavor)
    (hint : SizeHint) :
    Agree Manifest.Matches (lowerBytes target hint) (lowerBytes target' hint) := by
  unfold lowerBytes
  apply (lowerNumber_agrees hformats _).bind
  intro m m' h
  cases hint with
  | none => exact .ok (h.wrap _ _)
  | fixed size => exact .ok ⟨h.nested⟩
  | prefixed number => exact prefixedArray_agrees (some number) h

theorem lowerEnum_agrees (hformats : SameFormats target.flavor target'.flavor)
    (variants : List VariantNode) (size : TypeNode) (ctx : Context) :
    Agree Manifest.Matches (lowerEnum target variants size ctx)
      (lowerEnum target' variants size ctx) := by
  unfold lowerEnum
  apply (requireParent_agrees "enum" ctx).bind
  intro _ _ _
  by_cases hscalar : (!isScalar variants) = true
  · rw [if_pos hscalar, if_pos hscalar]
    exact .fail _
  · rw [if_neg hscalar, if_neg hscalar]
    cases size.number? with
    | none => exact .fail _
    | some number =>
      have hformat := hformats number.format
      simp only
      by_cases hendian : (number.endian != littleEndian) = true
      · rw [if_pos hendian, if_pos hendian]
        exact .fail _
      · rw [if_neg hendian, if_neg hendian]
        cases h : target.flavor.number? number.format <;>
          cases h' : target'.flavor.number? number.format <;> rw [h, h'] at hformat
        · exact .fail _
        · cases hformat
        · cases hformat
        · cases hnested : ctx.nested <;> exact .ok ⟨rfl⟩

theorem fieldMember_agrees (hformats : SameFormats target.flavor target'.flavor)
    (assignable : Bool) (name : String) (docs : List String)
    (preset : Option ValueNode) {m m' : Manifest} (h : m.Matches m') :
    Agree (fun f f' : LoweredField => f.nested.length = f'.nested.length)
      (fieldMember target assignable name docs preset m)
      (fieldMember target' assignable name docs preset m') := by
  unfold fieldMember
  cases preset with
  | some value =>
    apply ((literal_agrees hformats false value).inside (.field name)).bind
    intro _ _ _
    exact .ok h.nested
  | none =>
    cases assignable with
    | true => exact .ok h.materialize.nested
    | false => exact .ok h.nested

mutual

/-- A type is lowered for both targets, or for neither and for the same reason. -/
theorem lower_agrees (hformats : SameFormats target.flavor target'.flavor) :
    ∀ (ctx : Context) (type : TypeNode),
    Agree Manifest.Matches (lower target ctx type) (lower target' ctx type)
  | _, .number number => lowerNumber_agrees hformats number
  | ctx, .amount inner _ _ => lower_agrees hformats ctx inner
  | ctx, .solAmount inner => lower_agrees hformats ctx inner
  | ctx, .dateTime inner => lower_agrees hformats ctx inner
  | _, .boolean size => lowerBoolean_agrees size
  | ctx, .fixedSize size inner => lower_agrees hformats { ctx with size := .fixed size } inner
  | ctx, .sizePrefix length inner => by
    rw [lower, lower]
    cases length.number? with
    | none => exact .fail _
    | some number => exact lower_agrees hformats { ctx with size := .prefixed number } inner
  | ctx, .bytes => lowerBytes_agrees hformats ctx.size
  | ctx, .string _ => lowerString_agrees ctx.size
  | ctx, .array inner count =>
    (lower_agrees hformats ctx.child inner).bind fun _ _ h => lowerArray_agrees h count
  | ctx, .option inner flag _ => by
    rw [lower, lower]
    by_cases hbyte : flag.number?.any isByte = true
    · rw [if_pos hbyte, if_pos hbyte]
      exact (lower_agrees hformats ctx.child inner).bind fun _ _ h => .ok (h.wrap _ _)
    · rw [if_neg hbyte, if_neg hbyte]
      exact .fail _
  | ctx, .struct fields => by
    rw [lower, lower]
    apply (requireParent_agrees "struct" ctx).bind
    intro _ _ _
    apply (lowerFieldsOver_agrees hformats ctx.child .empty .empty fields).bind
    intro f f' h
    refine .ok ⟨?_⟩
    unfold structManifest
    cases ctx.inlined <;> cases ctx.nested <;> simp [h]
  | ctx, .field node => (lowerField_agrees hformats ctx node).bind fun _ _ h => .ok ⟨h⟩
  | ctx, .enum variants size => lowerEnum_agrees hformats variants size ctx
  | ctx, .variant node => lowerVariant_agrees hformats ctx node
  | ctx, .tuple items =>
    (lowerItems_agrees hformats ctx 0 .empty .empty items).bind fun _ _ h => .ok ⟨h⟩
  | _, .publicKey => .ok ⟨rfl⟩
  | _, .link _ => .ok ⟨rfl⟩
  | _, .map .. => .fail _
  | _, .set .. => .fail _

theorem lowerField_agrees (hformats : SameFormats target.flavor target'.flavor) :
    ∀ (ctx : Context) (node : FieldNode),
    Agree (fun f f' : LoweredField => f.nested.length = f'.nested.length)
      (lowerField target ctx node) (lowerField target' ctx node)
  | ctx, ⟨name, type, docs, defaultValue, strategy⟩ => by
    rw [lowerField, lowerField]
    apply (requireParent_agrees "struct field" ctx).bind
    intro _ _ _
    apply ((lower_agrees hformats (ctx.field name) type).inside (.field name)).bind
    intro m m' h
    exact fieldMember_agrees hformats ctx.assignable name docs _ h

theorem lowerFieldsOver_agrees (hformats : SameFormats target.flavor target'.flavor) :
    ∀ (ctx : Context) (includes includes' : IncludeSet)
    (nodes : List FieldNode),
    Agree (fun f f' : LoweredFields => f.nested.length = f'.nested.length)
      (lowerFieldsOver target ctx includes nodes) (lowerFieldsOver target' ctx includes' nodes)
  | _, _, _, [] => .ok rfl
  | ctx, includes, includes', node :: rest => by
    rw [lowerFieldsOver, lowerFieldsOver]
    apply (lowerField_agrees hformats ctx node).bind
    intro first first' hfirst
    apply (lowerFieldsOver_agrees hformats ctx _ _ rest).bind
    intro fields fields' hfields
    refine .ok ?_
    rw [List.length_append, List.length_append, hfirst, hfields]

theorem lowerItems_agrees (hformats : SameFormats target.flavor target'.flavor) :
    ∀ (ctx : Context) (index : Nat) (includes includes' : IncludeSet)
    (items : List TypeNode),
    Agree (fun i i' : List String × IncludeSet × List Declaration => i.2.2.length = i'.2.2.length)
      (lowerItems target ctx index includes items) (lowerItems target' ctx index includes' items)
  | _, _, _, _, [] => .ok rfl
  | ctx, index, includes, includes', item :: rest => by
    rw [lowerItems, lowerItems]
    apply (lower_agrees hformats (ctx.item index) item).bind
    intro m m' h
    apply (lowerItems_agrees hformats ctx (index + 1) _ _ rest).bind
    intro others others' hothers
    refine .ok ?_
    simp only [List.length_append, Manifest.materialize_nested]
    rw [h.nested, hothers]

theorem lowerVariant_agrees (hformats : SameFormats target.flavor target'.flavor) :
    ∀ (ctx : Context) (node : VariantNode),
    Agree Manifest.Matches (lowerVariant target ctx node) (lowerVariant target' ctx node)
  | ctx, .empty name discriminator => by
    rw [lowerVariant, lowerVariant]
    exact (requireParent_agrees _ ctx).bind fun _ _ _ => .ok ⟨rfl⟩
  | ctx, .struct name type _ => by
    rw [lowerVariant, lowerVariant]
    apply (requireParent_agrees _ ctx).bind
    intro _ _ _
    apply (lower_agrees hformats _ type).bind
    intro m m' h
    exact .ok h.asVariant
  | ctx, .tuple name type _ => by
    rw [lowerVariant, lowerVariant]
    apply (requireParent_agrees _ ctx).bind
    intro _ _ _
    apply (lower_agrees hformats _ type).bind
    intro m m' h
    exact .ok h.asVariant

end

end

end ClientGen.Cpp
