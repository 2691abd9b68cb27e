import ClientGen.Proofs.Cpp.Agreement
import ClientGen.Proofs.Cpp.CodeLines
import ClientGen.Proofs.Idl.WithoutDocs
/-!
# Documentation in lowered types

Documentation reaches the code that is generated for a type at the fields of structs only, where it
stands in front of a member. If it is contained there, the lowered type has the same code as the
type without documentation, and needs the same headers. A field that stands alone is a type in the
middle of a line, where even a single line of documentation would hide what follows.
-/
namespace ClientGen.Cpp

open ClientGen.Idl

/-! ### Literals -/

section

variable (target : Target) (short : Bool)

theorem constantLiteral_withoutDocs (type : TypeNode) (value : ValueNode) :
    constantLiteral target type.withoutDocs value.withoutDocs =
      constantLiteral target type value := by
  cases value with
  | number text =>
    rw [ValueNode.withoutDocs, constantLiteral, constantLiteral, type.number?_withoutDocs,
      type.kind_withoutDocs]
  | _ =>
    cases type with
    | variant node => cases node <;> rfl
    | _ => rfl

mutual

theorem literal_withoutDocs : ∀ value : ValueNode,
    literal target short value.withoutDocs = literal target short value
  | .number _ | .boolean _ | .string _ | .bytes .. | .publicKey .. | .map _ | .entry _ | .set _
  | .absent | .placeholder .. | .enum none _ _ => rfl
  | .array items => by rw [ValueNode.withoutDocs, literal, literal, literals_withoutDocs]
  | .tuple items => by rw [ValueNode.withoutDocs, literal, literal, literals_withoutDocs]
  | .struct fields => by rw [ValueNode.withoutDocs, literal, literal, fieldLiterals_withoutDocs]
  | .field node => by rw [ValueNode.withoutDocs, literal, literal, fieldLiteral_withoutDocs]
  | .enum (some link) variant payload => by
    rw [ValueNode.withoutDocs, literal, literal, payloadLiteral_withoutDocs]
  | .present value => by rw [ValueNode.withoutDocs, literal, literal, literal_withoutDocs value]
  | .constant type value => by
    rw [ValueNode.withoutDocs, literal, literal, constantLiteral_withoutDocs]

theorem literals_withoutDocs (includes : IncludeSet) : ∀ values : List ValueNode,
    literals target short includes (valuesWithoutDocs values) =
      literals target short includes values
  | [] => rfl
  | value :: rest => by
    rw [valuesWithoutDocs, literals, literals, literal_withoutDocs value]
    simp only [literals_withoutDocs _ rest]

theorem fieldLiteral_withoutDocs : ∀ node : ValueFieldNode,
    fieldLiteral target short node.withoutDocs = fieldLiteral target short node
  | ⟨name, value⟩ => by
    rw [ValueFieldNode.withoutDocs, fieldLiteral, fieldLiteral, literal_withoutDocs value]

theorem fieldLiterals_withoutDocs (includes : IncludeSet) : ∀ nodes : List ValueFieldNode,
    fieldLiterals target short includes (valueFieldsWithoutDocs nodes) =
      fieldLiterals target short includes nodes
  | [] => rfl
  | node :: rest => by
    rw [valueFieldsWithoutDocs, fieldLiterals, fieldLiterals, fieldLiteral_withoutDocs node]
    simp only [fieldLiterals_withoutDocs _ rest]

theorem payloadLiteral_withoutDocs : ∀ payload : Option ValueNode,
    payloadLiteral target short (valueWithoutDocs? payload) = payloadLiteral target short payload
  | none => rfl
  | some value => by
    rw [valueWithoutDocs?, payloadLiteral, payloadLiteral, literal_withoutDocs value]

end

end

/-! ### Types -/

mutual

/-- Whether documentation stays in comments when a type is lowered: that of a field of a struct is
contained, and a field that stands alone has none. -/
def commented : TypeNode → Bool
  | .amount inner _ _ => commented inner
  | .solAmount inner => commented inner
  | .dateTime inner => commented inner
  | .fixedSize _ inner => commented inner
  | .sizePrefix _ inner => commented inner
  | .array inner _ => commented inner
  | .option inner _ _ => commented inner
  | .struct fields => commentedFields fields
  | .field ⟨_, type, docs, _, _⟩ => docs.isEmpty && commented type
  | .variant (.tuple _ type _) => commented type
  | .variant (.struct _ type _) => commented type
  | .tuple items => commentedItems items
  | _ => true

def commentedFields : List FieldNode → Bool
  | [] => true
  | ⟨_, type, docs, _, _⟩ :: rest =>
    docs.all isContained && commented type && commentedFields rest

def commentedItems : List TypeNode → Bool
  | [] => true
  | item :: rest => commented item && commentedItems rest

end

/-- Declarations with the same code. -/
abbrev SameDeclarations : List Declaration → List Declaration → Prop :=
  List.Forall₂ fun d d' => SameCode d.text d'.text

theorem SameDeclarations.refl (nested : List Declaration) : SameDeclarations nested nested :=
  List.forall₂_same.mpr fun d _ => .refl d.text

/-- Manifests that differ in comments only. -/
structure Manifest.SameCode (m m' : Manifest) : Prop where
  type : Cpp.SameCode m.type m'.type
  dims : m.dims = m'.dims
  includes : m.includes = m'.includes
  nested : SameDeclarations m.nested m'.nested

/-- The text of a member behind its documentation. -/
def Member.bareText (member : Member) : String := Member.text { member with docs := [] }

/-- Lowered fields of which only the first has documentation, and which otherwise differ in comments
only. -/
structure LoweredField.SameCode (docs : List String) (f f' : LoweredField) : Prop where
  documented : f.member.docs = docs
  undocumented : f'.member.docs = []
  bareText : Cpp.SameCode f.member.bareText f'.member.bareText
  includes : f.includes = f'.includes
  nested : SameDeclarations f.nested f'.nested

structure LoweredFields.SameCode (f f' : LoweredFields) : Prop where
  members : (f.members.map (·.text)).map codeLines = (f'.members.map (·.text)).map codeLines
  includes : f.includes = f'.includes
  nested : SameDeclarations f.nested f'.nested

section

variable {target : Target}

theorem Manifest.SameCode.refl (m : Manifest) : m.SameCode m := ⟨.refl _, rfl, rfl, .refl _⟩

theorem Manifest.SameCode.materialize {m m' : Manifest} (h : m.SameCode m') :
    (m.materialize target).SameCode (m'.materialize target) := by
  have hfolded : Cpp.SameCode (m.dims.foldr (fun n type => target.flavor.arrayOf type n) m.type)
      (m.dims.foldr (fun n type => target.flavor.arrayOf type n) m'.type) := by
    induction m.dims with
    | nil => exact h.type
    | cons n dims ih => exact (ih.append (.refl _)).append (.refl _) |>.around _ _
  unfold Manifest.materialize
  rw [← h.dims]
  split
  · exact h
  · exact ⟨hfolded, rfl, by rw [h.includes], h.nested⟩

theorem Manifest.SameCode.wrap {m m' : Manifest} (h : m.SameCode m') (outer : GenericType) :
    (m.wrap target outer).SameCode (m'.wrap target outer) := by
  have hitem := @Manifest.SameCode.materialize target m m' h
  exact ⟨hitem.type.around _ _, hitem.dims, congrArg (·.add outer.header) hitem.includes,
    hitem.nested⟩

theorem Manifest.SameCode.asVariant {m m' : Manifest} (h : m.SameCode m') (name : String) :
    (m.asVariant name).SameCode (m'.asVariant name) := by
  unfold Manifest.asVariant
  generalize Naming.pascal name = word
  exact ⟨h.type.around _ _, h.dims, h.includes, h.nested⟩

theorem agree_sameCode_of_eq {x y : Generated Manifest} (h : x = y) :
    Agree Manifest.SameCode x y := by
  subst h
  cases x with
  | ok m => exact .ok (.refl m)
  | error e => exact .fail e

theorem prefixedArray_sameCode (number : Option NumberType) {m m' : Manifest} (h : m.SameCode m') :
    Agree Manifest.SameCode (prefixedArray target number m) (prefixedArray target number m') := by
  unfold prefixedArray
  split
  · exact .ok (h.wrap _)
  · exact .fail _

theorem lowerArray_sameCode {m m' : Manifest} (h : m.SameCode m') (count : CountNode) :
    Agree Manifest.SameCode (lowerArray target m count)
      (lowerArray target m' count.withoutDocs) := by
  cases count with
  | fixed size => exact .ok ⟨h.type, by rw [h.dims], h.includes, h.nested⟩
  | prefixed number =>
    rw [CountNode.withoutDocs, lowerArray, lowerArray, number.number?_withoutDocs]
    exact prefixedArray_sameCode _ h
  | remainder => exact .ok (h.wrap _)

theorem lowerEnum_withoutDocs (variants : List VariantNode) (size : TypeNode) (ctx : Context) :
    lowerEnum target (variantsWithoutDocs variants) size.withoutDocs ctx =
      lowerEnum target variants size ctx := by
  have henumerators : (variantsWithoutDocs variants).map enumeratorOf =
      variants.map enumeratorOf := by
    induction variants with
    | nil => rfl
    | cons variant rest ih =>
      rw [variantsWithoutDocs, List.map_cons, List.map_cons, ih]
      cases variant <;> rfl
  unfold lowerEnum
  rw [isScalar_variantsWithoutDocs, size.number?_withoutDocs, henumerators]

theorem Member.text_eq (member : Member) :
    member.text = docBlock member.docs ++ member.bareText := by
  have hnone : docBlock [] = "" := rfl
  unfold bareText text
  rw [hnone]
  simp only [String.append_assoc, String.empty_append]

theorem Member.text_of_undocumented {member : Member} (h : member.docs = []) :
    member.text = member.bareText := by
  rw [text_eq, h, docBlock, List.map_nil, String.join_nil, String.empty_append]

theorem bareText_sameCode {type type' : String} (h : SameCode type type') (docs docs' : List String)
    (name : String) (dims : List Int) (initial : Option String) :
    SameCode (Member.bareText ⟨docs, type, name, dims, initial⟩)
      (Member.bareText ⟨docs', type', name, dims, initial⟩) :=
  (((((SameCode.refl _).append h).append (.refl _)).append (.refl _)).append (.refl _)).append
    (.refl _) |>.append (.refl _)

theorem fieldMember_sameCode (assignable : Bool) (name : String) (docs : List String)
    (preset : Option ValueNode) {m m' : Manifest} (h : m.SameCode m') :
    Agree (LoweredField.SameCode docs) (fieldMember target assignable name docs preset m)
      (fieldMember target assignable name [] (valueWithoutDocs? preset) m') := by
  unfold fieldMember
  cases preset with
  | some value =>
    rw [valueWithoutDocs?]
    dsimp only
    rw [literal_withoutDocs, h.dims, h.includes]
    cases Generated.inside (.field name) (literal target false value) with
    | error e => exact .fail e
    | ok initial => exact .ok ⟨rfl, rfl, bareText_sameCode h.type _ _ _ _ _, rfl, h.nested⟩
  | none =>
    have hmember {m m' : Manifest} (h : m.SameCode m') : LoweredField.SameCode docs
        ⟨⟨docs, m.type, Naming.pascal name, m.dims, none⟩, m.includes, m.nested⟩
        ⟨⟨[], m'.type, Naming.pascal name, m'.dims, none⟩, m'.includes, m'.nested⟩ := by
      rw [h.dims]
      exact ⟨rfl, rfl, bareText_sameCode h.type _ _ _ _ _, h.includes, h.nested⟩
    cases assignable with
    | true => exact .ok (hmember h.materialize)
    | false => exact .ok (hmember h)

theorem structManifest_sameCode (ctx : Context) {f f' : LoweredFields} (h : f.SameCode f') :
    (structManifest target ctx f).SameCode (structManifest target ctx f') := by
  have htext : SameCode (Declaration.struct (target.flavor.structName ctx.parent) f.members).text
      (Declaration.struct (target.flavor.structName ctx.parent) f'.members).text :=
    (SameCode.block _ h.members).append (.refl _)
  unfold structManifest
  dsimp only
  split
  · exact ⟨.block _ h.members, rfl, h.includes, h.nested⟩
  · split
    · exact ⟨.refl _, rfl, h.includes, List.rel_append h.nested (.cons htext .nil)⟩
    · exact ⟨htext, rfl, h.includes, h.nested⟩

mutual

theorem lower_sameCode : ∀ (ctx : Context) (type : TypeNode), commented type = true →
    Agree Manifest.SameCode (lower target ctx type) (lower target ctx type.withoutDocs)
  | _, .number _, _ => agree_sameCode_of_eq rfl
  | ctx, .amount inner _ _, h => lower_sameCode ctx inner h
  | ctx, .solAmount inner, h => lower_sameCode ctx inner h
  | ctx, .dateTime inner, h => lower_sameCode ctx inner h
  | _, .boolean size, _ => by
    rw [TypeNode.withoutDocs, lower, lower, lowerBoolean, lowerBoolean, size.number?_withoutDocs]
    exact agree_sameCode_of_eq rfl
  | ctx, .fixedSize size inner, h => lower_sameCode { ctx with size := .fixed size } inner h
  | ctx, .sizePrefix length inner, h => by
    rw [TypeNode.withoutDocs, lower, lower, length.number?_withoutDocs, length.kind_withoutDocs]
    cases length.number? with
    | none => exact .fail _
    | some number => exact lower_sameCode { ctx with size := .prefixed number } inner h
  | _, .bytes, _ => agree_sameCode_of_eq rfl
  | _, .string _, _ => agree_sameCode_of_eq rfl
  | ctx, .array inner count, h => by
    rw [TypeNode.withoutDocs, lower, lower]
    exact (lower_sameCode ctx.child inner h).bind fun _ _ hitem => lowerArray_sameCode hitem count
  | ctx, .option inner flag _, h => by
    rw [TypeNode.withoutDocs, lower, lower, flag.number?_withoutDocs]
    split
    · exact (lower_sameCode ctx.child inner h).bind fun _ _ hitem => .ok (hitem.wrap _)
    · exact .fail _
  | ctx, .struct fields, h => by
    rw [TypeNode.withoutDocs, lower, lower]
    apply (requireParent_agrees "struct" ctx).bind
    intro _ _ _
    apply (lowerFieldsOver_sameCode ctx.child .empty fields h).bind
    intro f f' hfields
    exact .ok (structManifest_sameCode ctx hfields)
  | ctx, .field ⟨name, type, docs, defaultValue, strategy⟩, h => by
    rw [commented, Bool.and_eq_true, List.isEmpty_iff] at h
    obtain ⟨hnone, htype⟩ := h
    rw [TypeNode.withoutDocs, lower, lower]
    apply (lowerField_sameCode ctx ⟨name, type, docs, defaultValue, strategy⟩ htype).bind
    intro f f' hfield
    refine .ok ⟨?_, rfl, hfield.includes, hfield.nested⟩
    rw [Member.text_of_undocumented (hfield.documented.trans hnone),
      Member.text_of_undocumented hfield.undocumented]
    exact hfield.bareText
  | ctx, .enum variants size, _ => by
    rw [TypeNode.withoutDocs, lower, lower, lowerEnum_withoutDocs]
    exact agree_sameCode_of_eq rfl
  | ctx, .variant (.empty name discriminator), _ => agree_sameCode_of_eq rfl
  | ctx, .variant (.struct name type _), h => by
    rw [TypeNode.withoutDocs, VariantNode.withoutDocs, lower, lower, lowerVariant, lowerVariant]
    apply (requireParent_agrees _ ctx).bind
    intro _ _ _
    exact (lower_sameCode _ type h).bind fun _ _ hm => .ok (hm.asVariant name)
  | ctx, .variant (.tuple name type _), h => by
    rw [TypeNode.withoutDocs, VariantNode.withoutDocs, lower, lower, lowerVariant, lowerVariant]
    apply (requireParent_agrees _ ctx).bind
    intro _ _ _
    exact (lower_sameCode _ type h).bind fun _ _ hm => .ok (hm.asVariant name)
  | ctx, .tuple items, h => by
    rw [TypeNode.withoutDocs, lower, lower]
    apply (lowerItems_sameCode ctx 0 .empty items h).bind
    rintro ⟨types, includes, nested⟩ ⟨types', includes', nested'⟩ ⟨htypes, rfl, hnested⟩
    exact .ok ⟨(SameCode.intercalate ", " htypes).around _ _, rfl, rfl, hnested⟩
  | _, .publicKey, _ => agree_sameCode_of_eq rfl
  | _, .link _, _ => agree_sameCode_of_eq rfl
  | _, .map .., _ => .fail _
  | _, .set .., _ => .fail _

theorem lowerField_sameCode : ∀ (ctx : Context) (node : FieldNode), commented node.type = true →
    Agree (LoweredField.SameCode node.docs) (lowerField target ctx node)
      (lowerField target ctx node.withoutDocs)
  | ctx, ⟨name, type, docs, defaultValue, strategy⟩, h => by
    have hpreset : presetValue (valueWithoutDocs? defaultValue) strategy =
        valueWithoutDocs? (presetValue defaultValue strategy) := by
      unfold presetValue
      split
      · exact filter_isLiteral_withoutDocs defaultValue
      · rfl
    rw [FieldNode.withoutDocs, lowerField, lowerField, hpreset]
    apply (requireParent_agrees "struct field" ctx).bind
    intro _ _ _
    apply ((lower_sameCode (ctx.field name) type h).inside (.field name)).bind
    intro m m' hm
    exact fieldMember_sameCode ctx.assignable name docs _ hm

theorem lowerFieldsOver_sameCode : ∀ (ctx : Context) (includes : IncludeSet)
    (nodes : List FieldNode), commentedFields nodes = true →
    Agree LoweredFields.SameCode (lowerFieldsOver target ctx includes nodes)
      (lowerFieldsOver target ctx includes (fieldsWithoutDocs nodes))
  | _, _, [], _ => .ok ⟨rfl, rfl, .nil⟩
  | ctx, includes, ⟨name, type, docs, defaultValue, strategy⟩ :: rest, h => by
    rw [commentedFields, Bool.and_eq_true, Bool.and_eq_true] at h
    obtain ⟨⟨hdocs, htype⟩, hrest⟩ := h
    rw [fieldsWithoutDocs, lowerFieldsOver, lowerFieldsOver]
    apply (lowerField_sameCode ctx ⟨name, type, docs, defaultValue, strategy⟩ htype).bind
    intro first first' hfirst
    rw [hfirst.includes]
    apply (lowerFieldsOver_sameCode ctx _ rest hrest).bind
    intro fields fields' hfields
    refine .ok ⟨?_, hfields.includes, List.rel_append hfirst.nested hfields.nested⟩
    -- the documentation of the first field is all that is gone from the code of its member
    have hmember : codeLines first.member.text = codeLines first'.member.text := by
      rw [Member.text_eq, hfirst.documented, codeLines_docBlock, flatMap_leaked hdocs,
        List.nil_append, Member.text_of_undocumented hfirst.undocumented]
      exact hfirst.bareText.codeLines_eq
    rw [List.map_cons, List.map_cons, List.map_cons, List.map_cons, hmember, hfields.members]

theorem lowerItems_sameCode : ∀ (ctx : Context) (index : Nat) (includes : IncludeSet)
    (items : List TypeNode), commentedItems items = true →
    Agree (fun i i' : List String × IncludeSet × List Declaration =>
        List.Forall₂ SameCode i.1 i'.1 ∧ i.2.1 = i'.2.1 ∧ SameDeclarations i.2.2 i'.2.2)
      (lowerItems target ctx index includes items)
      (lowerItems target ctx index includes (typesWithoutDocs items))
  | _, _, _, [], _ => .ok ⟨.nil, rfl, .nil⟩
  | ctx, index, includes, item :: rest, h => by
    rw [commentedItems, Bool.and_eq_true] at h
    rw [typesWithoutDocs, lowerItems, lowerItems]
    apply (lower_sameCode (ctx.item index) item h.1).bind
    intro m m' hm
    have hfirst := @Manifest.SameCode.materialize target m m' hm
    dsimp only
    rw [hfirst.includes]
    apply (lowerItems_sameCode ctx (index + 1) _ rest h.2).bind
    rintro ⟨types, includes, nested⟩ ⟨types', includes', nested'⟩ ⟨htypes, rfl, hnested⟩
    exact .ok ⟨.cons hfirst.type htypes, rfl, List.rel_append hfirst.nested hnested⟩

end

end

end ClientGen.Cpp
