import ClientGen.Proofs.Cpp.Lines
import ClientGen.Proofs.Cpp.Visits
import ClientGen.Proofs.Lists
/-!
# Parts of lowered types

Code is put together from the texts of its parts, and only bodies between braces break a part up, at
its line ends. So lowering loses nothing: whatever is lowered as a part of a type gives its
declarations to the whole, and what stands in one line of its spelling stands in the spelling of the
whole or in one of the declarations.
-/
namespace ClientGen.Cpp

open ClientGen.Idl

/-! ### Fields and items -/

section

variable {target : Target}

/-- Fields are lowered one by one, and what they give is joined in their order. -/
theorem lowerFieldsOver_eq_ok {ctx : Context} :
    ∀ {fields : List FieldNode} {includes : IncludeSet} {out : LoweredFields},
      lowerFieldsOver target ctx includes fields = .ok out →
        ∃ lowered, List.Forall₂ (fun node field => lowerField target ctx node = .ok field)
            fields lowered ∧
          out.members = lowered.map (·.member) ∧ out.nested = lowered.flatMap (·.nested) := by
  intro fields
  induction fields with
  | nil =>
    intro includes out hok
    cases hok
    exact ⟨[], .nil, rfl, rfl⟩
  | cons first rest ih =>
    intro includes out hok
    rw [lowerFieldsOver] at hok
    obtain ⟨field, hfield, hok⟩ := Generated.bind_eq_ok_iff.mp hok
    obtain ⟨fields, hfields, hok⟩ := Generated.bind_eq_ok_iff.mp hok
    cases hok
    obtain ⟨lowered, hlowered, hmembers, hnested⟩ := ih hfields
    exact ⟨field :: lowered, .cons hfield hlowered, by rw [hmembers, List.map_cons],
      by rw [hnested, List.flatMap_cons]⟩

/-- Items are lowered one by one, each under its number. -/
theorem lowerItems_eq_ok {ctx : Context} :
    ∀ {items : List TypeNode} {start : Nat} {includes : IncludeSet}
      {out : List String × IncludeSet × List Declaration},
      lowerItems target ctx start includes items = .ok out →
        ∃ lowered : List Manifest,
          (∀ index type, items[index]? = some type → ∃ m, lowered[index]? = some m ∧
            lower target (ctx.item (start + index)) type = .ok m) ∧
          out.1 = lowered.map (fun m => (m.materialize target).type) ∧
          out.2.2 = lowered.flatMap (·.nested) := by
  intro items
  induction items with
  | nil =>
    intro start includes out hok
    cases hok
    refine ⟨[], ?_, rfl, rfl⟩
    intro index type hitem
    cases hitem
  | cons first rest ih =>
    intro start includes out hok
    rw [lowerItems] at hok
    obtain ⟨m, hm, hok⟩ := Generated.bind_eq_ok_iff.mp hok
    obtain ⟨⟨types, includes', nested⟩, hmore, hok⟩ := Generated.bind_eq_ok_iff.mp hok
    cases hok
    obtain ⟨lowered, hlowered, htypes, hnested⟩ := ih hmore
    refine ⟨m :: lowered, ?_, congrArg _ htypes, ?_⟩
    · intro index type hitem
      cases index with
      | zero =>
        cases hitem
        exact ⟨m, rfl, hm⟩
      | succ index =>
        have hrest := hlowered index type hitem
        rwa [Nat.add_right_comm] at hrest
    · rw [List.flatMap_cons, ← hnested, Manifest.materialize_nested]

/-- An enum that is lowered has a name and no data. It is one declaration, which is hoisted if it is
nested and stands in the place of the type otherwise. -/
theorem lowerEnum_eq_ok {ctx : Context} {variants : List VariantNode} {size : TypeNode}
    {m : Manifest} (h : lowerEnum target variants size ctx = .ok m) :
    requireParent "enum" ctx = .ok () ∧ isScalar variants = true ∧ ∃ base,
      let decl := Declaration.enum (target.flavor.structName ctx.parent) base
        (variants.map enumeratorOf)
      m.nested = [decl] ∨ (m.type = decl.text ∧ m.nested = []) := by
  unfold lowerEnum at h
  obtain ⟨⟨⟩, hparent, h⟩ := Generated.bind_eq_ok_iff.mp h
  split at h
  · cases h
  rename_i hscalar
  refine ⟨hparent, by simpa using hscalar, ?_⟩
  split at h
  · cases h
  split at h
  · cases h
  split at h
  · cases h
  rename_i base hbase
  refine ⟨base, ?_⟩
  split at h
  · cases h
    exact .inl rfl
  · cases h
    exact .inr ⟨rfl, rfl⟩

end

/-! ### Parts of a text -/

/-- A text that stands in another one as it is. -/
def StandsIn (part text : String) : Prop := part.toList <:+: text.toList

section

variable {part text : String}

theorem StandsIn.refl (text : String) : StandsIn text text := List.infix_rfl

theorem StandsIn.trans {whole : String} (h : StandsIn part text) (h' : StandsIn text whole) :
    StandsIn part whole :=
  List.IsInfix.trans h h'

theorem StandsIn.append (h : StandsIn part text) (after : String) :
    StandsIn part (text ++ after) := by
  apply h.trans
  unfold StandsIn
  rw [String.toList_append]
  exact (List.prefix_append _ _).isInfix

theorem StandsIn.behind (h : StandsIn part text) (before : String) :
    StandsIn part (before ++ text) := by
  apply h.trans
  unfold StandsIn
  rw [String.toList_append]
  exact (List.suffix_append _ _).isInfix

theorem StandsIn.around (h : StandsIn part text) (before after : String) :
    StandsIn part (before ++ text ++ after) :=
  (h.behind before).append after

theorem StandsIn.join {texts : List String} (hmem : text ∈ texts) (h : StandsIn part text) :
    StandsIn part (String.join texts) := by
  induction texts with
  | nil => cases hmem
  | cons first rest ih =>
    rw [String.join_cons]
    rcases List.mem_cons.mp hmem with rfl | hmem
    · exact h.append _
    · exact (ih hmem).behind _

theorem StandsIn.intercalate {texts : List String} (hmem : text ∈ texts) (h : StandsIn part text)
    (sep : String) : StandsIn part (String.intercalate sep texts) := by
  apply h.trans
  unfold StandsIn
  rw [String.toList_intercalate]
  exact infix_intercalate (List.mem_map_of_mem hmem)

private theorem exists_piece_behind {mid chars : List Char}
    (h : ∃ piece ∈ chars.splitOn '\n', mid <:+: piece) (before : List Char) :
    ∃ piece ∈ (before ++ chars).splitOn '\n', mid <:+: piece := by
  induction before with
  | nil => exact h
  | cons c before ih =>
    obtain ⟨piece, hpiece, hinfix⟩ := ih
    rw [List.cons_append, List.splitOn_cons_eq_if_modifyHead]
    split
    · exact ⟨piece, List.mem_cons_of_mem _ hpiece, hinfix⟩
    · cases hsplit : (before ++ chars).splitOn '\n' with
      | nil =>
        rw [hsplit] at hpiece
        cases hpiece
      | cons first rest =>
        rw [hsplit] at hpiece
        rcases List.mem_cons.mp hpiece with rfl | hpiece
        · exact ⟨c :: piece, List.mem_cons_self, List.infix_cons hinfix⟩
        · exact ⟨piece, List.mem_cons_of_mem _ hpiece, hinfix⟩

/-- A part without a line end stands in one line. -/
theorem exists_line_of_standsIn (hfree : '\n' ∉ part.toList) (h : StandsIn part text) :
    ∃ line ∈ splitLines text, StandsIn part line := by
  obtain ⟨before, after, htext⟩ := h
  -- The part opens the text that is left without what stands before it.
  have hfirst : ∃ piece ∈ (part.toList ++ after).splitOn '\n', part.toList <:+: piece := by
    have hlines := splitLines_append_of_newline_free hfree (String.ofList after)
    obtain ⟨line, lines, hafter⟩ :=
      List.exists_cons_of_ne_nil (splitLines_ne_nil (String.ofList after))
    rw [hafter, List.modifyHead_cons, splitLines, String.toList_append, String.toList_ofList]
      at hlines
    have hmem : part ++ line ∈ ((part.toList ++ after).splitOn '\n').map String.ofList := by
      rw [hlines]
      exact List.mem_cons_self
    obtain ⟨piece, hpiece, heq⟩ := List.mem_map.mp hmem
    have hchars := congrArg String.toList heq
    rw [String.toList_ofList, String.toList_append] at hchars
    refine ⟨piece, hpiece, ?_⟩
    rw [hchars]
    exact (List.prefix_append _ _).isInfix
  obtain ⟨piece, hpiece, hinfix⟩ := exists_piece_behind hfirst before
  rw [← List.append_assoc, htext] at hpiece
  refine ⟨String.ofList piece, List.mem_map_of_mem hpiece, ?_⟩
  rwa [StandsIn, String.toList_ofList]

/-- A block indents the lines of its entries and leaves them whole. -/
theorem StandsIn.block {entries : List String} (hfree : '\n' ∉ part.toList) (hmem : text ∈ entries)
    (h : StandsIn part text) (head : String) : StandsIn part (block head entries) := by
  obtain ⟨line, hline, hpart⟩ := exists_line_of_standsIn hfree h
  have hbody : StandsIn part (bodyLine line) := by
    unfold bodyLine
    split
    · rename_i hempty
      rw [String.isEmpty_iff.mp hempty] at hpart
      exact hpart.append "\n"
    · exact hpart.around "\t" "\n"
  refine StandsIn.around (StandsIn.join ?_ hbody) _ _
  exact List.mem_flatMap.mpr ⟨text, hmem, List.mem_map_of_mem hline⟩

end

/-! ### Parts of a lowered type -/

/-- A part stands in the spelling of a type or in one of its declarations. -/
def Manifest.Holds (m : Manifest) (part : String) : Prop :=
  StandsIn part m.type ∨ ∃ d ∈ m.nested, StandsIn part d.text

/-- A lowered part of a lowered type. -/
structure Manifest.Within (inner m : Manifest) : Prop where
  nested : ∀ d ∈ inner.nested, d ∈ m.nested
  holds : ∀ part, '\n' ∉ part.toList → StandsIn part inner.type → m.Holds part

section

variable {target : Target} {m inner : Manifest} {part : String}

theorem Manifest.Within.refl (m : Manifest) : m.Within m := ⟨fun _ h => h, fun _ _ => .inl⟩

/-- What a part holds, the whole holds. -/
theorem Manifest.Holds.of_within (h : inner.Holds part) (hfree : '\n' ∉ part.toList)
    (hwithin : inner.Within m) : m.Holds part := by
  rcases h with htype | ⟨d, hd, hpart⟩
  · exact hwithin.holds part hfree htype
  · exact .inr ⟨d, hwithin.nested d hd, hpart⟩

theorem Manifest.Within.trans {outer : Manifest} (h : inner.Within m) (h' : m.Within outer) :
    inner.Within outer := by
  refine ⟨fun d hd => h'.nested d (h.nested d hd), ?_⟩
  intro part hfree hpart
  exact (h.holds part hfree hpart).of_within hfree h'

theorem StandsIn.materialize (h : StandsIn part m.type) :
    StandsIn part (m.materialize target).type := by
  unfold Manifest.materialize
  split
  · exact h
  · dsimp only
    induction m.dims with
    | nil => exact h
    | cons size rest ih => exact ((ih.append _).append _).around _ _

theorem Manifest.within_materialize (m : Manifest) : m.Within (m.materialize target) := by
  refine ⟨?_, fun _ _ hpart => .inl hpart.materialize⟩
  intro d hd
  rwa [Manifest.materialize_nested]

theorem Manifest.within_wrap (m : Manifest) (outer : GenericType) :
    m.Within (m.wrap target outer) := by
  have hitem : (m.materialize target).Within (m.wrap target outer) :=
    ⟨fun _ hd => hd, fun _ _ hpart => .inl (hpart.around _ _)⟩
  exact m.within_materialize.trans hitem

theorem Manifest.within_asVariant (m : Manifest) (name : String) : m.Within (m.asVariant name) := by
  unfold Manifest.asVariant
  generalize Naming.pascal name = word
  exact ⟨fun _ hd => hd, fun _ _ hpart => .inl ((hpart.behind (word ++ " ")).append ",")⟩

theorem prefixedArray_within {number : Option NumberType} {out : Manifest}
    (hout : prefixedArray target number m = .ok out) : m.Within out := by
  unfold prefixedArray at hout
  split at hout
  · cases hout
    exact m.within_wrap _
  · cases hout

theorem lowerArray_within {count : CountNode} {out : Manifest}
    (hout : lowerArray target m count = .ok out) : m.Within out := by
  cases count with
  | fixed size =>
    cases hout
    exact ⟨fun _ hd => hd, fun _ _ hpart => .inl hpart⟩
  | prefixed number => exact prefixedArray_within hout
  | remainder =>
    cases hout
    exact m.within_wrap _

theorem Member.holds_type {member : Member} (h : StandsIn part member.type) :
    StandsIn part member.text := by
  unfold Member.text
  iterate 5 apply StandsIn.append
  exact h.behind _

theorem Member.holds_initial {member : Member} {value : String}
    (hvalue : member.initial = some value) (h : StandsIn part value) :
    StandsIn part member.text := by
  unfold Member.text
  rw [hvalue]
  exact ((h.behind _).behind _).append _

/-- A lowered field as a type of its own. -/
def LoweredField.manifest (field : LoweredField) : Manifest :=
  ⟨field.member.text, [], field.includes, field.nested⟩

theorem fieldMember_within {assignable : Bool} {name : String} {docs : List String}
    {preset : Option ValueNode} {out : LoweredField}
    (hout : fieldMember target assignable name docs preset m = .ok out) :
    m.Within out.manifest := by
  cases preset with
  | some value =>
    obtain ⟨initial, -, hout⟩ := Generated.bind_eq_ok_iff.mp hout
    cases hout
    exact ⟨fun _ hd => hd, fun _ _ hpart => .inl (Member.holds_type hpart)⟩
  | none =>
    cases hout
    have hfolded : m.Within (if assignable then m.materialize target else m) := by
      split
      · exact m.within_materialize
      · exact .refl m
    refine hfolded.trans ⟨fun _ hd => hd, ?_⟩
    intro part _ hpart
    exact .inl (Member.holds_type hpart)

/-- The members of a struct stand in its body, wherever that is written. -/
theorem structManifest_within {ctx : Context} {fields : LoweredFields} {field : LoweredField}
    (hmember : field.member ∈ fields.members) (hnested : ∀ d ∈ field.nested, d ∈ fields.nested) :
    field.manifest.Within (structManifest target ctx fields) := by
  have hbody {part : String} (hfree : '\n' ∉ part.toList) (hpart : StandsIn part field.member.text)
      (head : String) : StandsIn part (block head (fields.members.map (·.text))) :=
    hpart.block hfree (List.mem_map_of_mem hmember) head
  unfold structManifest
  split
  · exact ⟨hnested, fun _ hfree hpart => .inl (hbody hfree hpart _)⟩
  split
  · refine ⟨fun d hd => List.mem_append_left _ (hnested d hd), ?_⟩
    intro part hfree hpart
    exact .inr ⟨_, List.mem_append_right _ List.mem_cons_self, (hbody hfree hpart _).append _⟩
  · exact ⟨hnested, fun _ hfree hpart => .inl ((hbody hfree hpart _).append _)⟩

private theorem lower_of_isScalar {ctx : Context} {variants : List VariantNode}
    {node : VariantNode} (hscalar : isScalar variants = true) (hmem : node ∈ variants)
    (hparent : requireParent "enum" ctx = .ok ()) :
    ∃ m, lower target { ctx.child with nested := false } (.variant node) = .ok m := by
  have hempty : node.isEmpty = true := List.all_eq_true.mp hscalar node hmem
  have hname : ctx.parent ≠ "" := by
    intro hname
    rw [requireParent, if_pos (String.isEmpty_iff.mpr hname)] at hparent
    cases hparent
  cases node with
  | empty name discriminator =>
    have hvariant : requireParent "enum variant" { ctx.child with nested := false } = .ok () :=
      requireParent_of_ne "enum variant" hname
    rw [lower, lowerVariant, hvariant]
    exact ⟨_, rfl⟩
  | tuple | struct => cases hempty

/-- The enumerators of an enum stand in its body. -/
theorem lowerEnum_holds (hfree : '\n' ∉ part.toList) {variants : List VariantNode}
    {size : TypeNode} {ctx : Context} (h : lowerEnum target variants size ctx = .ok m)
    {node : VariantNode} (hmem : node ∈ variants)
    (hpart : StandsIn part (enumeratorOf node).text) : m.Holds part := by
  obtain ⟨-, -, base, hdecl⟩ := lowerEnum_eq_ok h
  have hbody : StandsIn part (Declaration.enum (target.flavor.structName ctx.parent) base
      (variants.map enumeratorOf)).text :=
    (hpart.block hfree (List.mem_map_of_mem (List.mem_map_of_mem hmem)) _).append _
  rcases hdecl with hnested | ⟨htype, -⟩
  · rw [Manifest.Holds, hnested]
    exact .inr ⟨_, List.mem_cons_self, hbody⟩
  · rw [Manifest.Holds, htype]
    exact .inl hbody

/-- The variants of an enum are lowered with it, since none of them carries data. -/
theorem lowerEnum_variant {ctx : Context} {variants : List VariantNode} {size : TypeNode}
    {node : VariantNode} (hm : lowerEnum target variants size ctx = .ok m)
    (hmem : node ∈ variants) :
    ∃ inner, lower target { ctx.child with nested := false } (.variant node) = .ok inner ∧
      inner.Within m := by
  obtain ⟨hparent, hscalar, -⟩ := lowerEnum_eq_ok hm
  have hempty : node.isEmpty = true := List.all_eq_true.mp hscalar node hmem
  obtain ⟨inner, hinner⟩ := lower_of_isScalar hscalar hmem hparent
  refine ⟨inner, hinner, ?_⟩
  cases node with
  | tuple | struct => cases hempty
  | empty name discriminator =>
    rw [lower, lowerVariant] at hinner
    obtain ⟨-, -, hinner⟩ := Generated.bind_eq_ok_iff.mp hinner
    rw [← Except.ok.inj hinner]
    exact ⟨List.forall_mem_nil _, fun part hfree hpart => lowerEnum_holds hfree hm hmem hpart⟩

/-- A type that is lowered has lowered parts. -/
theorem Visit.Enters.within {visit below : Visit} (h : visit.Enters below)
    (hm : lower target visit.ctx visit.type = .ok m) :
    ∃ inner, lower target below.ctx below.type = .ok inner ∧ inner.Within m := by
  cases h with
  | amount | solAmount | dateTime | fixedSize => exact ⟨m, hm, .refl m⟩
  | sizePrefix hnumber =>
    rw [lower, hnumber] at hm
    exact ⟨m, hm, .refl m⟩
  | array =>
    rw [lower] at hm
    obtain ⟨item, hitem, hm⟩ := Generated.bind_eq_ok_iff.mp hm
    exact ⟨item, hitem, lowerArray_within hm⟩
  | option =>
    rw [lower] at hm
    split at hm
    · obtain ⟨item, hitem, hm⟩ := Generated.bind_eq_ok_iff.mp hm
      cases hm
      exact ⟨item, hitem, item.within_wrap _⟩
    · cases hm
  | structField hmem =>
    rw [lower] at hm
    obtain ⟨-, -, hm⟩ := Generated.bind_eq_ok_iff.mp hm
    obtain ⟨fields, hfields, hm⟩ := Generated.bind_eq_ok_iff.mp hm
    cases hm
    obtain ⟨lowered, hlowered, hmembers, hnested⟩ := lowerFieldsOver_eq_ok hfields
    obtain ⟨field, hfield, hok⟩ := exists_mem_of_forall₂ hlowered hmem
    -- A field is lowered by itself to its member, which stands in the body of the struct.
    refine ⟨field.manifest, by rw [lower, hok]; rfl, structManifest_within ?_ ?_⟩
    · rw [hmembers]
      exact List.mem_map_of_mem hfield
    · intro d hd
      rw [hnested]
      exact List.mem_flatMap.mpr ⟨field, hfield, hd⟩
  | @field ctx node =>
    obtain ⟨name, type, docs, defaultValue, strategy⟩ := node
    rw [lower, lowerField] at hm
    obtain ⟨field, hfield, hm⟩ := Generated.bind_eq_ok_iff.mp hm
    obtain ⟨-, -, hfield⟩ := Generated.bind_eq_ok_iff.mp hfield
    obtain ⟨inner, hinner, hfield⟩ := Generated.bind_eq_ok_iff.mp hfield
    cases hm
    exact ⟨inner, Generated.inside_eq_ok_iff.mp hinner, fieldMember_within hfield⟩
  | @enumVariant ctx variants size node hmem =>
    exact lowerEnum_variant hm hmem
  | structVariant =>
    rw [lower, lowerVariant] at hm
    obtain ⟨-, -, hm⟩ := Generated.bind_eq_ok_iff.mp hm
    obtain ⟨inner, hinner, hm⟩ := Generated.bind_eq_ok_iff.mp hm
    rw [← Except.ok.inj hm]
    exact ⟨inner, hinner, inner.within_asVariant _⟩
  | tupleVariant =>
    rw [lower, lowerVariant] at hm
    obtain ⟨-, -, hm⟩ := Generated.bind_eq_ok_iff.mp hm
    obtain ⟨inner, hinner, hm⟩ := Generated.bind_eq_ok_iff.mp hm
    rw [← Except.ok.inj hm]
    exact ⟨inner, hinner, inner.within_asVariant _⟩
  | item hitem =>
    rw [lower] at hm
    obtain ⟨⟨types, includes, nested⟩, hout, hm⟩ := Generated.bind_eq_ok_iff.mp hm
    cases hm
    obtain ⟨lowered, hlowered, htypes, hnested⟩ := lowerItems_eq_ok hout
    obtain ⟨inner, hget, hinner⟩ := hlowered _ _ hitem
    rw [Nat.zero_add] at hinner
    have hmem : inner ∈ lowered := List.mem_of_getElem? hget
    refine ⟨inner, hinner, ?_, ?_⟩
    · intro d hd
      rw [show nested = _ from hnested]
      exact List.mem_flatMap.mpr ⟨inner, hmem, hd⟩
    · intro part _ hpart
      have htype : (inner.materialize target).type ∈ types := by
        rw [show types = _ from htypes]
        exact List.mem_map_of_mem hmem
      exact .inl ((hpart.materialize.intercalate htype ", ").around _ _)

theorem Visit.Reaches.within {visit below : Visit} (h : visit.Reaches below)
    (hm : lower target visit.ctx visit.type = .ok m) :
    ∃ inner, lower target below.ctx below.type = .ok inner ∧ inner.Within m := by
  induction h with
  | refl => exact ⟨m, hm, .refl m⟩
  | tail _ hstep ih =>
    obtain ⟨middle, hmiddle, hwithin⟩ := ih
    obtain ⟨inner, hinner, hinnermost⟩ := hstep.within hmiddle
    exact ⟨inner, hinner, hinnermost.trans hwithin⟩

theorem Visit.Reaches.lowers {visit below : Visit} (h : visit.Reaches below)
    (hok : ∃ m, lower target visit.ctx visit.type = .ok m) :
    ∃ m, lower target below.ctx below.type = .ok m := by
  obtain ⟨m, hm⟩ := hok
  obtain ⟨inner, hinner, -⟩ := h.within hm
  exact ⟨inner, hinner⟩

end

end ClientGen.Cpp
