import ClientGen.Proofs.Cpp.Documentation
import ClientGen.Proofs.Cpp.Parts
/-!
# The order of members

The struct that a type is lowered to has one member for every field, in the order of the fields, and
its text is the lines of one member after the other. A member takes the lines of its documentation
and those of its declarator, so what else stands there as code comes from documentation. The same
holds for every struct that is hoisted out of a type.
-/
namespace ClientGen.Cpp

open ClientGen.Idl

/-! ### Lines of a struct -/

/-- The lines of a member: its documentation, each entry behind the start of a comment, and its
declarator. -/
def Member.lines (member : Member) : List String :=
  member.docs.flatMap (fun d => splitLines ("// " ++ d)) ++ splitLines member.bareText

theorem splitLines_docBlock (docs : List String) (after : String) :
    splitLines (docBlock docs ++ after) =
      docs.flatMap (fun d => splitLines ("// " ++ d)) ++ splitLines after := by
  induction docs with
  | nil => rw [docBlock, List.map_nil, String.join_nil, String.empty_append, List.flatMap_nil,
      List.nil_append]
  | cons d rest ih =>
    rw [docBlock] at ih
    rw [docBlock, List.map_cons, String.join_cons, String.append_assoc, splitLines_append_line, ih,
      List.flatMap_cons, List.append_assoc]

theorem Member.splitLines_text (member : Member) : splitLines member.text = member.lines := by
  rw [text_eq, splitLines_docBlock, lines]

/-- A line for the head, a line for each brace, and between them the lines of the members. -/
theorem splitLines_struct (name : String) (members : List Member) :
    splitLines (Declaration.struct name members).text =
      splitLines ("struct " ++ name) ++ "\x7b" :: (members.flatMap (·.lines)).map indented
        ++ ["\x7d;"] := by
  -- A block without a head has no line for it, so the keyword counts even where the name is empty.
  have hhead : ("struct " ++ name).isEmpty = false := by
    rw [Bool.eq_false_iff]
    intro hempty
    have hnone := (String.append_eq_empty_iff.mp (String.isEmpty_iff.mp hempty)).1
    revert hnone
    decide
  have hlines : ((members.map (·.text)).flatMap fun text => (splitLines text).map bodyLine) =
      (members.flatMap (·.lines)).map bodyLine := by
    rw [List.map_flatMap, List.flatMap_map]
    simp only [Member.splitLines_text]
  have hfree : ∀ line ∈ members.flatMap (·.lines), '\n' ∉ line.toList := by
    intro line hline
    obtain ⟨member, -, hline⟩ := List.mem_flatMap.mp hline
    rw [← Member.splitLines_text] at hline
    exact newline_not_mem_of_mem_splitLines hline
  have hopen : "\x7b\n" = "\x7b" ++ "\n" := by decide
  have hsplit : (Declaration.struct name members).text =
      "struct " ++ name ++ "\n" ++ ("\x7b" ++ "\n"
        ++ (String.join ((members.flatMap (·.lines)).map bodyLine) ++ "\x7d;")) := by
    have hclose : "\x7d;" = "\x7d" ++ ";" := by decide
    rw [Declaration.text, block, hhead, if_neg Bool.false_ne_true, hlines, hopen, hclose]
    simp only [String.append_assoc]
  rw [hsplit, splitLines_append_line, splitLines_append_line, splitLines_bodyLines _ hfree,
    splitLines_of_newline_free (by decide : '\n' ∉ "\x7b".toList),
    splitLines_of_newline_free (by decide : '\n' ∉ "\x7d;".toList), List.append_assoc]
  rfl

/-- Contained documentation leaves the code of a member to its declarator. -/
theorem Member.codeLines_text {member : Member} (h : member.docs.all isContained = true) :
    codeLines member.text = codeLines member.bareText := by
  rw [text_eq, codeLines_docBlock, flatMap_leaked h, List.nil_append]

theorem codeLines_struct (name : String) {members : List Member}
    (h : ∀ member ∈ members, member.docs.all isContained = true) :
    codeLines (Declaration.struct name members).text =
      codeLines ("struct " ++ name) ++
        "\x7b" :: (members.flatMap fun m => codeLines m.bareText).map indented ++ ["\x7d;"] := by
  have hindented :
      (fun line => !isCommentLine line) ∘ indented = fun line => !isCommentLine line := by
    funext line
    simp [isCommentLine_indented]
  have hcode : (members.flatMap (·.lines)).filter (fun line => !isCommentLine line) =
      members.flatMap fun m => codeLines m.bareText := by
    rw [List.filter_flatMap]
    apply List.flatMap_congr
    intro member hmember
    rw [← Member.splitLines_text]
    exact Member.codeLines_text (h member hmember)
  have hopen : isCommentLine "\x7b" = false := by decide
  have hclose : isCommentLine "\x7d;" = false := by decide
  rw [codeLines, splitLines_struct, List.filter_append, List.filter_append, List.filter_cons,
    hopen, List.filter_map, hindented, hcode, List.filter_singleton, hclose]
  rfl

/-! ### Members in the order of fields -/

/-- A text that declares a struct of some fields, with a member for each field in its place. Its
lines are those of the members one after the other, and where no line of the documentation is code
by itself, its code is their declarators. -/
structure DeclaresInOrder (text name : String) (fields : List FieldNode) (members : List Member) :
    Prop where
  names : members.map (·.name) = fields.map fun f => Naming.pascal f.name
  docs : members.map (·.docs) = fields.map (·.docs)
  lines : splitLines text = splitLines ("struct " ++ name) ++
    "\x7b" :: (members.flatMap (·.lines)).map indented ++ ["\x7d;"]
  code : (∀ f ∈ fields, f.docs.all isContained = true) →
    codeLines text = codeLines ("struct " ++ name) ++
      "\x7b" :: (members.flatMap fun m => codeLines m.bareText).map indented ++ ["\x7d;"]

section

variable {target : Target}

theorem lowerField_member {ctx : Context} {node : FieldNode} {field : LoweredField}
    (h : lowerField target ctx node = .ok field) :
    field.member.name = Naming.pascal node.name ∧ field.member.docs = node.docs := by
  obtain ⟨name, type, docs, defaultValue, strategy⟩ := node
  rw [lowerField] at h
  obtain ⟨-, -, h⟩ := Generated.bind_eq_ok_iff.mp h
  obtain ⟨m, -, h⟩ := Generated.bind_eq_ok_iff.mp h
  cases hpreset : presetValue defaultValue strategy with
  | none =>
    rw [hpreset] at h
    rw [← Except.ok.inj h]
    exact ⟨rfl, rfl⟩
  | some value =>
    rw [hpreset] at h
    obtain ⟨initial, -, h⟩ := Generated.bind_eq_ok_iff.mp h
    rw [← Except.ok.inj h]
    exact ⟨rfl, rfl⟩

/-- The members of lowered fields declare the fields in their order. -/
theorem lowerFieldsOver_declares {ctx : Context} {includes : IncludeSet} {fields : List FieldNode}
    {out : LoweredFields} (h : lowerFieldsOver target ctx includes fields = .ok out)
    (name : String) :
    DeclaresInOrder (Declaration.struct name out.members).text name fields out.members := by
  obtain ⟨lowered, hlowered, hmembers, -⟩ := lowerFieldsOver_eq_ok h
  have hnames : out.members.map (·.name) = fields.map fun f => Naming.pascal f.name := by
    rw [hmembers, List.map_map]
    exact (map_eq_of_forall₂ hlowered fun _ _ hfield => (lowerField_member hfield).1.symm).symm
  have hdocs : out.members.map (·.docs) = fields.map (·.docs) := by
    rw [hmembers, List.map_map]
    exact (map_eq_of_forall₂ hlowered fun _ _ hfield => (lowerField_member hfield).2.symm).symm
  refine ⟨hnames, hdocs, splitLines_struct name out.members, ?_⟩
  intro hcontained
  apply codeLines_struct
  intro member hmember
  have hmem : member.docs ∈ fields.map (·.docs) := hdocs ▸ List.mem_map_of_mem hmember
  obtain ⟨f, hf, heq⟩ := List.mem_map.mp hmem
  rw [← heq]
  exact hcontained f hf

/-- A struct at the top is the declaration of its fields. -/
theorem lower_struct_declares {ctx : Context} {fields : List FieldNode} {m : Manifest}
    (hnested : ctx.nested = false) (hinlined : ctx.inlined = false)
    (h : lower target ctx (.struct fields) = .ok m) :
    ∃ members, m.type = (Declaration.struct (target.flavor.structName ctx.parent) members).text ∧
      DeclaresInOrder m.type (target.flavor.structName ctx.parent) fields members := by
  rw [lower] at h
  obtain ⟨-, -, h⟩ := Generated.bind_eq_ok_iff.mp h
  obtain ⟨out, hout, h⟩ := Generated.bind_eq_ok_iff.mp h
  have htype : m.type =
      (Declaration.struct (target.flavor.structName ctx.parent) out.members).text := by
    rw [← Except.ok.inj h, structManifest, hinlined, if_neg Bool.false_ne_true, hnested,
      if_neg Bool.false_ne_true]
  rw [htype]
  exact ⟨out.members, rfl, lowerFieldsOver_declares hout _⟩

/-! ### Hoisted structs -/

/-- A declaration that is made from a struct or an enum below a type: a struct declares the fields
of its node in their order. -/
inductive Hoists (target : Target) (visit : Visit) : Declaration → Prop
  | struct {ctx : Context} {fields : List FieldNode} (h : visit.Reaches ⟨ctx, .struct fields⟩)
    {members : List Member}
    (hmembers : DeclaresInOrder
      (Declaration.struct (target.flavor.structName ctx.parent) members).text
      (target.flavor.structName ctx.parent) fields members) :
    Hoists target visit (.struct (target.flavor.structName ctx.parent) members)
  | enum {ctx : Context} {variants : List VariantNode} {size : TypeNode}
    (h : visit.Reaches ⟨ctx, .enum variants size⟩) (base : String) :
    Hoists target visit
      (.enum (target.flavor.structName ctx.parent) base (variants.map enumeratorOf))

theorem Hoists.above {visit below : Visit} {d : Declaration} (h : Hoists target below d)
    (henters : visit.Enters below) : Hoists target visit d := by
  cases h with
  | struct hreaches hmembers => exact .struct (.head henters hreaches) hmembers
  | enum hreaches base => exact .enum (.head henters hreaches) base

/-- Every declaration of a manifest is made from a part of a type. -/
def Manifest.Hoisted (target : Target) (visit : Visit) (m : Manifest) : Prop :=
  ∀ d ∈ m.nested, Hoists target visit d

theorem Manifest.Hoisted.above {visit below : Visit} {m : Manifest} (h : m.Hoisted target below)
    (henters : visit.Enters below) : m.Hoisted target visit :=
  fun d hd => (h d hd).above henters

theorem Manifest.Hoisted.wrap {visit : Visit} {m : Manifest} (h : m.Hoisted target visit)
    (outer : GenericType) : (m.wrap target outer).Hoisted target visit := by
  intro d hd
  apply h
  rwa [← @Manifest.materialize_nested target m]

theorem Manifest.Hoisted.asVariant {visit : Visit} {m : Manifest} (h : m.Hoisted target visit)
    (name : String) : (m.asVariant name).Hoisted target visit := by
  unfold Manifest.asVariant
  generalize Naming.pascal name = word
  exact h

theorem Manifest.hoisted_plain (visit : Visit) (type : String) (header : Option String) :
    (Manifest.plain type header).Hoisted target visit :=
  List.forall_mem_nil _

theorem prefixedArray_hoisted {visit : Visit} {number : Option NumberType} {m out : Manifest}
    (h : m.Hoisted target visit) (hout : prefixedArray target number m = .ok out) :
    out.Hoisted target visit := by
  unfold prefixedArray at hout
  split at hout
  · cases hout
    exact h.wrap _
  · cases hout

theorem lowerArray_hoisted {visit : Visit} {count : CountNode} {m out : Manifest}
    (h : m.Hoisted target visit) (hout : lowerArray target m count = .ok out) :
    out.Hoisted target visit := by
  cases count with
  | fixed size =>
    cases hout
    exact h
  | prefixed number => exact prefixedArray_hoisted h hout
  | remainder =>
    cases hout
    exact h.wrap _

theorem lowerNumber_nested {number : NumberType} {m : Manifest}
    (h : lowerNumber target number = .ok m) : m.nested = [] := by
  unfold lowerNumber at h
  split at h
  · cases h
  · split at h
    · cases h
      rfl
    · cases h

theorem lowerBytes_hoisted {visit : Visit} {size : SizeHint} {m : Manifest}
    (h : lowerBytes target size = .ok m) : m.Hoisted target visit := by
  obtain ⟨item, hitem, h⟩ := Generated.bind_eq_ok_iff.mp h
  have hhoisted : item.Hoisted target visit := by
    intro d hd
    rw [lowerNumber_nested hitem] at hd
    cases hd
  cases size with
  | none =>
    cases h
    exact hhoisted.wrap _
  | fixed n =>
    cases h
    exact hhoisted
  | prefixed number => exact prefixedArray_hoisted hhoisted h

theorem lowerEnum_hoisted {ctx : Context} {variants : List VariantNode} {size : TypeNode}
    {m : Manifest} (h : lowerEnum target variants size ctx = .ok m) :
    m.Hoisted target ⟨ctx, .enum variants size⟩ := by
  obtain ⟨-, -, base, hdecl⟩ := lowerEnum_eq_ok h
  intro d hd
  rcases hdecl with hnested | ⟨-, hnested⟩
  · rw [hnested, List.mem_singleton] at hd
    rw [hd]
    exact .enum .refl base
  · rw [hnested] at hd
    cases hd

theorem fieldMember_nested {assignable : Bool} {name : String} {docs : List String}
    {preset : Option ValueNode} {m : Manifest} {out : LoweredField}
    (h : fieldMember target assignable name docs preset m = .ok out) : out.nested = m.nested := by
  cases preset with
  | some value =>
    obtain ⟨initial, -, h⟩ := Generated.bind_eq_ok_iff.mp h
    rw [← Except.ok.inj h]
  | none =>
    rw [← Except.ok.inj h]
    dsimp only
    split
    · exact Manifest.materialize_nested
    · rfl

theorem structManifest_hoisted {ctx : Context} {nodes : List FieldNode} {fields : LoweredFields}
    {includes : IncludeSet} (h : lowerFieldsOver target ctx.child includes nodes = .ok fields)
    (hfields : ∀ d ∈ fields.nested, Hoists target ⟨ctx, .struct nodes⟩ d) :
    (structManifest target ctx fields).Hoisted target ⟨ctx, .struct nodes⟩ := by
  unfold structManifest
  split
  · exact hfields
  split
  · -- Only here is the struct hoisted itself, behind what its fields hoist.
    intro d hd
    rcases List.mem_append.mp hd with hd | hd
    · exact hfields d hd
    · rw [List.mem_singleton.mp hd]
      exact .struct .refl (lowerFieldsOver_declares h _)
  · exact hfields

mutual

/-- Every declaration that is hoisted out of a type is made from a part of it. -/
theorem lower_hoisted : ∀ (ctx : Context) (type : TypeNode) {m : Manifest},
    lower target ctx type = .ok m → m.Hoisted target ⟨ctx, type⟩
  | ctx, .number number, m, h => by
    intro d hd
    rw [lowerNumber_nested h] at hd
    cases hd
  | ctx, .amount inner decimals unit, m, h => (lower_hoisted ctx inner h).above .amount
  | ctx, .solAmount inner, m, h => (lower_hoisted ctx inner h).above .solAmount
  | ctx, .dateTime inner, m, h => (lower_hoisted ctx inner h).above .dateTime
  | ctx, .boolean size, m, h => by
    rw [lower, lowerBoolean] at h
    split at h
    · cases h
      exact Manifest.hoisted_plain _ _ _
    · cases h
  | ctx, .fixedSize size inner, m, h => (lower_hoisted _ inner h).above .fixedSize
  | ctx, .sizePrefix length inner, m, h => by
    rw [lower] at h
    split at h
    · cases h
    · rename_i number hnumber
      exact (lower_hoisted _ inner h).above (.sizePrefix hnumber)
  | ctx, .bytes, m, h => lowerBytes_hoisted h
  | ctx, .string encoding, m, h => by
    rw [lower] at h
    unfold lowerString at h
    split at h
    · cases h
    · cases h
    · split at h
      · cases h
        exact Manifest.hoisted_plain _ _ _
      · cases h
  | ctx, .array inner count, m, h => by
    rw [lower] at h
    obtain ⟨item, hitem, h⟩ := Generated.bind_eq_ok_iff.mp h
    exact lowerArray_hoisted ((lower_hoisted ctx.child inner hitem).above .array) h
  | ctx, .option inner flag fixed, m, h => by
    rw [lower] at h
    split at h
    · obtain ⟨item, hitem, h⟩ := Generated.bind_eq_ok_iff.mp h
      cases h
      exact ((lower_hoisted ctx.child inner hitem).above .option).wrap _
    · cases h
  | ctx, .struct nodes, m, h => by
    rw [lower] at h
    obtain ⟨-, -, h⟩ := Generated.bind_eq_ok_iff.mp h
    obtain ⟨fields, hfields, h⟩ := Generated.bind_eq_ok_iff.mp h
    cases h
    refine structManifest_hoisted hfields ?_
    intro d hd
    obtain ⟨node, hnode, hhoists⟩ := lowerFieldsOver_hoisted ctx.child nodes hfields d hd
    exact hhoists.above (.structField hnode)
  | ctx, .field node, m, h => by
    rw [lower] at h
    obtain ⟨field, hfield, h⟩ := Generated.bind_eq_ok_iff.mp h
    cases h
    exact lowerField_hoisted ctx node hfield
  | ctx, .enum variants size, m, h => lowerEnum_hoisted h
  | ctx, .variant node, m, h => lowerVariant_hoisted ctx node h
  | ctx, .tuple items, m, h => by
    rw [lower] at h
    obtain ⟨⟨types, includes, nested⟩, hitems, h⟩ := Generated.bind_eq_ok_iff.mp h
    cases h
    intro d hd
    obtain ⟨index, type, hitem, hhoists⟩ := lowerItems_hoisted ctx 0 items hitems d hd
    rw [Nat.zero_add] at hhoists
    exact hhoists.above (.item hitem)
  | ctx, .publicKey, m, h => by
    cases h
    exact Manifest.hoisted_plain _ _ _
  | ctx, .link name, m, h => by
    rw [lower] at h
    rw [← Except.ok.inj h]
    exact Manifest.hoisted_plain _ _ _
  | ctx, .map _ _ _, m, h => nomatch h
  | ctx, .set _ _, m, h => nomatch h

theorem lowerField_hoisted : ∀ (ctx : Context) (node : FieldNode) {field : LoweredField},
    lowerField target ctx node = .ok field →
      ∀ d ∈ field.nested, Hoists target ⟨ctx, .field node⟩ d
  | ctx, ⟨name, type, docs, defaultValue, strategy⟩, field, h => by
    rw [lowerField] at h
    obtain ⟨-, -, h⟩ := Generated.bind_eq_ok_iff.mp h
    obtain ⟨m, hm, h⟩ := Generated.bind_eq_ok_iff.mp h
    have hhoisted := lower_hoisted (ctx.field name) type (Generated.inside_eq_ok_iff.mp hm)
    intro d hd
    rw [fieldMember_nested h] at hd
    exact (hhoisted d hd).above .field

theorem lowerFieldsOver_hoisted : ∀ (ctx : Context) (nodes : List FieldNode)
    {includes : IncludeSet} {out : LoweredFields},
    lowerFieldsOver target ctx includes nodes = .ok out →
      ∀ d ∈ out.nested, ∃ node ∈ nodes, Hoists target ⟨ctx, .field node⟩ d
  | ctx, [], includes, out, h => by
    cases h
    exact List.forall_mem_nil _
  | ctx, node :: rest, includes, out, h => by
    rw [lowerFieldsOver] at h
    obtain ⟨first, hfirst, h⟩ := Generated.bind_eq_ok_iff.mp h
    obtain ⟨fields, hfields, h⟩ := Generated.bind_eq_ok_iff.mp h
    cases h
    intro d hd
    rcases List.mem_append.mp hd with hd | hd
    · exact ⟨node, List.mem_cons_self, lowerField_hoisted ctx node hfirst d hd⟩
    · obtain ⟨node', hnode, hhoists⟩ := lowerFieldsOver_hoisted ctx rest hfields d hd
      exact ⟨node', List.mem_cons_of_mem _ hnode, hhoists⟩

theorem lowerItems_hoisted : ∀ (ctx : Context) (start : Nat) (items : List TypeNode)
    {includes : IncludeSet} {out : List String × IncludeSet × List Declaration},
    lowerItems target ctx start includes items = .ok out →
      ∀ d ∈ out.2.2, ∃ index type, items[index]? = some type ∧
        Hoists target ⟨ctx.item (start + index), type⟩ d
  | ctx, start, [], includes, out, h => by
    cases h
    exact List.forall_mem_nil _
  | ctx, start, item :: rest, includes, out, h => by
    rw [lowerItems] at h
    obtain ⟨m, hm, h⟩ := Generated.bind_eq_ok_iff.mp h
    obtain ⟨⟨types, includes', nested⟩, hrest, h⟩ := Generated.bind_eq_ok_iff.mp h
    cases h
    intro d hd
    rw [Manifest.materialize_nested] at hd
    rcases List.mem_append.mp hd with hd | hd
    · exact ⟨0, item, rfl, lower_hoisted (ctx.item start) item hm d hd⟩
    · obtain ⟨index, type, hitem, hhoists⟩ := lowerItems_hoisted ctx (start + 1) rest hrest d hd
      refine ⟨index + 1, type, hitem, ?_⟩
      rwa [Nat.add_right_comm] at hhoists

theorem lowerVariant_hoisted : ∀ (ctx : Context) (node : VariantNode) {m : Manifest},
    lowerVariant target ctx node = .ok m → m.Hoisted target ⟨ctx, .variant node⟩
  | ctx, .empty name discriminator, m, h => by
    rw [lowerVariant] at h
    obtain ⟨-, -, h⟩ := Generated.bind_eq_ok_iff.mp h
    rw [← Except.ok.inj h]
    exact Manifest.hoisted_plain _ _ _
  | ctx, .struct name type discriminator, m, h => by
    rw [lowerVariant] at h
    obtain ⟨-, -, h⟩ := Generated.bind_eq_ok_iff.mp h
    obtain ⟨inner, hinner, h⟩ := Generated.bind_eq_ok_iff.mp h
    rw [← Except.ok.inj h]
    exact ((lower_hoisted _ type hinner).above .structVariant).asVariant name
  | ctx, .tuple name type discriminator, m, h => by
    rw [lowerVariant] at h
    obtain ⟨-, -, h⟩ := Generated.bind_eq_ok_iff.mp h
    obtain ⟨inner, hinner, h⟩ := Generated.bind_eq_ok_iff.mp h
    rw [← Except.ok.inj h]
    exact ((lower_hoisted _ type hinner).above .tupleVariant).asVariant name

end

/-- A struct that is lowered below a name is hoisted. -/
theorem Visit.Reaches.hoists {visit : Visit} {ctx : Context} {fields : List FieldNode}
    {m : Manifest} (h : visit.Reaches ⟨ctx, .struct fields⟩)
    (hm : lower target visit.ctx visit.type = .ok m) (hnested : ctx.nested = true)
    (hinlined : ctx.inlined = false) :
    ∃ members, Declaration.struct (target.flavor.structName ctx.parent) members ∈ m.nested ∧
      DeclaresInOrder (Declaration.struct (target.flavor.structName ctx.parent) members).text
        (target.flavor.structName ctx.parent) fields members := by
  obtain ⟨inner, hinner, hwithin⟩ := h.within hm
  rw [lower] at hinner
  obtain ⟨-, -, hinner⟩ := Generated.bind_eq_ok_iff.mp hinner
  obtain ⟨out, hout, hinner⟩ := Generated.bind_eq_ok_iff.mp hinner
  refine ⟨out.members, hwithin.nested _ ?_, lowerFieldsOver_declares hout _⟩
  rw [← Except.ok.inj hinner, structManifest, hinlined, if_neg Bool.false_ne_true, hnested,
    if_pos rfl]
  exact List.mem_append_right _ List.mem_cons_self

end

end ClientGen.Cpp
