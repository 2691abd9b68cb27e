import ClientGen.Proofs.Idl.Canonical
import ClientGen.Proofs.Json.Compact
/-!
# The canonical form is a text of JSON

The value that a document is written as has numbers where numbers are allowed, so its compact text
denotes it.
-/
namespace ClientGen.Idl

open ClientGen.Json

/-! ### Records and lists -/

private theorem membersCompact_record {fields : List (Key × Value)}
    (h : ∀ f ∈ fields, f.2.IsCompact) : MembersCompact (record fields) := by
  induction fields with
  | nil => trivial
  | cons field rest ih =>
    obtain ⟨hfield, hrest⟩ := List.forall_mem_cons.mp h
    exact ⟨rfl, hfield, ih hrest⟩

private theorem isCompact_node (kind : String) {fields : List (Key × Value)}
    (h : ∀ f ∈ fields, f.2.IsCompact) : (node kind fields).IsCompact :=
  membersCompact_record (List.forall_mem_cons.mpr ⟨trivial, h⟩)

private theorem itemsCompact_of_forall {items : List Value} (h : ∀ v ∈ items, v.IsCompact) :
    ItemsCompact items := by
  induction items with
  | nil => trivial
  | cons item rest ih =>
    obtain ⟨hitem, hrest⟩ := List.forall_mem_cons.mp h
    exact ⟨hitem, ih hrest⟩

private theorem isCompact_list {α : Type} {items : List α} {encode : α → Value}
    (h : ∀ a ∈ items, (encode a).IsCompact) : (Value.array (items.map encode)).IsCompact :=
  itemsCompact_of_forall (List.forall_mem_map.mpr h)

private theorem isCompact_textsValue (texts : List String) : (textsValue texts).IsCompact :=
  isCompact_list fun _ _ => trivial

private theorem isCompact_intValue (i : Int) : (intValue i).IsCompact := isNumeral_decimalText i

private theorem isCompact_intValue? (i : Option Int) : (intValue? i).IsCompact := by
  cases i with
  | none => trivial
  | some i => exact isCompact_intValue i

private theorem isCompact_linkValue? (kind : String) (link : Option String) :
    (linkValue? kind link).IsCompact := by
  cases link with
  | none => trivial
  | some name => exact isCompact_node _ (by simp [Value.IsCompact])

/-! ### Types and values -/

mutual

private theorem TypeNode.isCompact : ∀ t : TypeNode, t.isExpressible = true → t.canonical.IsCompact
  | .number type, _ => isCompact_node _ (by simp [Value.IsCompact])
  | .boolean size, h => isCompact_node _ (by simpa using size.isCompact h)
  | .fixedSize size type, h => by
    simp only [TypeNode.isExpressible, Bool.and_eq_true] at h
    exact isCompact_node _ (by simp [isCompact_intValue, type.isCompact h.2])
  | .sizePrefix length type, h => by
    simp only [TypeNode.isExpressible, Bool.and_eq_true] at h
    exact isCompact_node _ (by simp [length.isCompact h.1, type.isCompact h.2])
  | .bytes, _ => isCompact_node _ (by simp)
  | .string encoding, _ => isCompact_node _ (by simp [Value.IsCompact])
  | .array item count, h => by
    simp only [TypeNode.isExpressible, Bool.and_eq_true] at h
    exact isCompact_node _ (by simp [item.isCompact h.1, count.isCompact h.2])
  | .option item flag fixed, h => by
    simp only [TypeNode.isExpressible, Bool.and_eq_true] at h
    exact isCompact_node _ (by simp [item.isCompact h.1, flag.isCompact h.2, Value.IsCompact])
  | .struct fields, h =>
    isCompact_node _ (by simpa [Value.IsCompact] using itemsCompact_fields fields h)
  | .field field, h => field.isCompact h
  | .enum variants size, h => by
    simp only [TypeNode.isExpressible, Bool.and_eq_true] at h
    exact isCompact_node _
      (by simp [Value.IsCompact, itemsCompact_variants variants h.1, size.isCompact h.2])
  | .variant variant, h => variant.isCompact h
  | .map key value count, h => by
    simp only [TypeNode.isExpressible, Bool.and_eq_true] at h
    exact isCompact_node _
      (by simp [key.isCompact h.1.1, value.isCompact h.1.2, count.isCompact h.2])
  | .set item count, h => by
    simp only [TypeNode.isExpressible, Bool.and_eq_true] at h
    exact isCompact_node _ (by simp [item.isCompact h.1, count.isCompact h.2])
  | .tuple items, h =>
    isCompact_node _ (by simpa [Value.IsCompact] using itemsCompact_types items h)
  | .publicKey, _ => isCompact_node _ (by simp)
  | .link name, _ => isCompact_node _ (by simp [Value.IsCompact])
  | .amount number decimals unit, h => by
    simp only [TypeNode.isExpressible, Bool.and_eq_true] at h
    exact isCompact_node _
      (by simp [number.isCompact h.1, isCompact_intValue, Value.IsCompact])
  | .solAmount number, h => isCompact_node _ (by simpa using number.isCompact h)
  | .dateTime number, h => isCompact_node _ (by simpa using number.isCompact h)

private theorem itemsCompact_types : ∀ items : List TypeNode, areExpressibleTypes items = true →
    ItemsCompact (canonicalTypes items)
  | [], _ => trivial
  | type :: rest, h => by
    simp only [areExpressibleTypes, Bool.and_eq_true] at h
    exact ⟨type.isCompact h.1, itemsCompact_types rest h.2⟩

private theorem CountNode.isCompact :
    ∀ c : CountNode, c.isExpressible = true → c.canonical.IsCompact
  | .fixed value, _ => isCompact_node _ (by simp [isCompact_intValue])
  | .prefixed number, h => isCompact_node _ (by simpa using number.isCompact h)
  | .remainder, _ => isCompact_node _ (by simp)

private theorem FieldNode.isCompact :
    ∀ f : FieldNode, f.isExpressible = true → f.canonical.IsCompact
  | ⟨name, type, docs, defaultValue, strategy⟩, h => by
    simp only [FieldNode.isExpressible, Bool.and_eq_true] at h
    exact isCompact_node _ (by
      simp [Value.IsCompact, type.isCompact h.1, isCompact_textsValue,
        isCompact_value? defaultValue h.2])

private theorem itemsCompact_fields : ∀ fields : List FieldNode,
    areExpressibleFields fields = true → ItemsCompact (canonicalFields fields)
  | [], _ => trivial
  | field :: rest, h => by
    simp only [areExpressibleFields, Bool.and_eq_true] at h
    exact ⟨field.isCompact h.1, itemsCompact_fields rest h.2⟩

private theorem VariantNode.isCompact :
    ∀ v : VariantNode, v.isExpressible = true → v.canonical.IsCompact
  | .empty name discriminator, _ =>
    isCompact_node _ (by simp [Value.IsCompact, isCompact_intValue?])
  | .tuple name type discriminator, h => by
    simp only [VariantNode.isExpressible, Bool.and_eq_true] at h
    exact isCompact_node _ (by simp [Value.IsCompact, type.isCompact h.1, isCompact_intValue?])
  | .struct name type discriminator, h => by
    simp only [VariantNode.isExpressible, Bool.and_eq_true] at h
    exact isCompact_node _ (by simp [Value.IsCompact, type.isCompact h.1, isCompact_intValue?])

private theorem itemsCompact_variants : ∀ variants : List VariantNode,
    areExpressibleVariants variants = true → ItemsCompact (canonicalVariants variants)
  | [], _ => trivial
  | variant :: rest, h => by
    simp only [areExpressibleVariants, Bool.and_eq_true] at h
    exact ⟨variant.isCompact h.1, itemsCompact_variants rest h.2⟩

private theorem ValueNode.isCompact :
    ∀ v : ValueNode, v.isExpressible = true → v.canonical.IsCompact
  | .array items, h =>
    isCompact_node _ (by simpa [Value.IsCompact] using itemsCompact_values items h)
  | .boolean value, _ => isCompact_node _ (by simp [Value.IsCompact])
  | .bytes data encoding, _ => isCompact_node _ (by simp [Value.IsCompact])
  | .constant type value, h => by
    simp only [ValueNode.isExpressible, Bool.and_eq_true] at h
    exact isCompact_node _ (by simp [type.isCompact h.1, value.isCompact h.2])
  | .enum link variant payload, h => by
    simp only [ValueNode.isExpressible, Bool.and_eq_true] at h
    exact isCompact_node _
      (by simp [isCompact_linkValue?, Value.IsCompact, isCompact_value? payload h.2])
  | .map entries, h =>
    isCompact_node _ (by simpa [Value.IsCompact] using itemsCompact_entries entries h)
  | .entry entry, h => entry.isCompact h
  | .absent, _ => isCompact_node _ (by simp)
  | .number text, h =>
    isCompact_node _ (by simpa [Value.IsCompact] using isNumeral_of_isNumber h)
  | .publicKey key identifier, _ => isCompact_node _ (by simp [Value.IsCompact])
  | .set items, h =>
    isCompact_node _ (by simpa [Value.IsCompact] using itemsCompact_values items h)
  | .present value, h => isCompact_node _ (by simpa using value.isCompact h)
  | .string text, _ => isCompact_node _ (by simp [Value.IsCompact])
  | .struct fields, h =>
    isCompact_node _ (by simpa [Value.IsCompact] using itemsCompact_valueFields fields h)
  | .field field, h => field.isCompact h
  | .tuple items, h =>
    isCompact_node _ (by simpa [Value.IsCompact] using itemsCompact_values items h)
  | .placeholder kind name, _ => isCompact_node _ (by simp [Value.IsCompact])

private theorem isCompact_value? : ∀ value : Option ValueNode, isExpressibleValue? value = true →
    (canonicalValue? value).IsCompact
  | none, _ => trivial
  | some value, h => value.isCompact h

private theorem itemsCompact_values : ∀ items : List ValueNode,
    areExpressibleValues items = true → ItemsCompact (canonicalValues items)
  | [], _ => trivial
  | value :: rest, h => by
    simp only [areExpressibleValues, Bool.and_eq_true] at h
    exact ⟨value.isCompact h.1, itemsCompact_values rest h.2⟩

private theorem EntryNode.isCompact :
    ∀ e : EntryNode, e.isExpressible = true → e.canonical.IsCompact
  | ⟨key, value⟩, h => by
    simp only [EntryNode.isExpressible, Bool.and_eq_true] at h
    exact isCompact_node _ (by simp [key.isCompact h.1, value.isCompact h.2])

private theorem itemsCompact_entries : ∀ entries : List EntryNode,
    areExpressibleEntries entries = true → ItemsCompact (canonicalEntries entries)
  | [], _ => trivial
  | entry :: rest, h => by
    simp only [areExpressibleEntries, Bool.and_eq_true] at h
    exact ⟨entry.isCompact h.1, itemsCompact_entries rest h.2⟩

private theorem ValueFieldNode.isCompact :
    ∀ f : ValueFieldNode, f.isExpressible = true → f.canonical.IsCompact
  | ⟨name, value⟩, h => isCompact_node _ (by simpa [Value.IsCompact] using value.isCompact h)

private theorem itemsCompact_valueFields : ∀ fields : List ValueFieldNode,
    areExpressibleValueFields fields = true → ItemsCompact (canonicalValueFields fields)
  | [], _ => trivial
  | field :: rest, h => by
    simp only [areExpressibleValueFields, Bool.and_eq_true] at h
    exact ⟨field.isCompact h.1, itemsCompact_valueFields rest h.2⟩

end

/-! ### Programs -/

private theorem SeedNode.isCompact {seed : SeedNode} (h : seed.isExpressible = true) :
    seed.canonical.IsCompact := by
  cases seed with
  | constant type value =>
    simp only [SeedNode.isExpressible, Bool.and_eq_true] at h
    exact isCompact_node _ (by simp [type.isCompact h.1, value.isCompact h.2])
  | «variable» name docs type =>
    exact isCompact_node _ (by simp [Value.IsCompact, isCompact_textsValue, type.isCompact h])

private theorem PdaNode.isCompact {pda : PdaNode} (h : pda.isExpressible = true) :
    pda.canonical.IsCompact := by
  have hseeds := isCompact_list fun seed hseed =>
    SeedNode.isCompact (List.all_eq_true.mp h seed hseed)
  exact isCompact_node _ (by simpa [Value.IsCompact, isCompact_textsValue] using hseeds)

private theorem AccountNode.isCompact {a : AccountNode} (h : a.isExpressible = true) :
    a.canonical.IsCompact := by
  simp only [AccountNode.isExpressible, Bool.and_eq_true] at h
  exact isCompact_node _ (by
    simp [Value.IsCompact, isCompact_textsValue, a.data.isCompact h.1, isCompact_linkValue?,
      isCompact_intValue?])

private theorem InstructionAccountNode.isCompact {a : InstructionAccountNode}
    (h : a.isExpressible = true) : a.canonical.IsCompact := by
  have hsigner : a.signer.canonical.IsCompact := by cases a.signer <;> trivial
  exact isCompact_node _ (by
    simp [Value.IsCompact, isCompact_textsValue, hsigner, isCompact_value? a.defaultValue h])

private theorem ArgumentNode.isCompact {a : ArgumentNode} (h : a.isExpressible = true) :
    a.canonical.IsCompact := by
  simp only [ArgumentNode.isExpressible, Bool.and_eq_true] at h
  exact isCompact_node _ (by
    simp [Value.IsCompact, isCompact_textsValue, a.type.isCompact h.1,
      isCompact_value? a.defaultValue h.2])

mutual

private theorem InstructionNode.isCompact :
    ∀ ix : InstructionNode, ix.isExpressible = true → ix.canonical.IsCompact
  | ⟨name, docs, accounts, arguments, subs, isInternal⟩, h => by
    simp only [InstructionNode.isExpressible, Bool.and_eq_true, List.all_eq_true] at h
    have haccounts := isCompact_list fun a ha => InstructionAccountNode.isCompact (h.1.1 a ha)
    have harguments := isCompact_list fun a ha => ArgumentNode.isCompact (h.1.2 a ha)
    have hsubs := itemsCompact_instructions subs h.2
    simp only [Value.IsCompact] at haccounts harguments
    exact isCompact_node _ (by
      simp [Value.IsCompact, isCompact_textsValue, haccounts, harguments, hsubs])

private theorem itemsCompact_instructions : ∀ ixs : List InstructionNode,
    areExpressibleInstructions ixs = true → ItemsCompact (canonicalInstructions ixs)
  | [], _ => trivial
  | ix :: rest, h => by
    simp only [areExpressibleInstructions, Bool.and_eq_true] at h
    exact ⟨ix.isCompact h.1, itemsCompact_instructions rest h.2⟩

end

private theorem DefinedTypeNode.isCompact {d : DefinedTypeNode} (h : d.isExpressible = true) :
    d.canonical.IsCompact :=
  isCompact_node _ (by simp [Value.IsCompact, isCompact_textsValue, d.type.isCompact h])

private theorem ErrorNode.isCompact (e : ErrorNode) : e.canonical.IsCompact :=
  isCompact_node _ (by simp [Value.IsCompact, isCompact_intValue, isCompact_textsValue])

private theorem ProgramNode.isCompact {p : ProgramNode} (h : p.isExpressible = true) :
    p.canonical.IsCompact := by
  simp only [ProgramNode.isExpressible, Bool.and_eq_true, List.all_eq_true] at h
  obtain ⟨⟨⟨⟨haccounts, hinstructions⟩, htypes⟩, hpdas⟩, -⟩ := h
  have haccounts := isCompact_list fun a ha => AccountNode.isCompact (haccounts a ha)
  have hinstructions := itemsCompact_instructions p.instructions hinstructions
  have htypes := isCompact_list fun d hd => DefinedTypeNode.isCompact (htypes d hd)
  have hpdas := isCompact_list fun pda hpda => PdaNode.isCompact (hpdas pda hpda)
  have herrors := isCompact_list fun e (_ : e ∈ p.errors) => e.isCompact
  simp only [Value.IsCompact] at haccounts htypes hpdas herrors
  exact isCompact_node _ (by
    simp [Value.IsCompact, isCompact_textsValue, haccounts, hinstructions, htypes, hpdas, herrors])

theorem RootNode.canonical_isCompact {root : RootNode} (h : root.isExpressible = true) :
    root.canonical.IsCompact := by
  simp only [RootNode.isExpressible, RootNode.programs, List.all_cons, Bool.and_eq_true,
    List.all_eq_true] at h
  have hprogram := ProgramNode.isCompact h.1
  have hadditional := isCompact_list fun p hp => ProgramNode.isCompact (h.2 p hp)
  simp only [Value.IsCompact] at hadditional
  exact isCompact_node _ (by simp [Value.IsCompact, hprogram, hadditional])

end ClientGen.Idl
