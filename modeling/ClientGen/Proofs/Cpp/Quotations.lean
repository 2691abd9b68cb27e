import ClientGen.Proofs.Cpp.Parts
import ClientGen.Proofs.Cpp.Writable
import ClientGen.Proofs.Text.Quoting
/-!
# Quotations in lowered types

The strings and addresses of a value stand quoted in its expression. The initial values of all
fields that are lowered along with a type stand in the type or in one of its declarations, and so do
the texts that they quote.
-/
namespace ClientGen.Cpp

open ClientGen.Idl

/-! ### Values -/

section

variable {target : Target} {short : Bool}

/-- A node whose own expression stands in a text. -/
def WrittenIn (target : Target) (short : Bool) (text : String) (node : ValueNode) : Prop :=
  ∃ l, literal target short node = .ok l ∧ StandsIn l.text text

theorem WrittenIn.trans {text whole : String} {node : ValueNode}
    (h : WrittenIn target short text node) (hwhole : StandsIn text whole) :
    WrittenIn target short whole node := by
  obtain ⟨l, hl, htext⟩ := h
  exact ⟨l, hl, htext.trans hwhole⟩

mutual

/-- The expression of a value holds the expressions of all nodes that are written out. -/
theorem literal_holds : ∀ (value : ValueNode) {l : Literal}, literal target short value = .ok l →
    ∀ node ∈ writtenNodes value, WrittenIn target short l.text node
  | .array items, l, h => by
    refine List.forall_mem_cons.mpr ⟨⟨l, h, .refl _⟩, ?_⟩
    rw [literal] at h
    obtain ⟨⟨texts, includes⟩, hitems, h⟩ := Generated.bind_eq_ok_iff.mp h
    cases h
    intro node hnode
    obtain ⟨text, htext, hwritten⟩ := literals_hold items hitems node hnode
    exact hwritten.trans (((StandsIn.refl text).intercalate htext ", ").around _ _)
  | .tuple items, l, h => by
    refine List.forall_mem_cons.mpr ⟨⟨l, h, .refl _⟩, ?_⟩
    rw [literal] at h
    obtain ⟨⟨texts, includes⟩, hitems, h⟩ := Generated.bind_eq_ok_iff.mp h
    cases h
    intro node hnode
    obtain ⟨text, htext, hwritten⟩ := literals_hold items hitems node hnode
    exact hwritten.trans (((StandsIn.refl text).intercalate htext ", ").around _ _)
  | .struct fields, l, h => by
    refine List.forall_mem_cons.mpr ⟨⟨l, h, .refl _⟩, ?_⟩
    rw [literal] at h
    obtain ⟨⟨texts, includes⟩, hfields, h⟩ := Generated.bind_eq_ok_iff.mp h
    intro node hnode
    obtain ⟨text, htext, hwritten⟩ := fieldLiterals_hold fields hfields node hnode
    -- A struct without fields is written without a body, but then there is no node either.
    have hnonempty : texts.isEmpty = false := by
      rw [List.isEmpty_eq_false_iff]
      exact List.ne_nil_of_mem htext
    simp only [hnonempty] at h
    cases h
    exact hwritten.trans (((StandsIn.refl text).intercalate htext ", ").around _ _)
  | .field node, l, h => fieldLiteral_holds node h
  | .enum none variant payload, l, h => nomatch h
  | .enum (some link) variant none, l, h =>
    List.forall_mem_singleton.mpr ⟨l, h, .refl _⟩
  | .enum (some link) variant (some payload), l, h => by
    refine List.forall_mem_cons.mpr ⟨⟨l, h, .refl _⟩, ?_⟩
    rw [literal, payloadLiteral, bind_assoc] at h
    obtain ⟨inner, hinner, h⟩ := Generated.bind_eq_ok_iff.mp h
    cases h
    intro node hnode
    exact (literal_holds payload hinner node hnode).trans ((StandsIn.refl _).behind _)
  | .present value, l, h => by
    refine List.forall_mem_cons.mpr ⟨⟨l, h, .refl _⟩, ?_⟩
    rw [literal] at h
    obtain ⟨inner, hinner, h⟩ := Generated.bind_eq_ok_iff.mp h
    cases h
    intro node hnode
    exact (literal_holds value hinner node hnode).trans ((StandsIn.refl _).around _ _)
  | .number _, l, h | .boolean _, l, h | .string _, l, h | .bytes _ _, l, h
  | .publicKey _ _, l, h | .constant _ _, l, h | .map _, l, h | .entry _, l, h | .set _, l, h
  | .absent, l, h | .placeholder _ _, l, h =>
    List.forall_mem_singleton.mpr ⟨l, h, .refl _⟩

theorem literals_hold : ∀ (items : List ValueNode) {includes : IncludeSet}
    {out : List String × IncludeSet}, literals target short includes items = .ok out →
    ∀ node ∈ writtenItems items, ∃ text ∈ out.1, WrittenIn target short text node
  | [], _, _, _ => nofun
  | value :: rest, includes, out, h => by
    rw [literals] at h
    obtain ⟨first, hfirst, h⟩ := Generated.bind_eq_ok_iff.mp h
    obtain ⟨⟨texts, includes'⟩, hrest, h⟩ := Generated.bind_eq_ok_iff.mp h
    cases h
    intro node hnode
    rcases List.mem_append.mp hnode with hnode | hnode
    · exact ⟨first.text, List.mem_cons_self, literal_holds value hfirst node hnode⟩
    · obtain ⟨text, htext, hwritten⟩ := literals_hold rest hrest node hnode
      exact ⟨text, List.mem_cons_of_mem _ htext, hwritten⟩

theorem fieldLiteral_holds : ∀ (node : ValueFieldNode) {l : Literal},
    fieldLiteral target short node = .ok l →
    ∀ below ∈ writtenField node, WrittenIn target short l.text below
  | ⟨name, value⟩, l, h => by
    refine List.forall_mem_cons.mpr ⟨⟨l, h, .refl _⟩, ?_⟩
    rw [fieldLiteral] at h
    obtain ⟨inner, hinner, h⟩ := Generated.bind_eq_ok_iff.mp h
    cases h
    intro node hnode
    exact (literal_holds value hinner node hnode).trans ((StandsIn.refl _).behind _)

theorem fieldLiterals_hold : ∀ (fields : List ValueFieldNode) {includes : IncludeSet}
    {out : List String × IncludeSet}, fieldLiterals target short includes fields = .ok out →
    ∀ node ∈ writtenFields fields, ∃ text ∈ out.1, WrittenIn target short text node
  | [], _, _, _ => nofun
  | field :: rest, includes, out, h => by
    rw [fieldLiterals] at h
    obtain ⟨first, hfirst, h⟩ := Generated.bind_eq_ok_iff.mp h
    obtain ⟨⟨texts, includes'⟩, hrest, h⟩ := Generated.bind_eq_ok_iff.mp h
    cases h
    intro node hnode
    rcases List.mem_append.mp hnode with hnode | hnode
    · exact ⟨first.text, List.mem_cons_self, fieldLiteral_holds field hfirst node hnode⟩
    · obtain ⟨text, htext, hwritten⟩ := fieldLiterals_hold rest hrest node hnode
      exact ⟨text, List.mem_cons_of_mem _ htext, hwritten⟩

end

/-- The text that a node quotes: a string, or an address. -/
def quotedText? : ValueNode → Option String
  | .string text => some text
  | .publicKey key _ => some key
  | .constant .publicKey (.publicKey key _) => some key
  | _ => none

/-- The texts that the expression of a value quotes. -/
def quotedTexts (value : ValueNode) : List String := (writtenNodes value).filterMap quotedText?

theorem stringLiteral_quotes (text : String) :
    StandsIn (Text.quoted text) (stringLiteral target short text).text := by
  cases short with
  | true => exact .refl _
  | false => exact (StandsIn.refl _).around _ _

theorem publicKeyLiteral_quotes {key : String} {l : Literal}
    (h : publicKeyLiteral target key = .ok l) : StandsIn (Text.quoted key) l.text := by
  unfold publicKeyLiteral at h
  split at h
  · cases h
  · cases h
    exact (StandsIn.refl _).around _ _

theorem literal_quotes {value : ValueNode} {l : Literal} (h : literal target short value = .ok l)
    {s : String} (hs : s ∈ quotedTexts value) : StandsIn (Text.quoted s) l.text := by
  obtain ⟨node, hnode, hquoted⟩ := List.mem_filterMap.mp hs
  obtain ⟨part, hpart, hstands⟩ := literal_holds value h node hnode
  refine StandsIn.trans ?_ hstands
  unfold quotedText? at hquoted
  split at hquoted
  · cases hquoted
    cases hpart
    exact stringLiteral_quotes _
  · cases hquoted
    exact publicKeyLiteral_quotes hpart
  · cases hquoted
    exact publicKeyLiteral_quotes hpart
  · cases hquoted

end

/-! ### Fields -/

section

variable {target : Target} {m : Manifest}

/-- The initial value of a field stands in its member. -/
theorem fieldMember_quotes {assignable : Bool} {name : String} {docs : List String}
    {value : ValueNode} {out : LoweredField}
    (hout : fieldMember target assignable name docs (some value) m = .ok out) {s : String}
    (hs : s ∈ quotedTexts value) : StandsIn (Text.quoted s) out.member.text := by
  obtain ⟨initial, hinitial, hout⟩ := Generated.bind_eq_ok_iff.mp hout
  cases hout
  exact Member.holds_initial rfl (literal_quotes (Generated.inside_eq_ok_iff.mp hinitial) hs)

/-- The texts that the initial value of a field quotes. -/
def presetTexts (node : FieldNode) : List String :=
  (presetValue node.defaultValue node.strategy).toList.flatMap quotedTexts

/-- A type below which a field quotes a text. -/
def Visit.Quotes (visit : Visit) (s : String) : Prop :=
  ∃ ctx node, visit.Reaches ⟨ctx, .field node⟩ ∧ s ∈ presetTexts node

theorem lower_field_quotes {ctx : Context} {node : FieldNode}
    (h : lower target ctx (.field node) = .ok m) {s : String} (hs : s ∈ presetTexts node) :
    StandsIn (Text.quoted s) m.type := by
  obtain ⟨value, hvalue, hquoted⟩ := List.mem_flatMap.mp hs
  obtain ⟨name, type, docs, defaultValue, strategy⟩ := node
  rw [Option.mem_toList] at hvalue
  rw [lower, lowerField, hvalue] at h
  obtain ⟨field, hfield, h⟩ := Generated.bind_eq_ok_iff.mp h
  obtain ⟨-, -, hfield⟩ := Generated.bind_eq_ok_iff.mp hfield
  obtain ⟨inner, -, hfield⟩ := Generated.bind_eq_ok_iff.mp hfield
  cases h
  exact fieldMember_quotes hfield hquoted

/-- A lowered type quotes the initial values of all fields that are lowered along with it. -/
theorem lower_quotes {ctx : Context} {type : TypeNode} (hm : lower target ctx type = .ok m)
    {s : String} (hs : Visit.Quotes ⟨ctx, type⟩ s) : m.Holds (Text.quoted s) := by
  obtain ⟨below, node, hreaches, hs⟩ := hs
  obtain ⟨inner, hinner, hwithin⟩ := hreaches.within hm
  exact hwithin.holds _ (Text.newline_not_mem_quoted s) (lower_field_quotes hinner hs)

end

end ClientGen.Cpp
