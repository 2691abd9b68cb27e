import ClientGen.Proofs.Idl.Members
/-!
# Decoding the canonical form of types and values

A type or a value that can be expressed is decoded from the value that it is written as. The proof
follows the mutual recursion of nodes, with a case for each kind.
-/
namespace ClientGen.Idl

open ClientGen.Json

@[simp] theorem Decoded.inside_ok {α : Type} (place : Place) (a : α) :
    Decoded.inside place (.ok a) = .ok a := rfl

@[simp] theorem Decoded.ok_bind {α β : Type} (a : α) (f : α → Decoded β) :
    ((Except.ok a : Decoded α) >>= f) = f a := rfl

@[simp] theorem Decoded.pure_eq {α : Type} (a : α) : (pure a : Decoded α) = .ok a := rfl

/-! ### Kinds -/

@[simp] theorem TypeKind.ofName?_name (k : TypeKind) : TypeKind.ofName? k.name = some k := by
  cases k <;> decide

@[simp] theorem CountKind.ofName?_name (k : CountKind) : CountKind.ofName? k.name = some k := by
  cases k <;> decide

@[simp] theorem ValueKind.ofName?_name (k : ValueKind) : ValueKind.ofName? k.name = some k := by
  cases k <;> decide

@[simp] theorem Placeholder.ofName?_name (p : Placeholder) :
    Placeholder.ofName? p.name = some p := by
  cases p <;> decide

@[simp] theorem Placeholder.ofName?_valueKind (k : ValueKind) :
    Placeholder.ofName? k.name = none := by
  cases k <;> decide

private theorem TypeKind.isEmpty_name (k : TypeKind) : k.name.isEmpty = false := by
  cases k <;> decide

private theorem CountKind.isEmpty_name (k : CountKind) : k.name.isEmpty = false := by
  cases k <;> decide

private theorem ValueKind.isEmpty_name (k : ValueKind) : k.name.isEmpty = false := by
  cases k <;> decide

private theorem Placeholder.isEmpty_name (p : Placeholder) : p.name.isEmpty = false := by
  cases p <;> decide

/-! ### Types and values -/

theorem all_cons {α : Type} {p : α → Bool} {a : α} {l : List α} (ha : p a = true)
    (hl : l.all p = true) : (a :: l).all p = true := by
  rw [List.all_cons, ha, hl]
  rfl

private theorem isEmpty_of_isNumber {text : String} (h : isNumber text = true) :
    text.isEmpty = false := by
  obtain ⟨t, ht⟩ : ∃ t, readNumber text.toList = some (t, []) := by
    unfold isNumber at h
    split at h
    · exact ⟨_, ‹_›⟩
    · cases h
  have hne : text ≠ "" := by
    rintro rfl
    cases ht
  simpa using hne

private theorem requireShape_type {fields : List (Key × Value)}
    (h : (fields.all fun f => (List.lookup f.1
      [(Key.format, FieldType.text), (.endian, .text), (.encoding, .text), (.name, .text),
       (.size, .any), (.type, .any), (.lengthPrefix, .any), (.item, .any), (.items, .list),
       (.count, .any), (.fixed, .flag), (.fields, .list), (.docs, .texts), (.defaultValue, .any),
       (.defaultValueStrategy, .text), (.variants, .list), (.discriminator, .int),
       (.struct, .any), (.tuple, .any), (.key, .any), (.value, .any), (.number, .any),
       (.decimals, .int), (.unit, .text)]).all (·.accepts f.2)) = true) :
    requireShape typeShape (record fields) = .ok () :=
  requireShape_record _ h

private theorem requireShape_value {fields : List (Key × Value)}
    (h : (fields.all fun f => (List.lookup f.1
      [(Key.items, FieldType.list), (.entries, .list), (.fields, .list), (.type, .any),
       (.value, .any), (.key, .any), (.enum, .any), (.variant, .text), (.name, .text),
       (.boolean, .flag), (.number, .number), (.string, .text), (.publicKey, .text),
       (.identifier, .text), (.data, .text), (.encoding, .text)]).all (·.accepts f.2)) = true) :
    requireShape valueShape (record fields) = .ok () :=
  requireShape_record _ h

private theorem TypeNode.canonical_ne_null (t : TypeNode) : t.canonical ≠ .null := by
  cases t with
  | field field => cases field; simp [TypeNode.canonical, FieldNode.canonical, node]
  | variant variant => cases variant <;> simp [TypeNode.canonical, VariantNode.canonical, node]
  | _ => simp [TypeNode.canonical, node]

private theorem ValueNode.canonical_ne_null (v : ValueNode) : v.canonical ≠ .null := by
  cases v with
  | entry entry => cases entry; simp [ValueNode.canonical, EntryNode.canonical, node]
  | field field => cases field; simp [ValueNode.canonical, ValueFieldNode.canonical, node]
  | _ => simp [ValueNode.canonical, node]

private theorem requiredLink_canonical (name : String) (fields : List (Key × Value))
    (h : fieldValues .enum fields = [linkValue? (TypeKind.name .link) (some name)]) :
    requiredLink "enum" (record fields) = .ok name := by
  have hshape : requireShape [("name", .text)]
      (record [(.kind, .string (TypeKind.name .link)), (.name, .string name)]) = .ok () :=
    requireShape_record [(.name, .text)] rfl
  rw [requiredLink, lastMember?_record .enum, h]
  simp [Member.of, linkValue?, node, membersOf, hshape, textOf_record .name]

private theorem decodeTypeOr_of_ne_null {v : Value} (h : v ≠ .null) :
    decodeTypeOr v = decodeType v := by
  rw [decodeTypeOr]
  exact h

mutual

theorem decodeType_canonical : ∀ t : TypeNode, t.isExpressible = true →
    decodeType t.canonical = .ok t
  | .number type, h => by
    have hendian : type.endian.isEmpty = false := by simpa [TypeNode.isExpressible] using h
    refine (decodeType.eq_2 _).trans ?_
    rw [kindOf_record (TypeKind.isEmpty_name _) rfl, requireShape_type rfl]
    simp [textOr, textOf_record .format, textOf_record .endian, hendian]
  | .boolean size, h => by
    have hsize := decodeType_canonical size h
    refine (decodeType.eq_2 _).trans ?_
    rw [kindOf_record (TypeKind.isEmpty_name _) rfl, requireShape_type rfl]
    simp [lastValue_record .size, decodeTypeOr_of_ne_null size.canonical_ne_null, hsize]
  | .fixedSize size type, h => by
    simp only [TypeNode.isExpressible, Bool.and_eq_true] at h
    have hsize : requiredInt "size" (record [(.kind, .string (TypeKind.name .fixedSize)),
        (.size, intValue size), (.type, type.canonical)]) = .ok size :=
      requiredInt_record .size _ rfl h.1
    have htype := decodeType_canonical type h.2
    refine (decodeType.eq_2 _).trans ?_
    rw [kindOf_record (TypeKind.isEmpty_name _) rfl, requireShape_type rfl]
    simp [hsize, lastValue_record .type, htype]
  | .sizePrefix length type, h => by
    simp only [TypeNode.isExpressible, Bool.and_eq_true] at h
    have hlength := decodeType_canonical length h.1
    have htype := decodeType_canonical type h.2
    refine (decodeType.eq_2 _).trans ?_
    rw [kindOf_record (TypeKind.isEmpty_name _) rfl, requireShape_type rfl]
    simp [lastValue_record .lengthPrefix, lastValue_record .type, hlength, htype]
  | .bytes, _ => by
    refine (decodeType.eq_2 _).trans ?_
    rw [kindOf_record (TypeKind.isEmpty_name _) rfl, requireShape_type rfl]
    simp
  | .string encoding, h => by
    have hencoding : encoding.isEmpty = false := by simpa [TypeNode.isExpressible] using h
    refine (decodeType.eq_2 _).trans ?_
    rw [kindOf_record (TypeKind.isEmpty_name _) rfl, requireShape_type rfl]
    simp [textOr, textOf_record .encoding, hencoding]
  | .array item count, h => by
    simp only [TypeNode.isExpressible, Bool.and_eq_true] at h
    have hitem := decodeType_canonical item h.1
    have hcount := decodeCount_canonical count h.2
    refine (decodeType.eq_2 _).trans ?_
    rw [kindOf_record (TypeKind.isEmpty_name _) rfl, requireShape_type rfl]
    simp [lastValue_record .item, lastValue_record .count, hitem, hcount]
  | .option item flag fixed, h => by
    simp only [TypeNode.isExpressible, Bool.and_eq_true] at h
    have hitem := decodeType_canonical item h.1
    have hflag := decodeType_canonical flag h.2
    refine (decodeType.eq_2 _).trans ?_
    rw [kindOf_record (TypeKind.isEmpty_name _) rfl, requireShape_type rfl]
    simp [lastValue_record .item, lastValue_record .lengthPrefix, flagOf_record .fixed,
      decodeTypeOr_of_ne_null flag.canonical_ne_null, hitem, hflag]
  | .struct fields, h => by
    have hfields := decodeFields_canonical fields (TypeKind.name .struct) 0 h
    refine (decodeType.eq_2 _).trans ?_
    rw [kindOf_record (TypeKind.isEmpty_name _) rfl, requireShape_type rfl]
    simp [listOf_record .fields, hfields]
  | .field field, h => decodeField_canonical field h
  | .enum variants size, h => by
    simp only [TypeNode.isExpressible, Bool.and_eq_true] at h
    have hvariants := decodeVariants_canonical variants (TypeKind.name .enum) 0 h.1
    have hsize := decodeType_canonical size h.2
    refine (decodeType.eq_2 _).trans ?_
    rw [kindOf_record (TypeKind.isEmpty_name _) rfl, requireShape_type rfl]
    simp [listOf_record .variants, lastValue_record .size,
      decodeTypeOr_of_ne_null size.canonical_ne_null, hvariants, hsize]
  | .variant variant, h => decodeVariant_canonical variant h
  | .map key value count, h => by
    simp only [TypeNode.isExpressible, Bool.and_eq_true] at h
    have hkey := decodeType_canonical key h.1.1
    have hvalue := decodeType_canonical value h.1.2
    have hcount := decodeCount_canonical count h.2
    refine (decodeType.eq_2 _).trans ?_
    rw [kindOf_record (TypeKind.isEmpty_name _) rfl, requireShape_type rfl]
    simp [lastValue_record .key, lastValue_record .value, lastValue_record .count, hkey, hvalue,
      hcount]
  | .set item count, h => by
    simp only [TypeNode.isExpressible, Bool.and_eq_true] at h
    have hitem := decodeType_canonical item h.1
    have hcount := decodeCount_canonical count h.2
    refine (decodeType.eq_2 _).trans ?_
    rw [kindOf_record (TypeKind.isEmpty_name _) rfl, requireShape_type rfl]
    simp [lastValue_record .item, lastValue_record .count, hitem, hcount]
  | .tuple items, h => by
    have hitems := decodeTypes_canonical items (TypeKind.name .tuple) 0 h
    refine (decodeType.eq_2 _).trans ?_
    rw [kindOf_record (TypeKind.isEmpty_name _) rfl, requireShape_type rfl]
    simp [listOf_record .items, hitems]
  | .publicKey, _ => by
    refine (decodeType.eq_2 _).trans ?_
    rw [kindOf_record (TypeKind.isEmpty_name _) rfl, requireShape_type rfl]
    simp
  | .link name, _ => by
    refine (decodeType.eq_2 _).trans ?_
    rw [kindOf_record (TypeKind.isEmpty_name _) rfl, requireShape_type rfl]
    simp [textOf_record .name]
  | .amount number decimals unit, h => by
    simp only [TypeNode.isExpressible, Bool.and_eq_true] at h
    have hnumber := decodeType_canonical number h.1
    refine (decodeType.eq_2 _).trans ?_
    rw [kindOf_record (TypeKind.isEmpty_name _) rfl, requireShape_type]
    · simp [lastValue_record .number, hnumber, intOf_record .decimals, integer?_intValue h.2,
        textOf_record .unit]
    · exact all_cons rfl <| all_cons rfl <| all_cons (accepts_intValue h.2) rfl
  | .solAmount number, h => by
    have hnumber := decodeType_canonical number h
    refine (decodeType.eq_2 _).trans ?_
    rw [kindOf_record (TypeKind.isEmpty_name _) rfl, requireShape_type rfl]
    simp [lastValue_record .number, hnumber]
  | .dateTime number, h => by
    have hnumber := decodeType_canonical number h
    refine (decodeType.eq_2 _).trans ?_
    rw [kindOf_record (TypeKind.isEmpty_name _) rfl, requireShape_type rfl]
    simp [lastValue_record .number, hnumber]

theorem decodeTypes_canonical : ∀ (items : List TypeNode) (kind : String) (index : Nat),
    areExpressibleTypes items = true → decodeTypes kind index (canonicalTypes items) = .ok items
  | [], _, _, _ => by rw [canonicalTypes, decodeTypes]
  | type :: rest, kind, index, h => by
    simp only [areExpressibleTypes, Bool.and_eq_true] at h
    have htype := decodeType_canonical type h.1
    have hrest := decodeTypes_canonical rest kind (index + 1) h.2
    rw [canonicalTypes, decodeTypes, htype, hrest]
    rfl

theorem decodeCount_canonical : ∀ count : CountNode, count.isExpressible = true →
    decodeCount count.canonical = .ok count
  | .fixed value, h => by
    have hshape : requireShape [("value", .int)]
        (record [(.kind, .string (CountKind.name .fixed)), (.value, intValue value)]) = .ok () :=
      requireShape_record [(.value, .int)] (all_cons rfl <| all_cons (accepts_intValue h) rfl)
    refine (decodeCount.eq_2 _).trans ?_
    rw [kindOf_record (CountKind.isEmpty_name _) rfl]
    simp [hshape, intOf_record .value, integer?_intValue h]
  | .prefixed number, h => by
    have hnumber := decodeType_canonical number h
    refine (decodeCount.eq_2 _).trans ?_
    rw [kindOf_record (CountKind.isEmpty_name _) rfl]
    simp [lastValue_record .lengthPrefix, hnumber]
  | .remainder, _ => by
    refine (decodeCount.eq_2 _).trans ?_
    rw [kindOf_record (CountKind.isEmpty_name _) rfl]
    simp

theorem decodeField_canonical : ∀ field : FieldNode, field.isExpressible = true →
    decodeType field.canonical = .ok (.field field)
  | ⟨name, type, docs, defaultValue, strategy⟩, h => by
    simp only [FieldNode.isExpressible, Bool.and_eq_true] at h
    have htype := decodeType_canonical type h.1
    have hvalue := decodeValue?_canonical defaultValue h.2
    refine (decodeType.eq_2 _).trans ?_
    rw [kindOf_record (TypeKind.isEmpty_name _) rfl, requireShape_type]
    · simp [textOf_record .name, lastValue_record .type, lastValue_record .defaultValue, htype,
        hvalue, textsOf_record .docs, textOf_record .defaultValueStrategy]
    · exact all_cons rfl <| all_cons rfl <| all_cons rfl <| all_cons (accepts_textsValue docs) rfl

theorem decodeFields_canonical : ∀ (fields : List FieldNode) (kind : String) (index : Nat),
    areExpressibleFields fields = true →
      decodeFields kind index (canonicalFields fields) = .ok fields
  | [], _, _, _ => by rw [canonicalFields, decodeFields]
  | field :: rest, kind, index, h => by
    simp only [areExpressibleFields, Bool.and_eq_true] at h
    have hfield := decodeField_canonical field h.1
    have hrest := decodeFields_canonical rest kind (index + 1) h.2
    rw [canonicalFields, decodeFields]
    simp [hfield, TypeNode.field?, hrest]

theorem decodeVariant_canonical : ∀ variant : VariantNode, variant.isExpressible = true →
    decodeType variant.canonical = .ok (.variant variant)
  | .empty name discriminator, h => by
    refine (decodeType.eq_2 _).trans ?_
    rw [kindOf_record (TypeKind.isEmpty_name _) rfl, requireShape_type]
    · simp [textOf_record .name, intOf?_record .discriminator, integer?_intValue? h]
    · exact all_cons rfl <| all_cons rfl <| all_cons (accepts_intValue? h) rfl
  | .tuple name type discriminator, h => by
    simp only [VariantNode.isExpressible, Bool.and_eq_true] at h
    have htype := decodeType_canonical type h.1
    refine (decodeType.eq_2 _).trans ?_
    rw [kindOf_record (TypeKind.isEmpty_name _) rfl, requireShape_type]
    · simp [textOf_record .name, lastValue_record .tuple, htype,
        intOf?_record .discriminator, integer?_intValue? h.2]
    · exact all_cons rfl <| all_cons rfl <| all_cons rfl <| all_cons (accepts_intValue? h.2) rfl
  | .struct name type discriminator, h => by
    simp only [VariantNode.isExpressible, Bool.and_eq_true] at h
    have htype := decodeType_canonical type h.1
    refine (decodeType.eq_2 _).trans ?_
    rw [kindOf_record (TypeKind.isEmpty_name _) rfl, requireShape_type]
    · simp [textOf_record .name, lastValue_record .struct, htype,
        intOf?_record .discriminator, integer?_intValue? h.2]
    · exact all_cons rfl <| all_cons rfl <| all_cons rfl <| all_cons (accepts_intValue? h.2) rfl

theorem decodeVariants_canonical : ∀ (variants : List VariantNode) (kind : String) (index : Nat),
    areExpressibleVariants variants = true →
      decodeVariants kind index (canonicalVariants variants) = .ok variants
  | [], _, _, _ => by rw [canonicalVariants, decodeVariants]
  | variant :: rest, kind, index, h => by
    simp only [areExpressibleVariants, Bool.and_eq_true] at h
    have hvariant := decodeVariant_canonical variant h.1
    have hrest := decodeVariants_canonical rest kind (index + 1) h.2
    rw [canonicalVariants, decodeVariants]
    simp [hvariant, TypeNode.variant?, hrest]

theorem decodeValue_canonical : ∀ v : ValueNode, v.isExpressible = true →
    decodeValue v.canonical = .ok v
  | .array items, h => by
    have hitems := decodeValues_canonical items (ValueKind.name .array) 0 h
    refine (decodeValue.eq_2 _).trans ?_
    rw [kindOf_record (ValueKind.isEmpty_name _) rfl, requireShape_value rfl]
    simp [listOf_record .items, hitems]
  | .set items, h => by
    have hitems := decodeValues_canonical items (ValueKind.name .set) 0 h
    refine (decodeValue.eq_2 _).trans ?_
    rw [kindOf_record (ValueKind.isEmpty_name _) rfl, requireShape_value rfl]
    simp [listOf_record .items, hitems]
  | .tuple items, h => by
    have hitems := decodeValues_canonical items (ValueKind.name .tuple) 0 h
    refine (decodeValue.eq_2 _).trans ?_
    rw [kindOf_record (ValueKind.isEmpty_name _) rfl, requireShape_value rfl]
    simp [listOf_record .items, hitems]
  | .boolean value, _ => by
    refine (decodeValue.eq_2 _).trans ?_
    rw [kindOf_record (ValueKind.isEmpty_name _) rfl, requireShape_value rfl]
    simp [flagOf_record .boolean]
  | .bytes data encoding, _ => by
    refine (decodeValue.eq_2 _).trans ?_
    rw [kindOf_record (ValueKind.isEmpty_name _) rfl, requireShape_value rfl]
    simp [textOf_record .data, textOf_record .encoding]
  | .constant type value, h => by
    simp only [ValueNode.isExpressible, Bool.and_eq_true] at h
    have htype := decodeType_canonical type h.1
    have hvalue := decodeValue_canonical value h.2
    refine (decodeValue.eq_2 _).trans ?_
    rw [kindOf_record (ValueKind.isEmpty_name _) rfl, requireShape_value rfl]
    simp [lastValue_record .type, lastValue_record .value, htype, hvalue]
  | .enum (some link) variant payload, h => by
    have hpayload := decodeValue?_canonical payload h
    have hlink : requiredLink "enum" (record [(.kind, .string (ValueKind.name .enum)),
        (.enum, linkValue? (TypeKind.name .link) (some link)), (.variant, .string variant),
        (.value, canonicalValue? payload)]) = .ok link :=
      requiredLink_canonical link _ rfl
    refine (decodeValue.eq_2 _).trans ?_
    rw [kindOf_record (ValueKind.isEmpty_name _) rfl, requireShape_value rfl]
    simp [hlink, lastValue_record .value, hpayload, textOf_record .variant]
  | .map entries, h => by
    have hentries := decodeEntries_canonical entries (ValueKind.name .map) 0 h
    refine (decodeValue.eq_2 _).trans ?_
    rw [kindOf_record (ValueKind.isEmpty_name _) rfl, requireShape_value rfl]
    simp [listOf_record .entries, hentries]
  | .entry entry, h => decodeEntry_canonical entry h
  | .absent, _ => by
    refine (decodeValue.eq_2 _).trans ?_
    rw [kindOf_record (ValueKind.isEmpty_name _) rfl, requireShape_value rfl]
    simp
  | .number text, h => by
    have hne : text.isEmpty = false := isEmpty_of_isNumber h
    refine (decodeValue.eq_2 _).trans ?_
    rw [kindOf_record (ValueKind.isEmpty_name _) rfl, requireShape_value rfl]
    simp [numberOf_record .number, hne]
  | .publicKey key identifier, _ => by
    refine (decodeValue.eq_2 _).trans ?_
    rw [kindOf_record (ValueKind.isEmpty_name _) rfl, requireShape_value rfl]
    simp [textOf_record .publicKey, textOf_record .identifier]
  | .present value, h => by
    have hvalue := decodeValue_canonical value h
    refine (decodeValue.eq_2 _).trans ?_
    rw [kindOf_record (ValueKind.isEmpty_name _) rfl, requireShape_value rfl]
    simp [lastValue_record .value, hvalue]
  | .string text, _ => by
    refine (decodeValue.eq_2 _).trans ?_
    rw [kindOf_record (ValueKind.isEmpty_name _) rfl, requireShape_value rfl]
    simp [textOf_record .string]
  | .struct fields, h => by
    have hfields := decodeValueFields_canonical fields (ValueKind.name .struct) 0 h
    refine (decodeValue.eq_2 _).trans ?_
    rw [kindOf_record (ValueKind.isEmpty_name _) rfl, requireShape_value rfl]
    simp [listOf_record .fields, hfields]
  | .field field, h => decodeValueField_canonical field h
  | .placeholder kind name, _ => by
    have hshape : requireShape [("name", .text)]
        (record [(.kind, .string kind.name), (.name, .string name)]) = .ok () :=
      requireShape_record [(.name, .text)] rfl
    refine (decodeValue.eq_2 _).trans ?_
    rw [kindOf_record kind.isEmpty_name rfl]
    simp [hshape, textOf_record .name]

theorem decodeValue?_canonical : ∀ value : Option ValueNode, isExpressibleValue? value = true →
    decodeValue? (canonicalValue? value) = .ok value
  | none, _ => by rw [canonicalValue?, decodeValue?]
  | some value, h => by
    have hvalue := decodeValue_canonical value h
    rw [canonicalValue?, decodeValue?, hvalue]
    · rfl
    · exact value.canonical_ne_null

theorem decodeValues_canonical : ∀ (items : List ValueNode) (kind : String) (index : Nat),
    areExpressibleValues items = true →
      decodeValues kind index (canonicalValues items) = .ok items
  | [], _, _, _ => by rw [canonicalValues, decodeValues]
  | value :: rest, kind, index, h => by
    simp only [areExpressibleValues, Bool.and_eq_true] at h
    have hvalue := decodeValue_canonical value h.1
    have hrest := decodeValues_canonical rest kind (index + 1) h.2
    rw [canonicalValues, decodeValues, hvalue, hrest]
    rfl

theorem decodeEntry_canonical : ∀ entry : EntryNode, entry.isExpressible = true →
    decodeValue entry.canonical = .ok (.entry entry)
  | ⟨key, value⟩, h => by
    simp only [EntryNode.isExpressible, Bool.and_eq_true] at h
    have hkey := decodeValue_canonical key h.1
    have hvalue := decodeValue_canonical value h.2
    refine (decodeValue.eq_2 _).trans ?_
    rw [kindOf_record (ValueKind.isEmpty_name _) rfl, requireShape_value rfl]
    simp [lastValue_record .key, lastValue_record .value, hkey, hvalue]

theorem decodeEntries_canonical : ∀ (entries : List EntryNode) (kind : String) (index : Nat),
    areExpressibleEntries entries = true →
      decodeEntries kind index (canonicalEntries entries) = .ok entries
  | [], _, _, _ => by rw [canonicalEntries, decodeEntries]
  | entry :: rest, kind, index, h => by
    simp only [areExpressibleEntries, Bool.and_eq_true] at h
    have hentry := decodeEntry_canonical entry h.1
    have hrest := decodeEntries_canonical rest kind (index + 1) h.2
    rw [canonicalEntries, decodeEntries]
    simp [hentry, ValueNode.entry?, hrest]

theorem decodeValueField_canonical : ∀ field : ValueFieldNode, field.isExpressible = true →
    decodeValue field.canonical = .ok (.field field)
  | ⟨name, value⟩, h => by
    have hvalue := decodeValue_canonical value h
    refine (decodeValue.eq_2 _).trans ?_
    rw [kindOf_record (ValueKind.isEmpty_name _) rfl, requireShape_value rfl]
    simp [textOf_record .name, lastValue_record .value, hvalue]

theorem decodeValueFields_canonical :
    ∀ (fields : List ValueFieldNode) (kind : String) (index : Nat),
      areExpressibleValueFields fields = true →
        decodeValueFields kind index (canonicalValueFields fields) = .ok fields
  | [], _, _, _ => by rw [canonicalValueFields, decodeValueFields]
  | field :: rest, kind, index, h => by
    simp only [areExpressibleValueFields, Bool.and_eq_true] at h
    have hfield := decodeValueField_canonical field h.1
    have hrest := decodeValueFields_canonical rest kind (index + 1) h.2
    rw [canonicalValueFields, decodeValueFields]
    simp [hfield, ValueNode.field?, hrest]

end

end ClientGen.Idl
