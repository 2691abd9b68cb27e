import Mathlib.Data.List.Nodup
import ClientGen.Idl.Decode
import ClientGen.Proofs.Idl.Canonical
import ClientGen.Proofs.Json.Compact
/-!
# Reading the members of a record

No two keys of nodes are the same name, even up to case. So a record that was written with keys is
read by key, and what the decoder says about a field follows from the values of its key alone.
-/
namespace ClientGen.Idl

open ClientGen.Json

/-! ### Keys -/

def Key.all : List Key :=
  [.kind, .standard, .version, .program, .additionalPrograms, .name, .publicKey, .origin, .docs,
   .accounts, .instructions, .definedTypes, .pdas, .errors, .internal, .data, .pda, .size,
   .arguments, .subInstructions, .isWritable, .isSigner, .isOptional, .defaultValue,
   .defaultValueStrategy, .type, .seeds, .value, .code, .message, .format, .endian, .encoding,
   .lengthPrefix, .item, .items, .count, .fixed, .fields, .variants, .discriminator, .struct,
   .tuple, .key, .number, .decimals, .unit, .entries, .enum, .variant, .boolean, .string,
   .identifier]

private theorem Key.mem_all (k : Key) : k ∈ all := by
  cases k <;> decide

private theorem Key.folded_nodup : (all.map fun k => k.text.toList.map foldChar).Nodup := by
  decide +kernel

theorem sameName_text (a b : Key) : sameName a.text b.text = decide (a = b) := by
  by_cases h : a = b
  · simp [h, sameName]
  · have hfold : a.text.toList.map foldChar ≠ b.text.toList.map foldChar :=
      fun heq => h (List.inj_on_of_nodup_map Key.folded_nodup a.mem_all b.mem_all heq)
    have htext : a.text ≠ b.text := fun heq => hfold (by rw [heq])
    simp [sameName, hfold, htext, h]

/-! ### Values by key -/

/-- The values of a key in a record. -/
@[simp] def fieldValues (k : Key) : List (Key × Value) → List Value
  | [] => []
  | (other, v) :: rest => if other = k then v :: fieldValues k rest else fieldValues k rest

variable (k : Key) (fields : List (Key × Value))

private theorem filter_record :
    (record fields).filter (fun m => sameName k.text m.name) =
      (fieldValues k fields).map (Member.of k.text) := by
  induction fields with
  | nil => rfl
  | cons field rest ih =>
    obtain ⟨other, v⟩ := field
    have hname : (Member.of other.text v).name = other.text := rfl
    rw [record] at ih
    rw [record, List.map_cons, List.filter_cons, ih, hname, sameName_text, fieldValues]
    by_cases h : other = k
    · simp [h]
    · simp [h, Ne.symm h]

theorem valuesOf_record : valuesOf k.text (record fields) = fieldValues k fields := by
  rw [valuesOf, filter_record, List.map_map]
  exact List.map_id _

theorem lastMember?_record :
    lastMember? k.text (record fields) =
      (fieldValues k fields).getLast?.map (Member.of k.text) := by
  rw [lastMember?, filter_record, List.getLast?_map]

theorem lastValue_record :
    lastValue k.text (record fields) = (fieldValues k fields).getLast?.getD .null := by
  rw [lastValue, lastMember?_record]
  cases (fieldValues k fields).getLast? <;> rfl

theorem textOf_record :
    textOf k.text (record fields) = (fieldValues k fields).foldl (fun text v =>
      match v with
      | .string s => s
      | _ => text) "" := by
  rw [← valuesOf_record]
  rfl

theorem flagOf_record :
    flagOf k.text (record fields) = (fieldValues k fields).foldl (fun flag v =>
      match v with
      | .bool b => b
      | _ => flag) false := by
  rw [← valuesOf_record]
  rfl

theorem listOf_record :
    listOf k.text (record fields) =
      match (fieldValues k fields).getLast?.getD .null with
      | .array items => items
      | _ => [] := by
  rw [← lastValue_record]
  rfl

/-- The integer that a value is. -/
def integer? : Value → Option Int
  | .number text => int64? text
  | _ => none

theorem integer?_intValue {i : Int} (h : Text.fitsSigned i = true) :
    integer? (intValue i) = some i := int64?_decimalText h

theorem integer?_intValue? {i : Option Int} (h : fitsSigned? i = true) :
    integer? (intValue? i) = i := by
  cases i with
  | none => rfl
  | some i => exact integer?_intValue h

theorem intOf_eq_foldl (field : String) (members : List Member) :
    intOf field members =
      (valuesOf field members).foldl (fun i v => (integer? v).getD i) 0 := by
  rw [intOf]
  congr 1
  funext i v
  cases v <;> rfl

theorem intOf_record :
    intOf k.text (record fields) =
      (fieldValues k fields).foldl (fun i v => (integer? v).getD i) 0 := by
  rw [intOf_eq_foldl, valuesOf_record]

theorem intOf?_record :
    intOf? k.text (record fields) = integer? ((fieldValues k fields).getLast?.getD .null) := by
  rw [intOf?, lastValue_record]
  rfl

theorem requiredInt_record {i : Int} (h : (fieldValues k fields).getLast? = some (intValue i))
    (hfits : Text.fitsSigned i = true) : requiredInt k.text (record fields) = .ok i := by
  rw [requiredInt, lastMember?_record, h]
  simp [intValue, Member.of, int64?_decimalText hfits]

theorem numberOf_record :
    numberOf k.text (record fields) = (fieldValues k fields).foldl (fun text v =>
      match v with
      | .number s => s
      | .string s => s
      | _ => text) "" := by
  rw [← valuesOf_record]
  rfl

theorem linkOf_record :
    linkOf k.text (record fields) = (fieldValues k fields).foldl (fun link v =>
      match v with
      | .object inner => some (textOver (link.getD "") "name" inner)
      | _ => none) none := by
  rw [← valuesOf_record]
  rfl

/-- The strings that the values of a field hold, as they are read one over the other. -/
def textsAmong (values : List Value) : List String :=
  let read (state : List String × Nat) (v : Value) : List String × Nat :=
    match v with
    | .array [] => ([], 0)
    | .array items => (textsOver state.1 items ++ state.1.drop items.length, items.length)
    | _ => ([], 0)
  let (slots, size) := values.foldl read ([], 0)
  slots.take size

theorem textsOf_eq_textsAmong (field : String) (members : List Member) :
    textsOf field members = textsAmong (valuesOf field members) := rfl

theorem textsOf_record : textsOf k.text (record fields) = textsAmong (fieldValues k fields) := by
  rw [textsOf_eq_textsAmong, valuesOf_record]

@[simp] theorem textsAmong_textsValue (texts : List String) :
    textsAmong [textsValue texts] = texts := by
  have hover (texts : List String) : textsOver [] (texts.map .string) = texts := by
    induction texts with
    | nil => rfl
    | cons text rest ih => simp [textsOver, ih]
  cases texts with
  | nil => rfl
  | cons text rest =>
    have hrest := hover (text :: rest)
    rw [List.map_cons] at hrest
    simp [textsAmong, textsValue, hrest]

/-! ### Shapes -/

/-- The fields of a record by their keys. -/
def shapeOf (types : List (Key × FieldType)) : RecordShape := types.map fun t => (t.1.text, t.2)

private theorem find?_shapeOf (types : List (Key × FieldType)) (k : Key) :
    (shapeOf types).find? (fun field => sameName field.1 k.text) =
      (types.lookup k).map fun type => (k.text, type) := by
  induction types with
  | nil => rfl
  | cons t types ih =>
    obtain ⟨other, type⟩ := t
    rw [shapeOf] at ih
    rw [shapeOf, List.map_cons, List.find?_cons, sameName_text, List.lookup_cons, ih]
    by_cases h : other = k
    · simp [h]
    · have h' : (k == other) = false := by simpa using Ne.symm h
      simp [h, h']

theorem conforms_record (types : List (Key × FieldType)) (fields : List (Key × Value)) :
    conforms (shapeOf types) (record fields) =
      fields.all fun f => (types.lookup f.1).all (·.accepts f.2) := by
  rw [conforms, record, List.all_map]
  congr 1
  funext f
  have hname : (Member.of f.1.text f.2).name = f.1.text := rfl
  rw [Function.comp, hname, find?_shapeOf]
  cases types.lookup f.1 <;> rfl

theorem requireShape_record (types : List (Key × FieldType)) {fields : List (Key × Value)}
    (h : (fields.all fun f => (types.lookup f.1).all (·.accepts f.2)) = true) :
    requireShape (shapeOf types) (record fields) = .ok () := by
  rw [requireShape, conforms_record, h]
  rfl

@[simp] theorem accepts_textsValue (texts : List String) :
    FieldType.accepts .texts (textsValue texts) = true := by
  simp [textsValue, FieldType.accepts, isTextOrNull]

theorem accepts_intValue {i : Int} (h : Text.fitsSigned i = true) :
    FieldType.accepts .int (intValue i) = true := by
  simp [intValue, FieldType.accepts, int64?_decimalText h]

theorem accepts_intValue? {i : Option Int} (h : fitsSigned? i = true) :
    FieldType.accepts .int (intValue? i) = true := by
  cases i with
  | none => rfl
  | some i => exact accepts_intValue h

/-! ### Kinds -/

theorem kindOf_record {kind : String} {fields : List (Key × Value)} (hkind : kind.isEmpty = false)
    (h : (fields.all fun f => f.1 != .kind) = true) :
    kindOf (record ((.kind, .string kind) :: fields)) = .ok kind := by
  have hnone : fieldValues .kind fields = [] := by
    induction fields with
    | nil => rfl
    | cons field rest ih =>
      simp only [List.all_cons, Bool.and_eq_true, bne_iff_ne] at h
      simp [h.1, ih h.2]
  have htext : textOf "kind" (record ((.kind, .string kind) :: fields)) = kind := by
    rw [textOf_record .kind]
    simp [hnone]
  have hshape : requireShape [("kind", .text)] (record ((.kind, .string kind) :: fields)) =
      .ok () := by
    apply requireShape_record [(.kind, .text)]
    rw [List.all_cons, Bool.and_eq_true]
    refine ⟨rfl, ?_⟩
    rw [List.all_eq_true] at h ⊢
    intro f hf
    have hne : (f.1 == Key.kind) = false := by simpa using h f hf
    simp [List.lookup_cons, hne]
  simp [kindOf, hshape, htext, hkind, bind, Except.bind]

end ClientGen.Idl
