import Mathlib.Data.List.Perm.Basic
import ClientGen.Json.Fields
import ClientGen.Proofs.Json.Spelling
/-!
# Values that are the same

What a JSON text denotes does not include the order of the members of an object, except that of
members which belong to one field, and not the texts from which the values of members were read. Two
values that agree in the rest are the same, and so is what can be read from them by field.
-/
namespace ClientGen.Json

/-- Members in another order: two that stand side by side change places if their names differ, also
up to case. -/
inductive Reordered : List Member → List Member → Prop
  | nil : Reordered [] []
  | cons (m : Member) {ms ks : List Member} (h : Reordered ms ks) : Reordered (m :: ms) (m :: ks)
  | swap (a b : Member) (rest : List Member) (h : sameName a.name b.name = false) :
    Reordered (a :: b :: rest) (b :: a :: rest)
  | trans {ms ks ns : List Member} (h : Reordered ms ks) (h' : Reordered ks ns) : Reordered ms ns

mutual

inductive SameValue : Value → Value → Prop
  | null : SameValue .null .null
  | bool (b : Bool) : SameValue (.bool b) (.bool b)
  | number (text : String) : SameValue (.number text) (.number text)
  | string (text : String) : SameValue (.string text) (.string text)
  | array {items items' : List Value} (h : SameItems items items') :
    SameValue (.array items) (.array items')
  | object {ms ks ks' : List Member} (h : SameMembers ms ks) (h' : Reordered ks ks') :
    SameValue (.object ms) (.object ks')

inductive SameItems : List Value → List Value → Prop
  | nil : SameItems [] []
  | cons {v w : Value} {vs ws : List Value} (h : SameValue v w) (h' : SameItems vs ws) :
    SameItems (v :: vs) (w :: ws)

inductive SameMembers : List Member → List Member → Prop
  | nil : SameMembers [] []
  | cons (name : String) {v w : Value} (source source' : String) {ms ks : List Member}
    (h : SameValue v w) (h' : SameMembers ms ks) :
    SameMembers (⟨name, v, source⟩ :: ms) (⟨name, w, source'⟩ :: ks)

end

/-- Objects with the same members up to their order. -/
def SameObject (ms ks' : List Member) : Prop := ∃ ks, SameMembers ms ks ∧ Reordered ks ks'

/-! ### Names -/

private theorem sameName_iff (a b : String) :
    sameName a b = true ↔ a.toList.map foldChar = b.toList.map foldChar := by
  rw [sameName, Bool.or_eq_true, beq_iff_eq, beq_iff_eq]
  constructor
  · rintro (rfl | h)
    · rfl
    · exact h
  · exact .inr

private theorem sameName_comm (a b : String) : sameName a b = sameName b a := by
  rw [Bool.eq_iff_iff, sameName_iff, sameName_iff, eq_comm]

private theorem sameName_of_sameName {field a b : String} (ha : sameName field a = true)
    (hb : sameName field b = true) : sameName a b = true := by
  rw [sameName_iff] at *
  rw [← ha, hb]

/-! ### Members in another order -/

namespace Reordered

variable {ms ks : List Member}

theorem refl : ∀ ms : List Member, Reordered ms ms
  | [] => .nil
  | m :: ms => .cons m (refl ms)

/-- In place of pairs that stand side by side: any order will do if all names differ. -/
theorem of_perm (h : ms.Perm ks) (hnames : ms.Pairwise fun a b => sameName a.name b.name = false) :
    Reordered ms ks := by
  induction h with
  | nil => exact .nil
  | cons m _ ih => exact .cons m (ih (List.pairwise_cons.mp hnames).2)
  | swap a b rest =>
    have hab := (List.pairwise_cons.mp hnames).1 a List.mem_cons_self
    exact .swap b a rest hab
  | trans h _ ih ih' =>
    have hcomm {a b : Member} (hab : sameName a.name b.name = false) :
        sameName b.name a.name = false := by
      rw [sameName_comm, hab]
    exact (ih hnames).trans (ih' ((h.pairwise_iff hcomm).mp hnames))

theorem filter_eq (h : Reordered ms ks) (field : String) :
    (ms.filter fun m => sameName field m.name) = ks.filter fun m => sameName field m.name := by
  induction h with
  | nil => rfl
  | cons m _ ih => rw [List.filter_cons, List.filter_cons, ih]
  | swap a b rest h =>
    -- Only one of the two can belong to the field.
    cases ha : sameName field a.name with
    | false => simp [ha, List.filter_cons]
    | true =>
      cases hb : sameName field b.name with
      | false => simp [ha, hb]
      | true => rw [sameName_of_sameName ha hb] at h; cases h
  | trans _ _ ih ih' => rw [ih, ih']

theorem all_eq (h : Reordered ms ks) (p : Member → Bool) : ms.all p = ks.all p := by
  induction h with
  | nil => rfl
  | cons m _ ih => rw [List.all_cons, List.all_cons, ih]
  | swap a b rest => simp [List.all_cons, Bool.and_left_comm]
  | trans _ _ ih ih' => rw [ih, ih']

theorem nesting_eq (h : Reordered ms ks) : membersNesting ms = membersNesting ks := by
  induction h with
  | nil => rfl
  | cons m _ ih =>
    obtain ⟨_, v, _⟩ := m
    simp only [membersNesting, ih]
  | swap a b rest =>
    obtain ⟨_, v, _⟩ := a
    obtain ⟨_, w, _⟩ := b
    simp only [membersNesting, Nat.max_left_comm]
  | trans _ _ ih ih' => rw [ih, ih']

end Reordered

/-! ### Depth -/

mutual

theorem SameValue.nesting_eq : ∀ {v w : Value}, SameValue v w → v.nesting = w.nesting
  | _, _, .null => rfl
  | _, _, .bool _ => rfl
  | _, _, .number _ => rfl
  | _, _, .string _ => rfl
  | _, _, .array h => congrArg (· + 1) (SameItems.nesting_eq h)
  | _, _, .object h h' => congrArg (· + 1) ((SameMembers.nesting_eq h).trans h'.nesting_eq)

theorem SameItems.nesting_eq :
    ∀ {vs ws : List Value}, SameItems vs ws → itemsNesting vs = itemsNesting ws
  | _, _, .nil => rfl
  | _, _, .cons h h' => by rw [itemsNesting, itemsNesting, h.nesting_eq, h'.nesting_eq]

theorem SameMembers.nesting_eq :
    ∀ {ms ks : List Member}, SameMembers ms ks → membersNesting ms = membersNesting ks
  | _, _, .nil => rfl
  | _, _, .cons _ _ _ h h' => by rw [membersNesting, membersNesting, h.nesting_eq, h'.nesting_eq]

end

/-! ### Lists -/

theorem SameItems.foldl_eq {α : Type} {f : α → Value → α}
    (hf : ∀ a {v w : Value}, SameValue v w → f a v = f a w) :
    ∀ {vs ws : List Value}, SameItems vs ws → ∀ a, vs.foldl f a = ws.foldl f a
  | _, _, .nil, _ => rfl
  | _, _, .cons h h', a => by
    rw [List.foldl_cons, List.foldl_cons, hf a h, SameItems.foldl_eq hf h']

theorem SameItems.all_eq {p : Value → Bool} (hp : ∀ {v w : Value}, SameValue v w → p v = p w) :
    ∀ {vs ws : List Value}, SameItems vs ws → vs.all p = ws.all p
  | _, _, .nil => rfl
  | _, _, .cons h h' => by rw [List.all_cons, List.all_cons, hp h, SameItems.all_eq hp h']

theorem SameItems.length_eq : ∀ {vs ws : List Value}, SameItems vs ws → vs.length = ws.length
  | _, _, .nil => rfl
  | _, _, .cons _ h' => by rw [List.length_cons, List.length_cons, SameItems.length_eq h']

theorem SameItems.textsOver_eq :
    ∀ {vs ws : List Value}, SameItems vs ws → ∀ slots, textsOver slots vs = textsOver slots ws
  | _, _, .nil, _ => rfl
  | _, _, .cons h h', slots => by
    have hrest := h'.textsOver_eq slots.tail
    cases h <;> simp only [textsOver, hrest]

/-- The last items are the same, or there are none. -/
theorem SameItems.getLast? : ∀ {vs ws : List Value}, SameItems vs ws →
    vs.getLast? = none ∧ ws.getLast? = none ∨
      ∃ v w, vs.getLast? = some v ∧ ws.getLast? = some w ∧ SameValue v w
  | _, _, .nil => .inl ⟨rfl, rfl⟩
  | _, _, .cons h .nil => .inr ⟨_, _, rfl, rfl, h⟩
  | _, _, .cons _ (.cons h h') => by
    obtain ⟨hnone, -⟩ | ⟨v, w, hv, hw, hsame⟩ := (SameItems.cons h h').getLast?
    · simp at hnone
    · exact .inr ⟨v, w, by rw [List.getLast?_cons_cons, hv], by rw [List.getLast?_cons_cons, hw],
        hsame⟩

/-! ### Fields -/

private theorem SameMembers.valuesOf (field : String) :
    ∀ {ms ks : List Member}, SameMembers ms ks → SameItems (valuesOf field ms) (valuesOf field ks)
  | _, _, .nil => .nil
  | _, _, .cons name source source' h h' => by
    have hrest := h'.valuesOf field
    rw [Json.valuesOf, Json.valuesOf, List.filter_cons, List.filter_cons]
    split
    · exact .cons h hrest
    · exact hrest

private theorem SameMembers.all_eq {p : Member → Bool}
    (hp : ∀ name {v w : Value} source source',
      SameValue v w → p ⟨name, v, source⟩ = p ⟨name, w, source'⟩) :
    ∀ {ms ks : List Member}, SameMembers ms ks → ms.all p = ks.all p
  | _, _, .nil => rfl
  | _, _, .cons name source source' h h' => by
    rw [List.all_cons, List.all_cons, hp name source source' h, SameMembers.all_eq hp h']

private theorem SameValue.isTextOrNull_eq {v w : Value} (h : SameValue v w) :
    isTextOrNull v = isTextOrNull w := by
  cases h <;> rfl

theorem SameValue.accepts_eq (type : FieldType) {v w : Value} (h : SameValue v w) :
    type.accepts v = type.accepts w := by
  cases h with
  | array h =>
    cases type with
    | texts => exact h.all_eq SameValue.isTextOrNull_eq
    | _ => rfl
  | object h h' =>
    cases type with
    | link =>
      refine (SameMembers.all_eq ?_ h).trans (h'.all_eq _)
      intro name v w _ _ hvalue
      simp only [hvalue.isTextOrNull_eq]
    | _ => rfl
  | _ => rfl

namespace SameObject

variable {ms ks : List Member} (h : SameObject ms ks)
include h

theorem valuesOf (field : String) : SameItems (valuesOf field ms) (valuesOf field ks) := by
  obtain ⟨ns, hmembers, horder⟩ := h
  have hvalues := hmembers.valuesOf field
  rwa [Json.valuesOf, Json.valuesOf, horder.filter_eq field] at hvalues

theorem conforms_eq (shape : RecordShape) : conforms shape ms = conforms shape ks := by
  obtain ⟨ns, hmembers, horder⟩ := h
  refine (SameMembers.all_eq ?_ hmembers).trans (horder.all_eq _)
  intro name v w _ _ hvalue
  dsimp only
  split
  · exact hvalue.accepts_eq _
  · rfl

theorem textOver_eq (before field : String) :
    textOver before field ms = textOver before field ks := by
  apply (h.valuesOf field).foldl_eq
  intro text v w hvalue
  cases hvalue <;> rfl

theorem textOf_eq (field : String) : textOf field ms = textOf field ks := h.textOver_eq "" field

theorem flagOf_eq (field : String) : flagOf field ms = flagOf field ks := by
  apply (h.valuesOf field).foldl_eq
  intro flag v w hvalue
  cases hvalue <;> rfl

theorem intOf_eq (field : String) : intOf field ms = intOf field ks := by
  apply (h.valuesOf field).foldl_eq
  intro i v w hvalue
  cases hvalue <;> rfl

theorem numberOf_eq (field : String) : numberOf field ms = numberOf field ks := by
  apply (h.valuesOf field).foldl_eq
  intro text v w hvalue
  cases hvalue <;> rfl

theorem textsOf_eq (field : String) : textsOf field ms = textsOf field ks := by
  simp only [textsOf]
  rw [(h.valuesOf field).foldl_eq]
  intro state v w hvalue
  cases hvalue with
  | array hitems =>
    cases hitems with
    | nil => rfl
    | cons hitem hrest =>
      have hall := SameItems.cons hitem hrest
      simp only [hall.textsOver_eq, hall.length_eq]
  | _ => rfl

theorem linkOf_eq (field : String) : linkOf field ms = linkOf field ks := by
  apply (h.valuesOf field).foldl_eq
  intro link v w hvalue
  cases hvalue with
  | object hmembers horder => exact congrArg some (SameObject.textOver_eq ⟨_, hmembers, horder⟩ _ _)
  | _ => rfl

theorem lastMember? (field : String) :
    Json.lastMember? field ms = none ∧ Json.lastMember? field ks = none ∨
      ∃ m k, Json.lastMember? field ms = some m ∧ Json.lastMember? field ks = some k ∧
        SameValue m.value k.value := by
  have hlast := (h.valuesOf field).getLast?
  rw [Json.valuesOf, Json.valuesOf, List.getLast?_map, List.getLast?_map] at hlast
  obtain ⟨hms, hks⟩ | ⟨v, w, hms, hks, hsame⟩ := hlast
  · exact .inl ⟨Option.map_eq_none_iff.mp hms, Option.map_eq_none_iff.mp hks⟩
  · obtain ⟨m, hm, rfl⟩ := Option.map_eq_some_iff.mp hms
    obtain ⟨k, hk, rfl⟩ := Option.map_eq_some_iff.mp hks
    exact .inr ⟨m, k, hm, hk, hsame⟩

theorem lastValue (field : String) : SameValue (lastValue field ms) (lastValue field ks) := by
  rw [Json.lastValue, Json.lastValue]
  obtain ⟨hms, hks⟩ | ⟨m, k, hms, hks, hsame⟩ := h.lastMember? field
  · rw [hms, hks]
    exact .null
  · rw [hms, hks]
    exact hsame

theorem intOf?_eq (field : String) : intOf? field ms = intOf? field ks := by
  have hlast := h.lastValue field
  rw [intOf?, intOf?]
  generalize Json.lastValue field ms = v at hlast
  generalize Json.lastValue field ks = w at hlast
  cases hlast <;> rfl

theorem listOf (field : String) : SameItems (listOf field ms) (listOf field ks) := by
  have hlast := h.lastValue field
  rw [Json.listOf, Json.listOf]
  generalize Json.lastValue field ms = v at hlast
  generalize Json.lastValue field ks = w at hlast
  cases hlast with
  | array hitems => exact hitems
  | _ => exact .nil

end SameObject

end ClientGen.Json
