import Mathlib.Data.List.Nodup
import Mathlib.Logic.Function.Basic
import ClientGen.Proofs.IncludeSet
/-!
# Include sets in memory

A set can be changed in place. It then is a record of an array, of which it uses the first slots for
its paths in order, and of a table that tells for every path how it is spelled. Arrays and tables
are objects of their own. A path is appended in place while the array has room and moves everything
into a larger array when it has not, and removing a path moves the paths behind it forward in the
array. How much room a new array gets is left open.

Whatever is done to one set touches no object that belonged to another, and what is seen through
its record changes as a list of headers would.
-/
namespace ClientGen.Includes

/-- Arrays and tables by their addresses. -/
structure Memory where
  arrays : Nat → List String
  tables : Nat → String → Option Bool
  nextArray : Nat
  nextTable : Nat

/-- A set. It has neither array nor table before its first path. -/
structure Record where
  array : Option Nat
  length : Nat
  table : Option Nat

def Record.zero : Record := ⟨none, 0, none⟩

/-- A memory with one of its sets. -/
abbrev State := Memory × Record

def Memory.slots (memory : Memory) (record : Record) : List String :=
  match record.array with
  | none => []
  | some a => memory.arrays a

/-- What can be seen of a set. -/
structure View where
  order : List String
  flags : String → Option Bool

def Memory.view (memory : Memory) (record : Record) : View where
  order := (memory.slots record).take record.length
  flags path := record.table.bind fun t => memory.tables t path

/-! ### Reading -/

namespace View

def contains (view : View) (path : String) : Bool := (view.flags path).isSome

def size (view : View) : Nat := view.order.length

def isEmpty (view : View) : Bool := view.size == 0

def includes (view : View) : List Include :=
  view.order.map fun path => ⟨path, (view.flags path).getD false⟩

def render (view : View) (remap : List (String × String)) : String :=
  if view.isEmpty then ""
  else String.intercalate "\n" (view.includes.map (IncludeSet.line remap))

/-- How putting a header changes what is seen. -/
def put (view : View) (header : Include) : View where
  order := if view.contains header.path then view.order else view.order ++ [header.path]
  flags := Function.update view.flags header.path (some header.isLocal)

/-- How removing a path changes what is seen. -/
def remove (view : View) (path : String) : View :=
  if view.contains path then ⟨view.order.erase path, Function.update view.flags path none⟩ else view

/-- Every path is listed once and has a spelling, and no other path has one. -/
structure IsConsistent (view : View) : Prop where
  nodup : view.order.Nodup
  mem_iff : ∀ path, path ∈ view.order ↔ (view.flags path).isSome = true

end View

/-! ### Writing -/

/-- Makes a table unless there is one. -/
def ensureTable : State → State
  | (memory, record) =>
    match record.table with
    | some _ => (memory, record)
    | none =>
      ({ memory with
          tables := Function.update memory.tables memory.nextTable fun _ => none
          nextTable := memory.nextTable + 1 },
        { record with table := some memory.nextTable })

/-- Writes a spelling into the table, or takes it out. -/
def setFlag (path : String) (flag : Option Bool) : State → State
  | (memory, record) =>
    match record.table with
    | none => (memory, record)
    | some t =>
      ({ memory with
          tables := Function.update memory.tables t (Function.update (memory.tables t) path flag) },
        record)

/-- Appends a path, in place if there is room. A new array has `room n` slots more than the
`n + 1` it needs. -/
def append (room : Nat → Nat) (path : String) : State → State
  | (memory, record) =>
    let slots := memory.slots record
    match record.array with
    | some a =>
      if record.length < slots.length then
        ({ memory with arrays := Function.update memory.arrays a (slots.set record.length path) },
          { record with length := record.length + 1 })
      else grown memory record slots
    | none => grown memory record slots
where
  grown (memory : Memory) (record : Record) (slots : List String) : State :=
    ({ memory with
        arrays := Function.update memory.arrays memory.nextArray
          (slots.take record.length ++ path :: List.replicate (room record.length) "")
        nextArray := memory.nextArray + 1 },
      { record with array := some memory.nextArray, length := record.length + 1 })

/-- Moves the paths behind one of them forward by a slot. The last slot keeps what it had. -/
def cutOut (path : String) : State → State
  | (memory, record) =>
    match record.array with
    | none => (memory, record)
    | some a =>
      let slots := memory.arrays a
      let used := slots.take record.length
      let index := used.idxOf path
      if index < record.length then
        ({ memory with
            arrays := Function.update memory.arrays a
              (used.take index ++ used.drop (index + 1) ++ slots.drop (record.length - 1)) },
          { record with length := record.length - 1 })
      else (memory, record)

/-- Puts a header into a set. -/
def put (room : Nat → Nat) (header : Include) (s : State) : State :=
  let s := ensureTable s
  let s := if (s.1.view s.2).contains header.path then s else append room header.path s
  setFlag header.path (some header.isLocal) s

/-- Removes a path from a set, if it is there. -/
def remove (path : String) (s : State) : State :=
  if (s.1.view s.2).contains path then cutOut path (setFlag path none s) else s

/-- The header in a slot of a set, with the spelling that a set has for it. -/
def headerAt (memory : Memory) (slots flags : Record) (index : Nat) : Include :=
  let path := (memory.slots slots).getD index ""
  ⟨path, ((memory.view flags).flags path).getD false⟩

/-- Puts the headers of another set into a set. The slots to read are fixed when the loop starts;
they are read one at a time. When the set is put into itself, the table is that of the moment. -/
def mergeFrom (room : Nat → Nat) (isSelf : Bool) (other : Record) (s : State) : State :=
  (List.range other.length).foldl (fun s index =>
    put room (headerAt s.1 other (if isSelf then s.2 else other) index) s) s

/-! ### One set -/

/-- The array and the table of a set are in memory, and the array has the slots that are used. -/
structure IsSound (s : State) : Prop where
  array_lt : ∀ a, s.2.array = some a → a < s.1.nextArray
  table_lt : ∀ t, s.2.table = some t → t < s.1.nextTable
  length_le : s.2.length ≤ (s.1.slots s.2).length

theorem isSound_zero (memory : Memory) : IsSound (memory, .zero) := by
  constructor <;> simp [Record.zero]

/-- One state leads to the other without a change to what does not belong to the set: its array and
its table stay or are new. -/
structure Confined (s s' : State) : Prop where
  nextArray_le : s.1.nextArray ≤ s'.1.nextArray
  nextTable_le : s.1.nextTable ≤ s'.1.nextTable
  array : s'.2.array = s.2.array ∨ ∃ a, s'.2.array = some a ∧ s.1.nextArray ≤ a
  table : s'.2.table = s.2.table ∨ ∃ t, s'.2.table = some t ∧ s.1.nextTable ≤ t
  arrays : ∀ a < s.1.nextArray, s.2.array ≠ some a → s'.1.arrays a = s.1.arrays a
  tables : ∀ t < s.1.nextTable, s.2.table ≠ some t → s'.1.tables t = s.1.tables t

namespace Confined

theorem refl (s : State) : Confined s s :=
  ⟨Nat.le_refl _, Nat.le_refl _, .inl rfl, .inl rfl, fun _ _ _ => rfl, fun _ _ _ => rfl⟩

theorem trans {s s' s'' : State} (h : Confined s s') (h' : Confined s' s'') : Confined s s'' where
  nextArray_le := Nat.le_trans h.nextArray_le h'.nextArray_le
  nextTable_le := Nat.le_trans h.nextTable_le h'.nextTable_le
  array := by
    obtain heq | ⟨a, ha, hle⟩ := h'.array
    · rw [heq]
      exact h.array
    · exact .inr ⟨a, ha, Nat.le_trans h.nextArray_le hle⟩
  table := by
    obtain heq | ⟨t, ht, hle⟩ := h'.table
    · rw [heq]
      exact h.table
    · exact .inr ⟨t, ht, Nat.le_trans h.nextTable_le hle⟩
  arrays a ha hne := by
    have hne' : s'.2.array ≠ some a := by
      obtain heq | ⟨b, hb, hle⟩ := h.array
      · rwa [heq]
      · rw [hb, ne_eq, Option.some.injEq]
        omega
    rw [h'.arrays a (Nat.lt_of_lt_of_le ha h.nextArray_le) hne', h.arrays a ha hne]
  tables t ht hne := by
    have hne' : s'.2.table ≠ some t := by
      obtain heq | ⟨b, hb, hle⟩ := h.table
      · rwa [heq]
      · rw [hb, ne_eq, Option.some.injEq]
        omega
    rw [h'.tables t (Nat.lt_of_lt_of_le ht h.nextTable_le) hne', h.tables t ht hne]

end Confined

/-- A step of one set: it is confined, and the set stays sound. -/
structure IsStep (s s' : State) : Prop where
  confined : Confined s s'
  sound : IsSound s'

def State.view (s : State) : View := s.1.view s.2

private theorem ensureTable_step {s : State} (h : IsSound s) :
    IsStep s (ensureTable s) ∧ (ensureTable s).view = s.view ∧
      ∃ t, (ensureTable s).2.table = some t := by
  obtain ⟨memory, array, length, table⟩ := s
  cases table with
  | some t => exact ⟨⟨.refl _, h⟩, rfl, t, rfl⟩
  | none =>
    refine ⟨⟨⟨Nat.le_refl _, Nat.le_succ _, .inl rfl, .inr ⟨_, rfl, Nat.le_refl _⟩,
      fun _ _ _ => rfl, fun t ht _ => ?_⟩, ⟨h.array_lt, ?_, h.length_le⟩⟩, ?_, _, rfl⟩
    · exact Function.update_of_ne (Nat.ne_of_lt ht) _ _
    · rintro t ⟨⟩
      exact Nat.lt_succ_self _
    · simp [ensureTable, State.view, Memory.view, Memory.slots]

private theorem setFlag_step {s : State} (h : IsSound s) (path : String) (flag : Option Bool)
    {t : Nat} (ht : s.2.table = some t) :
    IsStep s (setFlag path flag s) ∧
      (setFlag path flag s).view = ⟨s.view.order, Function.update s.view.flags path flag⟩ := by
  obtain ⟨memory, array, length, table⟩ := s
  obtain rfl : table = some t := ht
  refine ⟨⟨⟨Nat.le_refl _, Nat.le_refl _, .inl rfl, .inl rfl, fun _ _ _ => rfl, fun u _ hu => ?_⟩,
    ⟨h.array_lt, h.table_lt, h.length_le⟩⟩, ?_⟩
  · exact Function.update_of_ne (fun heq => hu (congrArg some heq.symm)) _ _
  · simp only [setFlag, State.view, Memory.view, Memory.slots, Option.bind_some,
      Function.update_self]

private theorem grown_step (room : Nat → Nat) (path : String) {s : State} (h : IsSound s) :
    IsStep s (append.grown room path s.1 s.2 (s.1.slots s.2)) ∧
      (append.grown room path s.1 s.2 (s.1.slots s.2)).view =
        ⟨s.view.order ++ [path], s.view.flags⟩ := by
  obtain ⟨memory, record⟩ := s
  have hlength : ((memory.slots record).take record.length).length = record.length :=
    List.length_take_of_le h.length_le
  have hslots : (append.grown room path memory record (memory.slots record)).1.slots
      (append.grown room path memory record (memory.slots record)).2 =
        (memory.slots record).take record.length ++
          path :: List.replicate (room record.length) "" := by
    rw [append.grown, Memory.slots]
    exact Function.update_self _ _ _
  refine ⟨⟨⟨Nat.le_succ _, Nat.le_refl _, .inr ⟨_, rfl, Nat.le_refl _⟩, .inl rfl,
    fun a ha _ => ?_, fun _ _ _ => rfl⟩, ⟨?_, h.table_lt, ?_⟩⟩, ?_⟩
  · exact Function.update_of_ne (Nat.ne_of_lt ha) _ _
  · rintro a ⟨⟩
    exact Nat.lt_succ_self _
  · rw [hslots, List.length_append, hlength, List.length_cons, append.grown]
    exact Nat.add_le_add_left (Nat.le_add_left _ _) _
  · have hnew : (append.grown room path memory record (memory.slots record)).2.length =
        record.length + 1 := rfl
    rw [State.view, Memory.view, hslots, hnew, View.mk.injEq]
    refine ⟨?_, rfl⟩
    rw [List.take_append, hlength, List.take_of_length_le (by omega)]
    simp [State.view, Memory.view]

private theorem append_step (room : Nat → Nat) (path : String) {s : State} (h : IsSound s) :
    IsStep s (append room path s) ∧
      (append room path s).view = ⟨s.view.order ++ [path], s.view.flags⟩ := by
  obtain ⟨memory, array, length, table⟩ := s
  cases array with
  | none => exact grown_step room path h
  | some a =>
    rw [append]
    dsimp only
    split
    · rename_i hroom
      have hslots : memory.slots ⟨some a, length, table⟩ = memory.arrays a := rfl
      rw [hslots] at hroom ⊢
      refine ⟨⟨⟨Nat.le_refl _, Nat.le_refl _, .inl rfl, .inl rfl, fun b _ hb => ?_,
        fun _ _ _ => rfl⟩, ⟨h.array_lt, h.table_lt, ?_⟩⟩, ?_⟩
      · exact Function.update_of_ne (fun heq => hb (congrArg some heq.symm)) _ _
      · simp only [Memory.slots, Function.update_self, List.length_set]
        omega
      · simp only [State.view, Memory.view, Memory.slots, Function.update_self]
        rw [List.take_succ_eq_append_getElem (by simpa using hroom), List.take_set_of_le (by omega),
          List.getElem_set_self]
    · exact grown_step room path h

private theorem cutOut_step (path : String) {s : State} (h : IsSound s)
    (hmem : path ∈ s.view.order) :
    IsStep s (cutOut path s) ∧
      (cutOut path s).view = ⟨s.view.order.erase path, s.view.flags⟩ := by
  obtain ⟨memory, array, length, table⟩ := s
  cases array with
  | none => simp [State.view, Memory.view, Memory.slots] at hmem
  | some a =>
    have hle : length ≤ (memory.arrays a).length := h.length_le
    have hused : ((memory.arrays a).take length).length = length := List.length_take_of_le hle
    have hmem : path ∈ (memory.arrays a).take length := hmem
    have hindex : ((memory.arrays a).take length).idxOf path < length := by
      have := List.idxOf_lt_length_of_mem hmem
      omega
    have hslots : memory.slots ⟨some a, length, table⟩ = memory.arrays a := rfl
    rw [cutOut]
    dsimp only
    rw [if_pos hindex, ← List.eraseIdx_eq_take_drop_succ, List.eraseIdx_idxOf_eq_erase]
    have herase : (((memory.arrays a).take length).erase path).length = length - 1 := by
      rw [List.length_erase_of_mem hmem, hused]
    refine ⟨⟨⟨Nat.le_refl _, Nat.le_refl _, .inl rfl, .inl rfl, fun b _ hb => ?_,
      fun _ _ _ => rfl⟩, ⟨h.array_lt, h.table_lt, ?_⟩⟩, ?_⟩
    · exact Function.update_of_ne (fun heq => hb (congrArg some heq.symm)) _ _
    · simp only [Memory.slots, Function.update_self, List.length_append, herase]
      omega
    · simp only [State.view, Memory.view, Memory.slots, Function.update_self, View.mk.injEq,
        and_true]
      rw [List.take_append, herase, List.take_of_length_le (by omega)]
      simp

theorem IsStep.trans {s s' s'' : State} (h : IsStep s s') (h' : IsStep s' s'') : IsStep s s'' :=
  ⟨h.confined.trans h'.confined, h'.sound⟩

theorem put_step (room : Nat → Nat) (header : Include) {s : State} (h : IsSound s) :
    IsStep s (put room header s) ∧ (put room header s).view = s.view.put header := by
  obtain ⟨hensure, hview, t, ht⟩ := ensureTable_step h
  have happend : ∀ s' : State, IsSound s' → s'.2.table = some t →
      (append room header.path s').2.table = some t := by
    rintro ⟨memory, array, length, table⟩ _ ht
    cases array with
    | none => exact ht
    | some a =>
      rw [append]
      dsimp only
      split <;> exact ht
  have hcontains : ((ensureTable s).1.view (ensureTable s).2).contains header.path =
      s.view.contains header.path := by
    rw [← State.view, hview]
  rw [put, hcontains, View.put]
  cases s.view.contains header.path with
  | true =>
    obtain ⟨hset, hflags⟩ :=
      setFlag_step hensure.sound header.path (some header.isLocal) ht
    exact ⟨hensure.trans hset, by rw [← hview]; exact hflags⟩
  | false =>
    obtain ⟨hgrow, horder⟩ := append_step room header.path hensure.sound
    obtain ⟨hset, hflags⟩ := setFlag_step hgrow.sound header.path (some header.isLocal)
      (happend _ hensure.sound ht)
    refine ⟨(hensure.trans hgrow).trans hset, ?_⟩
    rw [horder] at hflags
    rw [← hview]
    exact hflags

theorem remove_step (path : String) {s : State} (h : IsSound s) (hview : s.view.IsConsistent) :
    IsStep s (remove path s) ∧ (remove path s).view = s.view.remove path := by
  rw [remove, View.remove, ← State.view]
  cases hcontains : s.view.contains path with
  | false => exact ⟨⟨.refl s, h⟩, rfl⟩
  | true =>
    obtain ⟨t, ht⟩ : ∃ t, s.2.table = some t := by
      rw [View.contains, State.view, Memory.view] at hcontains
      cases htable : s.2.table with
      | none => simp [htable] at hcontains
      | some t => exact ⟨t, rfl⟩
    obtain ⟨hset, hflags⟩ := setFlag_step h path none ht
    have hmem : path ∈ (setFlag path none s).view.order := by
      rw [hflags]
      exact (hview.mem_iff path).mpr hcontains
    obtain ⟨hcut, horder⟩ := cutOut_step path hset.sound hmem
    refine ⟨hset.trans hcut, ?_⟩
    rw [hflags] at horder
    exact horder

/-! ### Other sets -/

/-- Two sets share neither array nor table. -/
structure Apart (r r' : Record) : Prop where
  array : ∀ a, r.array = some a → r'.array ≠ some a
  table : ∀ t, r.table = some t → r'.table ≠ some t

theorem Apart.symm {r r' : Record} (h : Apart r r') : Apart r' r :=
  ⟨fun a ha ha' => h.array a ha' ha, fun t ht ht' => h.table t ht' ht⟩

theorem apart_zero (r : Record) : Apart .zero r :=
  ⟨fun _ h => (nomatch h), fun _ h => (nomatch h)⟩

/-- What is seen of another set stays as it is. -/
theorem Confined.frame {s s' : State} (h : Confined s s') {other : Record}
    (hapart : Apart s.2 other) (hsound : IsSound (s.1, other)) :
    s'.1.slots other = s.1.slots other ∧ s'.1.view other = s.1.view other ∧
      IsSound (s'.1, other) ∧ Apart s'.2 other := by
  obtain ⟨array, length, table⟩ := other
  have hslots : s'.1.slots ⟨array, length, table⟩ = s.1.slots ⟨array, length, table⟩ := by
    cases array with
    | none => rfl
    | some a => exact h.arrays a (hsound.array_lt a rfl) fun ha => hapart.array a ha rfl
  have hflags : (s'.1.view ⟨array, length, table⟩).flags =
      (s.1.view ⟨array, length, table⟩).flags := by
    cases table with
    | none => rfl
    | some t => exact h.tables t (hsound.table_lt t rfl) fun ht => hapart.table t ht rfl
  refine ⟨hslots, ?_, ⟨?_, ?_, ?_⟩, ?_, ?_⟩
  · rw [Memory.view, Memory.view, View.mk.injEq, hslots]
    exact ⟨rfl, hflags⟩
  · exact fun a ha => Nat.lt_of_lt_of_le (hsound.array_lt a ha) h.nextArray_le
  · exact fun t ht => Nat.lt_of_lt_of_le (hsound.table_lt t ht) h.nextTable_le
  · rw [hslots]
    exact hsound.length_le
  · intro a ha hother
    obtain heq | ⟨b, hb, hle⟩ := h.array
    · exact hapart.array a (heq ▸ ha) hother
    · have hlt : a < s.1.nextArray := hsound.array_lt a hother
      rw [hb, Option.some.injEq] at ha
      omega
  · intro t ht hother
    obtain heq | ⟨b, hb, hle⟩ := h.table
    · exact hapart.table t (heq ▸ ht) hother
    · have hlt : t < s.1.nextTable := hsound.table_lt t hother
      rw [hb, Option.some.injEq] at ht
      omega

/-! ### Merging -/

private theorem map_headerAt {memory : Memory} {record : Record}
    (h : record.length ≤ (memory.slots record).length) :
    (List.range record.length).map (headerAt memory record record) =
      (memory.view record).includes := by
  have horder : (List.range record.length).map (fun index => (memory.slots record).getD index "") =
      (memory.view record).order := by
    apply List.ext_getElem
    · rw [List.length_map, List.length_range, Memory.view, List.length_take_of_le h]
    · intro index hindex _
      rw [List.length_map, List.length_range] at hindex
      have hslot : index < (memory.slots record).length := by omega
      simp [Memory.view, List.getElem?_eq_getElem hslot]
  rw [View.includes, ← horder, List.map_map]
  rfl

/-- Another set is put in header by header, as it was when the loop started. -/
theorem mergeFrom_other (room : Nat → Nat) {other : Record} {s : State} (h : IsSound s)
    (hapart : Apart s.2 other) (hsound : IsSound (s.1, other)) :
    mergeFrom room false other s =
      (s.1.view other).includes.foldl (fun s header => put room header s) s := by
  -- The headers put in so far changed nothing of the other set.
  have hloop : ∀ (indices : List Nat) (s' : State), IsStep s s' →
      indices.foldl (fun s index => put room (headerAt s.1 other other index) s) s' =
        (indices.map (headerAt s.1 other other)).foldl (fun s header => put room header s) s' := by
    intro indices
    induction indices with
    | nil => intros; rfl
    | cons index rest ih =>
      intro s' hstep
      obtain ⟨hslots, hview, -, -⟩ := hstep.confined.frame hapart hsound
      have hheader : headerAt s'.1 other other index = headerAt s.1 other other index := by
        rw [headerAt, headerAt, hslots, hview]
      rw [List.foldl_cons, List.map_cons, List.foldl_cons, hheader]
      exact ih _ (hstep.trans (put_step room _ hstep.sound).1)
  rw [← map_headerAt hsound.length_le]
  exact hloop _ s ⟨.refl s, h⟩

private theorem put_present (room : Nat → Nat) {path : String} {flag : Bool} {s : State}
    (h : s.view.flags path = some flag) : put room ⟨path, flag⟩ s = s := by
  obtain ⟨memory, array, length, table⟩ := s
  cases table with
  | none => cases h
  | some t =>
    have htable : memory.tables t path = some flag := h
    have hcontains : (memory.view ⟨array, length, some t⟩).contains path = true := by
      rw [View.contains]
      exact congrArg Option.isSome h
    have hupdate : Function.update (memory.tables t) path (some flag) = memory.tables t := by
      rw [← htable, Function.update_eq_self]
    simp only [put, ensureTable, hcontains, if_true, setFlag, hupdate, Function.update_eq_self]

/-- A set that is put into itself stays as it is. -/
theorem mergeFrom_self (room : Nat → Nat) {s : State} (h : IsSound s)
    (hview : s.view.IsConsistent) : mergeFrom room true s.2 s = s := by
  have hheader : ∀ index < s.2.length, put room (headerAt s.1 s.2 s.2 index) s = s := by
    intro index hindex
    have hslot : index < (s.1.slots s.2).length := Nat.lt_of_lt_of_le hindex h.length_le
    have hpath : (s.1.slots s.2).getD index "" ∈ s.view.order := by
      rw [List.getD_eq_getElem?_getD, List.getElem?_eq_getElem hslot, Option.getD_some]
      exact List.mem_take_iff_getElem.mpr ⟨index, by omega, rfl⟩
    obtain ⟨flag, hflag⟩ := Option.isSome_iff_exists.mp ((hview.mem_iff _).mp hpath)
    rw [headerAt]
    apply put_present room
    rw [State.view] at hflag
    rw [State.view, hflag, Option.getD_some]
  have hloop : ∀ indices : List Nat, (∀ index ∈ indices, index < s.2.length) →
      indices.foldl (fun s' index => put room (headerAt s'.1 s.2 s'.2 index) s') s = s := by
    intro indices
    induction indices with
    | nil => intros; rfl
    | cons index rest ih =>
      intro hindices
      rw [List.forall_mem_cons] at hindices
      rw [List.foldl_cons, hheader index hindices.1]
      exact ih hindices.2
  exact hloop _ fun index hindex => List.mem_range.mp hindex

end ClientGen.Includes
