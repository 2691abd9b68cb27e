import Mathlib.Data.Finset.Card
import Mathlib.Data.List.Forall2
/-!
# Joined, related and repetitive lists

What stands in a joined list, what two lists share whose elements are related one by one, and how
often a list repeats itself.
-/
namespace ClientGen

/-! ### Joined lists -/

section

variable {α : Type} {sep : List α}

theorem infix_intercalate {part : List α} {all : List (List α)} (h : part ∈ all) :
    part <:+: sep.intercalate all := by
  induction all with
  | nil => cases h
  | cons first rest ih =>
    cases rest with
    | nil =>
      have hpart := List.mem_singleton.mp h
      exact ⟨[], [], by simp [hpart]⟩
    | cons next rest =>
      rw [List.intercalate_cons_cons]
      rcases List.mem_cons.mp h with rfl | h
      · rw [List.append_assoc]
        exact (List.prefix_append _ _).isInfix
      · exact (ih h).trans (List.suffix_append _ _).isInfix

theorem mem_of_mem_intercalate {c : α} {parts : List (List α)} (h : c ∈ sep.intercalate parts) :
    c ∈ sep ∨ ∃ part ∈ parts, c ∈ part := by
  induction parts with
  | nil => simp at h
  | cons part rest ih =>
    cases rest with
    | nil => exact .inr ⟨part, by simp, by simpa using h⟩
    | cons next rest =>
      rw [List.intercalate_cons_cons, List.mem_append, List.mem_append] at h
      rcases h with (h | h) | h
      · exact .inr ⟨part, List.mem_cons_self, h⟩
      · exact .inl h
      · rcases ih h with hsep | ⟨other, hother, hc⟩
        · exact .inl hsep
        · exact .inr ⟨other, List.mem_cons_of_mem _ hother, hc⟩

theorem map_intercalate {β : Type} (f : α → β) (parts : List (List α)) :
    (sep.intercalate parts).map f = (sep.map f).intercalate (parts.map (List.map f)) := by
  induction parts with
  | nil => rfl
  | cons part rest ih =>
    cases rest with
    | nil => simp
    | cons next rest =>
      rw [List.intercalate_cons_cons, List.map_append, List.map_append, ih, List.map_cons,
        List.map_cons, List.map_cons, List.intercalate_cons_cons]

/-- No piece of a list holds what separates the pieces. -/
theorem not_mem_of_mem_splitOn [BEq α] [LawfulBEq α] {c : α} {chars piece : List α}
    (h : piece ∈ chars.splitOn c) : c ∉ piece := by
  induction chars generalizing piece with
  | nil =>
    rw [List.mem_singleton.mp h]
    exact List.not_mem_nil
  | cons d rest ih =>
    rw [List.splitOn_cons_eq_if_modifyHead] at h
    split at h
    · rcases List.mem_cons.mp h with rfl | h
      · exact List.not_mem_nil
      · exact ih h
    · rename_i hd
      cases hsplit : rest.splitOn c with
      | nil => exact absurd hsplit (List.splitOn_ne_nil _ _)
      | cons first pieces =>
        rw [hsplit] at h ih
        rcases List.mem_cons.mp h with rfl | h
        · rw [List.mem_cons, not_or]
          exact ⟨fun heq => hd (beq_iff_eq.mpr heq.symm), ih List.mem_cons_self⟩
        · exact ih (List.mem_cons_of_mem _ h)

end

/-! ### Related lists -/

section

variable {α β γ : Type} {rel : α → β → Prop} {list : List α} {list' : List β}

theorem exists_mem_of_forall₂ (h : List.Forall₂ rel list list') {a : α} (ha : a ∈ list) :
    ∃ b ∈ list', rel a b := by
  induction h with
  | nil => cases ha
  | cons hfirst _ ih =>
    rcases List.mem_cons.mp ha with rfl | ha
    · exact ⟨_, List.mem_cons_self, hfirst⟩
    · obtain ⟨b, hb, hrel⟩ := ih ha
      exact ⟨b, List.mem_cons_of_mem _ hb, hrel⟩

theorem map_eq_of_forall₂ {f : α → γ} {g : β → γ} (h : List.Forall₂ rel list list')
    (hrel : ∀ a b, rel a b → f a = g b) : list.map f = list'.map g := by
  rw [← List.forall₂_eq_eq_eq, List.forall₂_map_left_iff, List.forall₂_map_right_iff]
  exact h.imp hrel

end

/-! ### The last of its kind -/

theorem exists_last {α : Type} {kind : α → Prop} {l : List α} (h : ∃ a ∈ l, kind a) :
    ∃ before last after, l = before ++ last :: after ∧ kind last ∧ ∀ b ∈ after, ¬ kind b := by
  induction l with
  | nil =>
    obtain ⟨a, ha, -⟩ := h
    cases ha
  | cons first rest ih =>
    by_cases hrest : ∃ a ∈ rest, kind a
    · obtain ⟨before, last, after, rfl, hlast, hafter⟩ := ih hrest
      exact ⟨first :: before, last, after, rfl, hlast, hafter⟩
    · obtain ⟨a, ha, hkind⟩ := h
      rcases List.mem_cons.mp ha with rfl | ha
      · exact ⟨[], a, rest, rfl, hkind, fun b hb hkindb => hrest ⟨b, hb, hkindb⟩⟩
      · exact absurd ⟨a, ha, hkind⟩ hrest

/-! ### Repetitions -/

section

variable {α : Type} [DecidableEq α]

/-- How many more elements a list has than different ones. -/
def excess (l : List α) : Nat := l.length - l.dedup.length

/-- How many elements of a list were seen before, among others or in the list. -/
def repetitions (seen : List α) : List α → Nat
  | [] => 0
  | a :: rest => (if a ∈ seen then 1 else 0) + repetitions (a :: seen) rest

theorem repetitions_congr {l seen seen' : List α} (h : ∀ a, a ∈ seen ↔ a ∈ seen') :
    repetitions seen l = repetitions seen' l := by
  induction l generalizing seen seen' with
  | nil => rfl
  | cons a rest ih =>
    have hcons : ∀ b, b ∈ a :: seen ↔ b ∈ a :: seen' := by simp [h]
    simp only [repetitions, h, ih hcons]

theorem repetitions_cons_of_mem {a : α} {l seen : List α} (h : a ∈ seen) :
    repetitions (a :: seen) l = repetitions seen l := by
  apply repetitions_congr
  intro b
  rw [List.mem_cons]
  exact or_iff_right_of_imp fun hb => hb ▸ h

/-- An element is a repetition or the first of its kind that was not seen before. -/
theorem repetitions_add_card (l : List α) : ∀ seen : List α,
    repetitions seen l + (l.toFinset \ seen.toFinset).card = l.length := by
  induction l with
  | nil => simp [repetitions]
  | cons a rest ih =>
    intro seen
    have hrest := ih (a :: seen)
    rw [List.toFinset_cons] at hrest
    rw [repetitions, List.toFinset_cons, List.length_cons]
    by_cases hseen : a ∈ seen
    · have hmem : a ∈ seen.toFinset := List.mem_toFinset.mpr hseen
      rw [Finset.insert_eq_of_mem hmem] at hrest
      rw [if_pos hseen, Finset.insert_sdiff_of_mem _ hmem]
      omega
    · have hmem : a ∉ seen.toFinset := fun h => hseen (List.mem_toFinset.mp h)
      have hsplit : insert a rest.toFinset \ seen.toFinset =
          insert a (rest.toFinset \ insert a seen.toFinset) := by
        ext b
        by_cases hb : b = a <;> simp [hb, hmem]
      rw [if_neg hseen, hsplit, Finset.card_insert_of_notMem (by simp)]
      omega

theorem repetitions_nil (l : List α) : repetitions [] l = excess l := by
  have hcount := repetitions_add_card l []
  rw [List.toFinset_nil, Finset.sdiff_empty, List.card_toFinset] at hcount
  rw [excess]
  omega

theorem excess_eq_zero_iff {l : List α} : excess l = 0 ↔ l.Nodup := by
  rw [excess, Nat.sub_eq_zero_iff_le, ← List.dedup_eq_self]
  constructor
  · intro h
    exact (List.dedup_sublist l).eq_of_length_le h
  · intro h
    rw [h]

end

end ClientGen
