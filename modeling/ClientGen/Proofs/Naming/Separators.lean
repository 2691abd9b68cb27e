import ClientGen.Naming
import ClientGen.Proofs.Lists
/-!
# Separators in names

Splitting a name drops its separators, and no change of case makes a new one. So a name in
`PascalCase` has none: no stop, no hyphen, no white space and in particular no line end. No change
of case drops a letter, so it is empty only if the name has no word.
-/
namespace ClientGen.Naming

open ClientGen.Text

/-- The code points of separators. -/
def separatorRanges : CodeRanges := [(0x2B, 0x2B), (0x2D, 0x2E), (0x5F, 0x5F)] ++ whiteSpaceRanges

/-- A code point that is in no range of separators. -/
def Clear (n : Nat) : Prop := ∀ r ∈ separatorRanges, n < r.1 ∨ r.2 < n

theorem isSeparator_eq_false_of_clear {c : Char} (h : Clear c.toNat) : isSeparator c = false := by
  rw [← Bool.not_eq_true]
  intro hsep
  have hcovered : ∃ r ∈ separatorRanges, r.1 ≤ c.toNat ∧ c.toNat ≤ r.2 := by
    simp only [isSeparator, Bool.or_eq_true, beq_iff_eq] at hsep
    rcases hsep with (((rfl | rfl) | rfl) | rfl) | hblank
    · exact ⟨(0x2D, 0x2E), by decide, by decide, by decide⟩
    · exact ⟨(0x5F, 0x5F), by decide, by decide, by decide⟩
    · exact ⟨(0x2D, 0x2E), by decide, by decide, by decide⟩
    · exact ⟨(0x2B, 0x2B), by decide, by decide, by decide⟩
    · obtain ⟨r, hr, hbounds⟩ := CodeRanges.exists_mem_of_covers hblank
      exact ⟨r, List.mem_append_right _ hr, hbounds⟩
  obtain ⟨r, hr, hlow, hhigh⟩ := hcovered
  rcases h r hr with hlt | hlt <;> omega

theorem toNat_ofNat (n : Nat) : (Char.ofNat n).toNat = n ∨ (Char.ofNat n).toNat = 0 := by
  by_cases hvalid : n.isValidChar
  · left
    rw [Char.ofNat, dif_pos hvalid]
    rfl
  · right
    rw [Char.ofNat, dif_neg hvalid]
    rfl

theorem isSeparator_ofNat_of_clear {n : Nat} (h : Clear n) :
    isSeparator (Char.ofNat n) = false := by
  apply isSeparator_eq_false_of_clear
  rcases toNat_ofNat n with hn | hn
  · rw [hn]
    exact h
  · rw [hn]
    unfold Clear
    decide

/-! ### Changes of case -/

/-- A run that moves no code point to a separator. -/
def RunsClear (run : CaseRun) : Prop :=
  ∀ r ∈ separatorRanges,
    (0 < r.1 ∧ (run.high : Int) + run.shift < r.1) ∨ (r.2 : Int) < run.low + run.shift

theorem lowerCaseRuns_clear : ∀ run ∈ lowerCaseRuns, RunsClear run := by
  unfold RunsClear
  decide +kernel

theorem upperCaseRuns_clear : ∀ run ∈ upperCaseRuns, RunsClear run := by
  unfold RunsClear
  decide +kernel

theorem titleCaseTable_clear : ∀ entry ∈ titleCaseTable, ∀ n ∈ entry.2, Clear n := by
  unfold Clear
  decide +kernel

theorem applyCaseRuns_clear {runs : List CaseRun} (h : ∀ run ∈ runs, RunsClear run) (n : Nat) :
    applyCaseRuns runs n = n ∨ Clear (applyCaseRuns runs n) := by
  induction runs with
  | nil => exact .inl rfl
  | cons run rest ih =>
    rw [applyCaseRuns]
    split
    · exact .inl rfl
    · split
      · rename_i hmoves
        right
        intro r hr
        have hbounds : run.low ≤ n ∧ n ≤ run.high := by
          simp only [CaseRun.moves, Bool.and_eq_true, decide_eq_true_eq] at hmoves
          exact hmoves.1
        have hclear := h run List.mem_cons_self r hr
        omega
      · exact ih fun other hother => h other (List.mem_cons_of_mem _ hother)

theorem isSeparator_move {runs : List CaseRun} (h : ∀ run ∈ runs, RunsClear run) {c : Char}
    (hc : isSeparator c = false) :
    isSeparator (Char.ofNat (applyCaseRuns runs c.toNat)) = false := by
  rcases applyCaseRuns_clear h c.toNat with hsame | hclear
  · rw [hsame, Char.ofNat_toNat]
    exact hc
  · exact isSeparator_ofNat_of_clear hclear

theorem isSeparator_lowerCase {c : Char} (h : isSeparator c = false) :
    isSeparator (lowerCase c) = false :=
  isSeparator_move lowerCaseRuns_clear h

theorem mem_titleCaseTable {n : Nat} {form : List Nat} (h : titleCaseTable.lookup n = some form) :
    (n, form) ∈ titleCaseTable := by
  obtain ⟨before, after, htable, _⟩ := List.lookup_eq_some_iff.mp h
  simp [htable]

theorem isSeparator_titleCase {c : Char} (h : isSeparator c = false) :
    ∀ d ∈ titleCase c, isSeparator d = false := by
  intro d hd
  unfold titleCase at hd
  split at hd
  · rename_i form hform
    obtain ⟨n, hn, rfl⟩ := List.mem_map.mp hd
    exact isSeparator_ofNat_of_clear (titleCaseTable_clear _ (mem_titleCaseTable hform) n hn)
  · rw [List.mem_singleton] at hd
    subst hd
    exact isSeparator_move upperCaseRuns_clear h

/-! ### Words -/

/-- A letter of a word is one that was read before or is not a separator. -/
theorem mem_of_mem_splitWords (s : List Char) :
    ∀ word : List Char, ∀ w ∈ splitWords word s, ∀ c ∈ w,
      c ∈ word ∨ c ∈ s ∧ isSeparator c = false := by
  have hclose (word : List Char) : ∀ w ∈ splitWords.close word, ∀ c ∈ w, c ∈ word := by
    intro w hw c hc
    unfold splitWords.close at hw
    split at hw
    · cases hw
    · rw [List.mem_singleton] at hw
      rwa [hw, List.mem_reverse] at hc
  induction s with
  | nil => exact fun word w hw c hc => .inl (hclose word w hw c hc)
  | cons first rest ih =>
    intro word w hw c hc
    have hlater : c ∈ rest ∧ isSeparator c = false → c ∈ first :: rest ∧ isSeparator c = false :=
      And.imp_left (List.mem_cons_of_mem first)
    rw [splitWords] at hw
    split at hw
    · rcases List.mem_append.mp hw with hw | hw
      · exact .inl (hclose word w hw c hc)
      · exact .inr (hlater ((ih [] w hw c hc).resolve_left List.not_mem_nil))
    · rename_i hfirst
      rw [Bool.not_eq_true] at hfirst
      have hfirst : c = first → c ∈ first :: rest ∧ isSeparator c = false := by
        rintro rfl
        exact ⟨List.mem_cons_self, hfirst⟩
      split at hw
      · rcases List.mem_append.mp hw with hw | hw
        · exact .inl (hclose word w hw c hc)
        · rcases ih [first] w hw c hc with hword | hrest
          · exact .inr (hfirst (List.mem_singleton.mp hword))
          · exact .inr (hlater hrest)
      · rcases ih (first :: word) w hw c hc with hword | hrest
        · exact (List.mem_cons.mp hword).symm.imp_right hfirst
        · exact .inr (hlater hrest)

theorem splitWords_separator_free {s w : List Char} (hw : w ∈ splitWords [] s) :
    ∀ c ∈ w, isSeparator c = false := by
  intro c hc
  simpa using (mem_of_mem_splitWords s [] w hw c hc).imp_right And.right

theorem titleFrom_separator_free (s : List Char) :
    ∀ inWord afterMiddle : Bool, (∀ c ∈ s, isSeparator c = false) →
      ∀ c ∈ titleFrom inWord afterMiddle s, isSeparator c = false := by
  induction s with
  | nil =>
    intro inWord afterMiddle _ c hc
    cases hc
  | cons first rest ih =>
    intro inWord afterMiddle hs c hc
    have hfirst := hs first List.mem_cons_self
    have hrest := fun d hd => hs d (List.mem_cons_of_mem first hd)
    rw [titleFrom] at hc
    split at hc
    · rcases List.mem_append.mp hc with hc | hc
      · split at hc
        · rw [List.mem_singleton.mp hc]
          exact hfirst
        · exact isSeparator_titleCase hfirst c hc
      · exact ih _ _ hrest c hc
    · rcases List.mem_cons.mp hc with rfl | hc
      · exact hfirst
      · exact ih _ _ hrest c hc

theorem titleWord_lower_separator_free {name word : String} (h : word ∈ words name) :
    ∀ c ∈ (titleWord (lower word)).toList, isSeparator c = false := by
  obtain ⟨letters, hletters, rfl⟩ := List.mem_map.mp h
  have hclear := splitWords_separator_free hletters
  unfold titleWord
  rw [String.toList_ofList]
  apply titleFrom_separator_free
  intro c hc
  rw [lower, String.toList_map, String.toList_ofList] at hc
  obtain ⟨d, hd, rfl⟩ := List.mem_map.mp hc
  exact isSeparator_lowerCase (hclear d hd)

/-- A name in `PascalCase` has no separators. -/
theorem pascal_separator_free (name : String) :
    ∀ c ∈ (pascal name).toList, isSeparator c = false := by
  intro c hc
  rw [pascal, String.toList_ofList, List.mem_filter] at hc
  obtain ⟨hc, hblank⟩ := hc
  rw [title, String.toList_intercalate] at hc
  rcases mem_of_mem_intercalate hc with hc | ⟨part, hpart, hc⟩
  · have hspace : c = ' ' := by simpa using hc
    simp [hspace] at hblank
  · simp only [List.mem_map] at hpart
    obtain ⟨titled, ⟨word, hword, rfl⟩, rfl⟩ := hpart
    exact titleWord_lower_separator_free hword c hc

theorem not_mem_pascal {c : Char} (hc : isSeparator c = true) (name : String) :
    c ∉ (pascal name).toList := by
  intro hmem
  rw [pascal_separator_free name c hmem] at hc
  cases hc

/-! ### Names without a word -/

theorem titleCaseTable_ne_nil : ∀ entry ∈ titleCaseTable, entry.2 ≠ [] := by decide +kernel

theorem titleCase_ne_nil (c : Char) : titleCase c ≠ [] := by
  unfold titleCase
  split
  · rename_i form hform
    intro hnil
    exact titleCaseTable_ne_nil _ (mem_titleCaseTable hform) (List.map_eq_nil_iff.mp hnil)
  · exact List.cons_ne_nil _ _

theorem titleFrom_ne_nil {s : List Char} (h : s ≠ []) (inWord afterMiddle : Bool) :
    titleFrom inWord afterMiddle s ≠ [] := by
  cases s with
  | nil => exact absurd rfl h
  | cons first rest =>
    rw [titleFrom]
    split
    · refine List.append_ne_nil_of_left_ne_nil ?_ _
      split
      · exact List.cons_ne_nil _ _
      · exact titleCase_ne_nil first
    · exact List.cons_ne_nil _ _

theorem splitWords_ne_nil (s : List Char) : ∀ word, ∀ w ∈ splitWords word s, w ≠ [] := by
  have hclose (word : List Char) : ∀ w ∈ splitWords.close word, w ≠ [] := by
    intro w hw
    unfold splitWords.close at hw
    split at hw
    · cases hw
    · rename_i hword
      rw [List.mem_singleton.mp hw]
      simpa using hword
  induction s with
  | nil => exact hclose
  | cons first rest ih =>
    intro word w hw
    rw [splitWords] at hw
    split at hw
    · rcases List.mem_append.mp hw with hw | hw
      · exact hclose word w hw
      · exact ih _ w hw
    · split at hw
      · rcases List.mem_append.mp hw with hw | hw
        · exact hclose word w hw
        · exact ih _ w hw
      · exact ih _ w hw

theorem titleWord_lower_ne_nil {name word : String} (h : word ∈ words name) :
    (titleWord (lower word)).toList ≠ [] := by
  obtain ⟨letters, hletters, rfl⟩ := List.mem_map.mp h
  unfold titleWord
  rw [String.toList_ofList]
  apply titleFrom_ne_nil
  rw [lower, String.toList_map, String.toList_ofList]
  exact fun hnil => splitWords_ne_nil _ [] letters hletters (List.map_eq_nil_iff.mp hnil)

/-- A name that has a word becomes a name in `PascalCase` that is not empty. -/
theorem pascal_ne_empty {name : String} (h : words name ≠ []) : pascal name ≠ "" := by
  obtain ⟨word, rest, hwords⟩ := List.exists_cons_of_ne_nil h
  have hword : word ∈ words name := by rw [hwords]; exact List.mem_cons_self
  obtain ⟨c, letters, htitled⟩ := List.exists_cons_of_ne_nil (titleWord_lower_ne_nil hword)
  have hc : isSeparator c = false :=
    titleWord_lower_separator_free hword c (by rw [htitled]; exact List.mem_cons_self)
  -- the first letter of the first word is kept
  have htitle : c ∈ (title name).toList := by
    rw [title, hwords, List.map_cons, String.toList_intercalate, List.map_cons, htitled]
    cases rest <;> simp
  have hpascal : c ∈ (pascal name).toList := by
    rw [pascal, String.toList_ofList, List.mem_filter]
    refine ⟨htitle, ?_⟩
    rw [bne_iff_ne]
    rintro rfl
    exact absurd hc (by decide)
  intro hempty
  rw [hempty] at hpascal
  cases hpascal

end ClientGen.Naming
