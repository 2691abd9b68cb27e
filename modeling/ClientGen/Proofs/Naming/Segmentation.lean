import ClientGen.Proofs.Naming.Separators
/-!
# Words as a segmentation

The words of a text hold its letters in order, and what is between two neighbouring letters decides
whether a word ends there: a separator, or a capital as the second letter. No other list of words
without empty ones ends its words at the same places, so this says what the words are.
-/
namespace ClientGen.Naming

open ClientGen.Text

/-- What is left of a text without its separators. -/
def letters (s : List Char) : List Char := s.filter fun c => !isSeparator c

section

variable {α : Type}

/-- Some words of a list, from the first on, end with the given letters. -/
def BreaksBehind (parts : List (List α)) (before : List α) : Prop :=
  ∃ left, left <+: parts ∧ left.flatten = before

/-- The words of a text. -/
structure IsSegmentation (s : List Char) (parts : List (List Char)) : Prop where
  flatten : parts.flatten = letters s
  word : ∀ w ∈ parts, w ≠ [] ∧ (∀ c ∈ w, isSeparator c = false) ∧
    ∀ c ∈ w.tail, isUpperCase c = false
  /-- Two letters with nothing but separators between them. -/
  breaks : ∀ before first gap second after, s = before ++ first :: (gap ++ second :: after) →
    isSeparator first = false → isSeparator second = false →
    (∀ c ∈ gap, isSeparator c = true) →
    (BreaksBehind parts (letters (before ++ [first])) ↔ gap ≠ [] ∨ isUpperCase second = true)

/-! ### Words that end at the same places -/

variable {parts parts' : List (List α)}

theorem breaksBehind_cons {w : List α} (hw : w ≠ []) (before : List α) :
    BreaksBehind (w :: parts) (w ++ before) ↔ BreaksBehind parts before := by
  constructor
  · rintro ⟨left, hleft, hflat⟩
    rcases List.prefix_cons_iff.mp hleft with rfl | ⟨rest, rfl, hrest⟩
    · exact absurd (List.append_eq_nil_iff.mp hflat.symm).1 hw
    · rw [List.flatten_cons] at hflat
      exact ⟨rest, hrest, List.append_cancel_left hflat⟩
  · rintro ⟨left, hleft, rfl⟩
    exact ⟨w :: left, List.cons_prefix_cons.mpr ⟨rfl, hleft⟩, List.flatten_cons⟩

theorem prefix_of_breaksBehind {w before : List α} (hbefore : before ≠ [])
    (h : BreaksBehind (w :: parts) before) : w <+: before := by
  obtain ⟨left, hleft, rfl⟩ := h
  rcases List.prefix_cons_iff.mp hleft with rfl | ⟨rest, rfl, -⟩
  · exact absurd rfl hbefore
  · rw [List.flatten_cons]
    exact List.prefix_append _ _

theorem flatten_ne_nil {w : List α} (hw : w ≠ []) : (w :: parts).flatten ≠ [] := by
  rw [List.flatten_cons]
  exact List.append_ne_nil_of_left_ne_nil hw _

/-- Words are told by where they end. -/
theorem eq_of_breaks (hparts : ∀ w ∈ parts, w ≠ []) (hparts' : ∀ w ∈ parts', w ≠ [])
    (hflat : parts.flatten = parts'.flatten)
    (hbreaks : ∀ before, BreaksBehind parts before ↔ BreaksBehind parts' before) :
    parts = parts' := by
  induction parts generalizing parts' with
  | nil =>
    cases parts' with
    | nil => rfl
    | cons w rest => exact absurd hflat.symm (flatten_ne_nil (hparts' w List.mem_cons_self))
  | cons w rest ih =>
    obtain ⟨hw, hrest⟩ := List.forall_mem_cons.mp hparts
    cases parts' with
    | nil => exact absurd hflat (flatten_ne_nil hw)
    | cons w' rest' =>
      obtain ⟨hw', hrest'⟩ := List.forall_mem_cons.mp hparts'
      have hfirst {w : List α} {parts : List (List α)} : BreaksBehind (w :: parts) w :=
        ⟨[w], List.cons_prefix_cons.mpr ⟨rfl, List.nil_prefix⟩, List.flatten_singleton⟩
      -- each first word ends where a word of the other list ends
      have hle : w' <+: w := prefix_of_breaksBehind hw ((hbreaks w).mp hfirst)
      have hge : w <+: w' := prefix_of_breaksBehind hw' ((hbreaks w').mpr hfirst)
      obtain rfl : w' = w := hle.eq_of_length (Nat.le_antisymm hle.length_le hge.length_le)
      rw [List.flatten_cons, List.flatten_cons] at hflat
      rw [ih hrest hrest' (List.append_cancel_left hflat) fun before => ?_]
      exact (breaksBehind_cons hw before).symm.trans
        ((hbreaks (w' ++ before)).trans (breaksBehind_cons hw before))

end

/-! ### Places between letters -/

theorem letters_cons_of_separator {c : Char} (h : isSeparator c = true) (s : List Char) :
    letters (c :: s) = letters s :=
  List.filter_cons_of_neg (by simp [h])

theorem letters_cons {c : Char} (h : isSeparator c = false) (s : List Char) :
    letters (c :: s) = c :: letters s :=
  List.filter_cons_of_pos (by simp [h])

theorem exists_gap {s before after : List Char} (h : letters s = before ++ after)
    (hbefore : before ≠ []) (hafter : after ≠ []) :
    ∃ start first gap second rest, s = start ++ first :: (gap ++ second :: rest) ∧
      isSeparator first = false ∧ isSeparator second = false ∧
      (∀ c ∈ gap, isSeparator c = true) ∧ before = letters (start ++ [first]) := by
  obtain ⟨init, first, rfl⟩ := List.eq_nil_or_concat before |>.resolve_left hbefore
  obtain ⟨second, others, rfl⟩ := List.exists_cons_of_ne_nil hafter
  rw [List.concat_eq_append, List.append_assoc] at h
  obtain ⟨start, behind, rfl, hstart, hbehind⟩ := List.filter_eq_append_iff.mp h
  obtain ⟨skipped, tail, rfl, hskipped, hfirst, htail⟩ := List.filter_eq_cons_iff.mp hbehind
  obtain ⟨gap, rest, rfl, hgap, hsecond, -⟩ := List.filter_eq_cons_iff.mp htail
  rw [Bool.not_eq_true'] at hfirst hsecond
  refine ⟨start ++ skipped, first, gap, second, rest, by simp, hfirst, hsecond,
    fun c hc => by simpa using hgap c hc, ?_⟩
  have hnone : letters skipped = [] := List.filter_eq_nil_iff.mpr hskipped
  have hlast : letters [first] = [first] := letters_cons hfirst []
  rw [letters, List.filter_append, List.filter_append, hstart, ← letters, ← letters, hnone, hlast,
    List.append_nil, List.concat_eq_append]

/-- A text has no two segmentations. -/
theorem IsSegmentation.unique {s : List Char} {parts parts' : List (List Char)}
    (h : IsSegmentation s parts) (h' : IsSegmentation s parts') : parts = parts' := by
  have hflat : parts.flatten = parts'.flatten := h.flatten.trans h'.flatten.symm
  refine eq_of_breaks (fun w hw => (h.word w hw).1) (fun w hw => (h'.word w hw).1) hflat ?_
  have hhalf {parts parts' : List (List Char)} (h : IsSegmentation s parts)
      (h' : IsSegmentation s parts') (before : List Char) (hbreak : BreaksBehind parts before) :
      BreaksBehind parts' before := by
    obtain ⟨left, ⟨right, rfl⟩, rfl⟩ := id hbreak
    by_cases hbefore : left.flatten = []
    · exact ⟨[], List.nil_prefix, hbefore.symm⟩
    have hletters : letters s = left.flatten ++ right.flatten := by
      rw [← h.flatten, List.flatten_append]
    by_cases hafter : right.flatten = []
    · rw [hafter, List.append_nil, ← h'.flatten] at hletters
      exact ⟨parts', List.prefix_rfl, hletters⟩
    -- in the middle, both lists end a word where the text says so
    obtain ⟨start, first, gap, second, rest, hs, hfirst, hsecond, hgap, hsame⟩ :=
      exists_gap hletters hbefore hafter
    rw [hsame] at hbreak ⊢
    exact (h'.breaks start first gap second rest hs hfirst hsecond hgap).mpr
      ((h.breaks start first gap second rest hs hfirst hsecond hgap).mp hbreak)
  exact fun before => ⟨hhalf h h' before, hhalf h' h before⟩

/-! ### Splitting -/

theorem splitWords_cons_separator {c : Char} (h : isSeparator c = true) (word s : List Char) :
    splitWords word (c :: s) = splitWords.close word ++ splitWords [] s := by
  rw [splitWords, if_pos h]

theorem splitWords_cons_capital {c : Char} (h : isSeparator c = false)
    (hupper : isUpperCase c = true) (word s : List Char) :
    splitWords word (c :: s) = splitWords.close word ++ splitWords [c] s := by
  rw [splitWords, if_neg (by simp [h]), if_pos hupper]

theorem splitWords_cons_small {c : Char} (h : isSeparator c = false)
    (hupper : isUpperCase c = false) (word s : List Char) :
    splitWords word (c :: s) = splitWords (c :: word) s := by
  rw [splitWords, if_neg (by simp [h]), if_neg (by simp [hupper])]

theorem close_of_ne_nil {word : List Char} (h : word ≠ []) :
    splitWords.close word = [word.reverse] := by
  rw [splitWords.close, if_neg (by simpa using h)]

theorem flatten_close (word : List Char) : (splitWords.close word).flatten = word.reverse := by
  by_cases h : word = []
  · subst h
    rfl
  · rw [close_of_ne_nil h, List.flatten_singleton]

/-- Behind a letter some words are finished, and a word is being read that has the letter. -/
theorem splitWords_letter {first : Char} (hfirst : isSeparator first = false)
    (before : List Char) : ∀ word, ∃ finished pending, pending ≠ [] ∧
      finished.flatten ++ pending.reverse = word.reverse ++ letters (before ++ [first]) ∧
      ∀ rest, splitWords word (before ++ first :: rest) =
        finished ++ splitWords pending rest := by
  have hlast : letters [first] = [first] := letters_cons hfirst []
  induction before with
  | nil =>
    intro word
    rw [List.nil_append, hlast]
    cases hupper : isUpperCase first with
    | true =>
      refine ⟨splitWords.close word, [first], List.cons_ne_nil _ _, ?_, fun rest => ?_⟩
      · rw [flatten_close, List.reverse_singleton]
      · exact splitWords_cons_capital hfirst hupper word rest
    | false =>
      refine ⟨[], first :: word, List.cons_ne_nil _ _, ?_, fun rest => ?_⟩
      · rw [List.flatten_nil, List.nil_append, List.reverse_cons]
      · exact splitWords_cons_small hfirst hupper word rest
  | cons c before ih =>
    intro word
    rw [List.cons_append]
    -- what is read next goes on with the word, or with another one
    have hclosing (word' : List Char)
        (hletters : letters (c :: (before ++ [first])) =
          word'.reverse ++ letters (before ++ [first]))
        (hsplit : ∀ rest, splitWords word (c :: rest) =
          splitWords.close word ++ splitWords word' rest) :
        ∃ finished pending, pending ≠ [] ∧ finished.flatten ++ pending.reverse =
            word.reverse ++ letters (c :: (before ++ [first])) ∧
          ∀ rest, splitWords word (c :: (before ++ first :: rest)) =
            finished ++ splitWords pending rest := by
      obtain ⟨finished, pending, hpending, hflat, hrest⟩ := ih word'
      refine ⟨splitWords.close word ++ finished, pending, hpending, ?_, fun rest => ?_⟩
      · rw [List.flatten_append, flatten_close, List.append_assoc, hflat, hletters]
      · rw [hsplit, hrest, List.append_assoc]
    cases hsep : isSeparator c with
    | true =>
      exact hclosing [] (letters_cons_of_separator hsep _) fun rest =>
        splitWords_cons_separator hsep word rest
    | false =>
      cases hupper : isUpperCase c with
      | true =>
        exact hclosing [c] (letters_cons hsep _) fun rest =>
          splitWords_cons_capital hsep hupper word rest
      | false =>
        obtain ⟨finished, pending, hpending, hflat, hrest⟩ := ih (c :: word)
        refine ⟨finished, pending, hpending, ?_, fun rest => ?_⟩
        · rw [hflat, List.reverse_cons, List.append_assoc, letters_cons hsep]
          rfl
        · rw [List.cons_append, splitWords_cons_small hsep hupper, hrest]

theorem flatten_splitWords (s : List Char) :
    ∀ word, (splitWords word s).flatten = word.reverse ++ letters s := by
  induction s with
  | nil =>
    intro word
    rw [splitWords, flatten_close]
    exact (List.append_nil _).symm
  | cons c rest ih =>
    intro word
    cases hsep : isSeparator c with
    | true =>
      rw [splitWords_cons_separator hsep, List.flatten_append, flatten_close, ih,
        letters_cons_of_separator hsep]
      rfl
    | false =>
      rw [letters_cons hsep]
      cases hupper : isUpperCase c with
      | true =>
        rw [splitWords_cons_capital hsep hupper, List.flatten_append, flatten_close, ih]
        rfl
      | false =>
        rw [splitWords_cons_small hsep hupper, ih, List.reverse_cons, List.append_assoc]
        rfl

/-- The word that is being read begins the next word. -/
theorem splitWords_pending (s : List Char) : ∀ word, word ≠ [] →
    ∃ more rest, splitWords word s = (word.reverse ++ more) :: rest := by
  induction s with
  | nil =>
    intro word hword
    refine ⟨[], [], ?_⟩
    rw [splitWords, close_of_ne_nil hword, List.append_nil]
  | cons c rest ih =>
    intro word hword
    have hclosing (later : List (List Char)) : ∃ more rest,
        splitWords.close word ++ later = (word.reverse ++ more) :: rest := by
      refine ⟨[], later, ?_⟩
      rw [close_of_ne_nil hword, List.append_nil, List.singleton_append]
    cases hsep : isSeparator c with
    | true =>
      rw [splitWords_cons_separator hsep]
      exact hclosing _
    | false =>
      cases hupper : isUpperCase c with
      | true =>
        rw [splitWords_cons_capital hsep hupper]
        exact hclosing _
      | false =>
        obtain ⟨more, later, hmore⟩ := ih (c :: word) (List.cons_ne_nil _ _)
        refine ⟨c :: more, later, ?_⟩
        rw [splitWords_cons_small hsep hupper, hmore, List.reverse_cons, List.append_assoc]
        rfl

/-- Only the first letter of a word may be a capital. -/
theorem splitWords_tail (s : List Char) :
    ∀ word, (∀ c ∈ word.reverse.tail, isUpperCase c = false) →
      ∀ w ∈ splitWords word s, ∀ c ∈ w.tail, isUpperCase c = false := by
  have hclose {word : List Char} (hword : ∀ c ∈ word.reverse.tail, isUpperCase c = false) :
      ∀ w ∈ splitWords.close word, ∀ c ∈ w.tail, isUpperCase c = false := by
    intro w hw
    unfold splitWords.close at hw
    split at hw
    · cases hw
    · rwa [List.mem_singleton.mp hw]
  induction s with
  | nil => exact fun word hword => hclose hword
  | cons c rest ih =>
    intro word hword
    cases hsep : isSeparator c with
    | true =>
      rw [splitWords_cons_separator hsep]
      exact List.forall_mem_append.mpr ⟨hclose hword, ih [] (by simp)⟩
    | false =>
      cases hupper : isUpperCase c with
      | true =>
        rw [splitWords_cons_capital hsep hupper]
        exact List.forall_mem_append.mpr ⟨hclose hword, ih [c] (by simp)⟩
      | false =>
        rw [splitWords_cons_small hsep hupper]
        refine ih (c :: word) fun d hd => ?_
        rw [List.reverse_cons] at hd
        by_cases hnone : word.reverse = []
        · rw [hnone] at hd
          cases hd
        · rw [List.tail_append_of_ne_nil hnone, List.mem_append, List.mem_singleton] at hd
          rcases hd with hd | rfl
          · exact hword d hd
          · exact hupper

/-- A word that is longer than what has been read of it does not end there. -/
theorem not_breaksBehind {finished later : List (List Char)} {pending more : List Char} {c : Char}
    (hpending : pending ≠ []) :
    ¬ BreaksBehind (finished ++ (pending.reverse ++ c :: more) :: later)
      (finished.flatten ++ pending.reverse) := by
  rintro ⟨left, hleft, hflat⟩
  have hlength := congrArg List.length hflat
  have hsome := List.length_pos_of_ne_nil hpending
  rw [List.length_append, List.length_reverse] at hlength
  rcases List.prefix_or_prefix_of_prefix hleft (List.prefix_append finished _) with
    ⟨rest, hrest⟩ | ⟨rest, rfl⟩
  · rw [← hrest, List.flatten_append, List.length_append] at hlength
    omega
  · rw [List.prefix_append_right_inj] at hleft
    rw [List.flatten_append, List.length_append] at hlength
    rcases List.prefix_cons_iff.mp hleft with rfl | ⟨behind, rfl, -⟩
    · rw [List.flatten_nil, List.length_nil] at hlength
      omega
    · simp only [List.flatten_cons, List.length_append, List.length_reverse,
        List.length_cons] at hlength
      omega

theorem splitWords_isSegmentation (s : List Char) : IsSegmentation s (splitWords [] s) where
  flatten := flatten_splitWords s []
  word w hw := ⟨splitWords_ne_nil s [] w hw, splitWords_separator_free hw,
    splitWords_tail s [] (by simp) w hw⟩
  breaks := by
    rintro before first gap second after rfl hfirst hsecond hgap
    obtain ⟨finished, pending, hpending, hflat, hsplit⟩ := splitWords_letter hfirst before []
    rw [List.reverse_nil, List.nil_append] at hflat
    rw [hsplit, ← hflat]
    have hends (later : List (List Char)) : BreaksBehind
        (finished ++ (splitWords.close pending ++ later))
        (finished.flatten ++ pending.reverse) := by
      refine ⟨finished ++ splitWords.close pending, ?_, ?_⟩
      · rw [← List.append_assoc]
        exact List.prefix_append _ _
      · rw [List.flatten_append, flatten_close]
    cases gap with
    | cons c rest =>
      rw [List.cons_append, splitWords_cons_separator (hgap c List.mem_cons_self)]
      exact iff_of_true (hends _) (.inl (List.cons_ne_nil _ _))
    | nil =>
      rw [List.nil_append]
      cases hupper : isUpperCase second with
      | true =>
        rw [splitWords_cons_capital hsecond hupper]
        exact iff_of_true (hends _) (.inr rfl)
      | false =>
        obtain ⟨more, later, hmore⟩ :=
          splitWords_pending after (second :: pending) (List.cons_ne_nil _ _)
        rw [splitWords_cons_small hsecond hupper, hmore, List.reverse_cons, List.append_assoc,
          List.singleton_append]
        exact iff_of_false (not_breaksBehind hpending) (by simp)

/-- The words of a name are the only segmentation of its normal form: they have its letters without
the separators, none of them is empty, only the first letter of a word may be a capital, and between
two neighbouring letters a word ends exactly if a separator stands there or the second letter is a
capital. -/
theorem words_eq_iff_isSegmentation (name : String) (parts : List String) :
    words name = parts ↔ IsSegmentation (normalForm name.toList) (parts.map String.toList) := by
  have hsplit := splitWords_isSegmentation (normalForm name.toList)
  have hwords : (words name).map String.toList = splitWords [] (normalForm name.toList) := by
    rw [words, List.map_map]
    exact (List.map_congr_left fun w _ => String.toList_ofList).trans (List.map_id _)
  constructor
  · rintro rfl
    rwa [hwords]
  · intro h
    have hsame := hsplit.unique h
    rw [← hwords] at hsame
    exact List.map_injective_iff.mpr (fun _ _ => String.toList_inj.mp) hsame

end ClientGen.Naming
