import ClientGen.Proofs.Naming.Capitals
/-!
# Names in one casing

In ASCII every letter has one capital. So capitalizing a name a second time changes nothing: a
capital stays, and the small letters that are left follow one in their word. A name in any of the
casings has the words of the name that it was made from, up to capitals, so every casing of it is
the same as before.
-/
namespace ClientGen.Naming

open ClientGen.Text

def IsAscii (s : List Char) : Prop := ∀ c ∈ s, c.toNat < 0x80

instance (s : List Char) : Decidable (IsAscii s) := List.decidableBAll _ s

theorem isAscii_cons {c : Char} {s : List Char} :
    IsAscii (c :: s) ↔ c.toNat < 0x80 ∧ IsAscii s :=
  List.forall_mem_cons

theorem normalForm_of_isAscii {s : List Char} (h : IsAscii s) : normalForm s = s := by
  rw [normalForm, if_pos]
  simpa [IsAscii] using h

/-! ### Letters -/

@[elab_as_elim]
theorem forall_ascii {motive : Char → Prop} {c : Char} (hc : c.toNat < 0x80)
    (h : ∀ n < 0x80, motive (Char.ofNat n)) : motive c := by
  rw [← Char.ofNat_toNat c]
  exact h c.toNat hc

/-- A capital is the only title case of its small letter. -/
theorem small_of_capital {c : Char} (hc : c.toNat < 0x80) : isUpperCase c = true →
    isSeparator c = false ∧ isCased c = true ∧ isUpperCase (lowerCase c) = false ∧
      (lowerCase c).toNat < 0x80 ∧ isCased (lowerCase c) = true ∧
      (wordRole (lowerCase c) == .middle) = false ∧ titleCase (lowerCase c) = [c] :=
  forall_ascii hc (by decide +kernel)

/-- Any other character is in lower case, and if it has a case, it has one capital. -/
theorem lowerCase_of_not_capital {c : Char} (hc : c.toNat < 0x80) : isUpperCase c = false →
    lowerCase c = c ∧ (isCased c = true →
      isSeparator c = false ∧ (wordRole c == .middle) = false ∧ isUpperCase (upperCase c) = true ∧
        titleCase c = [upperCase c]) :=
  forall_ascii hc (by decide +kernel)

theorem upperCase_ascii {c : Char} (hc : c.toNat < 0x80) : (upperCase c).toNat < 0x80 :=
  forall_ascii hc (by decide +kernel)

theorem lowerCase_ascii {c : Char} (hc : c.toNat < 0x80) : (lowerCase c).toNat < 0x80 := by
  cases hupper : isUpperCase c with
  | true => exact (small_of_capital hc hupper).2.2.2.1
  | false => rwa [(lowerCase_of_not_capital hc hupper).1]

theorem isUpperCase_lowerCase {c : Char} (hc : c.toNat < 0x80) :
    isUpperCase (lowerCase c) = false := by
  cases hupper : isUpperCase c with
  | true => exact (small_of_capital hc hupper).2.2.1
  | false => rwa [(lowerCase_of_not_capital hc hupper).1]

theorem lowerCase_separator {c : Char} (hc : c.toNat < 0x80) (hsep : isSeparator c = true) :
    lowerCase c = c := by
  cases hupper : isUpperCase c with
  | true =>
    rw [(small_of_capital hc hupper).1] at hsep
    cases hsep
  | false => exact (lowerCase_of_not_capital hc hupper).1

theorem lowerCase_lowerCase {c : Char} (hc : c.toNat < 0x80) :
    lowerCase (lowerCase c) = lowerCase c :=
  (lowerCase_of_not_capital (lowerCase_ascii hc) (isUpperCase_lowerCase hc)).1

/-! ### Capitalizing twice -/

section

variable {c : Char} {s : List Char}

theorem capitalized_separator (hsep : isSeparator c = true) (inWord afterMiddle : Bool) :
    capitalized inWord afterMiddle (c :: s) = capitalized false false s := by
  simp [capitalized, hsep]

theorem capitalized_capital (hc : c.toNat < 0x80) (hupper : isUpperCase c = true)
    (inWord afterMiddle : Bool) :
    capitalized inWord afterMiddle (c :: s) = c :: capitalized true false s := by
  obtain ⟨hsep, -, -, -, hcased, hrole, htitle⟩ := small_of_capital hc hupper
  simp [capitalized, titleState, titleFrom, hsep, hupper, hcased, hrole, htitle]

theorem capitalized_small (hc : c.toNat < 0x80) (hupper : isUpperCase c = false)
    (hcased : isCased c = true) (inWord afterMiddle : Bool) :
    capitalized inWord afterMiddle (c :: s) =
      (if inWord then c else upperCase c) :: capitalized true false s := by
  obtain ⟨hlower, hletter⟩ := lowerCase_of_not_capital hc hupper
  obtain ⟨hsep, hrole, -, htitle⟩ := hletter hcased
  cases inWord <;>
    simp [capitalized, titleState, titleFrom, hsep, hupper, hlower, hcased, hrole, htitle]

theorem capitalized_uncased (hc : c.toNat < 0x80) (hsep : isSeparator c = false)
    (hcased : isCased c = false) (inWord afterMiddle : Bool) :
    capitalized inWord afterMiddle (c :: s) =
      c :: capitalized (titleState inWord afterMiddle c).1 (titleState inWord afterMiddle c).2 s := by
  have hupper : isUpperCase c = false := by
    by_contra hupper
    rw [(small_of_capital hc (by simpa using hupper)).2.1] at hcased
    cases hcased
  simp [capitalized, titleFrom, hsep, hupper, (lowerCase_of_not_capital hc hupper).1, hcased]

end

/-- Capitalizing keeps letters or raises them. -/
theorem forall_mem_capitalized {p : Char → Prop} (s : List Char) :
    ∀ inWord afterMiddle : Bool, IsAscii s →
      (∀ c ∈ s, isSeparator c = false → p c ∧ p (upperCase c)) →
      ∀ d ∈ capitalized inWord afterMiddle s, p d := by
  induction s with
  | nil => exact fun _ _ _ _ d hd => absurd hd List.not_mem_nil
  | cons c rest ih =>
    intro inWord afterMiddle h hp
    obtain ⟨hc, hrest⟩ := isAscii_cons.mp h
    obtain ⟨hpc, hprest⟩ := List.forall_mem_cons.mp hp
    by_cases hsep : isSeparator c = true
    · rw [capitalized_separator hsep]
      exact ih _ _ hrest hprest
    · rw [Bool.not_eq_true] at hsep
      obtain ⟨hkept, hraised⟩ := hpc hsep
      cases hcased : isCased c with
      | false =>
        rw [capitalized_uncased hc hsep hcased]
        exact List.forall_mem_cons.mpr ⟨hkept, ih _ _ hrest hprest⟩
      | true =>
        cases hupper : isUpperCase c with
        | true =>
          rw [capitalized_capital hc hupper]
          exact List.forall_mem_cons.mpr ⟨hkept, ih _ _ hrest hprest⟩
        | false =>
          rw [capitalized_small hc hupper hcased]
          refine List.forall_mem_cons.mpr ⟨?_, ih _ _ hrest hprest⟩
          cases inWord
          · exact hraised
          · exact hkept

theorem capitalized_ascii {s : List Char} (h : IsAscii s) (inWord afterMiddle : Bool) :
    IsAscii (capitalized inWord afterMiddle s) :=
  forall_mem_capitalized s _ _ h fun c hc _ => ⟨h c hc, upperCase_ascii (h c hc)⟩

/-- The invariant is that the second pass is in a word where the first is: a letter that the first
pass leaves small stays small, and one that it raises is a capital for the second. -/
theorem capitalized_capitalized (s : List Char) :
    ∀ inWord afterMiddle inWord' afterMiddle' : Bool, IsAscii s →
      (inWord = true → inWord' = true ∧ afterMiddle' = afterMiddle) →
      capitalized inWord' afterMiddle' (capitalized inWord afterMiddle s) =
        capitalized inWord afterMiddle s := by
  induction s with
  | nil => exact fun _ _ _ _ _ _ => rfl
  | cons c rest ih =>
    intro inWord afterMiddle inWord' afterMiddle' h hstate
    obtain ⟨hc, hrest⟩ := isAscii_cons.mp h
    have hword := ih true false true false hrest fun _ => ⟨rfl, rfl⟩
    by_cases hsep : isSeparator c = true
    · rw [capitalized_separator hsep]
      exact ih false false inWord' afterMiddle' hrest (by simp)
    · rw [Bool.not_eq_true] at hsep
      cases hcased : isCased c with
      | false =>
        rw [capitalized_uncased hc hsep hcased, capitalized_uncased hc hsep hcased, ih]
        · exact hrest
        · -- a second state that is in a word moves on as the first one does
          intro hin
          cases inWord with
          | true =>
            obtain ⟨hin', hmiddle⟩ := hstate rfl
            rw [hin', hmiddle]
            exact ⟨hin, rfl⟩
          | false => simp [titleState, hcased] at hin
      | true =>
        cases hupper : isUpperCase c with
        | true =>
          rw [capitalized_capital hc hupper, capitalized_capital hc hupper, hword]
        | false =>
          obtain ⟨-, -, hcapital, -⟩ := (lowerCase_of_not_capital hc hupper).2 hcased
          rw [capitalized_small hc hupper hcased]
          cases inWord with
          | true =>
            rw [(hstate rfl).1, if_pos rfl, capitalized_small hc hupper hcased, if_pos rfl, hword]
          | false =>
            rw [if_neg Bool.false_ne_true, capitalized_capital (upperCase_ascii hc) hcapital, hword]

/-! ### Lowered words -/

theorem splitWords_append_quiet {w : List Char}
    (hquiet : ∀ c ∈ w, isSeparator c = false ∧ isUpperCase c = false) :
    ∀ word rest, splitWords word (w ++ rest) = splitWords (w.reverse ++ word) rest := by
  induction w with
  | nil => exact fun _ _ => rfl
  | cons c w ih =>
    intro word rest
    rw [List.forall_mem_cons] at hquiet
    rw [List.cons_append, splitWords, if_neg (by simp [hquiet.1.1]), if_neg (by simp [hquiet.1.2]),
      ih hquiet.2, List.reverse_cons, List.append_assoc, List.singleton_append]

theorem close_reverse {w : List Char} (hw : w ≠ []) : splitWords.close w.reverse = [w] := by
  simp [splitWords.close, hw]

/-- Words without capitals are split where they were joined. -/
theorem splitWords_intercalate {sep : Char} (hsep : isSeparator sep = true)
    {ws : List (List Char)}
    (h : ∀ w ∈ ws, w ≠ [] ∧ ∀ c ∈ w, isSeparator c = false ∧ isUpperCase c = false) :
    splitWords [] ([sep].intercalate ws) = ws := by
  induction ws with
  | nil => rfl
  | cons w rest ih =>
    obtain ⟨⟨hw, hquiet⟩, hrest⟩ := List.forall_mem_cons.mp h
    cases rest with
    | nil =>
      have hsingle : [sep].intercalate [w] = w ++ [] := by simp
      rw [hsingle, splitWords_append_quiet hquiet, List.append_nil, splitWords, close_reverse hw]
    | cons next rest =>
      rw [List.intercalate_cons_cons, List.append_assoc, splitWords_append_quiet hquiet,
        List.append_nil, List.singleton_append, splitWords, if_pos hsep, ih hrest,
        close_reverse hw, List.singleton_append]

theorem toList_lower_intercalate (sep : String) (ws : List String) :
    (lower (String.intercalate sep ws)).toList =
      (sep.toList.map lowerCase).intercalate (ws.map fun w => w.toList.map lowerCase) := by
  rw [lower, String.toList_map, String.toList_intercalate, map_intercalate, List.map_map]
  rfl

theorem lower_lower {word : String} (h : IsAscii word.toList) : lower (lower word) = lower word := by
  apply String.toList_injective
  simp only [lower, String.toList_map, List.map_map]
  exact List.map_congr_left fun c hc => lowerCase_lowerCase (h c hc)

section

variable {name other : String}

theorem words_ascii (h : IsAscii name.toList) {word : String} (hword : word ∈ words name) :
    IsAscii word.toList := by
  obtain ⟨letters, hletters, rfl⟩ := List.mem_map.mp hword
  rw [normalForm_of_isAscii h] at hletters
  rw [String.toList_ofList]
  intro c hc
  exact h c ((mem_of_mem_splitWords _ [] _ hletters c hc).resolve_left List.not_mem_nil).1

/-- The words that are lowered and joined come back lowered. -/
theorem words_lower_intercalate (h : IsAscii name.toList) {sep : String} (mark : Char)
    (hsep : sep.toList = [mark]) (hmark : isSeparator mark = true) (hascii : mark.toNat < 0x80) :
    words (lower (String.intercalate sep (words name))) = (words name).map lower := by
  have hjoined := toList_lower_intercalate sep (words name)
  rw [hsep, List.map_singleton, lowerCase_separator hascii hmark] at hjoined
  have hletters : ∀ w ∈ (words name).map fun w => w.toList.map lowerCase,
      ∀ c ∈ w, c.toNat < 0x80 ∧ isSeparator c = false ∧ isUpperCase c = false := by
    simp only [List.forall_mem_map]
    intro word hword c hc
    have hsmall := words_ascii h hword c hc
    obtain ⟨letters, hletters, rfl⟩ := List.mem_map.mp hword
    rw [String.toList_ofList] at hc
    exact ⟨lowerCase_ascii hsmall, isSeparator_lowerCase (splitWords_separator_free hletters c hc),
      isUpperCase_lowerCase hsmall⟩
  have hlist : IsAscii (lower (String.intercalate sep (words name))).toList := by
    intro c hc
    rw [hjoined] at hc
    rcases mem_of_mem_intercalate hc with hc | ⟨w, hw, hc⟩
    · rwa [List.mem_singleton.mp hc]
    · exact (hletters w hw c hc).1
  have hnil : ∀ w ∈ (words name).map fun w => w.toList.map lowerCase, w ≠ [] := by
    simp only [List.forall_mem_map, words, ne_eq, List.map_eq_nil_iff, String.toList_ofList]
    exact splitWords_ne_nil _ []
  rw [words, normalForm_of_isAscii hlist, hjoined,
    splitWords_intercalate hmark fun w hw => ⟨hnil w hw, fun c hc => (hletters w hw c hc).2⟩,
    List.map_map]
  apply List.map_congr_left
  intro word _
  apply String.toList_injective
  simp [lower]

/-! ### The casings of a name in one casing -/

theorem toList_pascal_of_isAscii (h : IsAscii name.toList) :
    (pascal name).toList = capitalized false false name.toList := by
  rw [toList_pascal, normalForm_of_isAscii h]

theorem pascal_ascii (h : IsAscii name.toList) : IsAscii (pascal name).toList := by
  rw [toList_pascal_of_isAscii h]
  exact capitalized_ascii h _ _

theorem pascal_pascal (h : IsAscii name.toList) : pascal (pascal name) = pascal name := by
  apply String.toList_injective
  rw [toList_pascal_of_isAscii (pascal_ascii h), toList_pascal_of_isAscii h]
  exact capitalized_capitalized _ _ _ _ _ h (by simp)

theorem camel_pascal (h : IsAscii name.toList) : camel (pascal name) = camel name := by
  rw [camel, pascal_pascal h, ← camel]

theorem toList_camel (name : String) :
    (camel name).toList = (pascal name).toList.modifyHead lowerCase := by
  rw [camel]
  cases (pascal name).toList with
  | nil => rfl
  | cons c rest => simp

/-- A first letter that was lowered is raised again. -/
theorem capitalized_modifyHead {s : List Char} (h : IsAscii s)
    (hfixed : capitalized false false s = s) :
    capitalized false false (s.modifyHead lowerCase) = s := by
  cases s with
  | nil => rfl
  | cons c rest =>
    have hc := (isAscii_cons.mp h).1
    rw [List.modifyHead_cons]
    cases hupper : isUpperCase c with
    | false => rwa [(lowerCase_of_not_capital hc hupper).1]
    | true =>
      obtain ⟨-, -, hlower, hascii, hcased, -, htitle⟩ := small_of_capital hc hupper
      obtain ⟨-, -, -, hraised⟩ := (lowerCase_of_not_capital hascii hlower).2 hcased
      rw [htitle, List.singleton_inj] at hraised
      rw [capitalized_capital hc hupper] at hfixed
      rw [capitalized_small hascii hlower hcased, if_neg Bool.false_ne_true, ← hraised]
      exact hfixed

theorem camel_ascii (h : IsAscii name.toList) : IsAscii (camel name).toList := by
  have hpascal := pascal_ascii h
  rw [toList_camel]
  cases hletters : (pascal name).toList with
  | nil => exact fun _ hc => absurd hc List.not_mem_nil
  | cons c rest =>
    obtain ⟨hc, hrest⟩ := isAscii_cons.mp (hletters ▸ hpascal)
    exact isAscii_cons.mpr ⟨lowerCase_ascii hc, hrest⟩

theorem pascal_camel (h : IsAscii name.toList) : pascal (camel name) = pascal name := by
  have hfixed : capitalized false false (pascal name).toList = (pascal name).toList := by
    rw [← toList_pascal_of_isAscii (pascal_ascii h), pascal_pascal h]
  apply String.toList_injective
  rw [toList_pascal_of_isAscii (camel_ascii h), toList_camel]
  exact capitalized_modifyHead (pascal_ascii h) hfixed

/-- A name with the lowered words of another one has its casings. -/
theorem pascal_eq_of_words (h : IsAscii name.toList) (hwords : words other = (words name).map lower) :
    pascal other = pascal name := by
  have hlower : ((words name).map lower).map (fun w => titleWord (lower w)) =
      (words name).map fun w => titleWord (lower w) := by
    rw [List.map_map]
    apply List.map_congr_left
    intro word hword
    rw [Function.comp_apply, lower_lower (words_ascii h hword)]
  rw [pascal, pascal, title, title, hwords, hlower]

theorem lower_intercalate_lower (h : IsAscii name.toList) (sep : String) :
    lower (String.intercalate sep ((words name).map lower)) =
      lower (String.intercalate sep (words name)) := by
  apply String.toList_injective
  rw [toList_lower_intercalate, toList_lower_intercalate, List.map_map]
  congr 1
  apply List.map_congr_left
  intro word hword
  rw [Function.comp_apply, ← String.toList_map, ← String.toList_map, ← lower, ← lower,
    lower_lower (words_ascii h hword)]

theorem words_snake (h : IsAscii name.toList) : words (snake name) = (words name).map lower :=
  words_lower_intercalate h '_' rfl (by decide) (by decide)

theorem words_kebab (h : IsAscii name.toList) : words (kebab name) = (words name).map lower :=
  words_lower_intercalate h '-' rfl (by decide) (by decide)

theorem snake_snake (h : IsAscii name.toList) : snake (snake name) = snake name := by
  rw [snake, words_snake h, lower_intercalate_lower h, ← snake]

theorem kebab_kebab (h : IsAscii name.toList) : kebab (kebab name) = kebab name := by
  rw [kebab, words_kebab h, lower_intercalate_lower h, ← kebab]

end

end ClientGen.Naming
