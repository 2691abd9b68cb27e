import ClientGen.Proofs.Naming.Separators
/-!
# Capitals in one pass

A name is split into words, and every word is lowered and title-cased on its own. Since none of that
looks back further than the state of title casing, the same comes out of one pass over the name that
starts anew at every separator and every capital.
-/
namespace ClientGen.Naming

open ClientGen.Text

/-- The state of title casing behind a character. -/
def titleState (inWord afterMiddle : Bool) (c : Char) : Bool × Bool :=
  let middle := wordRole c == .middle
  (isCased c || (inWord && !(afterMiddle && middle) && wordRole c != .breaks), middle)

/-- Title-cases a name that has not been split. -/
def capitalized (inWord afterMiddle : Bool) : List Char → List Char
  | [] => []
  | c :: rest =>
    if isSeparator c then capitalized false false rest
    else if isUpperCase c then
      let state := titleState false false (lowerCase c)
      titleFrom false false [lowerCase c] ++ capitalized state.1 state.2 rest
    else
      let state := titleState inWord afterMiddle (lowerCase c)
      titleFrom inWord afterMiddle [lowerCase c] ++ capitalized state.1 state.2 rest

/-- A word as it is written in `PascalCase`. -/
def titled (word : List Char) : List Char := titleFrom false false (word.map lowerCase)

/-! ### Splitting and title casing at once -/

theorem titleFrom_cons (inWord afterMiddle : Bool) (c : Char) (s : List Char) :
    titleFrom inWord afterMiddle (c :: s) =
      titleFrom inWord afterMiddle [c] ++
        titleFrom (titleState inWord afterMiddle c).1 (titleState inWord afterMiddle c).2 s := by
  simp only [titleFrom, titleState]
  cases isCased c <;> simp

theorem flatMap_titled_close (word : List Char) :
    (splitWords.close word).flatMap titled = titled word.reverse := by
  cases word with
  | nil => rfl
  | cons c rest => simp [splitWords.close]

/-- The invariant is the state of title casing behind the letters that have been read. -/
theorem flatMap_titled_splitWords (s : List Char) : ∀ (word : List Char)
    (inWord afterMiddle : Bool),
    (∀ rest, titleFrom false false (word.reverse.map lowerCase ++ rest) =
      titled word.reverse ++ titleFrom inWord afterMiddle rest) →
    (splitWords word s).flatMap titled = titled word.reverse ++ capitalized inWord afterMiddle s := by
  induction s with
  | nil =>
    intro word inWord afterMiddle _
    rw [splitWords, flatMap_titled_close, capitalized, List.append_nil]
  | cons c rest ih =>
    intro word inWord afterMiddle hstate
    rw [splitWords, capitalized]
    by_cases hsep : isSeparator c = true
    · rw [if_pos hsep, if_pos hsep, List.flatMap_append, flatMap_titled_close,
        ih [] false false fun _ => rfl]
      rfl
    · rw [if_neg hsep, if_neg hsep]
      by_cases hupper : isUpperCase c = true
      · rw [if_pos hupper, if_pos hupper, List.flatMap_append, flatMap_titled_close,
          ih [c] _ _ fun more => titleFrom_cons false false (lowerCase c) more]
        rfl
      · -- the letter joins the word, and the state moves on by it
        have hletter : titled (c :: word).reverse =
            titled word.reverse ++ titleFrom inWord afterMiddle [lowerCase c] := by
          rw [titled, List.reverse_cons, List.map_append]
          exact hstate [lowerCase c]
        rw [if_neg hupper, if_neg hupper, ih (c :: word) _ _ ?_, hletter, List.append_assoc]
        intro more
        rw [hletter, List.reverse_cons, List.map_append, List.append_assoc, List.append_assoc,
          ← titleFrom_cons]
        exact hstate (lowerCase c :: more)

theorem flatMap_titled_eq (s : List Char) :
    (splitWords [] s).flatMap titled = capitalized false false s :=
  flatMap_titled_splitWords s [] false false fun _ => rfl

/-! ### Names -/

theorem toList_titleWord_lower (word : List Char) :
    (titleWord (lower (String.ofList word))).toList = titled word := by
  rw [titleWord, lower, String.toList_ofList, String.toList_map, String.toList_ofList, titled]

theorem filter_space_intercalate {parts : List (List Char)} (h : ∀ part ∈ parts, ' ' ∉ part) :
    ([' '].intercalate parts).filter (· != ' ') = parts.flatten := by
  have hpart {part : List Char} (hpart : ' ' ∉ part) : part.filter (· != ' ') = part := by
    rw [List.filter_eq_self]
    intro c hc
    rw [bne_iff_ne]
    rintro rfl
    exact hpart hc
  induction parts with
  | nil => rfl
  | cons part rest ih =>
    rw [List.forall_mem_cons] at h
    cases rest with
    | nil => simp [hpart h.1]
    | cons next rest =>
      rw [List.intercalate_cons_cons, List.filter_append, List.filter_append, hpart h.1, ih h.2,
        List.flatten_cons]
      simp

/-- A name in `PascalCase` is the name capitalized in one pass. -/
theorem toList_pascal (name : String) :
    (pascal name).toList = capitalized false false (normalForm name.toList) := by
  have hblank : ∀ part ∈ ((words name).map fun w => titleWord (lower w)).map String.toList,
      ' ' ∉ part := by
    intro part hpart hspace
    simp only [List.mem_map] at hpart
    obtain ⟨titled, ⟨word, hword, rfl⟩, rfl⟩ := hpart
    have hclear := titleWord_lower_separator_free hword ' ' hspace
    exact absurd hclear (by decide)
  have hspace : " ".toList = [' '] := rfl
  rw [pascal, String.toList_ofList, title, String.toList_intercalate, hspace,
    filter_space_intercalate hblank, ← flatMap_titled_eq, List.flatMap_def, words, List.map_map,
    List.map_map]
  congr 1
  exact List.map_congr_left fun word _ => toList_titleWord_lower word

end ClientGen.Naming
