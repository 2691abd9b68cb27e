import ClientGen.Proofs.Naming.Casing
/-!
# Names of letters, digits and separators

The casings of a plain name have letters and digits only. In `PascalCase` it starts with a capital
and in `camelCase` it does not.
-/
namespace ClientGen.Naming

open ClientGen.Text

/-- A letter or a digit, or a mark that separates words. -/
def IsPlainChar (c : Char) : Prop := c.isAlphanum = true ∨ c ∈ ['-', '_', '.', '+', ' ']

instance : DecidablePred IsPlainChar := fun c =>
  inferInstanceAs (Decidable (c.isAlphanum = true ∨ c ∈ ['-', '_', '.', '+', ' ']))

def IsAlphanumeric (s : List Char) : Prop := ∀ c ∈ s, c.isAlphanum = true

instance (s : List Char) : Decidable (IsAlphanumeric s) := List.decidableBAll _ s

/-- Made of ASCII letters, digits and separators, with a letter first. -/
structure IsPlain (name : String) : Prop where
  first : ∃ c rest, name.toList = c :: rest ∧ c.isAlpha = true
  letters : ∀ c ∈ name.toList, IsPlainChar c

theorem isPlain_iff {name : String} : IsPlain name ↔
    name.toList.head?.any (·.isAlpha) = true ∧ name.toList.all (IsPlainChar ·) = true := by
  have hfirst : (∃ c rest, name.toList = c :: rest ∧ c.isAlpha = true) ↔
      name.toList.head?.any (·.isAlpha) = true := by
    cases name.toList <;> simp
  have hletters : (∀ c ∈ name.toList, IsPlainChar c) ↔
      name.toList.all (IsPlainChar ·) = true := by
    simp
  rw [← hfirst, ← hletters]
  exact ⟨fun h => ⟨h.first, h.letters⟩, fun h => ⟨h.1, h.2⟩⟩

instance : DecidablePred IsPlain := fun _ => decidable_of_iff _ isPlain_iff.symm

/-- Made of ASCII letters, digits and underscores. -/
def IsIdentifier (s : String) : Prop := ∀ c ∈ s.toList, c.isAlphanum = true ∨ c = '_'

instance : DecidablePred IsIdentifier := fun s => List.decidableBAll _ s.toList

/-- A capital, and then letters and digits. -/
structure IsCapitalized (s : String) : Prop where
  first : ∃ c rest, s.toList = c :: rest ∧ isUpperCase c = true
  letters : IsAlphanumeric s.toList

/-! ### Characters -/

theorem ascii_of_isAlphanum {c : Char} (h : c.isAlphanum = true) : c.toNat < 0x80 := by
  have hranges : (decide (65 ≤ c.val ∧ c.val ≤ 90) || (decide (97 ≤ c.val) && decide (c.val ≤ 122))
      || (decide (48 ≤ c.val) && decide (c.val ≤ 57))) = true := h
  simp only [Bool.or_eq_true, Bool.and_eq_true, decide_eq_true_eq,
    UInt32.le_iff_toNat_le] at hranges
  show c.val.toNat < 0x80
  have hupper : (90 : UInt32).toNat = 90 := rfl
  have hlower : (122 : UInt32).toNat = 122 := rfl
  have hdigit : (57 : UInt32).toNat = 57 := rfl
  omega

theorem IsPlainChar.ascii {c : Char} (h : IsPlainChar c) : c.toNat < 0x80 := by
  have hmarks : ['-', '_', '.', '+', ' '].all (·.toNat < 0x80) = true := by decide
  rw [List.all_eq_true] at hmarks
  exact h.elim ascii_of_isAlphanum fun hmem => of_decide_eq_true (hmarks c hmem)

theorem IsPlainChar.isAlphanum {c : Char} (h : IsPlainChar c) (hsep : isSeparator c = false) :
    c.isAlphanum = true := by
  have hmarks : ['-', '_', '.', '+', ' '].all isSeparator = true := by decide +kernel
  rw [List.all_eq_true] at hmarks
  refine h.resolve_right fun hmem => ?_
  rw [hmarks c hmem] at hsep
  cases hsep

theorem isAlphanum_upperCase {c : Char} (hc : c.toNat < 0x80) :
    c.isAlphanum = true → (upperCase c).isAlphanum = true :=
  forall_ascii hc (by decide +kernel)

theorem isAlphanum_lowerCase {c : Char} (hc : c.toNat < 0x80) :
    c.isAlphanum = true → (lowerCase c).isAlphanum = true :=
  forall_ascii hc (by decide +kernel)

theorem isCased_of_isAlpha {c : Char} (hc : c.toNat < 0x80) :
    c.isAlpha = true → isCased c = true :=
  forall_ascii hc (by decide +kernel)

/-! ### Casings -/

theorem capitalized_first {c : Char} {rest : List Char} (hc : c.toNat < 0x80)
    (hcased : isCased c = true) :
    ∃ d more, capitalized false false (c :: rest) = d :: more ∧ isUpperCase d = true := by
  cases hupper : isUpperCase c with
  | true => exact ⟨c, _, capitalized_capital hc hupper false false, hupper⟩
  | false =>
    obtain ⟨-, -, hraised, -⟩ := (lowerCase_of_not_capital hc hupper).2 hcased
    exact ⟨upperCase c, _, capitalized_small hc hupper hcased false false, hraised⟩

namespace IsPlain

variable {name : String}

theorem isAscii (h : IsPlain name) : IsAscii name.toList := fun c hc => (h.letters c hc).ascii

theorem isCapitalized_pascal (h : IsPlain name) : IsCapitalized (pascal name) := by
  have hpascal := toList_pascal_of_isAscii h.isAscii
  constructor
  · obtain ⟨c, rest, hname, hletter⟩ := h.first
    have hc : c.toNat < 0x80 := h.isAscii c (by simp [hname])
    rw [hpascal, hname]
    exact capitalized_first hc (isCased_of_isAlpha hc hletter)
  · rw [hpascal]
    refine forall_mem_capitalized _ _ _ h.isAscii fun c hc hsep => ?_
    have hletter := (h.letters c hc).isAlphanum hsep
    exact ⟨hletter, isAlphanum_upperCase (h.isAscii c hc) hletter⟩

theorem camel_letters (h : IsPlain name) : IsAlphanumeric (camel name).toList := by
  obtain ⟨⟨c, rest, hfirst, -⟩, hletters⟩ := h.isCapitalized_pascal
  rw [toList_camel]
  rw [hfirst] at hletters ⊢
  obtain ⟨hc, hrest⟩ := List.forall_mem_cons.mp hletters
  exact List.forall_mem_cons.mpr ⟨isAlphanum_lowerCase (ascii_of_isAlphanum hc) hc, hrest⟩

theorem not_isCapitalized_camel (h : IsPlain name) : ¬ IsCapitalized (camel name) := by
  rintro ⟨⟨d, more, hcamel, hupper⟩, -⟩
  obtain ⟨⟨c, rest, hfirst, -⟩, hletters⟩ := h.isCapitalized_pascal
  have hc : c.toNat < 0x80 := ascii_of_isAlphanum (hletters c (by simp [hfirst]))
  rw [toList_camel, hfirst, List.modifyHead_cons] at hcamel
  obtain ⟨rfl, -⟩ := List.cons.inj hcamel
  rw [isUpperCase_lowerCase hc] at hupper
  cases hupper

end IsPlain

namespace IsCapitalized

variable {s : String}

theorem append (h : IsCapitalized s) {suffix : String}
    (hsuffix : IsAlphanumeric suffix.toList) : IsCapitalized (s ++ suffix) := by
  obtain ⟨⟨c, rest, hs, hupper⟩, hletters⟩ := h
  constructor
  · exact ⟨c, rest ++ suffix.toList, by simp [hs], hupper⟩
  · intro d hd
    rw [String.toList_append, List.mem_append] at hd
    exact hd.elim (hletters d) (hsuffix d)

theorem isIdentifier (h : IsCapitalized s) : IsIdentifier s := fun c hc => .inl (h.letters c hc)

end IsCapitalized

end ClientGen.Naming
