import Mathlib.Data.List.TakeWhile
import ClientGen.Proofs.Json.Spelling
/-!
# Reading spelled values

The reader takes every spelling for the value it spells, whatever follows it, as long as arrays and
objects nest no deeper than allowed; a value that nests deeper is refused in every spelling. So what
the reader makes of a document depends on the value that the document denotes, and on its spelling
only in the texts that members keep.
-/
namespace ClientGen.Json

/-! ### Steps of the reader -/

section

variable {α β : Type}

@[simp] private theorem step_ok (a : α) (next : α → Except ReadFault β) :
    (Except.ok a >>= next) = next a := rfl

@[simp] private theorem step_error (fault : ReadFault) (next : α → Except ReadFault β) :
    (Except.error fault >>= next) = Except.error fault := rfl

@[simp] private theorem step_pure (a : α) : (pure a : Except ReadFault α) = .ok a := rfl

end

/-! ### Blanks -/

private theorem isBlank_char (b : Blank) : isBlank b.char = true := by
  cases b <;> rfl

theorem skipBlanks_blankText (blanks : List Blank) (s : List Char) :
    skipBlanks (blankText blanks ++ s) = skipBlanks s := by
  apply List.dropWhile_append_of_pos
  intro c hc
  obtain ⟨b, -, rfl⟩ := List.mem_map.mp hc
  exact isBlank_char b

theorem skipBlanks_cons {c : Char} (h : isBlank c = false) (s : List Char) :
    skipBlanks (c :: s) = c :: s := by
  simp [skipBlanks, h]

/-! ### Numbers -/

/-- Nothing at the front of the text can continue a number. -/
def EndsNumber (s : List Char) : Prop :=
  ∀ c ∈ s.head?, Text.isDigit c = false ∧ c ≠ '.' ∧ c ≠ 'e' ∧ c ≠ 'E'

private theorem endsNumber_nil : EndsNumber [] := by
  simp [EndsNumber]

private theorem endsNumber_cons {c : Char} (s : List Char)
    (h : Text.isDigit c = false ∧ c ≠ '.' ∧ c ≠ 'e' ∧ c ≠ 'E') : EndsNumber (c :: s) := by
  simpa [EndsNumber] using h

private theorem endsNumber_blanks (blanks : List Blank) {s : List Char} (h : EndsNumber s) :
    EndsNumber (blankText blanks ++ s) := by
  cases blanks with
  | nil => exact h
  | cons b rest =>
    apply endsNumber_cons
    cases b <;> decide

private theorem readDigits_append {digits rest : List Char} (h : IsDigits digits)
    (hrest : ∀ c ∈ rest.head?, Text.isDigit c = false) :
    readDigits (digits ++ rest) = some (digits, rest) := by
  have htake : rest.takeWhile Text.isDigit = [] := by
    cases rest with
    | nil => rfl
    | cons c s => simp [hrest c rfl]
  have hdrop : rest.dropWhile Text.isDigit = rest := by
    cases rest with
    | nil => rfl
    | cons c s => simp [hrest c rfl]
  have hne : digits.isEmpty = false := by simpa using h.1
  simp only [readDigits, List.takeWhile_append_of_pos h.2, List.dropWhile_append_of_pos h.2, htake,
    hdrop, List.append_nil, hne]
  rfl

private theorem readWhole_append {whole rest : List Char} (h : IsWhole whole)
    (hrest : ∀ c ∈ rest.head?, Text.isDigit c = false) :
    readWhole (whole ++ rest) = some (whole, rest) := by
  obtain rfl | ⟨hdigits, hzero⟩ := h
  · rfl
  · rw [readWhole]
    · exact readDigits_append hdigits hrest
    · intro s hs
      cases whole with
      | nil => exact hdigits.1 rfl
      | cons c cs =>
        rw [List.cons_append, List.cons.injEq] at hs
        exact hzero (by simp [hs.1])

private theorem readFraction_append {fraction rest : List Char} (h : IsFraction fraction)
    (hrest : ∀ c ∈ rest.head?, Text.isDigit c = false ∧ c ≠ '.') :
    readFraction (fraction ++ rest) = some (fraction, rest) := by
  obtain rfl | ⟨digits, hdigits, rfl⟩ := h
  · rw [List.nil_append, readFraction]
    rintro s rfl
    exact (hrest '.' rfl).2 rfl
  · rw [List.cons_append, readFraction, readDigits_append hdigits fun c hc => (hrest c hc).1]
    rfl

private theorem readSign_append {sign digits : List Char}
    (h : sign = [] ∨ sign = ['+'] ∨ sign = ['-']) (hdigits : IsDigits digits) (rest : List Char) :
    readSign (sign ++ (digits ++ rest)) = (sign, digits ++ rest) := by
  obtain rfl | rfl | rfl := h
  · obtain ⟨d, ds, rfl⟩ := List.exists_cons_of_ne_nil hdigits.1
    have hd := hdigits.2 d List.mem_cons_self
    rw [List.nil_append, List.cons_append, readSign]
    · rintro s ⟨⟩
      exact absurd hd (by decide)
    · rintro s ⟨⟩
      exact absurd hd (by decide)
  · rfl
  · rfl

private theorem readExponent_append {exponent rest : List Char} (h : IsExponent exponent)
    (hrest : EndsNumber rest) : readExponent (exponent ++ rest) = some (exponent, rest) := by
  obtain rfl | ⟨mark, sign, digits, hmark, hsign, hdigits, rfl⟩ := h
  · cases rest with
    | nil => rfl
    | cons c s =>
      have hc := hrest c rfl
      simp [readExponent, hc.2.2]
  · have hs := readSign_append hsign hdigits rest
    have hd := readDigits_append hdigits fun c hc => (hrest c hc).1
    simp [readExponent, hmark, hs, hd]

private theorem head_exponent {exponent rest : List Char} (h : IsExponent exponent)
    (hrest : EndsNumber rest) :
    ∀ c ∈ (exponent ++ rest).head?, Text.isDigit c = false ∧ c ≠ '.' := by
  obtain rfl | ⟨mark, sign, digits, hmark, -, -, rfl⟩ := h
  · intro c hc
    exact ⟨(hrest c hc).1, (hrest c hc).2.1⟩
  · intro c hc
    obtain rfl : mark = c := by simpa using hc
    obtain rfl | rfl := hmark <;> decide

private theorem head_fraction {fraction s : List Char} (h : IsFraction fraction)
    (hs : ∀ c ∈ s.head?, Text.isDigit c = false) :
    ∀ c ∈ (fraction ++ s).head?, Text.isDigit c = false := by
  obtain rfl | ⟨digits, -, rfl⟩ := h
  · exact hs
  · intro c hc
    obtain rfl : '.' = c := by simpa using hc
    decide

private theorem head_whole {whole : List Char} (h : IsWhole whole) :
    ∃ c s, whole = c :: s ∧ Text.isDigit c = true := by
  obtain rfl | ⟨hdigits, -⟩ := h
  · exact ⟨'0', [], rfl, rfl⟩
  · obtain ⟨c, s, rfl⟩ := List.exists_cons_of_ne_nil hdigits.1
    exact ⟨c, s, rfl, hdigits.2 c List.mem_cons_self⟩

theorem readNumber_append {s rest : List Char} (h : IsNumeral s) (hrest : EndsNumber rest) :
    readNumber (s ++ rest) = some (s, rest) := by
  obtain ⟨minus, whole, fraction, exponent, hminus, hwhole, hfraction, hexponent, rfl⟩ := h
  have he := readExponent_append hexponent hrest
  have hehead := head_exponent hexponent hrest
  have hf := readFraction_append hfraction hehead
  have hw := readWhole_append hwhole (head_fraction hfraction fun c hc => (hehead c hc).1)
  obtain rfl | rfl := hminus
  · obtain ⟨d, ds, hds, hd⟩ := head_whole hwhole
    rw [readNumber]
    · simp [hw, hf, he]
    · intro s hs
      rw [hds] at hs
      obtain rfl : d = '-' := by simpa using congrArg List.head? hs
      exact absurd hd (by decide)
  · simp [readNumber, hw, hf, he]

private theorem readDigits_some {s digits rest : List Char}
    (h : readDigits s = some (digits, rest)) : IsDigits digits ∧ s = digits ++ rest := by
  simp only [readDigits] at h
  split at h
  · cases h
  · rename_i hne
    cases h
    refine ⟨⟨by simpa using hne, fun c hc => List.mem_takeWhile_imp hc⟩, ?_⟩
    exact List.takeWhile_append_dropWhile.symm

private theorem readWhole_some {s whole rest : List Char} (h : readWhole s = some (whole, rest)) :
    IsWhole whole ∧ s = whole ++ rest := by
  unfold readWhole at h
  split at h
  · cases h
    exact ⟨.inl rfl, rfl⟩
  · rename_i hzero
    obtain ⟨hdigits, rfl⟩ := readDigits_some h
    refine ⟨.inr ⟨hdigits, ?_⟩, rfl⟩
    intro hhead
    obtain ⟨ds, rfl⟩ := List.head?_eq_some_iff.mp hhead
    exact hzero (ds ++ rest) rfl

private theorem readFraction_some {s fraction rest : List Char}
    (h : readFraction s = some (fraction, rest)) : IsFraction fraction ∧ s = fraction ++ rest := by
  unfold readFraction at h
  split at h
  · rename_i s
    obtain ⟨⟨digits, rest'⟩, hdigits, heq⟩ := Option.map_eq_some_iff.mp h
    obtain ⟨rfl, rfl⟩ := Prod.mk.inj heq
    obtain ⟨hgrammar, rfl⟩ := readDigits_some hdigits
    exact ⟨.inr ⟨digits, hgrammar, rfl⟩, rfl⟩
  · cases h
    exact ⟨.inl rfl, rfl⟩

private theorem readSign_eq (s : List Char) :
    ((readSign s).1 = [] ∨ (readSign s).1 = ['+'] ∨ (readSign s).1 = ['-']) ∧
      s = (readSign s).1 ++ (readSign s).2 := by
  unfold readSign
  split <;> simp

private theorem readExponent_some {s exponent rest : List Char}
    (h : readExponent s = some (exponent, rest)) : IsExponent exponent ∧ s = exponent ++ rest := by
  unfold readExponent at h
  split at h
  · rename_i c s
    split at h
    · rename_i hmark
      simp only [Option.map_eq_some_iff, Prod.exists, Prod.mk.injEq] at h
      obtain ⟨digits, rest', hdigits, rfl, rfl⟩ := h
      obtain ⟨hgrammar, hs⟩ := readDigits_some hdigits
      obtain ⟨hsign, hsplit⟩ := readSign_eq s
      refine ⟨.inr ⟨c, (readSign s).1, digits, hmark, hsign, hgrammar, rfl⟩, ?_⟩
      rw [List.append_assoc, ← hs, List.cons_append, ← hsplit]
    · cases h
      exact ⟨.inl rfl, rfl⟩
  · cases h
    exact ⟨.inl rfl, rfl⟩

private theorem readNumber_some {s text rest : List Char} (h : readNumber s = some (text, rest)) :
    IsNumeral text ∧ s = text ++ rest := by
  obtain ⟨minus, body, hminus, rfl, hread⟩ : ∃ minus body, (minus = [] ∨ minus = ['-']) ∧
      s = minus ++ body ∧
        ((readWhole body).bind fun whole => (readFraction whole.2).bind fun fraction =>
          (readExponent fraction.2).bind fun exponent =>
            some (minus ++ whole.1 ++ fraction.1 ++ exponent.1, exponent.2)) =
          some (text, rest) := by
    by_cases hs : ∃ body, s = '-' :: body
    · obtain ⟨body, rfl⟩ := hs
      exact ⟨['-'], body, .inr rfl, rfl, h⟩
    · rw [readNumber] at h
      · exact ⟨[], s, .inl rfl, rfl, h⟩
      · exact fun body hbody => hs ⟨body, hbody⟩
  simp only [Option.bind_eq_some_iff, Option.some.injEq, Prod.exists, Prod.mk.injEq] at hread
  obtain ⟨whole, s₁, hwhole, fraction, s₂, hfraction, exponent, s₃, hexponent, rfl, rfl⟩ := hread
  obtain ⟨hw, rfl⟩ := readWhole_some hwhole
  obtain ⟨hf, rfl⟩ := readFraction_some hfraction
  obtain ⟨he, rfl⟩ := readExponent_some hexponent
  exact ⟨⟨minus, whole, fraction, exponent, hminus, hw, hf, he, rfl⟩, by simp⟩

/-- The texts that are taken for numbers are those of the grammar. -/
theorem isNumeral_of_isNumber {text : String} (h : isNumber text = true) :
    IsNumeral text.toList := by
  unfold isNumber at h
  split at h
  · rename_i t hread
    obtain ⟨hnumeral, hs⟩ := readNumber_some hread
    rw [hs, List.append_nil]
    exact hnumeral
  · cases h

/-! ### Strings -/

private theorem hexValue?_char (d : HexDigit) : Text.hexValue? d.char = some d.value.val := by
  obtain ⟨value, isUpper⟩ := d
  revert value isUpper
  decide

private theorem hexQuad?_unit (u : HexUnit) :
    hexQuad? u.first.char u.second.char u.third.char u.fourth.char = some u.value := by
  simp [hexQuad?, hexValue?_char, HexUnit.value]

private theorem simpleEscape?_letter (e : Escape) : simpleEscape? e.letter = some e.char := by
  cases e <;> rfl

private theorem letter_ne_u (e : Escape) : e.letter ≠ 'u' := by
  cases e <;> decide

private theorem piecesText_ne_unit {pieces : List Piece} (h : ∀ u rest, pieces ≠ .unit u :: rest)
    (s : List Char) :
    ∀ a b c d rest, piecesText pieces ++ '"' :: s ≠ '\\' :: 'u' :: a :: b :: c :: d :: rest := by
  intro a b c d rest heq
  cases pieces with
  | nil => simp [piecesText] at heq
  | cons piece pieces =>
    cases piece with
    | plain x hx => simp [piecesText, Piece.text, hx.2.1] at heq
    | escape e => simp [piecesText, Piece.text, letter_ne_u e] at heq
    | unit u => exact h u pieces rfl

private theorem piecesText_unit (u : HexUnit) (pieces : List Piece) (s : List Char) :
    piecesText (.unit u :: pieces) ++ s = '\\' :: 'u' :: u.first.char :: u.second.char ::
      u.third.char :: u.fourth.char :: (piecesText pieces ++ s) := by
  simp [piecesText, Piece.text]

theorem readString_pieces (pieces : List Piece) (s : List Char) :
    readString .replace (piecesText pieces ++ '"' :: s) = some (piecesChars pieces, s) := by
  fun_induction piecesChars pieces with
  | case1 => rfl
  | case2 c h rest ih =>
    have hlow : ¬ c.toNat < 0x20 := by omega
    have htext : piecesText (.plain c h :: rest) ++ '"' :: s =
        c :: (piecesText rest ++ '"' :: s) := by simp [piecesText, Piece.text]
    rw [htext, readString]
    · simp [hlow, ih]
    · exact h.1
    · intro _ _ _ _ _ hc
      exact absurd hc h.2.1
    · intro _ _ hc
      exact absurd hc h.2.1
  | case3 e rest ih =>
    have htext : piecesText (.escape e :: rest) ++ '"' :: s =
        '\\' :: e.letter :: (piecesText rest ++ '"' :: s) := by simp [piecesText, Piece.text]
    rw [htext, readString]
    · simp [simpleEscape?_letter, ih]
    · intro _ _ _ _ _ he
      exact absurd he (letter_ne_u e)
  | case4 u rest h ih =>
    rw [piecesText_unit, readString]
    simp [hexQuad?_unit, h, ih]
  | case5 u h low rest char hpair ih =>
    rw [piecesText_unit, readString, piecesText_unit]
    simp [hexQuad?_unit, h, hpair, ih]
  | case6 u h low rest hpair ih =>
    rw [piecesText_unit] at ih
    rw [piecesText_unit, readString, piecesText_unit]
    simp [hexQuad?_unit, h, hpair, ih]
  | case7 u h rest hunit ih =>
    have hrest : ∀ u pieces, rest ≠ .unit u :: pieces := fun u pieces => hunit u pieces
    rw [piecesText_unit, readString]
    simp only [hexQuad?_unit, Option.bind_eq_bind, Option.bind_some, h, if_false]
    split
    · rename_i heq
      exact absurd heq (piecesText_ne_unit hrest s _ _ _ _ _)
    · simp [ih]

/-! ### Values -/

private theorem numeral_opens {s : List Char} (h : IsNumeral s) :
    ∃ c rest, s = c :: rest ∧ (c = '-' ∨ Text.isDigit c = true) := by
  obtain ⟨minus, whole, fraction, exponent, hminus, hwhole, -, -, rfl⟩ := h
  obtain ⟨c, ds, rfl, hc⟩ := head_whole hwhole
  obtain rfl | rfl := hminus
  · exact ⟨c, _, rfl, .inr hc⟩
  · exact ⟨'-', _, rfl, .inl rfl⟩

private theorem ne_of_opens_numeral {c : Char} (h : c = '-' ∨ Text.isDigit c = true) {other : Char}
    (hother : other ≠ '-' ∧ Text.isDigit other = false) : c ≠ other := by
  rintro rfl
  obtain h | h := h
  · exact hother.1 h
  · simp [h] at hother

private theorem text_opens (v : Spelling) :
    ∃ c s, v.text = c :: s ∧ isBlank c = false ∧ c ≠ ']' := by
  cases v with
  | null => exact ⟨'n', _, rfl, by decide⟩
  | bool b =>
    cases b with
    | false => exact ⟨'f', _, rfl, by decide⟩
    | true => exact ⟨'t', _, rfl, by decide⟩
  | number text h =>
    obtain ⟨c, s, hs, hc⟩ := numeral_opens h
    refine ⟨c, s, hs, ?_, ne_of_opens_numeral hc (by decide)⟩
    have hspace : c ≠ ' ' := ne_of_opens_numeral hc (by decide)
    have htab : c ≠ '\t' := ne_of_opens_numeral hc (by decide)
    have hline : c ≠ '\n' := ne_of_opens_numeral hc (by decide)
    have hreturn : c ≠ '\r' := ne_of_opens_numeral hc (by decide)
    simp [isBlank, hspace, htab, hline, hreturn]
  | string pieces => exact ⟨'"', _, rfl, by decide⟩
  | emptyArray inside => exact ⟨'[', _, rfl, by decide⟩
  | array items => exact ⟨'[', _, rfl, by decide⟩
  | emptyObject inside => exact ⟨'{', _, rfl, by decide⟩
  | object members => exact ⟨'{', _, rfl, by decide⟩

private theorem skipBlanks_text (blanks : List Blank) (v : Spelling) (rest : List Char) :
    skipBlanks (blankText blanks ++ (v.text ++ rest)) = v.text ++ rest := by
  obtain ⟨c, s, hs, hc, -⟩ := text_opens v
  rw [skipBlanks_blankText, hs]
  exact skipBlanks_cons hc _

private theorem skipBlanks_before (blanks : List Blank) {c : Char} (h : isBlank c = false)
    (s : List Char) : skipBlanks (blankText blanks ++ c :: s) = c :: s := by
  rw [skipBlanks_blankText, skipBlanks_cons h]

private theorem sourceBefore_append (s rest : List Char) :
    sourceBefore (s ++ rest) rest = String.ofList s := by
  simp [sourceBefore]

private theorem readValue_number {text : String} (h : IsNumeral text.toList) (fuel depth : Nat)
    {rest : List Char} (hrest : EndsNumber rest) :
    readValue .replace (fuel + 1) depth (text.toList ++ rest) = .ok (.number text, rest) := by
  have hread := readNumber_append h hrest
  obtain ⟨c, cs, hcs, hc⟩ := numeral_opens h
  rw [hcs] at hread ⊢
  -- a number opens like no other value, so the reader comes to its last case
  rw [List.cons_append, readValue.eq_10, ← List.cons_append, hread, ← hcs]
  · simp
  all_goals
    intro s hs
    rw [List.cons.injEq] at hs
    exact ne_of_opens_numeral hc (by decide) hs.1

private theorem items_open (items : SpelledItems) (rest : List Char) :
    ∀ s, skipBlanks (items.text ++ rest) ≠ ']' :: s := by
  intro s hs
  cases items with
  | last before item after =>
    obtain ⟨c, cs, hcs, -, hc⟩ := text_opens item
    rw [SpelledItems.text, List.append_assoc, List.append_assoc, skipBlanks_text, hcs] at hs
    exact hc (List.cons.inj hs).1
  | next before item after more =>
    obtain ⟨c, cs, hcs, -, hc⟩ := text_opens item
    rw [SpelledItems.text, List.append_assoc, List.append_assoc, skipBlanks_text, hcs] at hs
    exact hc (List.cons.inj hs).1

private theorem members_open (members : SpelledMembers) (rest : List Char) :
    ∀ s, skipBlanks (members.text ++ rest) ≠ '}' :: s := by
  intro s hs
  cases members with
  | last before name behind inner value after =>
    rw [SpelledMembers.text, List.append_assoc, List.cons_append,
      skipBlanks_before _ (by decide)] at hs
    simp at hs
  | next before name behind inner value after more =>
    rw [SpelledMembers.text, List.append_assoc, List.cons_append,
      skipBlanks_before _ (by decide)] at hs
    simp at hs

-- Every bracket and every comma pays for two calls: that of the list of items or members it opens
-- or continues, and that of the value behind it.
mutual

theorem readValue_text (v : Spelling) (fuel depth : Nat) (rest : List Char)
    (hfuel : 2 * v.text.length ≤ fuel) (hrest : EndsNumber rest) :
    readValue .replace fuel depth (v.text ++ rest) =
      if v.value.nesting ≤ depth then .ok (v.value, rest) else .error .tooDeep := by
  obtain ⟨c, s, hs, -⟩ := text_opens v
  have hlength : 0 < v.text.length := by simp [hs]
  obtain ⟨fuel, rfl⟩ : ∃ n, fuel = n + 1 := ⟨fuel - 1, by omega⟩
  cases v with
  | null => simp [Spelling.text, Spelling.value, Value.nesting, readValue]
  | bool b => cases b <;> simp [Spelling.text, Spelling.value, Value.nesting, readValue]
  | number text h =>
    rw [Spelling.text, readValue_number h fuel depth hrest]
    simp [Spelling.value, Value.nesting]
  | string pieces =>
    have hread := readString_pieces pieces rest
    simp [Spelling.text, Spelling.value, Value.nesting, readValue, hread]
  | emptyArray inside =>
    rw [Spelling.text, List.cons_append, List.append_assoc, Spelling.value]
    cases depth with
    | zero => simp [readValue, Value.nesting]
    | succ depth =>
      have hskip := skipBlanks_before inside (by decide : isBlank ']' = false) rest
      simp [readValue, hskip, Value.nesting, itemsNesting]
  | array items =>
    rw [Spelling.text, List.length_cons] at hfuel
    rw [Spelling.text, List.cons_append, Spelling.value, Value.nesting]
    cases depth with
    | zero => simp [readValue]
    | succ depth =>
      have hitems := readItems_text items fuel depth rest (by omega)
      have hopen := items_open items rest
      rw [readValue]
      split
      · rename_i heq
        exact absurd heq (hopen _)
      · rw [hitems]
        simp only [Nat.add_le_add_iff_right]
        split <;> rfl
  | emptyObject inside =>
    rw [Spelling.text, List.cons_append, List.append_assoc, Spelling.value]
    cases depth with
    | zero => simp [readValue, Value.nesting]
    | succ depth =>
      have hskip := skipBlanks_before inside (by decide : isBlank '}' = false) rest
      simp [readValue, hskip, Value.nesting, membersNesting]
  | object members =>
    rw [Spelling.text, List.length_cons] at hfuel
    rw [Spelling.text, List.cons_append, Spelling.value, Value.nesting]
    cases depth with
    | zero => simp [readValue]
    | succ depth =>
      have hmembers := readMembers_text members fuel depth rest (by omega)
      have hopen := members_open members rest
      rw [readValue]
      split
      · rename_i heq
        exact absurd heq (hopen _)
      · rw [hmembers]
        simp only [Nat.add_le_add_iff_right]
        split <;> rfl

theorem readItems_text (items : SpelledItems) (fuel depth : Nat) (rest : List Char)
    (hfuel : 2 * items.text.length ≤ fuel) :
    readItems .replace fuel depth (skipBlanks (items.text ++ rest)) =
      if itemsNesting items.values ≤ depth then .ok (items.values, rest) else .error .tooDeep := by
  cases items with
  | last before item after =>
    simp only [SpelledItems.text, List.length_append, List.length_cons, List.length_nil] at hfuel
    obtain ⟨fuel, rfl⟩ : ∃ n, fuel = n + 1 := ⟨fuel - 1, by omega⟩
    have hends : EndsNumber (blankText after ++ ']' :: rest) :=
      endsNumber_blanks after (endsNumber_cons rest (by decide))
    have hitem := readValue_text item fuel depth _ (by omega) hends
    have hskip := skipBlanks_before after (by decide : isBlank ']' = false) rest
    simp only [SpelledItems.text, List.append_assoc, List.cons_append, List.nil_append,
      skipBlanks_text, readItems, hitem, SpelledItems.values, itemsNesting, Nat.max_zero]
    split
    · simp [hskip]
    · rfl
  | next before item after more =>
    simp only [SpelledItems.text, List.length_append, List.length_cons] at hfuel
    obtain ⟨fuel, rfl⟩ : ∃ n, fuel = n + 1 := ⟨fuel - 1, by omega⟩
    have hends : EndsNumber (blankText after ++ ',' :: (more.text ++ rest)) :=
      endsNumber_blanks after (endsNumber_cons _ (by decide))
    have hitem := readValue_text item fuel depth _ (by omega) hends
    have hskip := skipBlanks_before after (by decide : isBlank ',' = false) (more.text ++ rest)
    have hmore := readItems_text more fuel depth rest (by omega)
    simp only [SpelledItems.text, List.append_assoc, List.cons_append, skipBlanks_text, readItems,
      hitem, SpelledItems.values, itemsNesting, Nat.max_le]
    by_cases hdeep : item.value.nesting ≤ depth
    · by_cases hrest : itemsNesting more.values ≤ depth <;> simp [hdeep, hrest, hskip, hmore]
    · simp [hdeep]

theorem readMembers_text (members : SpelledMembers) (fuel depth : Nat) (rest : List Char)
    (hfuel : 2 * members.text.length ≤ fuel) :
    readMembers .replace fuel depth (skipBlanks (members.text ++ rest)) =
      if membersNesting members.members ≤ depth then .ok (members.members, rest)
      else .error .tooDeep := by
  cases members with
  | last before name behind inner value after =>
    simp only [SpelledMembers.text, List.length_append, List.length_cons, List.length_nil] at hfuel
    obtain ⟨fuel, rfl⟩ : ∃ n, fuel = n + 1 := ⟨fuel - 1, by omega⟩
    have hends : EndsNumber (blankText after ++ '}' :: rest) :=
      endsNumber_blanks after (endsNumber_cons rest (by decide))
    have hvalue := readValue_text value fuel depth _ (by omega) hends
    have hskip := skipBlanks_before after (by decide : isBlank '}' = false) rest
    simp only [SpelledMembers.text, List.append_assoc, List.cons_append, List.nil_append,
      skipBlanks_before before (by decide : isBlank '"' = false), readMembers, readString_pieces,
      required_some, step_ok,
      skipBlanks_before behind (by decide : isBlank ':' = false), skipBlanks_text, hvalue,
      SpelledMembers.members, membersNesting, Nat.max_zero]
    by_cases hdeep : value.value.nesting ≤ depth
    · simp [hdeep, hskip, sourceBefore_append]
    · simp [hdeep]
  | next before name behind inner value after more =>
    simp only [SpelledMembers.text, List.length_append, List.length_cons] at hfuel
    obtain ⟨fuel, rfl⟩ : ∃ n, fuel = n + 1 := ⟨fuel - 1, by omega⟩
    have hends : EndsNumber (blankText after ++ ',' :: (more.text ++ rest)) :=
      endsNumber_blanks after (endsNumber_cons _ (by decide))
    have hvalue := readValue_text value fuel depth _ (by omega) hends
    have hskip := skipBlanks_before after (by decide : isBlank ',' = false) (more.text ++ rest)
    have hmore := readMembers_text more fuel depth rest (by omega)
    simp only [SpelledMembers.text, List.append_assoc, List.cons_append,
      skipBlanks_before before (by decide : isBlank '"' = false), readMembers, readString_pieces,
      required_some, step_ok,
      skipBlanks_before behind (by decide : isBlank ':' = false), skipBlanks_text, hvalue,
      SpelledMembers.members, membersNesting, Nat.max_le]
    by_cases hdeep : value.value.nesting ≤ depth
    · by_cases hrest : membersNesting more.members ≤ depth
      · simp [hdeep, hrest, hskip, hmore, sourceBefore_append]
      · simp [hdeep, hrest, hskip, hmore]
    · simp [hdeep]

end

/-- What the reader makes of a document: the value that it denotes, unless that nests too deep. -/
theorem readFirst_of_denotes {text : String} {v : Value} (h : Denotes text v) :
    (readFirst .replace text).map (·.1) =
      if v.nesting ≤ maxDepth then .ok v else .error .tooDeep := by
  obtain ⟨before, spelling, after, rfl, rfl⟩ := h
  have hends : EndsNumber (blankText after) := by
    simpa using endsNumber_blanks after endsNumber_nil
  rw [readFirst, String.toList_ofList, skipBlanks_text,
    readValue_text _ _ _ _ (by simp; omega) hends]
  split <;> rfl

end ClientGen.Json
