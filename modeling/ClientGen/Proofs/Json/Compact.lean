import Mathlib.Data.List.Basic
import ClientGen.Json.Fields
import ClientGen.Proofs.Json.Reading
/-!
# The compact text of a value

The text without blanks is a spelling of the value it was made of, so it is read back as that value
down to the texts that members keep. Integers are written as numbers, and are read back from them.
-/
namespace ClientGen.Json

/-! ### Strings -/

private def unitOf (n : Nat) : HexUnit :=
  let digit (n : Nat) : HexDigit := ⟨⟨n % 16, Nat.mod_lt _ (by decide)⟩, false⟩
  ⟨digit (n / 16 / 16 / 16), digit (n / 16 / 16), digit (n / 16), digit n⟩

private theorem unitOf_value {n : Nat} (h : n < 65536) : (unitOf n).value = n := by
  simp only [unitOf, HexUnit.value]
  omega

private theorem unitOf_text (n : Nat) :
    (Piece.unit (unitOf n)).text = '\\' :: 'u' :: Text.hexPadded 4 n := by
  simp [Piece.text, unitOf, HexDigit.char, Text.hexPadded]

private theorem exists_piece (c : Char) :
    ∃ piece : Piece, piece.text = Text.quotedChar false c ∧ piece ≠ .escape .slash ∧
      ∀ rest, piecesChars (piece :: rest) = c :: piecesChars rest := by
  unfold Text.quotedChar
  split
  · exact ⟨.escape .quotationMark, rfl, by decide, fun _ => by subst c; rfl⟩
  split
  · exact ⟨.escape .backslash, rfl, by decide, fun _ => by subst c; rfl⟩
  split
  · exact ⟨.escape .newline, rfl, by decide, fun _ => by subst c; rfl⟩
  split
  · exact ⟨.escape .carriageReturn, rfl, by decide, fun _ => by subst c; rfl⟩
  split
  · exact ⟨.escape .tab, rfl, by decide, fun _ => by subst c; rfl⟩
  split
  · exact ⟨.escape .backspace, rfl, by decide, fun _ => by subst c; rfl⟩
  split
  · exact ⟨.escape .formFeed, rfl, by decide, fun _ => by subst c; rfl⟩
  split
  · rename_i hunit
    have hlow : c.toNat < 0xD800 := by
      simp at hunit
      omega
    have hvalue : (unitOf c.toNat).value = c.toNat := unitOf_value (by omega)
    refine ⟨.unit (unitOf c.toNat), unitOf_text c.toNat, by simp, fun rest => ?_⟩
    rw [piecesChars.eq_def]
    simp [hvalue, hlow]
  · rename_i hquote hslash _ _ _ _ _ hunit
    have hplain : c ≠ '"' ∧ c ≠ '\\' ∧ 0x20 ≤ c.toNat := by
      refine ⟨hquote, hslash, ?_⟩
      simp at hunit
      omega
    exact ⟨.plain c hplain, rfl, by simp, fun _ => rfl⟩

theorem exists_pieces (cs : List Char) :
    ∃ pieces, piecesText pieces = cs.flatMap (Text.quotedChar false) ∧
      .escape .slash ∉ pieces ∧ piecesChars pieces = cs := by
  induction cs with
  | nil => exact ⟨[], rfl, List.not_mem_nil, rfl⟩
  | cons c cs ih =>
    obtain ⟨pieces, htext, hslash, hchars⟩ := ih
    obtain ⟨piece, hpiece, hne, hchar⟩ := exists_piece c
    refine ⟨piece :: pieces, ?_, ?_, ?_⟩
    · rw [List.flatMap_cons, ← hpiece, ← htext]
      rfl
    · rw [List.mem_cons, not_or]
      exact ⟨Ne.symm hne, hslash⟩
    · rw [hchar, hchars]

theorem toList_quoted (s : String) :
    (Text.quoted s).toList = '"' :: (s.toList.flatMap (Text.quotedChar false) ++ ['"']) := by
  simp [Text.quoted]

/-! ### Integers -/

theorem isDigits_toDigits (n : Nat) : IsDigits (Nat.toDigits 10 n) := by
  refine ⟨Nat.toDigits_ne_nil, fun c hc => ?_⟩
  have hdigit := Nat.isDigit_of_mem_toDigits (by decide) (by decide) hc
  simpa [Text.isDigit, Char.isDigit, Char.le_def] using hdigit

private theorem head?_toDigits {n : Nat} (h : 0 < n) : (Nat.toDigits 10 n).head? ≠ some '0' := by
  induction n using Nat.strongRecOn with
  | ind n ih =>
    by_cases hn : n < 10
    · rw [Nat.toDigits_of_lt_base hn]
      have hdigit : ∀ n < 10, 0 < n → [n.digitChar].head? ≠ some '0' := by decide
      exact hdigit n hn h
    · rw [Nat.toDigits_of_base_le (by decide) (by omega), List.head?_append]
      have hdiv := ih (n / 10) (by omega) (by omega)
      obtain ⟨c, cs, hcs⟩ :=
        List.exists_cons_of_ne_nil (Nat.toDigits_ne_nil (b := 10) (n := n / 10))
      simpa [hcs] using hdiv

private theorem isWhole_repr (n : Nat) : IsWhole n.repr.toList := by
  rw [Nat.repr_eq_ofList_toDigits, String.toList_ofList]
  cases n with
  | zero => exact .inl rfl
  | succ n => exact .inr ⟨isDigits_toDigits _, head?_toDigits (by omega)⟩

theorem isNumeral_decimalText (i : Int) : IsNumeral (Text.decimalText i).toList := by
  cases i with
  | ofNat n =>
    exact ⟨[], n.repr.toList, [], [], .inl rfl, isWhole_repr n, .inl rfl, .inl rfl, by
      simp [Text.decimalText]⟩
  | negSucc n =>
    exact ⟨['-'], (n + 1).repr.toList, [], [], .inr rfl, isWhole_repr _, .inl rfl, .inl rfl, by
      simp [Text.decimalText]⟩

theorem decimalValue_repr (n : Nat) : Text.decimalValue n.repr.toList = n := by
  rw [Nat.repr_eq_ofList_toDigits, String.toList_ofList]
  exact Nat.ofDigitChars_toDigits (by decide) (by decide)

theorem int64?_decimalText {i : Int} (h : Text.fitsSigned i = true) :
    int64? (Text.decimalText i) = some i := by
  have hwhole (n : Nat) : (!n.repr.toList.isEmpty && n.repr.toList.all Text.isDigit) = true := by
    have hdigits := isDigits_toDigits n
    rw [Nat.repr_eq_ofList_toDigits, String.toList_ofList]
    simpa [IsDigits] using hdigits
  cases i with
  | ofNat n =>
    have htext : (Text.decimalText (.ofNat n)).toList = n.repr.toList := rfl
    have hint : ((n : Nat) : Int) = .ofNat n := rfl
    rw [int64?]
    split
    · rename_i digits heq
      have hall := hwhole n
      rw [← htext, heq] at hall
      exact absurd hall (by simp [Text.isDigit])
    · simp only [htext, hwhole, decimalValue_repr, hint, h, if_true]
  | negSucc n =>
    have htext : (Text.decimalText (.negSucc n)).toList = '-' :: (n + 1).repr.toList := by
      simp [Text.decimalText]
    have hint : -((n + 1 : Nat) : Int) = .negSucc n := rfl
    simp only [int64?, htext, hwhole, decimalValue_repr, hint, h, if_true]

/-! ### Values -/

mutual

/-- The numbers of the value are numbers, and members keep the compact texts of their values. -/
def Value.IsCompact : Value → Prop
  | .number text => IsNumeral text.toList
  | .array items => ItemsCompact items
  | .object members => MembersCompact members
  | _ => True

def ItemsCompact : List Value → Prop
  | [] => True
  | item :: rest => item.IsCompact ∧ ItemsCompact rest

def MembersCompact : List Member → Prop
  | [] => True
  | ⟨_, value, source⟩ :: rest =>
    source = value.compact ∧ value.IsCompact ∧ MembersCompact rest

end

mutual

private theorem exists_spelling :
    ∀ v : Value, v.IsCompact → ∃ s : Spelling, s.text = v.compact.toList ∧ s.value = v
  | .null, _ => ⟨.null, rfl, rfl⟩
  | .bool b, _ => by
    refine ⟨.bool b, ?_, rfl⟩
    cases b <;> rfl
  | .number text, h => ⟨.number text h, rfl, rfl⟩
  | .string text, _ => by
    obtain ⟨pieces, htext, -, hchars⟩ := exists_pieces text.toList
    refine ⟨.string pieces, ?_, ?_⟩
    · rw [Spelling.text, Value.compact, toList_quoted, htext]
    · rw [Spelling.value, hchars, String.ofList_toList]
  | .array [], _ => ⟨.emptyArray [], rfl, rfl⟩
  | .array (item :: rest), h => by
    obtain ⟨items, htext, hvalues⟩ := exists_items (item :: rest) (by simp) h
    refine ⟨.array items, ?_, by rw [Spelling.value, hvalues]⟩
    simp [Spelling.text, Value.compact, htext]
  | .object [], _ => ⟨.emptyObject [], rfl, rfl⟩
  | .object (member :: rest), h => by
    obtain ⟨members, htext, hmembers⟩ := exists_members (member :: rest) (by simp) h
    refine ⟨.object members, ?_, by rw [Spelling.value, hmembers]⟩
    simp [Spelling.text, Value.compact, htext]

private theorem exists_items :
    ∀ items : List Value, items ≠ [] → ItemsCompact items →
      ∃ s : SpelledItems, s.text =
          (String.intercalate "," (compactItems items)).toList ++ [']'] ∧ s.values = items
  | [], hne, _ => absurd rfl hne
  | [item], _, h => by
    obtain ⟨s, htext, hvalue⟩ := exists_spelling item h.1
    refine ⟨.last [] s [], ?_, by rw [SpelledItems.values, hvalue]⟩
    simp [SpelledItems.text, blankText, compactItems, htext]
  | item :: next :: rest, _, h => by
    obtain ⟨s, htext, hvalue⟩ := exists_spelling item h.1
    obtain ⟨more, hmore, hvalues⟩ := exists_items (next :: rest) (by simp) h.2
    refine ⟨.next [] s [] more, ?_, by rw [SpelledItems.values, hvalue, hvalues]⟩
    rw [compactItems] at hmore
    rw [compactItems, compactItems, String.intercalate_cons_cons]
    simp [SpelledItems.text, blankText, htext, hmore]

private theorem exists_members :
    ∀ members : List Member, members ≠ [] → MembersCompact members →
      ∃ s : SpelledMembers, s.text =
          (String.intercalate "," (compactMembers members)).toList ++ ['}'] ∧ s.members = members
  | [], hne, _ => absurd rfl hne
  | [⟨name, value, source⟩], _, h => by
    obtain ⟨pieces, hname, -, hchars⟩ := exists_pieces name.toList
    obtain ⟨s, htext, hvalue⟩ := exists_spelling value h.2.1
    refine ⟨.last [] pieces [] [] s [], ?_, ?_⟩
    · simp [SpelledMembers.text, blankText, compactMembers, toList_quoted, hname, htext]
    · simp [SpelledMembers.members, hchars, hvalue, htext, h.1]
  | ⟨name, value, source⟩ :: ⟨name', value', source'⟩ :: rest, _, h => by
    obtain ⟨pieces, hname, -, hchars⟩ := exists_pieces name.toList
    obtain ⟨s, htext, hvalue⟩ := exists_spelling value h.2.1
    obtain ⟨more, hmore, hrest⟩ := exists_members (⟨name', value', source'⟩ :: rest) (by simp) h.2.2
    refine ⟨.next [] pieces [] [] s [] more, ?_, ?_⟩
    · rw [compactMembers] at hmore
      rw [compactMembers, compactMembers, String.intercalate_cons_cons]
      simp [SpelledMembers.text, blankText, toList_quoted, hname, htext, hmore]
    · simp [SpelledMembers.members, hchars, hvalue, htext, h.1, hrest]

end

/-- The compact text of a value denotes that value. -/
theorem denotes_compact {v : Value} (h : v.IsCompact) : Denotes v.compact v := by
  obtain ⟨s, htext, hvalue⟩ := exists_spelling v h
  exact ⟨[], s, [], by simp [blankText, htext], hvalue⟩

end ClientGen.Json
