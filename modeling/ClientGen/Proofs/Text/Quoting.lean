import ClientGen.Proofs.Json.Compact
/-!
# Quoted texts are literals

A quoted text cannot be broken out of: it is written in pieces none of which is a bare quotation
mark, backslash or control character, so a reader that starts at its first character finds the text
itself, and whatever follows the literal follows there.
-/
namespace ClientGen.Text

open ClientGen.Json

/-- Reads the literal at the front of a text: the text that it denotes, and what follows it. -/
def readLiteral : List Char → Option (String × List Char)
  | '"' :: rest => (readString .replace rest).map fun (chars, rest) => (String.ofList chars, rest)
  | _ => none

/-- Characters that are one literal, which denotes a text. A piece of the literal is a character
that is neither a control nor a quotation mark nor a backslash, or an escape; no slash is
escaped. -/
structure IsLiteralOf (s : String) (chars : List Char) : Prop where
  pieces : ∃ pieces, chars = '"' :: (piecesText pieces ++ ['"']) ∧ .escape .slash ∉ pieces ∧
    piecesChars pieces = s.toList
  visible : ∀ c ∈ chars, 0x20 ≤ c.toNat
  read : ∀ rest, readLiteral (chars ++ rest) = some (s, rest)

theorem hexDigit_visible (d : HexDigit) : 0x20 ≤ d.char.toNat := by
  have hall : ∀ value : Fin 16,
      0x20 ≤ (hexDigit value).toNat ∧ 0x20 ≤ (hexDigitUpper value).toNat := by decide +kernel
  unfold HexDigit.char
  split
  · exact (hall d.value).2
  · exact (hall d.value).1

theorem piece_visible (piece : Piece) : ∀ c ∈ piece.text, 0x20 ≤ c.toNat := by
  cases piece with
  | plain c h => simpa [Piece.text] using h.2.2
  | escape e => cases e <;> simp [Piece.text, Escape.letter]
  | unit u => simp [Piece.text, hexDigit_visible]

theorem quoted_isLiteralOf (s : String) : IsLiteralOf s (quoted s).toList := by
  obtain ⟨pieces, htext, hslash, hchars⟩ := exists_pieces s.toList
  rw [toList_quoted, ← htext]
  refine ⟨⟨pieces, rfl, hslash, hchars⟩, ?_, ?_⟩
  · intro c hc
    rw [List.mem_cons, List.mem_append, List.mem_singleton] at hc
    rcases hc with rfl | hc | rfl
    · decide
    · obtain ⟨piece, -, hpiece⟩ := List.mem_flatMap.mp hc
      exact piece_visible piece c hpiece
    · decide
  · intro rest
    have happend : '"' :: (piecesText pieces ++ ['"']) ++ rest =
        '"' :: (piecesText pieces ++ '"' :: rest) := by simp
    rw [happend, readLiteral, readString_pieces, hchars]
    simp

theorem newline_not_mem_quoted (s : String) : '\n' ∉ (quoted s).toList := by
  intro hmem
  have hvisible := (quoted_isLiteralOf s).visible _ hmem
  revert hvisible
  decide

theorem quoted_injective : Function.Injective quoted := by
  intro s t h
  have hs := (quoted_isLiteralOf s).read []
  rw [h, (quoted_isLiteralOf t).read []] at hs
  cases hs
  rfl

end ClientGen.Text
