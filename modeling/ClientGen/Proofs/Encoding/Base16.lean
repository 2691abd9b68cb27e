import ClientGen.Encoding.Base16
import ClientGen.Proofs.Text.Utf8
/-!
# Reading base 16

A byte is written as two digits, the high one first. Either case of each digit is read back to the
byte.
-/
namespace ClientGen.Encoding.Base16

/-- The hexadecimal digit of a number, in either case. -/
def IsDigit (n : Nat) (c : Char) : Prop := c = Text.hexDigit n ∨ c = Text.hexDigitUpper n

/-- Digits that are written for some bytes. -/
inductive Denotes : List Char → List UInt8 → Prop
  | nil : Denotes [] []
  | byte {byte : UInt8} {high low : Char} {digits : List Char} {bytes : List UInt8}
      (hhigh : IsDigit (byte.toNat / 16) high) (hlow : IsDigit (byte.toNat % 16) low)
      (h : Denotes digits bytes) : Denotes (high :: low :: digits) (byte :: bytes)

theorem IsDigit.ascii {n : Nat} (hn : n < 16) {c : Char} (h : IsDigit n c) : c.toNat < 128 := by
  have hdigits : ∀ m : Fin 16, (Text.hexDigit m).toNat < 128 ∧ (Text.hexDigitUpper m).toNat < 128 :=
    by decide
  rcases h with rfl | rfl
  · exact (hdigits ⟨n, hn⟩).1
  · exact (hdigits ⟨n, hn⟩).2

theorem IsDigit.digit? {n : Nat} (hn : n < 16) {c : Char} (h : IsDigit n c) :
    digit? c.toUInt8 = some n := by
  have hvalues : ∀ m : Fin 16, Text.hexValue? (Text.hexDigit m) = some m.val ∧
      Text.hexValue? (Text.hexDigitUpper m) = some m.val := by decide
  rw [Base16.digit?, Text.toNat_toUInt8 (h.ascii hn), Char.ofNat_toNat]
  rcases h with rfl | rfl
  · exact (hvalues ⟨n, hn⟩).1
  · exact (hvalues ⟨n, hn⟩).2

theorem byte_digits_lt (byte : UInt8) : byte.toNat / 16 < 16 ∧ byte.toNat % 16 < 16 := by
  have hbyte := byte.toNat_lt
  omega

theorem Denotes.ascii {digits : List Char} {bytes : List UInt8} (h : Denotes digits bytes) :
    ∀ c ∈ digits, c.toNat < 128 := by
  induction h with
  | nil => simp
  | @byte byte high low digits bytes hhigh hlow _ ih =>
    obtain ⟨hquotient, hrest⟩ := byte_digits_lt byte
    exact List.forall_mem_cons.mpr ⟨hhigh.ascii hquotient,
      List.forall_mem_cons.mpr ⟨hlow.ascii hrest, ih⟩⟩

theorem Denotes.decode {digits : List Char} {bytes : List UInt8} (h : Denotes digits bytes) :
    decode (String.ofList digits) = .ok bytes := by
  rw [Base16.decode, Text.utf8_ofList h.ascii]
  induction h with
  | nil => rfl
  | @byte byte high low digits bytes hhigh hlow _ ih =>
    obtain ⟨hquotient, hrest⟩ := byte_digits_lt byte
    rw [List.map_cons, List.map_cons, decodeBytes, hhigh.digit? hquotient, hlow.digit? hrest]
    dsimp only
    rw [ih, Nat.div_add_mod, UInt8.ofNat_toNat]
    rfl

/-- Lower-case digits are written. -/
theorem denotes_encode (bytes : List UInt8) : Denotes (encode bytes).toList bytes := by
  rw [encode, String.toList_ofList]
  induction bytes with
  | nil => exact .nil
  | cons byte rest ih => exact .byte (.inl rfl) (.inl rfl) ih

end ClientGen.Encoding.Base16
