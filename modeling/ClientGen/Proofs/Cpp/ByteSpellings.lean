import ClientGen.Cpp.Literal
import ClientGen.Proofs.Encoding.Base16
import ClientGen.Proofs.Encoding.Base58
import ClientGen.Proofs.Encoding.Base64
/-!
# Spellings of a byte string

A byte string has a text in each encoding. The literal is made from the bytes, so it is the same
for all of them. Only the empty text in base 58 is refused, while the other encodings have one for
no bytes.
-/
namespace ClientGen.Cpp

open ClientGen.Idl ClientGen.Encoding

/-- A text that an encoding writes for some bytes. Digits of base 16 may be of either case. -/
inductive Spells : (encoding : String) → List UInt8 → String → Prop
  | base16 {digits : List Char} {bytes : List UInt8} (h : Base16.Denotes digits bytes) :
    Spells "base16" bytes (String.ofList digits)
  | base58 (bytes : List UInt8) : Spells "base58" bytes (Base58.encode bytes)
  | base64 (bytes : List UInt8) : Spells "base64" bytes (Base64.encode bytes)

theorem Spells.base16_encode (bytes : List UInt8) :
    Spells "base16" bytes (Base16.encode bytes) := by
  rw [← @String.ofList_toList (Base16.encode bytes)]
  exact .base16 (Base16.denotes_encode bytes)

/-- The bytes as decimal numbers, in order and between braces. -/
def byteList (bytes : List UInt8) : Literal :=
  ⟨"\x7b" ++ String.intercalate ", " (bytes.map fun byte => byte.toNat.repr) ++ "\x7d", .empty⟩

/-- What becomes of bytes that are spelled in an encoding. -/
def writtenBytes (encoding : String) (bytes : List UInt8) : Generated Literal :=
  if encoding = "base58" ∧ bytes = [] then .error (.invalidValue (.base58 "" .empty))
  else .ok (byteList bytes)

variable {encoding text : String} {bytes : List UInt8}

theorem bytesLiteral_eq (h : bytesOf encoding text = .ok bytes) :
    bytesLiteral encoding text = .ok (byteList bytes) := by
  rw [bytesLiteral, h]
  rfl

theorem bytesOf_base16 (data : String) : bytesOf "base16" data =
    (Base16.decode data).mapError fun fault => .invalidValue (.base16 data fault) := rfl

theorem bytesOf_base58 (data : String) : bytesOf "base58" data =
    (Base58.decode data).mapError fun fault => .invalidValue (.base58 data fault) := rfl

theorem bytesOf_base64 (data : String) : bytesOf "base64" data =
    (Base64.decode data).mapError fun fault => .invalidValue (.base64 data fault) := rfl

theorem bytesLiteral_of_spells (h : Spells encoding bytes text) :
    bytesLiteral encoding text = writtenBytes encoding bytes := by
  cases h with
  | base16 h =>
    apply bytesLiteral_eq
    rw [bytesOf_base16, h.decode]
    rfl
  | base64 bytes =>
    apply bytesLiteral_eq
    rw [bytesOf_base64, Base64.decode_encode]
    rfl
  | base58 bytes =>
    by_cases hempty : bytes = []
    · rw [writtenBytes, if_pos ⟨rfl, hempty⟩, hempty]
      rfl
    · rw [writtenBytes, if_neg fun h => hempty h.2]
      apply bytesLiteral_eq
      rw [bytesOf_base58, Base58.decode_encode hempty]
      rfl

/-- Bytes are written alike whatever encoding spells them, by themselves, as a constant of any type
and as a constant that is a string of the encoding. No bytes at all cannot be spelled in base 58. -/
theorem bytes_written_alike (target : Target) (short : Bool) (h : Spells encoding bytes text) :
    literal target short (.bytes text encoding) = writtenBytes encoding bytes ∧
    (∀ type, literal target short (.constant type (.bytes text encoding)) =
      writtenBytes encoding bytes) ∧
    literal target short (.constant (.string encoding) (.string text)) =
      writtenBytes encoding bytes := by
  have hbytes := bytesLiteral_of_spells h
  refine ⟨?_, ?_, ?_⟩
  · rwa [literal]
  · intro type
    rwa [literal, constantLiteral]
  · rwa [literal, constantLiteral]

theorem bytes_written_alike_zero_and_last :
    Spells "base58" [0, 255] "15Q" ∧ Spells "base16" [0, 255] "00ff" ∧
    literal ⟨.unreal5, "Vault"⟩ false (.bytes "15Q" "base58") =
      .ok ⟨"\x7b0, 255\x7d", .empty⟩ ∧
    literal ⟨.unreal5, "Vault"⟩ false (.constant (.string "base16") (.string "00ff")) =
      .ok ⟨"\x7b0, 255\x7d", .empty⟩ := by
  have hbase58 : Spells "base58" [0, 255] "15Q" := .base58 [0, 255]
  have hbase16 : Spells "base16" [0, 255] "00ff" := .base16_encode [0, 255]
  exact ⟨hbase58, hbase16, (bytes_written_alike ⟨.unreal5, "Vault"⟩ false hbase58).1,
    (bytes_written_alike ⟨.unreal5, "Vault"⟩ false hbase16).2.2⟩

/-- No bytes are spelled by the empty text in base 16 and in base 58, and only the first is
written. -/
theorem empty_base58_refused :
    Spells "base16" [] "" ∧ Spells "base58" [] "" ∧
    literal ⟨.unreal5, "Vault"⟩ false (.bytes "" "base16") = .ok ⟨"\x7b\x7d", .empty⟩ ∧
    literal ⟨.unreal5, "Vault"⟩ false (.bytes "" "base58") =
      .error (.invalidValue (.base58 "" .empty)) := by
  refine ⟨.base16 .nil, .base58 [], ?_, ?_⟩
  · rw [literal]
    exact bytesLiteral_of_spells (.base16 .nil)
  · rw [literal]
    rfl

end ClientGen.Cpp
