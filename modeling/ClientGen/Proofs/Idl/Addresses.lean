import ClientGen.Cpp.Literal
import ClientGen.Idl.Check
import ClientGen.Proofs.Encoding.Base58
/-!
# Addresses

An address is what base 58 writes for one list of thirty-two bytes. The check of a document and the
writing of a literal decide by the same texts.
-/
namespace ClientGen.Idl

open ClientGen.Encoding ClientGen.Cpp

/-- A text that is written for exactly one list of bytes of the size of an address. -/
def IsAddress (key : String) : Prop :=
  ∃! bytes : List UInt8, bytes.length = addressSize ∧ Base58.encode bytes = key

theorem isAddress_iff_decode (key : String) :
    IsAddress key ↔ ∃ bytes, Base58.decode key = .ok bytes ∧ bytes.length = addressSize := by
  have hread {bytes : List UInt8} (hsize : bytes.length = addressSize)
      (hkey : Base58.encode bytes = key) : Base58.decode key = .ok bytes := by
    refine Base58.decode_eq_ok_iff.mpr ⟨?_, hkey⟩
    rintro rfl
    cases hsize
  constructor
  · rintro ⟨bytes, ⟨hsize, hkey⟩, -⟩
    exact ⟨bytes, hread hsize hkey, hsize⟩
  · rintro ⟨bytes, hdecode, hsize⟩
    refine ⟨bytes, ⟨hsize, (Base58.decode_eq_ok_iff.mp hdecode).2⟩, ?_⟩
    rintro other ⟨hother, hkey⟩
    rw [hread hother hkey] at hdecode
    exact Except.ok.inj hdecode

theorem keyFault?_eq_none_iff (key : String) : keyFault? key = none ↔ IsAddress key := by
  rw [isAddress_iff_decode, keyFault?]
  by_cases hempty : key.isEmpty = true
  · -- no digits are no number, so the missing key is no exception
    rw [if_pos hempty, String.isEmpty_iff.mp hempty]
    simp [Base58.decode]
  · rw [if_neg hempty]
    cases Base58.decode key with
    | error fault => simp
    | ok bytes => by_cases hsize : bytes.length = addressSize <;> simp [hsize]

theorem checkPublicKey_eq_ok_iff (key : String) :
    checkPublicKey key = .ok () ↔ IsAddress key := by
  rw [isAddress_iff_decode, checkPublicKey]
  cases Base58.decode key with
  | error fault => simp
  | ok bytes =>
    have hsame : publicKeySize = addressSize := rfl
    by_cases hsize : bytes.length = addressSize <;> simp [hsame, hsize]

instance : DecidablePred IsAddress := fun key => decidable_of_iff _ (keyFault?_eq_none_iff key)

end ClientGen.Idl
