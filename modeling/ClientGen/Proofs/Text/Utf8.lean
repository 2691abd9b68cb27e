/-!
# Bytes of texts

Texts are encoded character by character, so joined texts have joined bytes and different texts
different ones. A character of ASCII is a single byte, its code point.
-/
namespace ClientGen.Text

private theorem toList_loop (bytes : ByteArray) (index : Nat) : ∀ front : List UInt8,
    ByteArray.toList.loop bytes index front =
      front.reverse ++ bytes.data.toList.drop index := by
  -- The loop goes up to the end of the bytes, so the induction is on how far it is from there.
  induction hrest : bytes.size - index generalizing index with
  | zero =>
    intro front
    have hend : bytes.data.toList.length ≤ index := by
      rw [Array.length_toList, ByteArray.size_data]
      omega
    rw [ByteArray.toList.loop, if_neg (by omega), List.drop_eq_nil_of_le hend, List.append_nil]
  | succ rest ih =>
    intro front
    have hindex : index < bytes.data.toList.length := by
      rw [Array.length_toList, ByteArray.size_data]
      omega
    have hget : bytes.get! index = bytes.data.toList[index] := by
      rw [Array.getElem_toList]
      exact getElem!_pos bytes.data index hindex
    rw [ByteArray.toList.loop, if_pos (by omega), ih (index + 1) (by omega),
      List.drop_eq_getElem_cons hindex, List.reverse_cons, List.append_assoc,
      List.singleton_append, hget]

theorem toList_bytes (bytes : ByteArray) : bytes.toList = bytes.data.toList :=
  toList_loop bytes 0 []

theorem utf8_append (s t : String) :
    (s ++ t).toUTF8.toList = s.toUTF8.toList ++ t.toUTF8.toList := by
  simp only [toList_bytes, String.toUTF8, String.toByteArray_append, ByteArray.toList_data_append]

theorem utf8_inj {s t : String} : s.toUTF8.toList = t.toUTF8.toList ↔ s = t := by
  constructor
  · intro h
    rw [toList_bytes, toList_bytes] at h
    exact String.toByteArray_inj.mp (ByteArray.ext (Array.toList_inj.mp h))
  · rintro rfl
    rfl

theorem toNat_toUInt8 {c : Char} (h : c.toNat < 128) : c.toUInt8.toNat = c.toNat := by
  have hbyte : c.toUInt8.toNat = c.toNat % 256 := UInt32.toNat_toUInt8 c.val
  omega

theorem utf8_ofList {s : List Char} (h : ∀ c ∈ s, c.toNat < 128) :
    (String.ofList s).toUTF8.toList = s.map Char.toUInt8 := by
  rw [toList_bytes, String.toUTF8, String.toByteArray_ofList]
  induction s with
  | nil => rfl
  | cons c rest ih =>
    rw [List.forall_mem_cons] at h
    have hsize : c.utf8Size = 1 := by
      rw [Char.utf8Size_eq_one_iff, UInt32.le_iff_toNat_le]
      exact Nat.lt_succ_iff.mp h.1
    rw [List.utf8Encode_cons, ByteArray.toList_data_append, ih h.2, List.utf8Encode_singleton,
      String.utf8EncodeChar_eq_singleton hsize, List.toList_data_toByteArray]
    rfl

end ClientGen.Text
