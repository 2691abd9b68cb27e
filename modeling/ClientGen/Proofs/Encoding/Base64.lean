import ClientGen.Encoding.Base64
import ClientGen.Proofs.Text.Utf8
/-!
# Reading base 64

The groups of four digits that are written for some bytes are read back to them, with the fillers
that end the last group.
-/
namespace ClientGen.Encoding.Base64

/-! ### Digits and fillers -/

theorem digitChar_properties : ∀ n : Fin 64, (digitChar n).toNat < 128 ∧
    digit? (digitChar n).toUInt8 = some n.val ∧ isLineEnd (digitChar n).toUInt8 = false := by
  decide +kernel

theorem digit?_digitChar {n : Nat} (h : n < 64) : digit? (digitChar n).toUInt8 = some n :=
  (digitChar_properties ⟨n, h⟩).2.1

theorem toUInt8_filler : '='.toUInt8 = filler := rfl

theorem digit?_filler : digit? filler = none := by decide

/-- The digits of the groups that begin with a byte are below sixty-four. -/
theorem group_digits_lt (a b c : UInt8) :
    a.toNat / 4 < 64 ∧ a.toNat % 4 * 16 + b.toNat / 16 < 64 ∧
      b.toNat % 16 * 4 + c.toNat / 64 < 64 ∧ c.toNat % 64 < 64 := by
  have ha := a.toNat_lt
  have hb := b.toNat_lt
  have hc := c.toNat_lt
  omega

theorem mem_encodeBytes {bytes : List UInt8} {c : Char} (h : c ∈ encodeBytes bytes) :
    c = '=' ∨ ∃ n < 64, c = digitChar n := by
  fun_induction encodeBytes bytes with
  | case1 => cases h
  | case2 a =>
    have hdigits := group_digits_lt a 0 0
    simp only [List.mem_cons, List.not_mem_nil, UInt8.toNat_zero] at h hdigits
    grind
  | case3 a b =>
    have hdigits := group_digits_lt a b 0
    simp only [List.mem_cons, List.not_mem_nil, UInt8.toNat_zero] at h hdigits
    grind
  | case4 a b c rest ih =>
    have hdigits := group_digits_lt a b c
    simp only [List.mem_cons] at h
    grind

/-! ### Groups -/

/-- The bytes of the characters of a text, from an offset on. -/
def located (offset : Nat) (digits : List Char) : Located :=
  locate offset (digits.map Char.toUInt8)

theorem located_cons (offset : Nat) (c : Char) (digits : List Char) :
    located offset (c :: digits) = (offset, c.toUInt8) :: located (offset + 1) digits := rfl

theorem located_nil (offset : Nat) : located offset [] = [] := rfl

theorem readFiller_two (size offset i m n : Nat) :
    readFiller size offset [m, n] [(i, filler)] = .ok (groupBytes [m, n]) := rfl

theorem readFiller_three (size offset l m n : Nat) :
    readFiller size offset [l, m, n] [] = .ok (groupBytes [l, m, n]) := rfl

theorem readGroups_two (size offset : Nat) {m n : Nat} (hm : m < 64) (hn : n < 64) :
    readGroups size [] (located offset [digitChar m, digitChar n, '=', '=']) =
      .ok (groupBytes [m, n]) := by
  simp [located_cons, readGroups, digit?_digitChar hm, digit?_digitChar hn, toUInt8_filler,
    digit?_filler, readFiller_two, located_nil]

theorem readGroups_three (size offset : Nat) {l m n : Nat} (hl : l < 64) (hm : m < 64)
    (hn : n < 64) :
    readGroups size [] (located offset [digitChar l, digitChar m, digitChar n, '=']) =
      .ok (groupBytes [l, m, n]) := by
  simp [located_cons, readGroups, digit?_digitChar hl, digit?_digitChar hm, digit?_digitChar hn,
    toUInt8_filler, digit?_filler, readFiller_three, located_nil]

theorem readGroups_four (size offset : Nat) {k l m n : Nat} (hk : k < 64) (hl : l < 64)
    (hm : m < 64) (hn : n < 64) (digits : List Char) :
    readGroups size []
        (located offset (digitChar k :: digitChar l :: digitChar m :: digitChar n :: digits)) =
      (readGroups size [] (located (offset + 4) digits)).map (groupBytes [k, l, m, n] ++ ·) := by
  simp [located_cons, readGroups, digit?_digitChar hk, digit?_digitChar hl, digit?_digitChar hm,
    digit?_digitChar hn]

theorem groupBytes_byte (a : UInt8) : groupBytes [a.toNat / 4, a.toNat % 4 * 16] = [a] := by
  have hbyte : a.toNat / 4 * 4 + a.toNat % 4 * 16 / 16 = a.toNat := by omega
  rw [groupBytes, hbyte, UInt8.ofNat_toNat]

theorem groupBytes_pair (a b : UInt8) :
    groupBytes [a.toNat / 4, a.toNat % 4 * 16 + b.toNat / 16, b.toNat % 16 * 4] = [a, b] := by
  have hb := b.toNat_lt
  have hfirst : a.toNat / 4 * 4 + (a.toNat % 4 * 16 + b.toNat / 16) / 16 = a.toNat := by omega
  have hsecond : (a.toNat % 4 * 16 + b.toNat / 16) % 16 * 16 + b.toNat % 16 * 4 / 4 = b.toNat := by
    omega
  rw [groupBytes, hfirst, hsecond, UInt8.ofNat_toNat, UInt8.ofNat_toNat]

theorem groupBytes_triple (a b c : UInt8) :
    groupBytes [a.toNat / 4, a.toNat % 4 * 16 + b.toNat / 16, b.toNat % 16 * 4 + c.toNat / 64,
      c.toNat % 64] = [a, b, c] := by
  have hb := b.toNat_lt
  have hc := c.toNat_lt
  have hfirst : a.toNat / 4 * 4 + (a.toNat % 4 * 16 + b.toNat / 16) / 16 = a.toNat := by omega
  have hsecond : (a.toNat % 4 * 16 + b.toNat / 16) % 16 * 16
      + (b.toNat % 16 * 4 + c.toNat / 64) / 4 = b.toNat := by omega
  have hthird : (b.toNat % 16 * 4 + c.toNat / 64) % 4 * 64 + c.toNat % 64 = c.toNat := by omega
  rw [groupBytes, hfirst, hsecond, hthird, UInt8.ofNat_toNat, UInt8.ofNat_toNat, UInt8.ofNat_toNat]

theorem readGroups_encodeBytes (size : Nat) (bytes : List UInt8) : ∀ offset,
    readGroups size [] (located offset (encodeBytes bytes)) = .ok bytes := by
  fun_induction encodeBytes bytes with
  | case1 =>
    intro offset
    rfl
  | case2 a =>
    intro offset
    obtain ⟨hfirst, hsecond, -, -⟩ := group_digits_lt a 0 0
    rw [readGroups_two size offset hfirst (by simpa using hsecond), groupBytes_byte]
  | case3 a b =>
    intro offset
    obtain ⟨hfirst, hsecond, hthird, -⟩ := group_digits_lt a b 0
    rw [readGroups_three size offset hfirst hsecond (by simpa using hthird), groupBytes_pair]
  | case4 a b c rest ih =>
    intro offset
    obtain ⟨hfirst, hsecond, hthird, hfourth⟩ := group_digits_lt a b c
    rw [readGroups_four size offset hfirst hsecond hthird hfourth, ih, groupBytes_triple]
    rfl

/-! ### Whole texts -/

theorem locate_no_lineEnd {bytes : List UInt8} (h : ∀ byte ∈ bytes, isLineEnd byte = false) :
    ∀ offset, (locate offset bytes).filter (fun e => !isLineEnd e.2) = locate offset bytes := by
  induction bytes with
  | nil => intro offset; rfl
  | cons byte rest ih =>
    intro offset
    rw [List.forall_mem_cons] at h
    rw [locate, List.filter_cons_of_pos (by simp [h.1]), ih h.2]

theorem decode_encode (bytes : List UInt8) : decode (encode bytes) = .ok bytes := by
  have hchar : ∀ c ∈ encodeBytes bytes, c.toNat < 128 ∧ isLineEnd c.toUInt8 = false := by
    intro c hc
    rcases mem_encodeBytes hc with rfl | ⟨n, hn, rfl⟩
    · decide
    · have hdigit := digitChar_properties ⟨n, hn⟩
      exact ⟨hdigit.1, hdigit.2.2⟩
  have hbytes : ∀ byte ∈ (encodeBytes bytes).map Char.toUInt8, isLineEnd byte = false := by
    intro byte hbyte
    obtain ⟨c, hc, rfl⟩ := List.mem_map.mp hbyte
    exact (hchar c hc).2
  rw [decode, encode, Text.utf8_ofList fun c hc => (hchar c hc).1,
    locate_no_lineEnd hbytes]
  exact readGroups_encodeBytes _ bytes 0

end ClientGen.Encoding.Base64
