import Mathlib.Data.List.GetD
import Mathlib.Data.Nat.Digits.Lemmas
import ClientGen.Encoding.Base58
/-!
# Reading base 58

A number is carried from one base to another together with its leading zeros, and back again. So
base 58 has one text for every list of bytes, and reading accepts exactly these texts, the empty
one apart.
-/
namespace ClientGen.Encoding.Base58

/-! ### Digits of a number -/

theorem valueOf_eq (base : Nat) (digits : List Nat) :
    valueOf base digits = Nat.ofDigits base digits.reverse := by
  rw [Nat.ofDigits_eq_foldr, List.foldr_reverse, valueOf]
  congr 1
  funext n d
  exact Nat.add_comm _ _

/-- Fuel for as many digits as the number has gives all of them. -/
theorem digitsOf_eq {base : Nat} (hbase : 1 < base) (fuel : Nat) : ∀ {n : Nat},
    n < base ^ fuel → digitsOf base fuel n = Nat.digits base n := by
  induction fuel with
  | zero =>
    intro n hn
    have hzero : n = 0 := Nat.lt_one_iff.mp hn
    rw [hzero, digitsOf, Nat.digits_zero]
  | succ fuel ih =>
    intro n hn
    rw [digitsOf]
    by_cases hzero : n = 0
    · rw [if_pos hzero, hzero, Nat.digits_zero]
    · have hquotient : n / base < base ^ fuel := Nat.div_lt_of_lt_mul (by rwa [← Nat.pow_succ'])
      rw [if_neg hzero, ih hquotient, Nat.digits_def' hbase (Nat.pos_of_ne_zero hzero)]

theorem valueOf_lt {base : Nat} (hbase : 1 < base) {digits : List Nat}
    (h : ∀ d ∈ digits, d < base) : valueOf base digits < base ^ digits.length := by
  rw [valueOf_eq, ← List.length_reverse]
  exact Nat.ofDigits_lt_base_pow_length hbase fun d hd => h d (List.mem_reverse.mp hd)

/-! ### From base to base -/

/-- The digits of the same number in another base, behind as many leading zeros. -/
def recode (source target : Nat) (digits : List Nat) : List Nat :=
  List.replicate (digits.takeWhile (· == 0)).length 0
    ++ (Nat.digits target (valueOf source digits)).reverse

section

variable {source target : Nat} {digits : List Nat}

theorem recode_nil : recode source target [] = [] := by
  simp [recode, valueOf]

theorem recode_zero_cons :
    recode source target (0 :: digits) = 0 :: recode source target digits := by
  simp [recode, valueOf, List.replicate_succ]

theorem recode_of_head (h : digits.head? ≠ some 0) :
    recode source target digits = (Nat.digits target (valueOf source digits)).reverse := by
  cases digits with
  | nil => simp [recode, valueOf]
  | cons d rest =>
    have hd : d ≠ 0 := fun hzero => h (congrArg some hzero)
    simp [recode, hd]

/-- A number does not begin with a zero. -/
theorem head?_digits (base n : Nat) : (Nat.digits base n).reverse.head? ≠ some 0 := by
  rw [List.head?_reverse]
  by_cases hzero : n = 0
  · simp [hzero]
  · rw [List.getLast?_eq_some_getLast (Nat.digits_ne_nil_iff_ne_zero.mpr hzero)]
    intro h
    exact Nat.getLast_digit_ne_zero base hzero (Option.some.inj h)

theorem digits_valueOf (hbase : 1 < source) (hdigits : ∀ d ∈ digits, d < source)
    (h : digits.head? ≠ some 0) : (Nat.digits source (valueOf source digits)).reverse = digits := by
  rw [valueOf_eq, Nat.digits_ofDigits source hbase, List.reverse_reverse]
  · intro d hd
    exact hdigits d (List.mem_reverse.mp hd)
  · intro hne hzero
    apply h
    rw [← List.getLast?_reverse, List.getLast?_eq_some_getLast hne, hzero]

theorem valueOf_digits (base n : Nat) : valueOf base (Nat.digits base n).reverse = n := by
  rw [valueOf_eq, List.reverse_reverse, Nat.ofDigits_digits]

/-- The digits come back: leading zeros one by one, and the number behind them by its value. -/
theorem recode_recode (hbase : 1 < source) (hdigits : ∀ d ∈ digits, d < source) :
    recode target source (recode source target digits) = digits := by
  induction digits with
  | nil => rw [recode_nil, recode_nil]
  | cons d rest ih =>
    by_cases hzero : d = 0
    · rw [hzero, recode_zero_cons, recode_zero_cons, ih (List.forall_mem_cons.mp hdigits).2]
    · have hhead : (d :: rest).head? ≠ some 0 := fun h => hzero (Option.some.inj h)
      rw [recode_of_head hhead, recode_of_head (head?_digits target _), valueOf_digits,
        digits_valueOf hbase hdigits hhead]

theorem recode_lt (hbase : 1 < target) : ∀ d ∈ recode source target digits, d < target := by
  intro d hd
  rcases List.mem_append.mp hd with hd | hd
  · rw [List.eq_of_mem_replicate hd]
    omega
  · exact Nat.digits_lt_base hbase (List.mem_reverse.mp hd)

end

/-! ### Texts -/

/-- The character of a digit. -/
def digitChar (d : Nat) : Char := alphabet.getD d '1'

theorem digitChar_properties : ∀ d : Fin 58,
    (digitChar d).toNat ≤ 0x7F ∧ digit? (digitChar d) = some d.val := by
  decide +kernel

theorem digit?_eq_some_iff {c : Char} {d : Nat} : digit? c = some d ↔ d < 58 ∧ c = digitChar d := by
  constructor
  · intro h
    obtain ⟨hd, hc, -⟩ := List.findIdx?_eq_some_iff_getElem.mp h
    refine ⟨hd, ?_⟩
    rw [digitChar, List.getD_eq_getElem _ _ hd]
    exact (beq_iff_eq.mp hc).symm
  · rintro ⟨hd, rfl⟩
    exact (digitChar_properties ⟨d, hd⟩).2

theorem readDigits_digitChar {digits : List Nat} (h : ∀ d ∈ digits, d < 58) :
    readDigits (digits.map digitChar) = .ok digits := by
  induction digits with
  | nil => rfl
  | cons d rest ih =>
    obtain ⟨hd, hrest⟩ := List.forall_mem_cons.mp h
    have hascii : ¬ 0x7F < (digitChar d).toNat := Nat.not_lt.mpr (digitChar_properties ⟨d, hd⟩).1
    rw [List.map_cons, readDigits, if_neg hascii, digit?_eq_some_iff.mpr ⟨hd, rfl⟩]
    dsimp only
    rw [ih hrest]
    rfl

theorem readDigits_some {s : List Char} : ∀ {digits : List Nat}, readDigits s = .ok digits →
    (∀ d ∈ digits, d < 58) ∧ s = digits.map digitChar := by
  fun_induction readDigits s with
  | case1 =>
    intro digits h
    cases h
    exact ⟨by simp, rfl⟩
  | case2 => intro digits h; cases h
  | case3 => intro digits h; cases h
  | case4 c rest _ d hdigit ih =>
    intro digits h
    obtain ⟨hd, rfl⟩ := digit?_eq_some_iff.mp hdigit
    cases hrest : readDigits rest with
    | error e =>
      rw [hrest] at h
      cases h
    | ok more =>
      rw [hrest] at h
      cases h
      obtain ⟨hmore, rfl⟩ := ih hrest
      exact ⟨List.forall_mem_cons.mpr ⟨hd, hmore⟩, rfl⟩

theorem toNat_lt_of_mem (bytes : List UInt8) : ∀ d ∈ bytes.map (·.toNat), d < 256 := by
  intro d hd
  obtain ⟨byte, -, rfl⟩ := List.mem_map.mp hd
  exact byte.toNat_lt

theorem encode_eq (bytes : List UInt8) :
    encode bytes = String.ofList ((recode 256 58 (bytes.map (·.toNat))).map digitChar) := by
  have hfuel : valueOf 256 (bytes.map (·.toNat)) < 58 ^ (2 * (bytes.map (·.toNat)).length) := by
    calc valueOf 256 (bytes.map (·.toNat))
        < 256 ^ (bytes.map (·.toNat)).length := valueOf_lt (by decide) (toNat_lt_of_mem bytes)
      _ ≤ (58 ^ 2) ^ (bytes.map (·.toNat)).length := Nat.pow_le_pow_left (by decide) _
      _ = 58 ^ (2 * (bytes.map (·.toNat)).length) := (Nat.pow_mul 58 2 _).symm
  rw [encode, digitsOf_eq (by decide) _ hfuel, recode, List.map_append, List.map_replicate]
  rfl

theorem decode_eq {text : String} (hne : text ≠ "") :
    decode text = (readDigits text.toList).map fun digits =>
      (recode 58 256 digits).map UInt8.ofNat := by
  rw [decode]
  split
  · rename_i hempty
    exact absurd (String.toList_eq_nil_iff.mp hempty) hne
  · cases hread : readDigits text.toList with
    | error fault => rfl
    | ok digits =>
      have hdigits := (readDigits_some hread).1
      have hfuel : valueOf 58 digits < 256 ^ digits.length :=
        (valueOf_lt (by decide) hdigits).trans_le (Nat.pow_le_pow_left (by decide) _)
      rw [Except.map, recode, ← digitsOf_eq (by decide) _ hfuel, List.map_append,
        List.map_replicate]
      rfl

/-- The bytes of a list of numbers are these numbers again. -/
theorem map_toNat_ofNat {values : List Nat} (h : ∀ d ∈ values, d < 256) :
    (values.map UInt8.ofNat).map (·.toNat) = values := by
  rw [List.map_map]
  refine (List.map_congr_left fun d hd => ?_).trans (List.map_id values)
  exact UInt8.toNat_ofNat_of_lt' (h d hd)

theorem map_ofNat_toNat (bytes : List UInt8) :
    (bytes.map (·.toNat)).map UInt8.ofNat = bytes := by
  rw [List.map_map]
  refine (List.map_congr_left fun byte _ => ?_).trans (List.map_id bytes)
  exact UInt8.ofNat_toNat

theorem encode_nil : encode [] = "" := rfl

theorem decode_encode {bytes : List UInt8} (hne : bytes ≠ []) :
    decode (encode bytes) = .ok bytes := by
  have hrecode : recode 58 256 (recode 256 58 (bytes.map (·.toNat))) = bytes.map (·.toNat) :=
    recode_recode (by decide) (toNat_lt_of_mem bytes)
  have htext : encode bytes ≠ "" := by
    rw [encode_eq]
    intro hempty
    have hnil : recode 256 58 (bytes.map (·.toNat)) = [] := by
      simpa using hempty
    rw [hnil, recode_nil] at hrecode
    exact hne (List.map_eq_nil_iff.mp hrecode.symm)
  rw [decode_eq htext, encode_eq, String.toList_ofList,
    readDigits_digitChar (recode_lt (by decide)), Except.map, hrecode, map_ofNat_toNat]

/-- Reading accepts exactly what is written for some bytes, and gives them back. -/
theorem decode_eq_ok_iff {text : String} {bytes : List UInt8} :
    decode text = .ok bytes ↔ bytes ≠ [] ∧ encode bytes = text := by
  constructor
  · intro h
    have hne : text ≠ "" := by
      rintro rfl
      cases h
    rw [decode_eq hne] at h
    cases hread : readDigits text.toList with
    | error fault =>
      rw [hread] at h
      cases h
    | ok digits =>
      rw [hread] at h
      cases h
      obtain ⟨hdigits, htext⟩ := readDigits_some hread
      have hencode : encode ((recode 58 256 digits).map UInt8.ofNat) = text := by
        rw [encode_eq, map_toNat_ofNat (recode_lt (by decide)), recode_recode (by decide) hdigits,
          ← htext, String.ofList_toList]
      refine ⟨?_, hencode⟩
      intro hnil
      exact hne ((hencode.symm.trans (congrArg encode hnil)).trans encode_nil)
  · rintro ⟨hne, rfl⟩
    exact decode_encode hne

end ClientGen.Encoding.Base58
