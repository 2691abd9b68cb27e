import ClientGen.Proofs.Idl.RoundTrip
import ClientGen.Proofs.Json.SameValue
import ClientGen.Proofs.Json.Sources
/-!
# Decoding depends on the value

Types and values are decoded from the value of a text: neither blanks nor escapes nor the order of
members matters, and a fault is the same fault. Only the signer of an instruction account is told
from the text of its member, and there an escape makes a difference.
-/
namespace ClientGen.Idl

open ClientGen.Json

/-! ### Types and values -/

section Members

variable {ms ks : List Member} (h : SameObject ms ks)
include h

private theorem requireShape_eq (shape : RecordShape) :
    requireShape shape ms = requireShape shape ks := by
  rw [requireShape, requireShape, h.conforms_eq]

private theorem kindOf_eq : kindOf ms = kindOf ks := by
  rw [kindOf, kindOf, requireShape_eq h, h.textOf_eq]

private theorem textOr_eq (standard field : String) :
    textOr standard field ms = textOr standard field ks := by
  rw [textOr, textOr, h.textOf_eq]

private theorem requiredInt_eq (field : String) : requiredInt field ms = requiredInt field ks := by
  rw [requiredInt, requiredInt]
  obtain ⟨hms, hks⟩ | ⟨⟨_, v, _⟩, ⟨_, w, _⟩, hms, hks, hvalue⟩ := h.lastMember? field
  · rw [hms, hks]
  · rw [hms, hks]
    cases hvalue <;> rfl

private theorem requiredLink_eq (field : String) :
    requiredLink field ms = requiredLink field ks := by
  rw [requiredLink, requiredLink]
  obtain ⟨hms, hks⟩ | ⟨⟨_, v, _⟩, ⟨_, w, _⟩, hms, hks, hvalue⟩ := h.lastMember? field
  · rw [hms, hks]
  · rw [hms, hks]
    cases hvalue with
    | object hmembers horder =>
      have hinner : SameObject _ _ := ⟨_, hmembers, horder⟩
      simp only [membersOf, Decoded.ok_bind, requireShape_eq hinner, hinner.textOf_eq]
    | _ => rfl

end Members

mutual

theorem decodeType_eq (v w : Value) (h : SameValue v w) : decodeType v = decodeType w :=
  match v, w, h with
  | .object ms, .object ks, .object hmembers horder => by
    have h : SameObject ms ks := ⟨_, hmembers, horder⟩
    have htype (field : String) := decodeType_eq _ _ (h.lastValue field)
    have htypeOr (field : String) := decodeTypeOr_eq _ _ (h.lastValue field)
    have hcount (field : String) := decodeCount_eq _ _ (h.lastValue field)
    have hvalue? (field : String) := decodeValue?_eq _ _ (h.lastValue field)
    have htypes (field kind : String) (index : Nat) :=
      decodeTypes_eq kind index _ _ (h.listOf field)
    have hfields (field kind : String) (index : Nat) :=
      decodeFields_eq kind index _ _ (h.listOf field)
    have hvariants (field kind : String) (index : Nat) :=
      decodeVariants_eq kind index _ _ (h.listOf field)
    rw [decodeType.eq_2, decodeType.eq_2]
    simp only [kindOf_eq h, requireShape_eq h, h.textOf_eq, h.flagOf_eq, h.intOf_eq, h.intOf?_eq,
      h.textsOf_eq, textOr_eq h, requiredInt_eq h, htype, htypeOr, hcount, hvalue?, htypes,
      hfields, hvariants]
  | .array _, .array _, .array _ => by simp only [decodeType]
  | .null, .null, .null => rfl
  | .bool _, .bool _, .bool _ => rfl
  | .number _, .number _, .number _ => rfl
  | .string _, .string _, .string _ => rfl
termination_by 2 * sizeOf v
decreasing_by
  all_goals
    first
    | exact weight_lastValue_lt _ _
    | exact weight_lastValue_succ_lt _ _
    | exact weight_listOf_lt _ _

theorem decodeTypeOr_eq (v w : Value) (h : SameValue v w) : decodeTypeOr v = decodeTypeOr w := by
  have htype := decodeType_eq v w h
  cases h with
  | null => rfl
  | _ => simp only [decodeTypeOr, htype]
termination_by 2 * sizeOf v + 1
decreasing_by omega

theorem decodeCount_eq (v w : Value) (h : SameValue v w) : decodeCount v = decodeCount w :=
  match v, w, h with
  | .object ms, .object ks, .object hmembers horder => by
    have h : SameObject ms ks := ⟨_, hmembers, horder⟩
    have htype (field : String) := decodeType_eq _ _ (h.lastValue field)
    simp only [decodeCount, kindOf_eq h, requireShape_eq h, h.intOf_eq, htype]
  | .array _, .array _, .array _ => by simp only [decodeCount]
  | .null, .null, .null => rfl
  | .bool _, .bool _, .bool _ => rfl
  | .number _, .number _, .number _ => rfl
  | .string _, .string _, .string _ => rfl
termination_by 2 * sizeOf v
decreasing_by exact weight_lastValue_lt _ _

theorem decodeTypes_eq (kind : String) (index : Nat) (vs ws : List Value)
    (h : SameItems vs ws) : decodeTypes kind index vs = decodeTypes kind index ws :=
  match vs, ws, h with
  | [], [], .nil => rfl
  | v :: vs, w :: ws, .cons hitem hrest => by
    have hitem := decodeType_eq v w hitem
    have hrest := decodeTypes_eq kind (index + 1) vs ws hrest
    simp only [decodeTypes, hitem, hrest]
termination_by 2 * sizeOf vs
decreasing_by all_goals simp only [List.cons.sizeOf_spec]; omega

theorem decodeFields_eq (kind : String) (index : Nat) (vs ws : List Value)
    (h : SameItems vs ws) : decodeFields kind index vs = decodeFields kind index ws :=
  match vs, ws, h with
  | [], [], .nil => rfl
  | v :: vs, w :: ws, .cons hitem hrest => by
    have hitem := decodeType_eq v w hitem
    have hrest := decodeFields_eq kind (index + 1) vs ws hrest
    simp only [decodeFields, hitem, hrest]
termination_by 2 * sizeOf vs
decreasing_by all_goals simp only [List.cons.sizeOf_spec]; omega

theorem decodeVariants_eq (kind : String) (index : Nat) (vs ws : List Value)
    (h : SameItems vs ws) : decodeVariants kind index vs = decodeVariants kind index ws :=
  match vs, ws, h with
  | [], [], .nil => rfl
  | v :: vs, w :: ws, .cons hitem hrest => by
    have hitem := decodeType_eq v w hitem
    have hrest := decodeVariants_eq kind (index + 1) vs ws hrest
    simp only [decodeVariants, hitem, hrest]
termination_by 2 * sizeOf vs
decreasing_by all_goals simp only [List.cons.sizeOf_spec]; omega

theorem decodeValue_eq (v w : Value) (h : SameValue v w) : decodeValue v = decodeValue w :=
  match v, w, h with
  | .object ms, .object ks, .object hmembers horder => by
    have h : SameObject ms ks := ⟨_, hmembers, horder⟩
    have htype (field : String) := decodeType_eq _ _ (h.lastValue field)
    have hvalue (field : String) := decodeValue_eq _ _ (h.lastValue field)
    have hvalue? (field : String) := decodeValue?_eq _ _ (h.lastValue field)
    have hvalues (field kind : String) (index : Nat) :=
      decodeValues_eq kind index _ _ (h.listOf field)
    have hentries (field kind : String) (index : Nat) :=
      decodeEntries_eq kind index _ _ (h.listOf field)
    have hfields (field kind : String) (index : Nat) :=
      decodeValueFields_eq kind index _ _ (h.listOf field)
    rw [decodeValue.eq_2, decodeValue.eq_2]
    simp only [kindOf_eq h, requireShape_eq h, h.textOf_eq, h.flagOf_eq, h.numberOf_eq,
      requiredLink_eq h, htype, hvalue, hvalue?, hvalues, hentries, hfields]
  | .array _, .array _, .array _ => by simp only [decodeValue]
  | .null, .null, .null => rfl
  | .bool _, .bool _, .bool _ => rfl
  | .number _, .number _, .number _ => rfl
  | .string _, .string _, .string _ => rfl
termination_by 2 * sizeOf v
decreasing_by
  all_goals
    first
    | exact weight_lastValue_lt _ _
    | exact weight_lastValue_succ_lt _ _
    | exact weight_listOf_lt _ _

theorem decodeValue?_eq (v w : Value) (h : SameValue v w) : decodeValue? v = decodeValue? w := by
  have hvalue := decodeValue_eq v w h
  cases h with
  | null => rfl
  | _ => simp only [decodeValue?, hvalue]
termination_by 2 * sizeOf v + 1
decreasing_by omega

theorem decodeValues_eq (kind : String) (index : Nat) (vs ws : List Value)
    (h : SameItems vs ws) : decodeValues kind index vs = decodeValues kind index ws :=
  match vs, ws, h with
  | [], [], .nil => rfl
  | v :: vs, w :: ws, .cons hitem hrest => by
    have hitem := decodeValue_eq v w hitem
    have hrest := decodeValues_eq kind (index + 1) vs ws hrest
    simp only [decodeValues, hitem, hrest]
termination_by 2 * sizeOf vs
decreasing_by all_goals simp only [List.cons.sizeOf_spec]; omega

theorem decodeEntries_eq (kind : String) (index : Nat) (vs ws : List Value)
    (h : SameItems vs ws) : decodeEntries kind index vs = decodeEntries kind index ws :=
  match vs, ws, h with
  | [], [], .nil => rfl
  | v :: vs, w :: ws, .cons hitem hrest => by
    have hitem := decodeValue_eq v w hitem
    have hrest := decodeEntries_eq kind (index + 1) vs ws hrest
    simp only [decodeEntries, hitem, hrest]
termination_by 2 * sizeOf vs
decreasing_by all_goals simp only [List.cons.sizeOf_spec]; omega

theorem decodeValueFields_eq (kind : String) (index : Nat) (vs ws : List Value)
    (h : SameItems vs ws) : decodeValueFields kind index vs = decodeValueFields kind index ws :=
  match vs, ws, h with
  | [], [], .nil => rfl
  | v :: vs, w :: ws, .cons hitem hrest => by
    have hitem := decodeValue_eq v w hitem
    have hrest := decodeValueFields_eq kind (index + 1) vs ws hrest
    simp only [decodeValueFields, hitem, hrest]
termination_by 2 * sizeOf vs
decreasing_by all_goals simp only [List.cons.sizeOf_spec]; omega

end

/-! ### Signers -/

/-- The signer that a value tells. -/
def signerOf? : Value → Option Signer
  | .null => some .never
  | .bool false => some .never
  | .bool true => some .always
  | .string "either" => some .either
  | _ => none

private theorem signerOf?_eq {v w : Value} (h : SameValue v w) :
    signerOf? v = signerOf? w := by
  cases h <;> rfl

/-- A member that tells the signer has no escapes in the word for either. -/
def IsPlainSigner (m : Member) : Prop :=
  sameName "isSigner" m.name = true → m.value = .string "either" → m.source = "\"either\""

private theorem piecesChars_of_plain {pieces : List Piece} (h : '\\' ∉ piecesText pieces) :
    piecesChars pieces = piecesText pieces := by
  induction pieces with
  | nil => rfl
  | cons piece rest ih =>
    simp only [piecesText, List.flatMap_cons, List.mem_append, not_or] at h
    cases piece with
    | plain c _ => simpa [piecesChars, piecesText, Piece.text] using ih h.2
    | escape e => simp [Piece.text] at h
    | unit u => simp [Piece.text] at h

private theorem decodeSigner_of_ne (account : String) {source : String} (hnull : source ≠ "null")
    (hfalse : source ≠ "false") (htrue : source ≠ "true") :
    (decodeSigner account (some source)).toOption =
      if source = "\"either\"" then some .either else none := by
  simp only [decodeSigner, beq_eq_false_iff_ne.mpr hnull, beq_eq_false_iff_ne.mpr hfalse,
    beq_eq_false_iff_ne.mpr htrue, Bool.or_self, Bool.false_eq_true, if_false, beq_iff_eq]
  split <;> rfl

private theorem decodeSigner_of_head (account : String) {c : Char} {cs : List Char}
    (hc : c ≠ 'n' ∧ c ≠ 'f' ∧ c ≠ 't' ∧ c ≠ '"') :
    (decodeSigner account (some (String.ofList (c :: cs)))).toOption = none := by
  have hne (d : Char) (ds : List Char) (hd : c ≠ d) :
      String.ofList (c :: cs) ≠ String.ofList (d :: ds) := by
    intro heq
    exact hd (List.cons.inj (String.ofList_injective heq)).1
  rw [decodeSigner_of_ne account (hne 'n' _ hc.1) (hne 'f' _ hc.2.1) (hne 't' _ hc.2.2.1)]
  exact if_neg (hne '"' _ hc.2.2.2)

private theorem numeral_head {text : String} (h : IsNumeral text.toList) :
    ∃ c cs, text = String.ofList (c :: cs) ∧ c ≠ 'n' ∧ c ≠ 'f' ∧ c ≠ 't' ∧ c ≠ '"' := by
  obtain ⟨minus, whole, fraction, exponent, hminus, hwhole, -, -, htext⟩ := h
  have hof : text = String.ofList (minus ++ whole ++ fraction ++ exponent) := by
    rw [← htext, String.ofList_toList]
  have hdigit : ∃ c cs, whole = c :: cs ∧ Text.isDigit c = true := by
    rcases hwhole with rfl | ⟨⟨hne, hdigits⟩, -⟩
    · exact ⟨'0', [], rfl, rfl⟩
    · obtain ⟨c, cs, rfl⟩ := List.exists_cons_of_ne_nil hne
      exact ⟨c, cs, rfl, hdigits c List.mem_cons_self⟩
  obtain ⟨c, cs, rfl, hc⟩ := hdigit
  rcases hminus with rfl | rfl
  · refine ⟨c, cs ++ fraction ++ exponent, by simpa using hof, ?_⟩
    refine ⟨?_, ?_, ?_, ?_⟩ <;> (rintro rfl; revert hc; decide)
  · exact ⟨'-', c :: (cs ++ fraction ++ exponent), by simpa using hof, by decide⟩

private theorem decodeSigner_source (account : String) {m : Member} (hsourced : m.IsSourced)
    (hplain : m.value = .string "either" → m.source = "\"either\"") :
    (decodeSigner account (some m.source)).toOption = signerOf? m.value := by
  obtain ⟨name, value, source⟩ := m
  obtain ⟨s, rfl, rfl⟩ := hsourced
  dsimp only at hplain ⊢
  cases s with
  | null => simp [Spelling.text, Spelling.value, decodeSigner, signerOf?, Except.toOption]
  | bool b =>
    cases b <;> simp [Spelling.text, Spelling.value, decodeSigner, signerOf?, Except.toOption]
  | number text h =>
    obtain ⟨c, cs, htext, hc⟩ := numeral_head h
    have hspelled : String.ofList (Spelling.number text h).text = String.ofList (c :: cs) := by
      rw [Spelling.text, String.ofList_toList, htext]
    rw [hspelled, decodeSigner_of_head account hc]
    rfl
  | string pieces =>
    have hvalue : signerOf? (Spelling.string pieces).value =
        if String.ofList (piecesChars pieces) = "either" then some .either else none := by
      rw [Spelling.value, signerOf?.eq_def]
      split <;> simp_all
    have hne (d : Char) (ds : List Char) (hd : '"' ≠ d) :
        String.ofList (Spelling.string pieces).text ≠ String.ofList (d :: ds) := by
      intro heq
      exact hd (List.cons.inj (String.ofList_injective heq)).1
    rw [decodeSigner_of_ne account (hne 'n' _ (by decide)) (hne 'f' _ (by decide))
      (hne 't' _ (by decide)), hvalue]
    congr 1
    rw [eq_iff_iff]
    -- The raw text decides, so a text that is the word has no escapes; the converse is the premise.
    refine ⟨fun hsource => ?_, fun heither => hplain (by rw [Spelling.value, heither])⟩
    have htext : piecesText pieces ++ ['"'] = "either".toList ++ ['"'] :=
      (List.cons.inj (String.ofList_injective hsource)).2
    have hpieces : piecesText pieces = "either".toList := List.append_cancel_right htext
    rw [piecesChars_of_plain (by rw [hpieces]; decide), hpieces]
    rfl
  | emptyArray inside => exact decodeSigner_of_head account (by decide)
  | array items => exact decodeSigner_of_head account (by decide)
  | emptyObject inside => exact decodeSigner_of_head account (by decide)
  | object members => exact decodeSigner_of_head account (by decide)

/-! ### Programs -/

@[simp] theorem Decoded.toOption_bind {α β : Type} (x : Decoded α) (f : α → Decoded β) :
    (x >>= f).toOption = x.toOption.bind fun a => (f a).toOption := by
  cases x <;> rfl

@[simp] theorem Decoded.toOption_inside {α : Type} (place : Place) (x : Decoded α) :
    (Decoded.inside place x).toOption = x.toOption := by
  cases x <;> rfl

private def IsLegible (v : Value) : Prop :=
  v.EveryMember fun m => m.IsSourced ∧ IsPlainSigner m

private def Agrees {α : Type} (decode : Value → Decoded α) : Prop :=
  ∀ v w, SameValue v w → IsLegible v → IsLegible w → (decode v).toOption = (decode w).toOption

private theorem decodeItems_agrees {α : Type} {decode : Value → Decoded α} (hdecode : Agrees decode)
    (place : Nat → Place) (index : Nat) {vs ws : List Value} (h : SameItems vs ws)
    (hvs : ∀ v ∈ vs, IsLegible v) (hws : ∀ w ∈ ws, IsLegible w) :
    (decodeItems place decode index vs).toOption =
      (decodeItems place decode index ws).toOption := by
  induction vs generalizing ws index with
  | nil =>
    cases h
    rfl
  | cons v vs ih =>
    cases h with
    | cons h h' =>
      rw [List.forall_mem_cons] at hvs hws
      have hitem := hdecode _ _ h hvs.1 hws.1
      have hrest := ih (index + 1) h' hvs.2 hws.2
      simp only [decodeItems, Decoded.toOption_bind, Decoded.toOption_inside, hitem, hrest]

private theorem sameValue_membersOf {v w : Value} (h : SameValue v w) :
    (∃ ms ks, membersOf v = .ok ms ∧ membersOf w = .ok ks ∧ SameObject ms ks) ∨
      membersOf v = .error .malformed ∧ membersOf w = .error .malformed := by
  cases h with
  | null => exact .inl ⟨[], [], rfl, rfl, [], .nil, .nil⟩
  | object hmembers horder => exact .inl ⟨_, _, rfl, rfl, _, hmembers, horder⟩
  | _ => exact .inr ⟨rfl, rfl⟩

private theorem IsLegible.membersOf {v : Value} (h : IsLegible v) {ms : List Member}
    (hms : membersOf v = .ok ms) :
    MembersEveryMember (fun m => m.IsSourced ∧ IsPlainSigner m) ms := by
  cases v with
  | null => cases hms; trivial
  | object members => cases hms; exact h
  | _ => cases hms

private theorem decodeAccount_eq {v w : Value} (h : SameValue v w) :
    decodeAccount v = decodeAccount w := by
  obtain ⟨ms, ks, hms, hks, h⟩ | ⟨hv, hw⟩ := sameValue_membersOf h
  · simp only [decodeAccount, hms, hks, Decoded.ok_bind, requireShape_eq h, h.textOf_eq,
      decodeType_eq _ _ (h.lastValue "data"), h.textsOf_eq, h.linkOf_eq, h.intOf?_eq, h.flagOf_eq]
  · rw [decodeAccount, decodeAccount, hv, hw]

private theorem decodeArgument_eq {v w : Value} (h : SameValue v w) :
    decodeArgument v = decodeArgument w := by
  obtain ⟨ms, ks, hms, hks, h⟩ | ⟨hv, hw⟩ := sameValue_membersOf h
  · simp only [decodeArgument, hms, hks, Decoded.ok_bind, requireShape_eq h, h.textOf_eq,
      decodeType_eq _ _ (h.lastValue "type"), decodeValue?_eq _ _ (h.lastValue "defaultValue"),
      h.textsOf_eq]
  · rw [decodeArgument, decodeArgument, hv, hw]

private theorem decodeDefinedType_eq {v w : Value} (h : SameValue v w) :
    decodeDefinedType v = decodeDefinedType w := by
  obtain ⟨ms, ks, hms, hks, h⟩ | ⟨hv, hw⟩ := sameValue_membersOf h
  · simp only [decodeDefinedType, hms, hks, Decoded.ok_bind, requireShape_eq h, h.textOf_eq,
      decodeType_eq _ _ (h.lastValue "type"), h.textsOf_eq, h.flagOf_eq]
  · rw [decodeDefinedType, decodeDefinedType, hv, hw]

private theorem decodeError_eq {v w : Value} (h : SameValue v w) :
    decodeError v = decodeError w := by
  obtain ⟨ms, ks, hms, hks, h⟩ | ⟨hv, hw⟩ := sameValue_membersOf h
  · simp only [decodeError, hms, hks, Decoded.ok_bind, requireShape_eq h, h.textOf_eq, h.intOf_eq,
      h.textsOf_eq]
  · rw [decodeError, decodeError, hv, hw]

private theorem decodeSeed_eq (pda : String) (index : Nat) {v w : Value} (h : SameValue v w) :
    decodeSeed pda index v = decodeSeed pda index w := by
  obtain ⟨ms, ks, hms, hks, h⟩ | ⟨hv, hw⟩ := sameValue_membersOf h
  · simp only [decodeSeed, hms, hks, Decoded.inside_ok, Decoded.ok_bind, kindOf_eq h,
      requireShape_eq h, decodeType_eq _ _ (h.lastValue "type"),
      decodeValue_eq _ _ (h.lastValue "value"), h.textOf_eq, h.textsOf_eq]
  · rw [decodeSeed, decodeSeed, hv, hw]

private theorem decodeSeeds_eq (pda : String) {vs ws : List Value} (h : SameItems vs ws)
    (index : Nat) : decodeSeeds pda index vs = decodeSeeds pda index ws := by
  induction vs generalizing ws index with
  | nil =>
    cases h
    rfl
  | cons v vs ih =>
    cases h with
    | cons h h' => simp only [decodeSeeds, decodeSeed_eq pda index h, ih h' (index + 1)]

private theorem decodePda_eq {v w : Value} (h : SameValue v w) : decodePda v = decodePda w := by
  obtain ⟨ms, ks, hms, hks, h⟩ | ⟨hv, hw⟩ := sameValue_membersOf h
  · simp only [decodePda, hms, hks, Decoded.ok_bind, requireShape_eq h, h.textOf_eq,
      decodeSeeds_eq _ (h.listOf "seeds"), h.textsOf_eq]
  · rw [decodePda, decodePda, hv, hw]

private theorem agrees_of_eq {α : Type} {decode : Value → Decoded α}
    (h : ∀ {v w}, SameValue v w → decode v = decode w) : Agrees decode :=
  fun _ _ hsame _ _ => congrArg Except.toOption (h hsame)

private theorem decodeSigner_agrees (account : String) {ms ks : List Member}
    (h : SameObject ms ks)
    (hms : MembersEveryMember (fun m => m.IsSourced ∧ IsPlainSigner m) ms)
    (hks : MembersEveryMember (fun m => m.IsSourced ∧ IsPlainSigner m) ks) :
    (decodeSigner account ((lastMember? "isSigner" ms).map (·.source))).toOption =
      (decodeSigner account ((lastMember? "isSigner" ks).map (·.source))).toOption := by
  obtain ⟨hm, hk⟩ | ⟨m, k, hm, hk, hsame⟩ := h.lastMember? "isSigner"
  · rw [hm, hk]
  · obtain ⟨hmname, ⟨hmsource, hmplain⟩, -⟩ := hms.lastMember? hm
    obtain ⟨hkname, ⟨hksource, hkplain⟩, -⟩ := hks.lastMember? hk
    rw [hm, hk, Option.map_some, Option.map_some,
      decodeSigner_source account hmsource (hmplain hmname),
      decodeSigner_source account hksource (hkplain hkname), signerOf?_eq hsame]

private theorem decodeInstructionAccount_agrees : Agrees decodeInstructionAccount := by
  intro v w h hv hw
  obtain ⟨ms, ks, hms, hks, h⟩ | ⟨hverr, hwerr⟩ := sameValue_membersOf h
  · have hsigner (account : String) :=
      decodeSigner_agrees account h (hv.membersOf hms) (hw.membersOf hks)
    simp only [decodeInstructionAccount, hms, hks, Decoded.ok_bind, requireShape_eq h,
      Decoded.toOption_bind, Decoded.toOption_inside, hsigner, h.textOf_eq, h.textsOf_eq,
      h.flagOf_eq, decodeValue?_eq _ _ (h.lastValue "defaultValue")]
  · rw [decodeInstructionAccount, decodeInstructionAccount, hverr, hwerr]

mutual

private theorem decodeInstruction_agrees (v w : Value) (h : SameValue v w) (hv : IsLegible v)
    (hw : IsLegible w) : (decodeInstruction v).toOption = (decodeInstruction w).toOption :=
  match v, w, h with
  | .object ms, .object ks, .object hmembers horder => by
    have h : SameObject ms ks := ⟨_, hmembers, horder⟩
    have hlistv (field : String) : ∀ v ∈ listOf field ms, IsLegible v :=
      MembersEveryMember.listOf hv field
    have hlistw (field : String) : ∀ w ∈ listOf field ks, IsLegible w :=
      MembersEveryMember.listOf hw field
    have haccounts (name : String) := decodeItems_agrees decodeInstructionAccount_agrees
      (.ofInstruction name "accounts") 0 (h.listOf "accounts") (hlistv _) (hlistw _)
    have harguments (name : String) := decodeItems_agrees (agrees_of_eq decodeArgument_eq)
      (.ofInstruction name "arguments") 0 (h.listOf "arguments") (hlistv _) (hlistw _)
    have hsubs (name : String) := decodeInstructions_agrees name 0 _ _
      (h.listOf "subInstructions") (hlistv _) (hlistw _)
    simp only [decodeInstruction, requireShape_eq h, Decoded.toOption_bind, haccounts, harguments,
      hsubs, h.textOf_eq, h.textsOf_eq, h.flagOf_eq]
  | .array _, .array _, .array _ => by simp only [decodeInstruction]
  | .null, .null, .null => rfl
  | .bool _, .bool _, .bool _ => rfl
  | .number _, .number _, .number _ => rfl
  | .string _, .string _, .string _ => rfl
termination_by sizeOf v
decreasing_by exact sizeOf_listOf_lt _ _

private theorem decodeInstructions_agrees (parent : String) (index : Nat) (vs ws : List Value)
    (h : SameItems vs ws) (hv : ∀ v ∈ vs, IsLegible v) (hw : ∀ w ∈ ws, IsLegible w) :
    (decodeInstructions parent index vs).toOption =
      (decodeInstructions parent index ws).toOption :=
  match vs, ws, h with
  | [], [], .nil => rfl
  | v :: vs, w :: ws, .cons hitem hrest => by
    rw [List.forall_mem_cons] at hv hw
    have hitem := decodeInstruction_agrees v w hitem hv.1 hw.1
    have hrest := decodeInstructions_agrees parent (index + 1) vs ws hrest hv.2 hw.2
    simp only [decodeInstructions, Decoded.toOption_bind, Decoded.toOption_inside, hitem, hrest]
termination_by sizeOf vs
decreasing_by all_goals simp only [List.cons.sizeOf_spec]; omega

end

private theorem decodeProgram_agrees : Agrees decodeProgram := by
  intro v w h hv hw
  obtain ⟨ms, ks, hms, hks, h⟩ | ⟨hverr, hwerr⟩ := sameValue_membersOf h
  · have hlistv := (hv.membersOf hms).listOf
    have hlistw := (hw.membersOf hks).listOf
    have haccounts (name : String) := decodeItems_agrees (agrees_of_eq decodeAccount_eq)
      (.ofProgram name "accounts") 0 (h.listOf "accounts") (hlistv _) (hlistw _)
    have hinstructions (name : String) := decodeItems_agrees decodeInstruction_agrees
      (.ofProgram name "instructions") 0 (h.listOf "instructions") (hlistv _) (hlistw _)
    have htypes (name : String) := decodeItems_agrees (agrees_of_eq decodeDefinedType_eq)
      (.ofProgram name "definedTypes") 0 (h.listOf "definedTypes") (hlistv _) (hlistw _)
    have hpdas (name : String) := decodeItems_agrees (agrees_of_eq decodePda_eq)
      (.ofProgram name "pdas") 0 (h.listOf "pdas") (hlistv _) (hlistw _)
    have herrors (name : String) := decodeItems_agrees (agrees_of_eq decodeError_eq)
      (.ofProgram name "errors") 0 (h.listOf "errors") (hlistv _) (hlistw _)
    simp only [decodeProgram, hms, hks, Decoded.inside_ok, Decoded.ok_bind, requireShape_eq h,
      Decoded.toOption_bind, Decoded.toOption_inside, h.textOf_eq, h.textsOf_eq, h.flagOf_eq,
      apply_ite Except.toOption, haccounts, hinstructions, htypes, hpdas, herrors]
  · rw [decodeProgram, decodeProgram, hverr, hwerr]

private theorem decodeRoot_agrees : Agrees decodeRoot := by
  intro v w h hv hw
  obtain ⟨ms, ks, hms, hks, h⟩ | ⟨hverr, hwerr⟩ := sameValue_membersOf h
  · have hlegv := hv.membersOf hms
    have hlegw := hw.membersOf hks
    have hadditional := decodeItems_agrees decodeProgram_agrees .additionalProgram 0
      (h.listOf "additionalPrograms") (hlegv.listOf _) (hlegw.listOf _)
    simp only [decodeRoot, hms, hks, Decoded.inside_ok, Decoded.ok_bind, requireShape_eq h,
      Decoded.toOption_bind, Decoded.toOption_inside, h.textOf_eq, apply_ite Except.toOption]
    obtain ⟨hm, hk⟩ | ⟨m, k, hm, hk, hsame⟩ := h.lastMember? "program"
    · rw [hm, hk]
    · have hprogram := decodeProgram_agrees _ _ hsame (hlegv.lastMember? hm).2.2
        (hlegw.lastMember? hk).2.2
      simp only [hm, hk, Decoded.toOption_bind, hprogram, hadditional]
  · rw [decodeRoot, decodeRoot, hverr, hwerr]

/-- Two texts of the same value are decoded to the same document or both refused, if no signer is
spelled with escapes. -/
theorem decodeRootText_eq_of_sameValue {first second : String} {v w : Value}
    (hfirst : Denotes first v) (hsecond : Denotes second w) (hsame : SameValue v w)
    (hv : v.EveryMember IsPlainSigner) (hw : w.EveryMember IsPlainSigner) :
    (decodeRootText first).toOption = (decodeRootText second).toOption := by
  have hroot := decodeRoot_agrees v w hsame (everyMember_and v hfirst.everyMember_isSourced hv)
    (everyMember_and w hsecond.everyMember_isSourced hw)
  rw [decodeRootText_of_denotes hfirst, decodeRootText_of_denotes hsecond, hsame.nesting_eq]
  split
  · exact hroot
  · rfl

/-! ### Spellings of a document -/

/-- A text without escapes; characters that need one are left out. -/
def plainPieces (text : String) : List Piece :=
  text.toList.filterMap fun c =>
    if h : c ≠ '"' ∧ c ≠ '\\' ∧ 0x20 ≤ c.toNat then some (.plain c h) else none

/-- The unit that names a character below 256. -/
def unitPiece (high low : Fin 16) : Piece :=
  .unit ⟨⟨0, false⟩, ⟨0, false⟩, ⟨high, false⟩, ⟨low, false⟩⟩

/-- A program with one instruction on one account, of which it says who signs. -/
def signerProgram (signer : List Piece) : Spelling :=
  let account := .object (.last [] (plainPieces "isSigner") [] [] (.string signer) [])
  let instruction :=
    .object (.last [] (plainPieces "accounts") [] [] (.array (.last [] account [])) [])
  .object (.next [] (plainPieces "kind") [] [] (.string (plainPieces "programNode")) []
    (.last [] (plainPieces "instructions") [] [] (.array (.last [] instruction [])) []))

def signerDocument (signer : List Piece) : Spelling :=
  .object (.next [] (plainPieces "kind") [] [] (.string (plainPieces "rootNode")) []
    (.last [] (plainPieces "program") [] [] (signerProgram signer) []))

/-- The same document with blanks, an escape in a name and the program in front. -/
def looseDocument (signer : List Piece) : Spelling :=
  .object (.next [.newline, .tab] (plainPieces "program") [] [.space] (signerProgram signer) []
    (.last [.newline] (unitPiece 6 11 :: plainPieces "ind") [.space] [.space]
      (.string (plainPieces "rootNode")) [.carriageReturn]))

private theorem sameValue_signerProgram {p q : List Piece} (h : piecesChars p = piecesChars q) :
    SameValue (signerProgram p).value (signerProgram q).value := by
  have hsigner : SameValue (Spelling.string p).value (Spelling.string q).value := by
    rw [Spelling.value, Spelling.value, h]
    exact .string _
  refine .object (.cons _ _ _ (.string _) (.cons _ _ _ (.array (.cons ?_ .nil)) .nil)) (.refl _)
  refine .object (.cons _ _ _ (.array (.cons ?_ .nil)) .nil) (.refl _)
  exact .object (.cons _ _ _ hsigner .nil) (.refl _)

private theorem denotes_text (s : Spelling) : Denotes (String.ofList s.text) s.value :=
  ⟨[], s, [], by simp [blankText], rfl⟩

private theorem signerDocument_isPlain :
    (signerDocument (plainPieces "either")).value.EveryMember IsPlainSigner ∧
      (looseDocument (plainPieces "either")).value.EveryMember IsPlainSigner := by
  have hplain : String.ofList (Spelling.string (plainPieces "either")).text = "\"either\"" := by
    decide
  have hkind : sameName "isSigner" (String.ofList (piecesChars (plainPieces "kind"))) = false := by
    decide
  have hescaped : sameName "isSigner"
      (String.ofList (piecesChars (unitPiece 6 11 :: plainPieces "ind"))) = false := by
    decide
  simp [signerDocument, looseDocument, signerProgram, Spelling.value, SpelledMembers.members,
    SpelledItems.values, Value.EveryMember, MembersEveryMember, ItemsEveryMember, IsPlainSigner,
    hplain, hkind, hescaped]

private theorem sameValue_looseDocument :
    SameValue (signerDocument (plainPieces "either")).value
      (looseDocument (plainPieces "either")).value := by
  have hname : String.ofList (piecesChars (unitPiece 6 11 :: plainPieces "ind")) =
      String.ofList (piecesChars (plainPieces "kind")) := by
    decide
  rw [looseDocument, Spelling.value, SpelledMembers.members, SpelledMembers.members, hname]
  exact .object (.cons _ _ _ (.string _) (.cons _ _ _ (sameValue_signerProgram rfl) .nil))
    (.of_perm (.swap _ _ _) (by simp; decide))

/-- Blanks, the order of members and escapes in a name change nothing. -/
theorem decodeRootText_eq_of_sameValue_looseDocument :
    (decodeRootText (String.ofList (signerDocument (plainPieces "either")).text)).toOption =
      (decodeRootText (String.ofList (looseDocument (plainPieces "either")).text)).toOption :=
  decodeRootText_eq_of_sameValue (denotes_text _) (denotes_text _) sameValue_looseDocument
    signerDocument_isPlain.1 signerDocument_isPlain.2

/-- The word for either is not recognized with an escape in it. -/
theorem escaped_signer_is_refused :
    ∃ first second v w, Denotes first v ∧ Denotes second w ∧ SameValue v w ∧
      (decodeRootText first).toOption.isSome = true ∧ (decodeRootText second).toOption = none := by
  have hchars : piecesChars (plainPieces "either") =
      piecesChars (unitPiece 6 5 :: plainPieces "ither") := by
    decide
  have hsame : SameValue (signerDocument (plainPieces "either")).value
      (signerDocument (unitPiece 6 5 :: plainPieces "ither")).value :=
    .object (.cons _ _ _ (.string _) (.cons _ _ _ (sameValue_signerProgram hchars) .nil)) (.refl _)
  refine ⟨_, _, _, _, denotes_text _, denotes_text _, hsame, ?_, ?_⟩
  · rw [decodeRootText_of_denotes (denotes_text _)]
    decide +kernel
  · rw [decodeRootText_of_denotes (denotes_text _)]
    decide +kernel

end ClientGen.Idl
