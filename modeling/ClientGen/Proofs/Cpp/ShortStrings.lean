import Mathlib.Data.List.Forall2
import ClientGen.Proofs.Cpp.Headers
import ClientGen.Proofs.Cpp.Writable
/-!
# Short strings

A string is written as a value of the dialect, or short as a bare literal. The choice decides
neither whether a value can be written nor anything else of its text, and a short value needs the
headers of the long one in the same order, without the header of strings. That header stays only
where something else asks for the same path: the header of the module, if the module is named so.
-/
namespace ClientGen.Cpp

open ClientGen.Idl

/-- Texts that differ at most in strings that the second one puts into the constructor of its
dialect. -/
inductive Respells (flavor : Flavor) : String → String → Prop
  | same (text : String) : Respells flavor text text
  | string (text : String) :
    Respells flavor (Text.quoted text) (flavor.stringLiteral.apply (Text.quoted text))
  | append {first first' second second' : String} (h : Respells flavor first first')
    (h' : Respells flavor second second') : Respells flavor (first ++ second) (first' ++ second')

/-- Outcomes of two runs: related results, or the same error. -/
inductive Generated.Matches {α : Type} (rel : α → α → Prop) : Generated α → Generated α → Prop
  | ok {a b : α} (h : rel a b) : Generated.Matches rel (.ok a) (.ok b)
  | error (e : Error) : Generated.Matches rel (.error e) (.error e)

theorem Generated.Matches.bind {α β : Type} {rel : α → α → Prop} {rel' : β → β → Prop}
    {x y : Generated α} {f g : α → Generated β} (h : Generated.Matches rel x y)
    (hf : ∀ a b, rel a b → Generated.Matches rel' (f a) (g b)) :
    Generated.Matches rel' (x >>= f) (y >>= g) := by
  cases h with
  | ok h => exact hf _ _ h
  | error e => exact .error e

theorem Generated.Matches.refl {α : Type} {rel : α → α → Prop} (hrel : ∀ a, rel a a)
    (x : Generated α) : Generated.Matches rel x x := by
  cases x with
  | ok a => exact .ok (hrel a)
  | error e => exact .error e

section

variable {target : Target}

theorem Respells.around {flavor : Flavor} {first second : String} (h : Respells flavor first second)
    (before after : String) :
    Respells flavor (before ++ first ++ after) (before ++ second ++ after) :=
  ((same before).append h).append (same after)

theorem Respells.intercalate {flavor : Flavor} (sep : String) {texts texts' : List String}
    (h : List.Forall₂ (Respells flavor) texts texts') :
    Respells flavor (String.intercalate sep texts) (String.intercalate sep texts') := by
  induction h with
  | nil => exact .same _
  | cons hfirst hrest ih =>
    cases hrest with
    | nil => simpa using hfirst
    | cons =>
      rw [String.intercalate_cons_cons, String.intercalate_cons_cons]
      exact (hfirst.append (.same sep)).append ih

/-- Sets that list the same headers in the same order, but for the header of strings. -/
def SameBesideStrings (target : Target) (set set' : IncludeSet) : Prop :=
  set.erase target.flavor.string.header = set'.erase target.flavor.string.header

theorem SameBesideStrings.add {set set' : IncludeSet} (h : SameBesideStrings target set set')
    (path : String) : SameBesideStrings target (set.add path) (set'.add path) := by
  unfold SameBesideStrings at h ⊢
  rw [IncludeSet.erase_add, IncludeSet.erase_add, h]

theorem SameBesideStrings.merge {set set' other other' : IncludeSet}
    (h : SameBesideStrings target set set') (hother : SameBesideStrings target other other') :
    SameBesideStrings target (set.merge other) (set'.merge other') := by
  unfold SameBesideStrings at h hother ⊢
  rw [IncludeSet.erase_merge, IncludeSet.erase_merge, h, hother]

/-- A short literal against the long one of the same value. -/
structure Literal.Shortens (target : Target) (short long : Literal) : Prop where
  text : Respells target.flavor short.text long.text
  includes : SameBesideStrings target short.includes long.includes

theorem Literal.Shortens.refl (l : Literal) : l.Shortens target l := ⟨.same _, rfl⟩

/-- The texts and headers of short literals against those of long ones. -/
structure ShortensAll (target : Target) (short long : List String × IncludeSet) : Prop where
  texts : List.Forall₂ (Respells target.flavor) short.1 long.1
  includes : SameBesideStrings target short.2 long.2

theorem ShortensAll.cons {first first' : Literal} {rest rest' : List String × IncludeSet}
    (hfirst : first.Shortens target first') (hrest : ShortensAll target rest rest') :
    ShortensAll target (first.text :: rest.1, rest.2) (first'.text :: rest'.1, rest'.2) :=
  ⟨.cons hfirst.text hrest.texts, hrest.includes⟩

theorem stringLiteral_shortens (text : String) :
    (stringLiteral target true text).Shortens target (stringLiteral target false text) := by
  refine ⟨.string text, ?_⟩
  change IncludeSet.empty.erase _ = (IncludeSet.empty.add target.flavor.string.header).erase _
  rw [IncludeSet.erase_add, if_pos rfl]

theorem variantLiteral_shortens (link variant : String) {short long : Literal}
    (h : short.Shortens target long) :
    (variantLiteral target link variant (some short)).Shortens target
      (variantLiteral target link variant (some long)) := by
  refine ⟨.append (.same _) h.text, ?_⟩
  have hlink : SameBesideStrings target (IncludeSet.ofPaths [target.typeHeader link]) _ := rfl
  exact hlink.merge h.includes

mutual

/-- Both forms of a value fail alike, or differ in the spelling of strings and their header. -/
theorem literal_matches : ∀ value : ValueNode,
    Generated.Matches (Literal.Shortens target) (literal target true value)
      (literal target false value)
  | .number _ => .ok (.refl _)
  | .boolean _ => .ok (.refl _)
  | .string text => .ok (stringLiteral_shortens text)
  | .bytes data encoding => .refl .refl (bytesLiteral encoding data)
  | .array items => by
    rw [literal, literal]
    apply (literals_match items rfl).bind
    rintro ⟨texts, includes⟩ ⟨texts', includes'⟩ ⟨htexts, hincludes⟩
    exact .ok ⟨(Respells.intercalate _ htexts).around _ _, hincludes⟩
  | .tuple items => by
    rw [literal, literal]
    apply (literals_match items rfl).bind
    rintro ⟨texts, includes⟩ ⟨texts', includes'⟩ ⟨htexts, hincludes⟩
    exact .ok ⟨(Respells.intercalate _ htexts).around _ _, hincludes.add _⟩
  | .struct fields => by
    rw [literal, literal]
    apply (fieldLiterals_match fields rfl).bind
    rintro ⟨texts, includes⟩ ⟨texts', includes'⟩ ⟨htexts, hincludes⟩
    -- Both forms are braces alone if there is no field, and have a body otherwise.
    cases htexts with
    | nil => exact .ok ⟨.same _, hincludes⟩
    | cons hfirst hrest =>
      exact .ok ⟨(Respells.intercalate _ (.cons hfirst hrest)).around _ _, hincludes⟩
  | .field node => fieldLiteral_matches node
  | .enum none _ _ => .error _
  | .enum (some _) _ none => .ok (.refl _)
  | .enum (some link) variant (some payload) => by
    rw [literal, literal, payloadLiteral, payloadLiteral, bind_assoc, bind_assoc]
    apply (literal_matches payload).bind
    intro short long h
    exact .ok (variantLiteral_shortens link variant h)
  | .present value => by
    rw [literal, literal]
    apply (literal_matches value).bind
    intro short long h
    exact .ok ⟨h.text.around _ _, h.includes.add _⟩
  | .publicKey key _ => .refl .refl (publicKeyLiteral target key)
  | .constant type value => .refl .refl (constantLiteral target type value)
  | .map _ => .error _
  | .entry _ => .error _
  | .set _ => .error _
  | .absent => .error _
  | .placeholder _ _ => .error _

theorem literals_match {includes includes' : IncludeSet} : ∀ items : List ValueNode,
    SameBesideStrings target includes includes' →
      Generated.Matches (ShortensAll target) (literals target true includes items)
        (literals target false includes' items)
  | [], h => .ok ⟨.nil, h⟩
  | value :: rest, h => by
    rw [literals, literals]
    apply (literal_matches value).bind
    intro first first' hfirst
    apply (literals_match rest (h.merge hfirst.includes)).bind
    intro more more' hmore
    exact .ok (hmore.cons hfirst)

theorem fieldLiteral_matches : ∀ node : ValueFieldNode,
    Generated.Matches (Literal.Shortens target) (fieldLiteral target true node)
      (fieldLiteral target false node)
  | ⟨name, value⟩ => by
    rw [fieldLiteral, fieldLiteral]
    apply (literal_matches value).bind
    intro short long h
    exact .ok ⟨.append (.same _) h.text, h.includes⟩

theorem fieldLiterals_match {includes includes' : IncludeSet} : ∀ fields : List ValueFieldNode,
    SameBesideStrings target includes includes' →
      Generated.Matches (ShortensAll target) (fieldLiterals target true includes fields)
        (fieldLiterals target false includes' fields)
  | [], h => .ok ⟨.nil, h⟩
  | node :: rest, h => by
    rw [fieldLiterals, fieldLiterals]
    apply (fieldLiteral_matches node).bind
    intro first first' hfirst
    apply (fieldLiterals_match rest (h.merge hfirst.includes)).bind
    intro more more' hmore
    exact .ok (hmore.cons hfirst)

end

/-! ### Values without strings -/

/-- No string stands among the nodes. What a constant holds is no node of its own. -/
def HasNoString (nodes : List ValueNode) : Prop := ∀ text, ValueNode.string text ∉ nodes

theorem hasNoString_append {nodes more : List ValueNode} :
    HasNoString (nodes ++ more) ↔ HasNoString nodes ∧ HasNoString more := by
  simp [HasNoString, forall_and]

theorem HasNoString.of_cons {node : ValueNode} {nodes : List ValueNode}
    (h : HasNoString (node :: nodes)) : HasNoString nodes :=
  fun text hmem => h text (List.mem_cons_of_mem _ hmem)

mutual

/-- Without strings there is nothing that the choice could change. -/
theorem literal_eq_of_hasNoString : ∀ value : ValueNode, HasNoString (writtenNodes value) →
    literal target true value = literal target false value
  | .string text, h => absurd (List.mem_singleton_self _) (h text)
  | .array items, h => by
    rw [literal, literal, literals_eq_of_hasNoString _ items h.of_cons]
  | .tuple items, h => by
    rw [literal, literal, literals_eq_of_hasNoString _ items h.of_cons]
  | .struct fields, h => by
    rw [literal, literal, fieldLiterals_eq_of_hasNoString _ fields h.of_cons]
  | .field node, h => fieldLiteral_eq_of_hasNoString node h
  | .enum none _ _, _ => rfl
  | .enum (some _) _ none, _ => rfl
  | .enum (some _) _ (some payload), h => by
    rw [literal, literal, payloadLiteral, payloadLiteral,
      literal_eq_of_hasNoString payload h.of_cons]
  | .present value, h => by
    rw [literal, literal, literal_eq_of_hasNoString value h.of_cons]
  | .number _, _ | .boolean _, _ | .bytes _ _, _ | .publicKey _ _, _ | .constant _ _, _
  | .map _, _ | .entry _, _ | .set _, _ | .absent, _ | .placeholder _ _, _ => rfl

theorem literals_eq_of_hasNoString (includes : IncludeSet) : ∀ items : List ValueNode,
    HasNoString (writtenItems items) →
      literals target true includes items = literals target false includes items
  | [], _ => rfl
  | value :: rest, h => by
    obtain ⟨hvalue, hrest⟩ := hasNoString_append.mp h
    rw [literals, literals, literal_eq_of_hasNoString value hvalue]
    congr 1
    funext first
    rw [literals_eq_of_hasNoString _ rest hrest]

theorem fieldLiteral_eq_of_hasNoString : ∀ node : ValueFieldNode,
    HasNoString (writtenField node) →
      fieldLiteral target true node = fieldLiteral target false node
  | ⟨name, value⟩, h => by
    rw [fieldLiteral, fieldLiteral, literal_eq_of_hasNoString value h.of_cons]

theorem fieldLiterals_eq_of_hasNoString (includes : IncludeSet) : ∀ fields : List ValueFieldNode,
    HasNoString (writtenFields fields) →
      fieldLiterals target true includes fields = fieldLiterals target false includes fields
  | [], _ => rfl
  | node :: rest, h => by
    obtain ⟨hnode, hrest⟩ := hasNoString_append.mp h
    rw [fieldLiterals, fieldLiterals, fieldLiteral_eq_of_hasNoString node hnode]
    congr 1
    funext first
    rw [fieldLiterals_eq_of_hasNoString _ rest hrest]

end

/-! ### The header of strings -/

/-- Whether the header of strings is that of the module as well, and a value asks for the latter
through the bytes of a number. -/
def KeepsStringHeader (target : Target) (value : ValueNode) : Prop :=
  target.moduleHeader = target.flavor.string.header ∧ Construct.byteHelper ∈ valueConstructs value

/-- The header of strings has no directory, so it declares no defined type. -/
theorem typeHeader_ne_stringHeader (hflavor : target.flavor ∈ Flavor.all) (name : String) :
    target.typeHeader name ≠ target.flavor.string.header := by
  have hall : ∀ flavor ∈ Flavor.all, '/' ∉ flavor.string.header.toList := by decide
  intro heq
  apply hall _ hflavor
  rw [← heq]
  simp [Target.typeHeader]

/-- No construct but strings and the helper of the module can need the header of strings. -/
theorem stringHeader_mem_headers_iff (hflavor : target.flavor ∈ Flavor.all) {c : Construct}
    (hc : c ≠ .string) :
    target.flavor.string.header ∈ c.headers target ↔
      c = .byteHelper ∧ target.moduleHeader = target.flavor.string.header := by
  have hall : ∀ flavor ∈ Flavor.all, flavor.string.header ∉ flavor.numberHeader.toList ++
      [flavor.publicKey.header, flavor.sequence.header, flavor.fixedArray.header,
        flavor.optional.header, flavor.tuple.header] := by decide
  have hothers := hall _ hflavor
  simp only [List.mem_append, List.mem_cons, List.not_mem_nil, not_or] at hothers
  cases c with
  | string => exact absurd rfl hc
  | link name =>
    have hne := typeHeader_ne_stringHeader hflavor name
    simp [Construct.headers, Ne.symm hne]
  | byteHelper => simp [Construct.headers, eq_comm]
  | _ => simp [Construct.headers, hothers]

theorem stringHeader_mem_short_iff (hflavor : target.flavor ∈ Flavor.all) {value : ValueNode}
    {short : Literal} (h : literal target true value = .ok short) :
    target.flavor.string.header ∈ short.includes.paths ↔ KeepsStringHeader target value := by
  -- The headers of a short literal are those of its constructs, strings left out.
  have hlists := (literal_needs_written true value).of_ok short h
  rw [hlists.mem_iff, headersOf, List.mem_flatMap]
  constructor
  · rintro ⟨c, hmem, hheader⟩
    obtain ⟨hused, hc⟩ := List.mem_filter.mp hmem
    obtain ⟨rfl, hmodule⟩ :=
      (stringHeader_mem_headers_iff hflavor (by simpa using hc)).mp hheader
    exact ⟨hmodule, hused⟩
  · rintro ⟨hmodule, hused⟩
    have hhelper : Construct.byteHelper ≠ .string := by decide
    refine ⟨.byteHelper, List.mem_filter.mpr ⟨hused, rfl⟩, ?_⟩
    exact (stringHeader_mem_headers_iff hflavor hhelper).mpr ⟨rfl, hmodule⟩

/-- The headers of a short literal against those of the long one. -/
structure LosesStringHeader (target : Target) (value : ValueNode) (short long : IncludeSet) :
    Prop where
  others : short.erase target.flavor.string.header = long.erase target.flavor.string.header
  kept_iff : target.flavor.string.header ∈ short.paths ↔ KeepsStringHeader target value
  erased : ¬ KeepsStringHeader target value → short = long.erase target.flavor.string.header

/-- Writing strings short fails exactly where writing them long does, changes nothing but how
strings are spelled, takes the header of strings out and keeps the order of the others. The header
stays where the value asks for the module's own header by the same path. Without strings nothing
changes. -/
theorem short_literal_respells_strings (target : Target) (hflavor : target.flavor ∈ Flavor.all)
    (value : ValueNode) :
    Generated.Matches (fun short long =>
        Respells target.flavor short.text long.text ∧
          LosesStringHeader target value short.includes long.includes)
      (literal target true value) (literal target false value) ∧
    (HasNoString (writtenNodes value) →
      literal target true value = literal target false value) := by
  refine ⟨?_, literal_eq_of_hasNoString value⟩
  have hmatches := @literal_matches target value
  generalize hshort : literal target true value = x at hmatches ⊢
  generalize literal target false value = y at hmatches ⊢
  cases hmatches with
  | error e => exact .error e
  | ok h =>
    have hkept := stringHeader_mem_short_iff hflavor hshort
    refine .ok ⟨h.text, h.includes, hkept, ?_⟩
    intro hlost
    rw [← h.includes, IncludeSet.erase_of_not_mem (mt hkept.mp hlost)]

end

/-- A pair that loses the header of strings and keeps the others in their order. -/
theorem short_literal_respells_strings_pair :
    let pair : ValueNode := .tuple [.string "a", .present (.boolean true)]
    ∃ short long,
      literal ⟨.stl20, "Vault"⟩ true pair = .ok short ∧
      literal ⟨.stl20, "Vault"⟩ false pair = .ok long ∧
      short.includes = long.includes.erase "string" ∧
      long.includes.paths = ["string", "optional", "tuple"] := by
  intro pair
  have hflavor : Flavor.stl20 ∈ Flavor.all := List.mem_cons_self
  have hmatches := (short_literal_respells_strings ⟨.stl20, "Vault"⟩ hflavor pair).1
  refine ⟨_, _, rfl, rfl, ?_, by decide⟩
  cases hmatches with
  | ok h =>
    apply h.2.erased
    rintro ⟨hmodule, -⟩
    revert hmodule
    decide

/-- In a module that is named like the header of strings, a short string next to the bytes of a
number does not take that header out. -/
theorem short_literal_keeps_header_of_module :
    let pair : ValueNode := .tuple [.string "a", .constant (.number ⟨"u8", "le"⟩) (.number "5")]
    ∃ short long,
      literal ⟨.unreal5, "CoreMinimal"⟩ true pair = .ok short ∧
      literal ⟨.unreal5, "CoreMinimal"⟩ false pair = .ok long ∧
      short.includes.paths = ["CoreMinimal.h", "Templates/Tuple.h"] ∧
      short.includes ≠ long.includes.erase Flavor.unreal5.string.header := by
  intro pair
  refine ⟨_, _, rfl, rfl, by decide, ?_⟩
  intro heq
  have hpaths := congrArg IncludeSet.paths heq
  revert hpaths
  decide

end ClientGen.Cpp
