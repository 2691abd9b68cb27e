import ClientGen.Idl.DecodeRoot
import ClientGen.Proofs.Idl.CompactForm
import ClientGen.Proofs.Idl.NodeRoundTrip
/-!
# Decoding the canonical form

Decoding undoes writing: a document that can be expressed is decoded from its canonical text as it
was. The one limit is the depth to which JSON may nest, and a document beyond it is refused.
-/
namespace ClientGen.Idl

open ClientGen.Json

/-! ### Programs -/

private theorem decodeItems_map {α : Type} (place : Nat → Place) {decode : Value → Decoded α}
    {encode : α → Value} (items : List α) (index : Nat)
    (h : ∀ a ∈ items, decode (encode a) = .ok a) :
    decodeItems place decode index (items.map encode) = .ok items := by
  induction items generalizing index with
  | nil => rfl
  | cons item rest ih =>
    have hitem := h item List.mem_cons_self
    have hrest := ih (index + 1) fun a ha => h a (List.mem_cons_of_mem _ ha)
    rw [List.map_cons, decodeItems, hitem, hrest]
    rfl

private theorem shape_then {α : Type} {shape : RecordShape} {fields : List (Key × Value)}
    {next : Unit → Decoded α} {result : Decoded α} (types : List (Key × FieldType))
    (hshape : shape = shapeOf types)
    (h : (fields.all fun f => (types.lookup f.1).all (·.accepts f.2)) = true)
    (hnext : next () = result) : (requireShape shape (record fields) >>= next) = result := by
  rw [hshape, requireShape_record types h, Decoded.ok_bind, hnext]

private theorem decodeSeed_canonical (pda : String) (index : Nat) {seed : SeedNode}
    (h : seed.isExpressible = true) : decodeSeed pda index seed.canonical = .ok seed := by
  cases seed with
  | constant type value =>
    simp only [SeedNode.isExpressible, Bool.and_eq_true] at h
    have htype := decodeType_canonical type h.1
    have hvalue := decodeValue_canonical value h.2
    simp only [SeedNode.canonical, node, decodeSeed, membersOf, Decoded.inside_ok,
      Decoded.ok_bind]
    rw [kindOf_record (by decide) rfl, Decoded.inside_ok, Decoded.ok_bind]
    refine shape_then [(.name, .text), (.docs, .texts), (.type, .any), (.value, .any)] rfl rfl ?_
    simp [lastValue_record .type, lastValue_record .value, htype, hvalue]
  | «variable» name docs type =>
    have htype := decodeType_canonical type h
    simp only [SeedNode.canonical, node, decodeSeed, membersOf, Decoded.inside_ok,
      Decoded.ok_bind]
    rw [kindOf_record (by decide) rfl, Decoded.inside_ok, Decoded.ok_bind]
    refine shape_then [(.name, .text), (.docs, .texts), (.type, .any), (.value, .any)] rfl
      (all_cons rfl <| all_cons rfl <| all_cons (accepts_textsValue docs) rfl) ?_
    simp [lastValue_record .type, htype, textOf_record .name, textsOf_record .docs]

private theorem decodeSeeds_canonical (pda : String) (index : Nat) {seeds : List SeedNode}
    (h : seeds.all (·.isExpressible) = true) :
    decodeSeeds pda index (seeds.map (·.canonical)) = .ok seeds := by
  induction seeds generalizing index with
  | nil => rfl
  | cons seed rest ih =>
    rw [List.all_cons, Bool.and_eq_true] at h
    rw [List.map_cons, decodeSeeds, decodeSeed_canonical pda index h.1, ih (index + 1) h.2]
    rfl

private theorem decodePda_canonical {pda : PdaNode} (h : pda.isExpressible = true) :
    decodePda pda.canonical = .ok pda := by
  obtain ⟨name, docs, seeds⟩ := pda
  simp only [PdaNode.canonical, node, decodePda, membersOf, Decoded.ok_bind]
  refine shape_then [(.name, .text), (.docs, .texts), (.seeds, .list)] rfl
    (all_cons rfl <| all_cons rfl <| all_cons (accepts_textsValue docs) rfl) ?_
  simp [textOf_record .name, textsOf_record .docs, listOf_record .seeds,
    decodeSeeds_canonical name 0 h]

private theorem linkOf_linkValue? (link : Option String) (fields : List (Key × Value))
    (h : fieldValues .pda fields = [linkValue? "pdaLinkNode" link]) :
    linkOf "pda" (record fields) = link := by
  have hname (name : String) :
      textOf "name" (record [(.kind, .string "pdaLinkNode"), (.name, .string name)]) = name := by
    simp [textOf_record .name]
  rw [linkOf_record .pda, h]
  cases link with
  | none => rfl
  | some name => exact congrArg some (hname name)

private theorem accepts_linkValue? (kind : String) (link : Option String) :
    FieldType.accepts .link (linkValue? kind link) = true := by
  cases link with
  | none => rfl
  | some name => simp [linkValue?, node, record, FieldType.accepts, Member.of, isTextOrNull]

private theorem decodeAccount_canonical {a : AccountNode} (h : a.isExpressible = true) :
    decodeAccount a.canonical = .ok a := by
  obtain ⟨name, docs, data, pda, size, isInternal⟩ := a
  simp only [AccountNode.isExpressible, Bool.and_eq_true] at h
  have hdata := decodeType_canonical data h.1
  simp only [AccountNode.canonical, node, decodeAccount, membersOf, Decoded.ok_bind]
  refine shape_then [(.name, .text), (.docs, .texts), (.data, .any), (.pda, .link), (.size, .int),
    (.internal, .flag)] rfl (all_cons rfl <| all_cons rfl <| all_cons (accepts_textsValue docs) <|
      all_cons rfl <| all_cons (accepts_linkValue? _ pda) <|
        all_cons (accepts_intValue? h.2) rfl) ?_
  simp [textOf_record .name, textsOf_record .docs, lastValue_record .data, hdata,
    linkOf_linkValue? pda, intOf?_record .size, integer?_intValue? h.2, flagOf_record .internal]

private theorem decodeSigner_canonical (name : String) (signer : Signer) :
    decodeSigner name (some signer.canonical.compact) = .ok signer := by
  have hnever : Signer.never.canonical.compact = "false" := rfl
  have halways : Signer.always.canonical.compact = "true" := rfl
  have heither : Signer.either.canonical.compact = "\"either\"" := by decide
  cases signer with
  | never => simp [hnever, decodeSigner]
  | always => simp [halways, decodeSigner]
  | either => simp [heither, decodeSigner]

private theorem decodeInstructionAccount_canonical {a : InstructionAccountNode}
    (h : a.isExpressible = true) : decodeInstructionAccount a.canonical = .ok a := by
  obtain ⟨name, docs, isWritable, signer, isOptional, defaultValue⟩ := a
  have hvalue := decodeValue?_canonical defaultValue h
  simp only [InstructionAccountNode.canonical, node, decodeInstructionAccount, membersOf,
    Decoded.ok_bind]
  refine shape_then [(.name, .text), (.docs, .texts), (.isWritable, .flag), (.isSigner, .any),
    (.isOptional, .flag), (.defaultValue, .any)] rfl
      (all_cons rfl <| all_cons rfl <| all_cons (accepts_textsValue docs) rfl) ?_
  simp [textOf_record .name, textsOf_record .docs, flagOf_record .isWritable,
    lastMember?_record .isSigner, Member.of, decodeSigner_canonical, flagOf_record .isOptional,
    lastValue_record .defaultValue, hvalue]

private theorem decodeArgument_canonical {a : ArgumentNode} (h : a.isExpressible = true) :
    decodeArgument a.canonical = .ok a := by
  obtain ⟨name, docs, type, defaultValue, strategy⟩ := a
  simp only [ArgumentNode.isExpressible, Bool.and_eq_true] at h
  have htype := decodeType_canonical type h.1
  have hvalue := decodeValue?_canonical defaultValue h.2
  simp only [ArgumentNode.canonical, node, decodeArgument, membersOf, Decoded.ok_bind]
  refine shape_then [(.name, .text), (.docs, .texts), (.type, .any), (.defaultValue, .any),
    (.defaultValueStrategy, .text)] rfl
      (all_cons rfl <| all_cons rfl <| all_cons (accepts_textsValue docs) rfl) ?_
  simp [textOf_record .name, textsOf_record .docs, lastValue_record .type, htype,
    lastValue_record .defaultValue, hvalue, textOf_record .defaultValueStrategy]

mutual

private theorem decodeInstruction_canonical : ∀ ix : InstructionNode, ix.isExpressible = true →
    decodeInstruction ix.canonical = .ok ix
  | ⟨name, docs, accounts, arguments, subs, isInternal⟩, h => by
    simp only [InstructionNode.isExpressible, Bool.and_eq_true, List.all_eq_true] at h
    have haccounts := decodeItems_map (.ofInstruction name "accounts") accounts 0 fun a ha =>
      decodeInstructionAccount_canonical (h.1.1 a ha)
    have harguments := decodeItems_map (.ofInstruction name "arguments") arguments 0 fun a ha =>
      decodeArgument_canonical (h.1.2 a ha)
    have hsubs := decodeInstructions_canonical subs name 0 h.2
    simp only [InstructionNode.canonical, node, decodeInstruction]
    refine shape_then [(.name, .text), (.docs, .texts), (.accounts, .list), (.arguments, .list),
      (.subInstructions, .list), (.internal, .flag)] rfl
        (all_cons rfl <| all_cons rfl <| all_cons (accepts_textsValue docs) rfl) ?_
    simp [textOf_record .name, textsOf_record .docs, listOf_record .accounts, haccounts,
      listOf_record .arguments, harguments, listOf_record .subInstructions, hsubs,
      flagOf_record .internal]

private theorem decodeInstructions_canonical :
    ∀ (subs : List InstructionNode) (parent : String) (index : Nat),
      areExpressibleInstructions subs = true →
        decodeInstructions parent index (canonicalInstructions subs) = .ok subs
  | [], _, _, _ => by rw [canonicalInstructions, decodeInstructions]
  | ix :: rest, parent, index, h => by
    simp only [areExpressibleInstructions, Bool.and_eq_true] at h
    have hix := decodeInstruction_canonical ix h.1
    have hrest := decodeInstructions_canonical rest parent (index + 1) h.2
    rw [canonicalInstructions, decodeInstructions, hix, hrest]
    rfl

end

private theorem canonicalInstructions_eq_map (ixs : List InstructionNode) :
    canonicalInstructions ixs = ixs.map (·.canonical) := by
  induction ixs with
  | nil => rfl
  | cons ix rest ih => rw [canonicalInstructions, ih, List.map_cons]

private theorem isExpressible_of_mem {ixs : List InstructionNode}
    (h : areExpressibleInstructions ixs = true) : ∀ ix ∈ ixs, ix.isExpressible = true := by
  induction ixs with
  | nil => simp
  | cons ix rest ih =>
    simp only [areExpressibleInstructions, Bool.and_eq_true] at h
    exact List.forall_mem_cons.mpr ⟨h.1, ih h.2⟩

private theorem decodeDefinedType_canonical {d : DefinedTypeNode} (h : d.isExpressible = true) :
    decodeDefinedType d.canonical = .ok d := by
  obtain ⟨name, docs, type, isInternal⟩ := d
  have htype := decodeType_canonical type h
  simp only [DefinedTypeNode.canonical, node, decodeDefinedType, membersOf, Decoded.ok_bind]
  refine shape_then [(.name, .text), (.docs, .texts), (.type, .any), (.internal, .flag)] rfl
    (all_cons rfl <| all_cons rfl <| all_cons (accepts_textsValue docs) rfl) ?_
  simp [textOf_record .name, textsOf_record .docs, lastValue_record .type, htype,
    flagOf_record .internal]

private theorem decodeError_canonical {e : ErrorNode} (h : e.isExpressible = true) :
    decodeError e.canonical = .ok e := by
  obtain ⟨name, code, message, docs⟩ := e
  simp only [ErrorNode.canonical, node, decodeError, membersOf, Decoded.ok_bind]
  refine shape_then [(.name, .text), (.code, .int), (.message, .text), (.docs, .texts)] rfl
    (all_cons rfl <| all_cons rfl <| all_cons (accepts_intValue h) <| all_cons rfl <|
      all_cons (accepts_textsValue docs) rfl) ?_
  simp [textOf_record .name, intOf_record .code, integer?_intValue h, textOf_record .message,
    textsOf_record .docs]

private theorem decodeProgram_canonical {p : ProgramNode} (h : p.isExpressible = true) :
    decodeProgram p.canonical = .ok p := by
  obtain ⟨name, publicKey, version, origin, docs, accounts, instructions, definedTypes, pdas,
    errors, isInternal⟩ := p
  simp only [ProgramNode.isExpressible, Bool.and_eq_true, List.all_eq_true] at h
  obtain ⟨⟨⟨⟨haccounts, hinstructions⟩, htypes⟩, hpdas⟩, herrors⟩ := h
  have haccounts := decodeItems_map (.ofProgram name "accounts") accounts 0 fun a ha =>
    decodeAccount_canonical (haccounts a ha)
  have hinstructions := decodeItems_map (.ofProgram name "instructions") instructions 0
    fun ix hix => decodeInstruction_canonical ix (isExpressible_of_mem hinstructions ix hix)
  have htypes := decodeItems_map (.ofProgram name "definedTypes") definedTypes 0 fun d hd =>
    decodeDefinedType_canonical (htypes d hd)
  have hpdas := decodeItems_map (.ofProgram name "pdas") pdas 0 fun pda hpda =>
    decodePda_canonical (hpdas pda hpda)
  have herrors := decodeItems_map (.ofProgram name "errors") errors 0 fun e he =>
    decodeError_canonical (herrors e he)
  have hshape : requireShape
      [("kind", .text), ("name", .text), ("publicKey", .text), ("version", .text),
        ("origin", .text), ("docs", .texts), ("accounts", .list), ("instructions", .list),
        ("definedTypes", .list), ("pdas", .list), ("errors", .list), ("internal", .flag)]
      (record [(.kind, .string "programNode"), (.name, .string name),
        (.publicKey, .string publicKey), (.version, .string version), (.origin, .string origin),
        (.docs, textsValue docs), (.accounts, .array (accounts.map (·.canonical))),
        (.instructions, .array (instructions.map (·.canonical))),
        (.definedTypes, .array (definedTypes.map (·.canonical))),
        (.pdas, .array (pdas.map (·.canonical))), (.errors, .array (errors.map (·.canonical))),
        (.internal, .bool isInternal)]) = .ok () :=
    requireShape_record
      [(.kind, .text), (.name, .text), (.publicKey, .text), (.version, .text), (.origin, .text),
        (.docs, .texts), (.accounts, .list), (.instructions, .list), (.definedTypes, .list),
        (.pdas, .list), (.errors, .list), (.internal, .flag)]
      (all_cons rfl <| all_cons rfl <| all_cons rfl <| all_cons rfl <| all_cons rfl <|
        all_cons (accepts_textsValue docs) rfl)
  simp [ProgramNode.canonical, node, decodeProgram, membersOf, canonicalInstructions_eq_map, hshape,
    textOf_record .kind, textOf_record .name, textOf_record .publicKey, textOf_record .version,
    textOf_record .origin, textsOf_record .docs, listOf_record .accounts, haccounts,
    listOf_record .instructions, hinstructions, listOf_record .definedTypes, htypes,
    listOf_record .pdas, hpdas, listOf_record .errors, herrors, flagOf_record .internal]

theorem decodeRoot_canonical {root : RootNode} (h : root.isExpressible = true) :
    decodeRoot root.canonical = .ok root := by
  obtain ⟨standard, version, program, additional⟩ := root
  simp only [RootNode.isExpressible, RootNode.programs, List.all_cons, Bool.and_eq_true,
    List.all_eq_true] at h
  have hprogram := decodeProgram_canonical h.1
  have hadditional := decodeItems_map .additionalProgram additional 0 fun p hp =>
    decodeProgram_canonical (h.2 p hp)
  have hshape : requireShape
      [("kind", .text), ("standard", .text), ("version", .text), ("program", .any),
        ("additionalPrograms", .list)]
      (record [(.kind, .string "rootNode"), (.standard, .string standard),
        (.version, .string version), (.program, program.canonical),
        (.additionalPrograms, .array (additional.map (·.canonical)))]) = .ok () :=
    requireShape_record
      [(.kind, .text), (.standard, .text), (.version, .text), (.program, .any),
        (.additionalPrograms, .list)] rfl
  simp [RootNode.canonical, node, decodeRoot, membersOf, hshape, textOf_record .kind,
    textOf_record .standard, textOf_record .version, lastMember?_record .program, Member.of,
    hprogram, listOf_record .additionalPrograms, hadditional]

/-! ### Documents -/

theorem decodeRootText_of_denotes {text : String} {v : Value} (h : Denotes text v) :
    decodeRootText text =
      if v.nesting ≤ maxDepth then decodeRoot v
      else .error (.inside (.decoding "root") .tooDeep) := by
  have hread := readFirst_of_denotes h
  rw [decodeRootText]
  cases hfirst : readFirst .replace text with
  | error fault =>
    rw [hfirst] at hread
    split at hread
    · cases hread
    · cases hread
      rw [if_neg ‹_›]
      rfl
  | ok result =>
    rw [hfirst] at hread
    split at hread
    · obtain rfl : result.1 = v := Except.ok.inj hread
      rw [if_pos ‹_›]
    · cases hread

/-- Every document that can be expressed is decoded from its canonical text, unless the text nests
deeper than JSON is read. -/
theorem decodeRootText_canonicalText {root : RootNode} (h : root.isExpressible = true) :
    decodeRootText root.canonicalText =
      if root.canonical.nesting ≤ maxDepth then .ok root
      else .error (.inside (.decoding "root") .tooDeep) := by
  have hdenotes := denotes_compact (RootNode.canonical_isCompact h)
  rw [RootNode.canonicalText, decodeRootText_of_denotes hdenotes, decodeRoot_canonical h]

/-- A document with something of everything. -/
def sampleRoot : RootNode where
  standard := "codama"
  version := "1.0.0"
  program :=
    { name := "vault"
      publicKey := "11111111111111111111111111111111"
      version := "0.1.0"
      origin := "anchor"
      docs := ["Holds tokens.", ""]
      accounts :=
        [⟨"state", [], .struct [⟨"owner", .publicKey, [], none, ""⟩,
            ⟨"fee", .amount (.number ⟨"u64", "be"⟩) 9 "SOL", ["In lamports."],
              some (.number "-1.5e3"), "omitted"⟩],
          some "state", some 40, false⟩]
      instructions :=
        [⟨"deposit", [], [⟨"payer", [], true, .either, false, some (.placeholder .payer "")⟩],
          [⟨"mode", [], .option .bytes byteType true, some (.enum (some "mode") "on" none), ""⟩],
          [⟨"depositAll", [], [], [], [], true⟩], false⟩]
      definedTypes :=
        [⟨"mode", [], .enum [.empty "off" none, .tuple "on" (.tuple [.bytes]) (some (-2))] byteType,
          false⟩]
      pdas :=
        [⟨"state", [], [.constant (.string "utf8") (.string "state \"\u00e9\""),
          .variable "owner" [] .publicKey]⟩]
      errors := [⟨"tooMuch", 6000, "Too much", []⟩]
      isInternal := false }
  additionalPrograms := []

theorem decodeRootText_canonicalText_sampleRoot :
    decodeRootText sampleRoot.canonicalText = .ok sampleRoot := by
  rw [decodeRootText_canonicalText (by decide +kernel)]
  exact if_pos (by decide +kernel)

/-! ### Where it fails -/

/-- Tuples of one item in one another, around a byte string. -/
def towerOf : Nat → TypeNode
  | 0 => .bytes
  | n + 1 => .tuple [towerOf n]

private theorem towerOf_isExpressible (n : Nat) : (towerOf n).isExpressible = true := by
  induction n with
  | zero => rfl
  | succ n ih => simp [towerOf, TypeNode.isExpressible, areExpressibleTypes, ih]

private theorem nesting_towerOf (n : Nat) : (towerOf n).canonical.nesting = 2 * n + 1 := by
  induction n with
  | zero => rfl
  | succ n ih =>
    simp [towerOf, TypeNode.canonical, canonicalTypes, node, record, Member.of, Value.nesting,
      membersNesting, itemsNesting, ih]
    omega

/-- A document that declares one type. -/
def rootDeclaring (type : TypeNode) : RootNode where
  standard := "codama"
  version := "1.0.0"
  program := ⟨"vault", "11111111111111111111111111111111", "1.0.0", "", [], [], [],
    [⟨"state", [], type, false⟩], [], [], false⟩
  additionalPrograms := []

private theorem nesting_rootDeclaring (type : TypeNode) :
    type.canonical.nesting + 4 ≤ (rootDeclaring type).canonical.nesting := by
  simp only [rootDeclaring, RootNode.canonical, ProgramNode.canonical, DefinedTypeNode.canonical,
    textsValue, canonicalInstructions, node, record, Member.of, Value.nesting, membersNesting,
    itemsNesting, List.map_cons, List.map_nil]
  omega

private theorem isExpressible_rootDeclaring (type : TypeNode) :
    (rootDeclaring type).isExpressible = type.isExpressible := by
  simp [rootDeclaring, RootNode.isExpressible, RootNode.programs, ProgramNode.isExpressible,
    DefinedTypeNode.isExpressible, areExpressibleInstructions]

/-- A field whose standard value is of an enum that it does not name. -/
def unlinkedField : FieldNode := ⟨"mode", .bytes, [], some (.enum none "on" none), ""⟩

private theorem denotes_unlinked :
    Denotes (rootDeclaring (.field unlinkedField)).canonicalText
      (rootDeclaring (.field unlinkedField)).canonical := by
  apply denotes_compact
  simp [rootDeclaring, unlinkedField, RootNode.canonical, ProgramNode.canonical,
    DefinedTypeNode.canonical, TypeNode.canonical, FieldNode.canonical, canonicalValue?,
    ValueNode.canonical, linkValue?, textsValue, canonicalInstructions, node, record, Member.of,
    Value.IsCompact, ItemsCompact, MembersCompact]

/-- A tower of types is refused for its depth, and a link that is missing is decoded as one to the
empty name. -/
theorem decoding_changes_deep_and_unlinked :
    ((rootDeclaring (towerOf 4998)).isExpressible = true ∧
      decodeRootText (rootDeclaring (towerOf 4998)).canonicalText ≠
        .ok (rootDeclaring (towerOf 4998))) ∧
    decodeRootText (rootDeclaring (.field unlinkedField)).canonicalText ≠
      .ok (rootDeclaring (.field unlinkedField)) := by
  have htower : (rootDeclaring (towerOf 4998)).isExpressible = true := by
    rw [isExpressible_rootDeclaring, towerOf_isExpressible]
  refine ⟨⟨htower, ?_⟩, ?_⟩
  · have hdeep := nesting_rootDeclaring (towerOf 4998)
    rw [nesting_towerOf] at hdeep
    have hdenotes := denotes_compact (RootNode.canonical_isCompact htower)
    rw [RootNode.canonicalText, decodeRootText_of_denotes hdenotes,
      if_neg (by rw [maxDepth]; omega)]
    simp
  · -- The document that is decoded is expressible, and the one with the missing link is not.
    intro h
    have hlinked : (decodeRoot (rootDeclaring (.field unlinkedField)).canonical).toOption.map
        (·.isExpressible) = some true := by
      decide +kernel
    rw [decodeRootText_of_denotes denotes_unlinked, if_pos (by decide +kernel)] at h
    rw [h] at hlinked
    simp [Except.toOption, isExpressible_rootDeclaring, unlinkedField, TypeNode.isExpressible,
      FieldNode.isExpressible, isExpressibleValue?, ValueNode.isExpressible] at hlinked

end ClientGen.Idl
