import ClientGen.Cpp.Literal
/-!
# Values that can be written

A value is written as an expression exactly if every node of it that is written out can be. Nodes
are looked at in the order of the text, each before those below it, and the first one that cannot
be written decides the error: its text denotes nothing, or it has no counterpart at all.
-/
namespace ClientGen.Cpp

open ClientGen.Idl

mutual

/-- The nodes of a value that are written out, each before those below it. What a constant holds
is no node of its own, since its type decides how it is written. -/
def writtenNodes : ValueNode → List ValueNode
  | .array items => .array items :: writtenItems items
  | .tuple items => .tuple items :: writtenItems items
  | .struct fields => .struct fields :: writtenFields fields
  | .field node => writtenField node
  | .enum link variant payload => .enum link variant payload :: writtenPayload payload
  | .present value => .present value :: writtenNodes value
  | value => [value]

def writtenItems : List ValueNode → List ValueNode
  | [] => []
  | value :: rest => writtenNodes value ++ writtenItems rest

def writtenField : ValueFieldNode → List ValueNode
  | ⟨name, value⟩ => .field ⟨name, value⟩ :: writtenNodes value

def writtenFields : List ValueFieldNode → List ValueNode
  | [] => []
  | node :: rest => writtenField node ++ writtenFields rest

def writtenPayload : Option ValueNode → List ValueNode
  | none => []
  | some value => writtenNodes value

end

/-! ### What can be written -/

/-- A text that denotes bytes in an encoding. Plain text always does. -/
inductive Decodes : (encoding data : String) → Prop
  | utf8 (data : String) : Decodes "utf8" data
  | unnamed (data : String) : Decodes "" data
  | base16 {data : String} {bytes : List UInt8} (h : Encoding.Base16.decode data = .ok bytes) :
    Decodes "base16" data
  | base58 {data : String} {bytes : List UInt8} (h : Encoding.Base58.decode data = .ok bytes) :
    Decodes "base58" data
  | base64 {data : String} {bytes : List UInt8} (h : Encoding.Base64.decode data = .ok bytes) :
    Decodes "base64" data

/-- A text that denotes the bytes of an address. -/
def IsPublicKey (key : String) : Prop :=
  ∃ bytes, Encoding.Base58.decode key = .ok bytes ∧ bytes.length = publicKeySize

/-- The pairs of a type and a value that have a constant. -/
inductive HasConstant (flavor : Flavor) : TypeNode → ValueNode → Prop
  | bytes (type : TypeNode) {data encoding : String} (h : Decodes encoding data) :
    HasConstant flavor type (.bytes data encoding)
  | string {encoding text : String} (h : Decodes encoding text) :
    HasConstant flavor (.string encoding) (.string text)
  | publicKey {key : String} (identifier : String) (h : IsPublicKey key) :
    HasConstant flavor .publicKey (.publicKey key identifier)
  | number {type : TypeNode} {number : NumberType} (text : String)
    (htype : type.number? = some number) (hformat : (flavor.number? number.format).isSome = true) :
    HasConstant flavor type (.number text)

/-- Whether a node can be written, as far as the nodes below it can. -/
def Writable (flavor : Flavor) : ValueNode → Prop
  | .map _ | .entry _ | .set _ | .absent | .placeholder _ _ => False
  | .bytes data encoding => Decodes encoding data
  | .publicKey key _ => IsPublicKey key
  | .enum link _ _ => link.isSome = true
  | .constant type value => HasConstant flavor type value
  | .number _ | .boolean _ | .string _ | .array _ | .tuple _ | .struct _ | .field _
  | .present _ => True

/-- The encodings in which not every text denotes bytes. -/
def partialEncodings : List String := ["base16", "base58", "base64"]

/-- Whether a node that cannot be written is at fault for its text and not for what it is. -/
def isMisspelled : ValueNode → Bool
  | .bytes _ encoding => partialEncodings.contains encoding
  | .publicKey _ _ => true
  | .constant _ (.bytes _ encoding) => partialEncodings.contains encoding
  | .constant (.string encoding) (.string _) => partialEncodings.contains encoding
  | .constant .publicKey (.publicKey _ _) => true
  | _ => false

/-- The kind of an error: a text that denotes nothing, or a construct without counterpart. -/
def Error.IsOfKind (misspelled : Bool) (e : Error) : Prop :=
  if misspelled then ∃ value, e = .invalidValue value else ∃ construct, e = .unsupported construct

/-! ### Texts that are decoded -/

private theorem mapError_eq_ok_iff {α ε ε' : Type} {x : Except ε α} {f : ε → ε'} {a : α} :
    x.mapError f = .ok a ↔ x = .ok a := by
  cases x with
  | ok b =>
    constructor
    · intro h
      exact congrArg Except.ok (Except.ok.inj h)
    · intro h
      exact congrArg Except.ok (Except.ok.inj h)
  | error _ => exact ⟨nofun, nofun⟩

private theorem mapError_eq_error_iff {α ε ε' : Type} {x : Except ε α} {f : ε → ε'} {e : ε'} :
    x.mapError f = .error e ↔ ∃ fault, x = .error fault ∧ f fault = e := by
  cases x with
  | ok _ => exact ⟨nofun, fun ⟨_, h, _⟩ => nomatch h⟩
  | error fault =>
    constructor
    · intro h
      exact ⟨fault, rfl, Except.error.inj h⟩
    · rintro ⟨_, ⟨⟩, rfl⟩
      rfl

theorem decodes_iff (encoding data : String) :
    Decodes encoding data ↔ ∃ bytes, bytesOf encoding data = .ok bytes := by
  constructor
  · intro h
    cases h with
    | utf8 | unnamed => exact ⟨_, rfl⟩
    | base16 h | base58 h | base64 h => exact ⟨_, mapError_eq_ok_iff.mpr h⟩
  · rintro ⟨bytes, h⟩
    unfold bytesOf at h
    split at h
    · rename_i hplain
      rw [Bool.or_eq_true, beq_iff_eq, beq_iff_eq] at hplain
      rcases hplain with rfl | rfl
      · exact .utf8 data
      · exact .unnamed data
    split at h
    · rename_i hencoding
      rw [beq_iff_eq.mp hencoding]
      exact .base16 (mapError_eq_ok_iff.mp h)
    split at h
    · rename_i hencoding
      rw [beq_iff_eq.mp hencoding]
      exact .base58 (mapError_eq_ok_iff.mp h)
    split at h
    · rename_i hencoding
      rw [beq_iff_eq.mp hencoding]
      exact .base64 (mapError_eq_ok_iff.mp h)
    · cases h

theorem bytesOf_error_isOfKind {encoding data : String} {e : Error}
    (h : bytesOf encoding data = .error e) :
    e.IsOfKind (partialEncodings.contains encoding) := by
  unfold bytesOf at h
  split at h
  · cases h
  split at h
  · rename_i hencoding
    obtain ⟨fault, -, rfl⟩ := mapError_eq_error_iff.mp h
    rw [beq_iff_eq.mp hencoding]
    exact ⟨_, rfl⟩
  split at h
  · rename_i hencoding
    obtain ⟨fault, -, rfl⟩ := mapError_eq_error_iff.mp h
    rw [beq_iff_eq.mp hencoding]
    exact ⟨_, rfl⟩
  split at h
  · rename_i hencoding
    obtain ⟨fault, -, rfl⟩ := mapError_eq_error_iff.mp h
    rw [beq_iff_eq.mp hencoding]
    exact ⟨_, rfl⟩
  · rename_i h16 h58 h64
    cases h
    have hother : partialEncodings.contains encoding = false := by
      simp_all [partialEncodings]
    rw [hother]
    exact ⟨_, rfl⟩

/-! ### What writing reports -/

/-- An outcome that is a result exactly if a condition holds, and otherwise an error of a kind. -/
inductive Decides {α : Type} (condition : Prop) (misspelled : Bool) : Generated α → Prop
  | holds (h : condition) (a : α) : Decides condition misspelled (.ok a)
  | fails (h : ¬ condition) {e : Error} (he : e.IsOfKind misspelled) :
    Decides condition misspelled (.error e)

theorem decides_unsupported {α : Type} {condition : Prop} (h : ¬ condition)
    (construct : Unsupported) :
    Decides condition false (.error (.unsupported construct) : Generated α) :=
  .fails h ⟨construct, rfl⟩

theorem bytesLiteral_decides (encoding data : String) :
    Decides (Decodes encoding data) (partialEncodings.contains encoding)
      (bytesLiteral encoding data) := by
  unfold bytesLiteral
  cases hbytes : bytesOf encoding data with
  | ok bytes => exact .holds ((decodes_iff encoding data).mpr ⟨bytes, hbytes⟩) _
  | error e =>
    refine .fails ?_ (bytesOf_error_isOfKind hbytes)
    rw [decodes_iff, hbytes]
    rintro ⟨bytes, h⟩
    cases h

theorem publicKeyLiteral_decides (target : Target) (key : String) :
    Decides (IsPublicKey key) true (publicKeyLiteral target key) := by
  unfold publicKeyLiteral checkPublicKey
  cases hdecode : Encoding.Base58.decode key with
  | error fault =>
    refine .fails ?_ ⟨_, rfl⟩
    rintro ⟨bytes, hbytes, -⟩
    rw [hdecode] at hbytes
    cases hbytes
  | ok bytes =>
    by_cases hsize : bytes.length = publicKeySize
    · simp only [hsize, if_true]
      exact .holds ⟨bytes, hdecode, hsize⟩ _
    · simp only [hsize, if_false]
      refine .fails ?_ ⟨_, rfl⟩
      rintro ⟨bytes', hbytes, hsize'⟩
      rw [hdecode] at hbytes
      cases hbytes
      exact hsize hsize'

theorem Decides.congr {α : Type} {condition condition' : Prop} {misspelled : Bool}
    {x : Generated α} (h : Decides condition misspelled x) (hiff : condition ↔ condition') :
    Decides condition' misspelled x := by
  cases h with
  | holds h a => exact .holds (hiff.mp h) a
  | fails h he => exact .fails (fun h' => h (hiff.mpr h')) he

/-- A constant is decided by its type and its value together. -/
theorem constantLiteral_decides (target : Target) (type : TypeNode) (value : ValueNode) :
    Decides (HasConstant target.flavor type value) (isMisspelled (.constant type value))
      (constantLiteral target type value) := by
  unfold constantLiteral
  split
  · rename_i data encoding
    refine (bytesLiteral_decides encoding data).congr ⟨.bytes type, ?_⟩
    rintro ⟨h⟩
    assumption
  · rename_i encoding text
    refine (bytesLiteral_decides encoding text).congr ⟨.string, ?_⟩
    intro h
    cases h
    assumption
  · rename_i key identifier
    refine (publicKeyLiteral_decides target key).congr ⟨.publicKey identifier, ?_⟩
    intro h
    cases h
    assumption
  · -- Any text of a number will do, as long as its type is a number of the dialect.
    rename_i text
    have hkind : isMisspelled (.constant type (.number text)) = false := by
      cases type <;> rfl
    rw [hkind]
    cases hnumber : type.number? with
    | none =>
      refine decides_unsupported ?_ _
      rintro ⟨⟩
      simp_all
    | some number =>
      dsimp only [numberBytes]
      cases hformat : target.flavor.number? number.format with
      | none =>
        refine decides_unsupported ?_ _
        rintro ⟨⟩
        simp_all
      | some spelling => exact .holds (.number text hnumber (by rw [hformat]; rfl)) _
  · rename_i hbytes hnumber hstring hkey
    have hkind : isMisspelled (.constant type value) = false := by
      unfold isMisspelled
      split <;> simp_all
    rw [hkind]
    refine decides_unsupported ?_ _
    intro h
    cases h with
    | bytes => exact hbytes _ _ rfl
    | string => exact hstring _ _ rfl rfl
    | publicKey => exact hkey _ _ rfl rfl
    | number => exact hnumber _ rfl

/-! ### The first node that cannot be written -/

/-- A node that cannot be written, with the error that it gives wherever it stands. -/
structure Offends (target : Target) (short : Bool) (node : ValueNode) (e : Error) : Prop where
  unwritable : ¬ Writable target.flavor node
  alone : literal target short node = .error e
  kind : e.IsOfKind (isMisspelled node)

/-- An outcome of writing nodes one after another: a result if all of them can be written, or else
the error of the first that cannot. -/
inductive Reports {α : Type} (target : Target) (short : Bool) :
    List ValueNode → Generated α → Prop
  | done {nodes : List ValueNode} (h : ∀ node ∈ nodes, Writable target.flavor node) (a : α) :
    Reports target short nodes (.ok a)
  | stopped {before : List ValueNode} {node : ValueNode} {e : Error}
    (hbefore : ∀ node ∈ before, Writable target.flavor node) (hnode : Offends target short node e)
    (after : List ValueNode) : Reports target short (before ++ node :: after) (.error e)

section

variable {α β : Type} {target : Target} {short : Bool} {nodes : List ValueNode} {x : Generated α}

theorem reports_nil (a : α) : Reports target short [] (.ok a) := .done (by simp) a

theorem reports_offence {node : ValueNode} {e : Error} (h : Offends target short node e)
    (after : List ValueNode) : Reports target short (node :: after) (.error e : Generated α) :=
  @Reports.stopped α target short [] node e (by simp) h after

theorem Reports.bind {more : List ValueNode} {f : α → Generated β}
    (h : Reports target short nodes x) (hf : ∀ a, Reports target short more (f a)) :
    Reports target short (nodes ++ more) (x >>= f) := by
  cases h with
  | stopped hbefore hnode after =>
    -- The second run does not start, and its nodes are among those behind the offence.
    rw [List.append_assoc, List.cons_append]
    exact .stopped hbefore hnode (after ++ more)
  | done h a =>
    have hmore := hf a
    change Reports target short (nodes ++ more) (f a)
    generalize f a = y at hmore ⊢
    cases hmore with
    | done hmore b =>
      refine .done ?_ b
      intro node hnode
      exact (List.mem_append.mp hnode).elim (h node) (hmore node)
    | @stopped before node e hbefore hnode after =>
      rw [← List.append_assoc]
      refine .stopped ?_ hnode after
      intro node hnode
      exact (List.mem_append.mp hnode).elim (h node) (hbefore node)

/-- A step that cannot fail. -/
theorem Reports.finish {f : α → Generated β} (h : Reports target short nodes x)
    (hf : ∀ a, ∃ b, f a = .ok b) : Reports target short nodes (x >>= f) := by
  have hdone (a : α) : Reports target short [] (f a) := by
    obtain ⟨b, hb⟩ := hf a
    rw [hb]
    exact reports_nil b
  simpa using h.bind hdone

/-- A node that can be written in front of those below it. -/
theorem Reports.cons {node : ValueNode} (hnode : Writable target.flavor node)
    (h : Reports target short nodes x) : Reports target short (node :: nodes) x := by
  cases h with
  | done h a => exact .done (List.forall_mem_cons.mpr ⟨hnode, h⟩) a
  | stopped hbefore hoffends after =>
    rw [← List.cons_append]
    exact .stopped (List.forall_mem_cons.mpr ⟨hnode, hbefore⟩) hoffends after

/-- A node that decides by itself whether it is written. -/
theorem reports_of_decides {node : ValueNode}
    (h : Decides (Writable target.flavor node) (isMisspelled node) (literal target short node)) :
    Reports target short [node] (literal target short node) := by
  generalize hx : literal target short node = x at h ⊢
  cases h with
  | holds h a => exact .done (by simpa using h) a
  | fails h he => exact reports_offence ⟨h, hx, he⟩ []

end

section

variable {target : Target} (short : Bool)

mutual

/-- Writing a value reports the first of its nodes that cannot be written. -/
theorem literal_reports : ∀ value : ValueNode,
    Reports target short (writtenNodes value) (literal target short value)
  | .number _ => (reports_nil _).cons trivial
  | .boolean _ => (reports_nil _).cons trivial
  | .string _ => (reports_nil _).cons trivial
  | .bytes data encoding => reports_of_decides (bytesLiteral_decides encoding data)
  | .array items => by
    rw [literal, writtenNodes]
    exact ((literals_report .empty items).finish fun _ => ⟨_, rfl⟩).cons trivial
  | .tuple items => by
    rw [literal, writtenNodes]
    exact ((literals_report .empty items).finish fun _ => ⟨_, rfl⟩).cons trivial
  | .struct fields => by
    rw [literal, writtenNodes]
    refine ((fieldLiterals_report .empty fields).finish ?_).cons trivial
    rintro ⟨texts, includes⟩
    cases texts <;> exact ⟨_, rfl⟩
  | .field node => fieldLiteral_reports node
  | .enum none variant payload => by
    -- The payload is not looked at: the enum itself stands in front of it.
    have hoffends : Offends target short (.enum none variant payload)
        (.unsupported .unlinkedEnum) := ⟨Bool.false_ne_true, rfl, _, rfl⟩
    exact reports_offence hoffends (writtenPayload payload)
  | .enum (some link) variant payload => by
    rw [literal, writtenNodes]
    exact ((payloadLiteral_reports payload).finish fun _ => ⟨_, rfl⟩).cons rfl
  | .present value => by
    rw [literal, writtenNodes]
    exact ((literal_reports value).finish fun _ => ⟨_, rfl⟩).cons trivial
  | .publicKey key _ => reports_of_decides (publicKeyLiteral_decides target key)
  | .constant type value => reports_of_decides (constantLiteral_decides target type value)
  | .map _ => reports_of_decides (decides_unsupported not_false _)
  | .entry _ => reports_of_decides (decides_unsupported not_false _)
  | .set _ => reports_of_decides (decides_unsupported not_false _)
  | .absent => reports_of_decides (decides_unsupported not_false _)
  | .placeholder _ _ => reports_of_decides (decides_unsupported not_false _)

theorem literals_report (includes : IncludeSet) : ∀ items : List ValueNode,
    Reports target short (writtenItems items) (literals target short includes items)
  | [] => reports_nil _
  | value :: rest => by
    rw [literals, writtenItems]
    apply (literal_reports value).bind
    intro first
    exact (literals_report _ rest).finish fun _ => ⟨_, rfl⟩

theorem fieldLiteral_reports : ∀ node : ValueFieldNode,
    Reports target short (writtenField node) (fieldLiteral target short node)
  | ⟨name, value⟩ => by
    rw [fieldLiteral, writtenField]
    exact ((literal_reports value).finish fun _ => ⟨_, rfl⟩).cons trivial

theorem fieldLiterals_report (includes : IncludeSet) : ∀ fields : List ValueFieldNode,
    Reports target short (writtenFields fields) (fieldLiterals target short includes fields)
  | [] => reports_nil _
  | node :: rest => by
    rw [fieldLiterals, writtenFields]
    apply (fieldLiteral_reports node).bind
    intro first
    exact (fieldLiterals_report _ rest).finish fun _ => ⟨_, rfl⟩

theorem payloadLiteral_reports : ∀ payload : Option ValueNode,
    Reports target short (writtenPayload payload) (payloadLiteral target short payload)
  | none => reports_nil _
  | some value => by
    rw [payloadLiteral, writtenPayload]
    exact (literal_reports value).finish fun _ => ⟨_, rfl⟩

end

end

/-- A value is written as an expression exactly if every node that is written out can be: none of
them is a map, an entry, a set, an absent value or a placeholder, bytes and addresses decode, enums
are linked, and constants pair a type and a value that go together. If one cannot, the error is the
one that the first such node gives by itself, and its kind tells whether the text of that node
denotes nothing or the node has no counterpart. -/
theorem written_iff_nodes_writable (target : Target) (short : Bool) (value : ValueNode) :
    ((∃ l, literal target short value = .ok l) ↔
      ∀ node ∈ writtenNodes value, Writable target.flavor node) ∧
    ∀ e, literal target short value = .error e →
      ∃ before node after, writtenNodes value = before ++ node :: after ∧
        (∀ earlier ∈ before, Writable target.flavor earlier) ∧
        ¬ Writable target.flavor node ∧ literal target short node = .error e ∧
        if isMisspelled node then ∃ text, e = .invalidValue text
        else ∃ construct, e = .unsupported construct := by
  have hreports := @literal_reports target short value
  generalize hnodes : writtenNodes value = nodes at hreports ⊢
  generalize literal target short value = outcome at hreports ⊢
  cases hreports with
  | done h l =>
    refine ⟨⟨fun _ => h, fun _ => ⟨l, rfl⟩⟩, ?_⟩
    intro e he
    cases he
  | @stopped before node e hbefore hnode after =>
    refine ⟨⟨?_, ?_⟩, ?_⟩
    · rintro ⟨l, hl⟩
      cases hl
    · intro hall
      exact absurd (hall node (by simp)) hnode.unwritable
    · intro e' he
      cases he
      exact ⟨before, node, after, rfl, hbefore, hnode.unwritable, hnode.alone, hnode.kind⟩

/-- A pair of bytes and a string is written, and a pair of which a part is absent is not. -/
theorem written_iff_nodes_writable_pair :
    let bytes := ValueNode.bytes "note" "utf8"
    (∃ l, literal ⟨.unreal5, "Vault"⟩ false (.tuple [bytes, .string "a"]) = .ok l) ∧
      ¬ ∃ l, literal ⟨.unreal5, "Vault"⟩ false (.tuple [bytes, .absent]) = .ok l := by
  intro bytes
  constructor
  · refine (written_iff_nodes_writable ⟨.unreal5, "Vault"⟩ false _).1.mpr ?_
    have hnodes : writtenNodes (.tuple [bytes, .string "a"]) =
        [.tuple [bytes, .string "a"], bytes, .string "a"] := rfl
    rw [hnodes]
    simp only [List.forall_mem_cons]
    exact ⟨trivial, .utf8 _, trivial, by simp⟩
  · intro hwritten
    have hnodes := (written_iff_nodes_writable ⟨.unreal5, "Vault"⟩ false _).1.mp hwritten
    exact hnodes .absent (by simp [writtenNodes, writtenItems])

end ClientGen.Cpp
