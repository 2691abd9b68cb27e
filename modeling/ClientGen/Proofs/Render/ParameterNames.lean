import ClientGen.Proofs.Naming.PlainNames
import ClientGen.Proofs.Render.Constructor
/-!
# Names of the parameters of a constructor

The parameters of a constructor take their names in four ways: an account in `PascalCase`, its
signer flag with a suffix to that, an argument in `camelCase`, and an argument that shares its name
with an account as it is, with a mark behind it. Names that start with a capital never meet names
that do not, and only marked names have an underscore. What is left are two gaps: the flag of one
account can be the name of another one, and a marked name keeps the separators that it has.
-/
namespace ClientGen.Idl

theorem mem_firstOccurrences {α : Type} [BEq α] [LawfulBEq α] {a : α} (l : List α) :
    ∀ seen : List α, a ∈ firstOccurrences seen l ↔ a ∈ l ∧ a ∉ seen := by
  induction l with
  | nil => simp [firstOccurrences]
  | cons b rest ih =>
    intro seen
    rw [firstOccurrences]
    split
    · rename_i hseen
      rw [List.contains_iff_mem] at hseen
      rw [ih, List.mem_cons]
      grind
    · rename_i hseen
      rw [List.contains_iff_mem] at hseen
      rw [List.mem_cons, ih, List.mem_cons, List.mem_cons]
      grind

/-- The name of an argument is in conflict if an account has it. -/
theorem InstructionNode.contains_conflicts {ix : InstructionNode} {a : ArgumentNode}
    (ha : a ∈ ix.arguments) :
    ix.conflicts.contains a.name = true ↔ ∃ b ∈ ix.accounts, b.name = a.name := by
  rw [List.contains_iff_mem, conflicts, mem_firstOccurrences]
  simp only [List.mem_filter, List.contains_iff_mem, List.mem_map, List.not_mem_nil,
    not_false_eq_true, and_true]
  constructor
  · exact And.right
  · intro hb
    exact ⟨⟨a, ha, rfl⟩, hb⟩

end ClientGen.Idl

namespace ClientGen.Render

open ClientGen.Idl ClientGen.Cpp ClientGen.Naming

/-! ### The four kinds of names -/

def signerFlag (a : InstructionAccountNode) : String := accountName a ++ "IsSigner"

/-- The name of the parameter for an argument of an instruction. -/
def argumentParameter (ix : InstructionNode) (a : ArgumentNode) : String :=
  parameterName ix.conflicts a.name

/-- The arguments that the caller sees, those that have a default last. -/
def visibleArguments (ix : InstructionNode) : List ArgumentNode :=
  ix.arguments.filter (argumentClass · == .required)
    ++ ix.arguments.filter (argumentClass · == .optional)

/-- The names of the parameters of the constructor, in their order. -/
def parameterNames (ix : InstructionNode) : List String :=
  ix.accounts.map accountName ++ (ix.accounts.filter (·.signer == .either)).map signerFlag
    ++ (visibleArguments ix).map (argumentParameter ix)

/-- An instruction whose names are plain, and differ among the accounts and among the arguments once
they are cased. -/
structure HasPlainNames (ix : InstructionNode) : Prop where
  account : ∀ a ∈ ix.accounts, IsPlain a.name
  argument : ∀ a ∈ ix.arguments, IsPlain a.name
  accounts : (ix.accounts.map accountName).Nodup
  arguments : (ix.arguments.map fun a => camel a.name).Nodup

theorem isCapitalized_signerFlag {a : InstructionAccountNode} (h : IsPlain a.name) :
    IsCapitalized (signerFlag a) :=
  h.isCapitalized_pascal.append (by decide)

theorem signerFlag_injective {a b : InstructionAccountNode} (h : signerFlag a = signerFlag b) :
    accountName a = accountName b := by
  apply String.toList_injective
  have hlists := congrArg String.toList h
  simpa [signerFlag, String.toList_append] using hlists

section

variable {ix : InstructionNode} {a b : ArgumentNode}

theorem argumentParameter_cases (ha : a ∈ ix.arguments) :
    (∃ b ∈ ix.accounts, b.name = a.name) ∧ argumentParameter ix a = a.name ++ "_arg" ∨
      (¬ ∃ b ∈ ix.accounts, b.name = a.name) ∧ argumentParameter ix a = camel a.name := by
  rw [argumentParameter, parameterName]
  split
  · rename_i hmarked
    exact .inl ⟨(InstructionNode.contains_conflicts ha).mp hmarked, rfl⟩
  · rename_i hunmarked
    exact .inr ⟨fun hshared => hunmarked ((InstructionNode.contains_conflicts ha).mpr hshared), rfl⟩

theorem underscore_mem_marked (name : String) : '_' ∈ (name ++ "_arg").toList := by
  simp [String.toList_append]

theorem not_isCapitalized_argumentParameter (h : IsPlain a.name) (ha : a ∈ ix.arguments) :
    ¬ IsCapitalized (argumentParameter ix a) := by
  rcases argumentParameter_cases ha with ⟨-, hname⟩ | ⟨-, hname⟩
  · rw [hname]
    intro hcapitalized
    exact absurd (hcapitalized.letters '_' (underscore_mem_marked a.name)) (by decide)
  · rw [hname]
    exact h.not_isCapitalized_camel

/-- Only marked names have an underscore, so the parameters of two arguments are named alike only if
the arguments are. -/
theorem camel_eq_of_argumentParameter (h : HasPlainNames ix) (ha : a ∈ ix.arguments)
    (hb : b ∈ ix.arguments) (hsame : argumentParameter ix a = argumentParameter ix b) :
    camel a.name = camel b.name := by
  have hunmarked (c : ArgumentNode) (hc : c ∈ ix.arguments) : '_' ∉ (camel c.name).toList := by
    intro hmem
    exact absurd ((h.argument c hc).camel_letters '_' hmem) (by decide)
  rcases argumentParameter_cases ha with ⟨-, hname⟩ | ⟨-, hname⟩ <;>
    rcases argumentParameter_cases hb with ⟨-, hname'⟩ | ⟨-, hname'⟩ <;>
    rw [hname, hname'] at hsame
  · have hlists := congrArg String.toList hsame
    have hraw : a.name.toList = b.name.toList := by simpa [String.toList_append] using hlists
    rw [String.toList_injective hraw]
  · exact absurd (hsame ▸ underscore_mem_marked a.name) (hunmarked b hb)
  · exact absurd (hsame ▸ underscore_mem_marked b.name) (hunmarked a ha)
  · exact hsame

theorem eq_of_argumentParameter (h : HasPlainNames ix) (ha : a ∈ ix.arguments)
    (hb : b ∈ ix.arguments) (hsame : argumentParameter ix a = argumentParameter ix b) : a = b :=
  List.inj_on_of_nodup_map h.arguments ha hb (camel_eq_of_argumentParameter h ha hb hsame)

end

/-! ### Whether names differ -/

section

variable {ix : InstructionNode}

theorem mem_arguments_of_visible {a : ArgumentNode} (ha : a ∈ visibleArguments ix) :
    a ∈ ix.arguments := by
  rcases List.mem_append.mp ha with ha | ha <;> exact (List.mem_filter.mp ha).1

theorem nodup_visibleArguments (h : HasPlainNames ix) : (visibleArguments ix).Nodup := by
  have hall : ix.arguments.Nodup := h.arguments.of_map
  rw [visibleArguments, List.nodup_append]
  refine ⟨hall.filter _, hall.filter _, ?_⟩
  rintro a ha b hb rfl
  have hrequired := (List.mem_filter.mp ha).2
  have hoptional := (List.mem_filter.mp hb).2
  rw [beq_iff_eq] at hrequired hoptional
  rw [hrequired] at hoptional
  cases hoptional

theorem isCapitalized_of_not_argument (h : HasPlainNames ix) {name : String}
    (hname : name ∈ ix.accounts.map accountName ++
      (ix.accounts.filter (·.signer == .either)).map signerFlag) : IsCapitalized name := by
  rw [List.mem_append, List.mem_map, List.mem_map] at hname
  rcases hname with ⟨a, ha, rfl⟩ | ⟨a, ha, rfl⟩
  · exact (h.account a ha).isCapitalized_pascal
  · exact isCapitalized_signerFlag (h.account a (List.mem_filter.mp ha).1)

theorem nodup_signerFlags (h : HasPlainNames ix) :
    ((ix.accounts.filter (·.signer == .either)).map signerFlag).Nodup := by
  apply List.Nodup.map_on
  · intro a ha b hb hsame
    exact List.inj_on_of_nodup_map h.accounts (List.mem_filter.mp ha).1 (List.mem_filter.mp hb).1
      (signerFlag_injective hsame)
  · exact h.accounts.of_map.filter _

/-- Names of different kinds do not meet, except for flags and accounts. -/
theorem nodup_parameterNames_iff (h : HasPlainNames ix) : (parameterNames ix).Nodup ↔
    ∀ a ∈ ix.accounts, ∀ b ∈ ix.accounts, b.signer = .either → accountName a ≠ signerFlag b := by
  have harguments : ((visibleArguments ix).map (argumentParameter ix)).Nodup := by
    apply List.Nodup.map_on _ (nodup_visibleArguments h)
    intro a ha b hb
    exact eq_of_argumentParameter h (mem_arguments_of_visible ha) (mem_arguments_of_visible hb)
  rw [parameterNames, List.nodup_append, List.nodup_append]
  constructor
  · rintro ⟨⟨-, -, hflags⟩, -⟩ a ha b hb heither
    exact hflags _ (List.mem_map_of_mem ha) _
      (List.mem_map_of_mem (List.mem_filter.mpr ⟨hb, by simp [heither]⟩))
  · intro hflags
    refine ⟨⟨h.accounts, nodup_signerFlags h, ?_⟩, harguments, ?_⟩
    · intro name hname flag hflag
      obtain ⟨a, ha, rfl⟩ := List.mem_map.mp hname
      obtain ⟨b, hb, rfl⟩ := List.mem_map.mp hflag
      obtain ⟨hb, heither⟩ := List.mem_filter.mp hb
      exact hflags a ha b hb (beq_iff_eq.mp heither)
    · rintro name hname argument hargument rfl
      obtain ⟨a, ha, hparameter⟩ := List.mem_map.mp hargument
      have ha := mem_arguments_of_visible ha
      apply not_isCapitalized_argumentParameter (h.argument a ha) ha
      rw [hparameter]
      exact isCapitalized_of_not_argument h hname

theorem isIdentifier_append {s t : String} :
    IsIdentifier (s ++ t) ↔ IsIdentifier s ∧ IsIdentifier t := by
  rw [IsIdentifier, String.toList_append]
  exact List.forall_mem_append

/-- Only the mark behind a name that has separators lets them through. -/
theorem forall_isIdentifier_iff (h : HasPlainNames ix) :
    (∀ name ∈ parameterNames ix, IsIdentifier name) ↔
      ∀ a ∈ visibleArguments ix, (∃ b ∈ ix.accounts, b.name = a.name) → IsIdentifier a.name := by
  have hmark : IsIdentifier "_arg" := by decide
  rw [parameterNames, List.forall_mem_append, List.forall_mem_map]
  constructor
  · rintro ⟨-, harguments⟩ a ha hshared
    have hname := harguments a ha
    rcases argumentParameter_cases (mem_arguments_of_visible ha) with ⟨-, hmarked⟩ | ⟨hfree, -⟩
    · rw [hmarked] at hname
      exact (isIdentifier_append.mp hname).1
    · exact absurd hshared hfree
  · intro hmarked
    refine ⟨fun name hname => (isCapitalized_of_not_argument h hname).isIdentifier, ?_⟩
    intro a ha
    have hargument := mem_arguments_of_visible ha
    rcases argumentParameter_cases hargument with ⟨hshared, hname⟩ | ⟨-, hname⟩
    · rw [hname]
      exact isIdentifier_append.mpr ⟨hmarked a ha hshared, hmark⟩
    · rw [hname]
      exact fun c hc => .inl ((h.argument a hargument).camel_letters c hc)

end

/-! ### The names in the generated constructor -/

section

variable {r : Renderer} {conflicts : List String} {data : String}

theorem renderArgument_parameter {node : ArgumentNode} {argument : Argument}
    (h : renderArgument r conflicts data node = .ok argument) :
    argument.parameter = parameterName conflicts node.name := by
  obtain ⟨m, -, h⟩ := Generated.bind_eq_ok_iff.mp h
  cases hliteral : node.defaultValue.filter (·.isLiteral) with
  | none =>
    rw [hliteral] at h
    obtain rfl := Except.ok.inj h
    rfl
  | some value =>
    rw [hliteral] at h
    obtain ⟨l, -, h⟩ := Generated.bind_eq_ok_iff.mp h
    split at h <;> obtain rfl := Except.ok.inj h <;> rfl

theorem renderArguments_parameters (nodes : List ArgumentNode) : ∀ arguments : List Argument,
    renderArguments r conflicts data nodes = .ok arguments →
      arguments.map (·.parameter) = nodes.map fun node => parameterName conflicts node.name := by
  induction nodes with
  | nil =>
    intro arguments h
    obtain rfl := Except.ok.inj h
    rfl
  | cons node rest ih =>
    intro arguments h
    obtain ⟨argument, hargument, h⟩ := Generated.bind_eq_ok_iff.mp h
    obtain ⟨arguments', harguments', h⟩ := Generated.bind_eq_ok_iff.mp h
    obtain rfl := Except.ok.inj h
    rw [List.map_cons, List.map_cons, renderArgument_parameter hargument, ih _ harguments']

theorem map_name_parameterList {ix : InstructionNode} {bindings : List Binding}
    (hnodes : bindings.map (·.node) = ix.arguments)
    (hnames : ∀ b ∈ bindings, b.argument.parameter = argumentParameter ix b.node) :
    (parameterList r ix.accounts bindings).map (·.name) = parameterNames ix := by
  have hclass (cls : ArgumentClass) :
      ((bindings.filter (·.cls == cls)).map (·.parameter)).map (·.name) =
        (ix.arguments.filter (argumentClass · == cls)).map (argumentParameter ix) := by
    rw [← hnodes, List.filter_map, List.map_map, List.map_map]
    apply List.map_congr_left
    intro b hb
    exact hnames b (List.mem_filter.mp hb).1
  rw [parameterList, parameterNames, visibleArguments, List.map_append, List.map_append,
    List.map_append, hclass, hclass, List.map_append, List.map_map, List.map_map, List.append_assoc]
  rfl

/-- A rendered instruction has a parameter for every account, flag and argument that is to have one,
under its name, and its one file holds the constructor with them. -/
theorem parameters_of_renderInstruction {program : ProgramNode} {ix : InstructionNode}
    {map : FileMap} (h : renderInstruction r program ix = .ok map) :
    ∃ (bindings : List Binding) (decl : TopLevel) (includes : IncludeSet),
      map = FileMap.empty.add (r.headerPath "Instructions" (pascal ix.name))
        (instructionPage r program ix (bindings.map (·.argument)) decl includes) ∧
      (∃ page, map.files = [(r.headerPath "Instructions" (pascal ix.name), page)] ∧
        HoldsConstructor r program ix bindings page) ∧
      constructorParameters r ix.accounts (bindings.map (·.argument)) =
        (parameterList r ix.accounts bindings).map (·.text) ∧
      (parameterList r ix.accounts bindings).map (·.name) = parameterNames ix := by
  obtain ⟨bindings, m, includes, hmap, harguments, -, htype, hnodes, hfits⟩ :=
    bindings_of_renderInstruction h
  have hparameters := renderArguments_parameters ix.arguments _ harguments
  rw [← hnodes, List.map_map, List.map_map, List.map_inj_left] at hparameters
  exact ⟨bindings, _, includes, hmap, files_of_renderInstruction hmap htype hnodes hfits,
    constructorParameters_eq _ hfits, map_name_parameterList hnodes hparameters⟩

end

/-- The names of the parameters of a constructor differ exactly if no flag is named like an account,
and they are made of letters, digits and underscores exactly if so is every argument that the caller
sees and that shares its name with an account. The one file of the instruction holds the constructor
with these parameters. -/
theorem constructor_parameters_distinct_iff {r : Renderer} {program : ProgramNode}
    {ix : InstructionNode} {map : FileMap} (h : renderInstruction r program ix = .ok map)
    (hplain : HasPlainNames ix) :
    ∃ (bindings : List Binding) (decl : TopLevel) (includes : IncludeSet),
      let arguments := bindings.map (·.argument)
      let parameters := parameterList r ix.accounts bindings
      map = FileMap.empty.add (r.headerPath "Instructions" (pascal ix.name))
        (instructionPage r program ix arguments decl includes) ∧
      (∃ page, map.files = [(r.headerPath "Instructions" (pascal ix.name), page)] ∧
        HoldsConstructor r program ix bindings page) ∧
      constructorParameters r ix.accounts arguments = parameters.map (·.text) ∧
      parameters.map (·.name) = parameterNames ix ∧
      ((parameters.map (·.name)).Nodup ↔ ∀ a ∈ ix.accounts, ∀ b ∈ ix.accounts,
        b.signer = .either → accountName a ≠ signerFlag b) ∧
      ((∀ p ∈ parameters, IsIdentifier p.name) ↔ ∀ a ∈ visibleArguments ix,
        (∃ b ∈ ix.accounts, b.name = a.name) → IsIdentifier a.name) := by
  obtain ⟨bindings, decl, includes, hmap, hpage, htexts, hnames⟩ :=
    parameters_of_renderInstruction h
  refine ⟨bindings, decl, includes, hmap, hpage, htexts, hnames, ?_, ?_⟩
  · rw [hnames]
    exact nodup_parameterNames_iff hplain
  · rw [← List.forall_mem_map (P := IsIdentifier), hnames]
    exact forall_isIdentifier_iff hplain

/-- An account that may sign, an argument that shares its name with another account, and one that
only its casing makes a name. -/
theorem constructor_parameters_distinct_iff_withdraw :
    let r : Renderer := ⟨⟨.unreal5, "Vault"⟩, false, false, []⟩
    let byte := TypeNode.number (.little "u8")
    let program : ProgramNode := ⟨"vault", "", "", "", [], [], [], [], [], [], false⟩
    let ix : InstructionNode :=
      ⟨"withdraw", [],
        [⟨"payer", [], true, .either, false, none⟩, ⟨"total_amount", [], true, .never, false, none⟩],
        [⟨"fee-rate", [], byte, some (.number "1"), ""⟩, ⟨"total_amount", [], byte, none, ""⟩,
         ⟨"mark", [], byte, some (.number "7"), omittedStrategy⟩], [], false⟩
    ∃ (map : FileMap) (bindings : List Binding),
      let parameters := parameterList r ix.accounts bindings
      renderInstruction r program ix = .ok map ∧ HasPlainNames ix ∧
      parameters.map (·.name) =
        ["Payer", "TotalAmount", "PayerIsSigner", "total_amount_arg", "feeRate"] ∧
      (parameters.map (·.name)).Nodup ∧ ∀ p ∈ parameters, IsIdentifier p.name := by
  intro r byte program ix
  have hplain : HasPlainNames ix :=
    ⟨by decide, by decide, by decide +kernel, by decide +kernel⟩
  have hok : (renderInstruction r program ix).toBool = true := by decide +kernel
  obtain ⟨map, hmap⟩ := Generated.exists_ok hok
  obtain ⟨bindings, -, -, -, -, -, hnames, hdistinct, hidentifiers⟩ :=
    constructor_parameters_distinct_iff hmap hplain
  refine ⟨map, bindings, hmap, hplain, hnames.trans (by decide +kernel), ?_, ?_⟩
  · exact hdistinct.mpr (by decide +kernel)
  · exact hidentifiers.mpr (by decide +kernel)

/-- The flag of an account has the name of another account, and an argument that shares its name
with an account keeps its hyphen. -/
theorem signer_flag_and_mark_leave_gaps :
    let r : Renderer := ⟨⟨.unreal5, "Vault"⟩, false, false, []⟩
    let program : ProgramNode := ⟨"vault", "", "", "", [], [], [], [], [], [], false⟩
    let account (name : String) (signer : Signer) : InstructionAccountNode :=
      ⟨name, [], true, signer, false, none⟩
    let memo : InstructionNode :=
      ⟨"memo", [], [account "author" .either, account "authorIsSigner" .never], [], [], false⟩
    let deposit : InstructionNode :=
      ⟨"deposit", [], [account "fee-rate" .never],
        [⟨"fee-rate", [], .number (.little "u8"), none, ""⟩], [], false⟩
    let parameters (ix : InstructionNode) (data : String) : Option (List String) :=
      (renderArguments r ix.conflicts data ix.arguments).toOption.map
        (constructorParameters r ix.accounts)
    (HasPlainNames memo ∧ (renderInstruction r program memo).toBool = true ∧
      parameters memo "MemoInstructionData" =
        some ["FPublicKey Author", "FPublicKey AuthorIsSigner", "bool AuthorIsSigner"] ∧
      ¬ (parameterNames memo).Nodup) ∧
    (HasPlainNames deposit ∧ (renderInstruction r program deposit).toBool = true ∧
      parameters deposit "DepositInstructionData" =
        some ["FPublicKey FeeRate", "uint8 fee-rate_arg"] ∧
      ¬ ∀ name ∈ parameterNames deposit, IsIdentifier name) := by
  intro r program account memo deposit parameters
  have hmemo : HasPlainNames memo := ⟨by decide, by decide, by decide +kernel, by decide +kernel⟩
  have hdeposit : HasPlainNames deposit :=
    ⟨by decide, by decide, by decide +kernel, by decide +kernel⟩
  exact ⟨⟨hmemo, by decide +kernel, by decide +kernel, by decide +kernel⟩,
    ⟨hdeposit, by decide +kernel, by decide +kernel, by decide +kernel⟩⟩

end ClientGen.Render
