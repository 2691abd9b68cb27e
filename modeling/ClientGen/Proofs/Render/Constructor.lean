import ClientGen.Proofs.Cpp.Tracking
import ClientGen.Render.Instruction
/-!
# Constructors of instructions

The type of an argument is lowered twice: on its own for the parameter of the constructor, and as a
part of the data struct for the member. Both come to one spelling, so the constructor assigns every
parameter to a member of the same type. Arguments that the caller does not see are left to the
initial values of their members.
-/
namespace ClientGen.Render

open ClientGen.Idl ClientGen.Cpp

/-! ### Classes of arguments -/

inductive ArgumentClass where
  | preset
  | required
  | optional
deriving DecidableEq, Repr

/-- The class of an argument: one without a literal default is required, and one with a literal
default is preset if its strategy is to omit it. -/
def argumentClass (node : ArgumentNode) : ArgumentClass :=
  if !hasLiteral node.defaultValue then .required
  else if node.strategy == omittedStrategy then .preset
  else .optional

structure Parameter where
  type : String
  name : String
  default : Option String

def Parameter.text (p : Parameter) : String :=
  match p.default with
  | none => p.type ++ " " ++ p.name
  | some value => p.type ++ " " ++ p.name ++ " = " ++ value

/-- An argument with what the constructor and the data struct make of it. -/
structure Binding where
  node : ArgumentNode
  argument : Argument
  member : Member

namespace Binding

def cls (b : Binding) : ArgumentClass := argumentClass b.node

def parameter (b : Binding) : Parameter where
  type := b.argument.type
  name := b.argument.parameter
  default :=
    match b.argument.role with
    | .optional value => some value
    | _ => none

/-- The statement that assigns the parameter to the member. -/
def assignment (b : Binding) : String :=
  "\n\t\tArgs." ++ b.member.name ++ " = " ++ b.parameter.name ++ ";"

end Binding

/-- The text of the literal default of an argument. -/
def IsDefaultText (r : Renderer) (node : ArgumentNode) (text : String) : Prop :=
  ∃ value l, node.defaultValue = some value ∧ value.isLiteral = true ∧
    literal r.target false value = .ok l ∧ l.text = text

/-- Parameter and member of an argument fit its class and each other. -/
structure Binding.Fits (r : Renderer) (data : String) (b : Binding) : Prop where
  name : b.member.name = Naming.pascal b.node.name
  field : b.argument.field = b.member.name
  /-- A preset member starts with the default. -/
  preset : b.cls = .preset →
    b.argument.role = .preset ∧ ∃ text, IsDefaultText r b.node text ∧ b.member.initial = some text
  required : b.cls = .required → b.argument.role = .required
  optional : b.cls = .optional →
    ∃ text, IsDefaultText r b.node text ∧ b.argument.role = .optional text
  /-- Any other member has the type of the parameter, without a declarator. -/
  typed : b.cls ≠ .preset →
    (∃ m, lower r.target { Context.root (data ++ Naming.pascal b.node.name) with nested := true }
        b.node.type = .ok m ∧ b.parameter.type = (m.materialize r.target).type) ∧
      b.member.type = b.parameter.type ∧ b.member.dims = [] ∧ b.member.initial = none

theorem hasLiteral_eq (value : Option ValueNode) :
    hasLiteral value = (value.filter (·.isLiteral)).isSome := by
  rw [hasLiteral, Option.isSome_filter]

theorem isDefaultText_of_filter {r : Renderer} {node : ArgumentNode} {value : ValueNode}
    {place : Cpp.Place} {l : Literal}
    (hvalue : node.defaultValue.filter (·.isLiteral) = some value)
    (hl : Generated.inside place (literal r.target false value) = .ok l) :
    IsDefaultText r node l.text := by
  obtain ⟨hvalue, hliteral⟩ := Option.filter_eq_some_iff.mp hvalue
  exact ⟨value, l, hvalue, hliteral, Generated.inside_eq_ok_iff.mp hl, rfl⟩

theorem renderArgument_ok {r : Renderer} {conflicts : List String} {data : String}
    {node : ArgumentNode} {argument : Argument}
    (h : renderArgument r conflicts data node = .ok argument) :
    ∃ m, lower r.target { Context.root (data ++ Naming.pascal node.name) with nested := true }
        node.type = .ok m ∧
      argument.field = Naming.pascal node.name ∧
      argument.type = (m.materialize r.target).type ∧
      match argumentClass node with
      | .preset => argument.role = .preset
      | .required => argument.role = .required
      | .optional => ∃ text, IsDefaultText r node text ∧ argument.role = .optional text := by
  obtain ⟨m, hm, h⟩ := Generated.bind_eq_ok_iff.mp h
  refine ⟨m, Generated.inside_eq_ok_iff.mp hm, ?_⟩
  rw [argumentClass, hasLiteral_eq]
  cases hliteral : node.defaultValue.filter (·.isLiteral) with
  | none =>
    rw [hliteral] at h
    obtain rfl := Except.ok.inj h
    exact ⟨rfl, rfl, rfl⟩
  | some value =>
    rw [hliteral] at h
    obtain ⟨l, hl, h⟩ := Generated.bind_eq_ok_iff.mp h
    cases homitted : node.strategy == omittedStrategy with
    | true =>
      rw [homitted, if_pos rfl] at h
      obtain rfl := Except.ok.inj h
      exact ⟨rfl, rfl, rfl⟩
    | false =>
      rw [homitted, if_neg Bool.false_ne_true] at h
      obtain rfl := Except.ok.inj h
      exact ⟨rfl, rfl, l.text, isDefaultText_of_filter hliteral hl, rfl⟩

/-- The context in which the data struct of an instruction is lowered. -/
def dataContext (data : String) : Context := { Context.root data with assignable := true }

theorem lowerField_ok {r : Renderer} {data : String} {node : ArgumentNode} {field : LoweredField}
    (h : lowerField r.target (dataContext data).child node.field = .ok field) :
    ∃ m, lower r.target { Context.root (data ++ Naming.pascal node.name) with nested := true }
        node.type = .ok m ∧
      field.member.name = Naming.pascal node.name ∧
      match argumentClass node with
      | .preset => ∃ text, IsDefaultText r node text ∧ field.member.initial = some text
      | _ => field.member.type = (m.materialize r.target).type ∧ field.member.dims = [] ∧
          field.member.initial = none := by
  rw [ArgumentNode.field, lowerField] at h
  obtain ⟨_, -, h⟩ := Generated.bind_eq_ok_iff.mp h
  obtain ⟨m, hm, h⟩ := Generated.bind_eq_ok_iff.mp h
  refine ⟨m, Generated.inside_eq_ok_iff.mp hm, ?_⟩
  rw [argumentClass, hasLiteral_eq]
  unfold presetValue at h
  cases homitted : node.strategy == omittedStrategy with
  | true =>
    rw [homitted, if_pos rfl] at h
    cases hliteral : node.defaultValue.filter (·.isLiteral) with
    | none =>
      rw [hliteral] at h
      obtain rfl := Except.ok.inj h
      exact ⟨rfl, rfl, Manifest.materialize_dims .., rfl⟩
    | some value =>
      rw [hliteral] at h
      obtain ⟨l, hl, h⟩ := Generated.bind_eq_ok_iff.mp h
      obtain rfl := Except.ok.inj h
      exact ⟨rfl, l.text, isDefaultText_of_filter hliteral hl, rfl⟩
  | false =>
    rw [homitted, if_neg Bool.false_ne_true] at h
    obtain rfl := Except.ok.inj h
    cases node.defaultValue.filter (·.isLiteral) with
    | none => exact ⟨rfl, rfl, Manifest.materialize_dims .., rfl⟩
    | some value => exact ⟨rfl, rfl, Manifest.materialize_dims .., rfl⟩

/-- An argument that is lowered both ways fits. -/
theorem Binding.fits_of_ok {r : Renderer} {conflicts : List String} {data : String}
    {node : ArgumentNode} {argument : Argument} {field : LoweredField}
    (hargument : renderArgument r conflicts data node = .ok argument)
    (hfield : lowerField r.target (dataContext data).child node.field = .ok field) :
    Binding.Fits r data ⟨node, argument, field.member⟩ := by
  obtain ⟨m, hm, hname, htype, hrole⟩ := renderArgument_ok hargument
  obtain ⟨m', hm', hname', hmember⟩ := lowerField_ok hfield
  -- the two contexts unfold to the same one, so the two manifests are one
  obtain rfl : m = m' := Except.ok.inj (hm.symm.trans hm')
  refine ⟨hname', hname.trans hname'.symm, ?_, ?_, ?_, ?_⟩
  · intro hclass
    rw [show argumentClass node = .preset from hclass] at hrole hmember
    exact ⟨hrole, hmember⟩
  · intro hclass
    rw [show argumentClass node = .required from hclass] at hrole
    exact hrole
  · intro hclass
    rw [show argumentClass node = .optional from hclass] at hrole
    exact hrole
  · intro hclass
    refine ⟨⟨m, hm, htype⟩, ?_⟩
    rw [show (Binding.parameter ⟨node, argument, field.member⟩).type = _ from htype]
    cases hvisible : argumentClass node with
    | preset => exact absurd hvisible hclass
    | required =>
      rw [hvisible] at hmember
      exact hmember
    | optional =>
      rw [hvisible] at hmember
      exact hmember

/-- All arguments of an instruction, each with its parameter and its member. -/
theorem bindings_of_ok {r : Renderer} {conflicts : List String} {data : String}
    (nodes : List ArgumentNode) :
    ∀ (includes : IncludeSet) (arguments : List Argument) (fields : LoweredFields),
      renderArguments r conflicts data nodes = .ok arguments →
      lowerFieldsOver r.target (dataContext data).child includes (nodes.map (·.field)) =
        .ok fields →
      ∃ bindings : List Binding, bindings.map (·.node) = nodes ∧
        bindings.map (·.argument) = arguments ∧ bindings.map (·.member) = fields.members ∧
        ∀ b ∈ bindings, b.Fits r data := by
  induction nodes with
  | nil =>
    intro includes arguments fields harguments hfields
    cases harguments
    cases hfields
    exact ⟨[], rfl, rfl, rfl, fun b hb => absurd hb List.not_mem_nil⟩
  | cons node rest ih =>
    intro includes arguments fields harguments hfields
    obtain ⟨argument, hargument, harguments⟩ := Generated.bind_eq_ok_iff.mp harguments
    obtain ⟨arguments', harguments', harguments⟩ := Generated.bind_eq_ok_iff.mp harguments
    obtain rfl := Except.ok.inj harguments
    rw [List.map_cons, lowerFieldsOver] at hfields
    obtain ⟨field, hfield, hfields⟩ := Generated.bind_eq_ok_iff.mp hfields
    obtain ⟨fields', hfields', hfields⟩ := Generated.bind_eq_ok_iff.mp hfields
    obtain rfl := Except.ok.inj hfields
    obtain ⟨bindings, hnodes, hbound, hmembers, hfits⟩ := ih _ _ _ harguments' hfields'
    refine ⟨⟨node, argument, field.member⟩ :: bindings, ?_, ?_, ?_, ?_⟩
    · rw [List.map_cons, hnodes]
    · rw [List.map_cons, hbound]
    · rw [List.map_cons, hmembers]
    · intro b hb
      rcases List.mem_cons.mp hb with rfl | hb
      · exact Binding.fits_of_ok hargument hfield
      · exact hfits b hb

/-! ### The parameters and the assignments -/

/-- The parameters of a constructor: the accounts, the flags of those that may sign or not, and the
arguments that the caller sees, those with a default last. -/
def parameterList (r : Renderer) (accounts : List InstructionAccountNode)
    (bindings : List Binding) : List Parameter :=
  accounts.map (fun a => ⟨r.flavor.publicKey.spelling, accountName a, none⟩)
    ++ (accounts.filter (·.signer == .either)).map
      (fun a => ⟨"bool", accountName a ++ "IsSigner", none⟩)
    ++ (bindings.filter (·.cls == .required)).map (·.parameter)
    ++ (bindings.filter (·.cls == .optional)).map (·.parameter)

private theorem filterMap_eq_map_filter {α β : Type} {f : α → Option β} {p : α → Bool} {g : α → β}
    (list : List α) (h : ∀ a ∈ list, f a = if p a then some (g a) else none) :
    list.filterMap f = (list.filter p).map g := by
  induction list with
  | nil => rfl
  | cons a rest ih =>
    have hfirst := h a List.mem_cons_self
    have hrest := ih fun b hb => h b (List.mem_cons_of_mem a hb)
    rw [List.filterMap_cons, List.filter_cons, hfirst, hrest]
    cases p a <;> rfl

theorem Binding.Fits.requiredParameter? {r : Renderer} {data : String} {b : Binding}
    (h : b.Fits r data) :
    requiredParameter? b.argument = if b.cls == .required then some b.parameter.text else none := by
  cases hclass : b.cls with
  | preset =>
    rw [Render.requiredParameter?, (h.preset hclass).1]
    rfl
  | required =>
    rw [Render.requiredParameter?, Parameter.text, Binding.parameter, h.required hclass]
    rfl
  | optional =>
    obtain ⟨text, -, hrole⟩ := h.optional hclass
    rw [Render.requiredParameter?, hrole]
    rfl

theorem Binding.Fits.optionalParameter? {r : Renderer} {data : String} {b : Binding}
    (h : b.Fits r data) :
    optionalParameter? b.argument = if b.cls == .optional then some b.parameter.text else none := by
  cases hclass : b.cls with
  | preset =>
    rw [Render.optionalParameter?, (h.preset hclass).1]
    rfl
  | required =>
    rw [Render.optionalParameter?, h.required hclass]
    rfl
  | optional =>
    obtain ⟨text, -, hrole⟩ := h.optional hclass
    rw [Render.optionalParameter?, Parameter.text, Binding.parameter, hrole]
    rfl

theorem Binding.Fits.assignmentLine {r : Renderer} {data : String} {b : Binding}
    (h : b.Fits r data) :
    assignmentLine b.argument = if b.cls == .preset then "" else b.assignment := by
  cases hclass : b.cls with
  | preset =>
    rw [Render.assignmentLine, (h.preset hclass).1]
    rfl
  | required =>
    rw [Render.assignmentLine, h.required hclass, h.field]
    rfl
  | optional =>
    obtain ⟨text, -, hrole⟩ := h.optional hclass
    rw [Render.assignmentLine, hrole, h.field]
    rfl

theorem constructorParameters_eq {r : Renderer} {data : String}
    (accounts : List InstructionAccountNode) {bindings : List Binding}
    (h : ∀ b ∈ bindings, b.Fits r data) :
    constructorParameters r accounts (bindings.map (·.argument)) =
      (parameterList r accounts bindings).map (·.text) := by
  have hsigners : signerParameters accounts =
      ((accounts.filter (·.signer == .either)).map
        fun a => Parameter.mk "bool" (accountName a ++ "IsSigner") none).map (·.text) := by
    rw [signerParameters, List.map_map]
    apply List.map_congr_left
    intro a ha
    have heither : a.signer = .either := beq_iff_eq.mp (List.mem_filter.mp ha).2
    have hbool : "bool " = "bool" ++ " " := by decide
    rw [signerText, heither, hbool]
    rfl
  have hrequired : (bindings.map (·.argument)).filterMap requiredParameter? =
      (bindings.filter (·.cls == .required)).map (·.parameter.text) := by
    rw [List.filterMap_map]
    exact filterMap_eq_map_filter bindings fun b hb => (h b hb).requiredParameter?
  have hoptional : (bindings.map (·.argument)).filterMap optionalParameter? =
      (bindings.filter (·.cls == .optional)).map (·.parameter.text) := by
    rw [List.filterMap_map]
    exact filterMap_eq_map_filter bindings fun b hb => (h b hb).optionalParameter?
  rw [constructorParameters, parameterList, hsigners, hrequired, hoptional, accountParameters]
  simp only [List.map_append, List.map_map]
  rfl

theorem Binding.Fits.default_of_required {r : Renderer} {data : String} {b : Binding}
    (h : b.Fits r data) (hclass : b.cls = .required) : b.parameter.default = none := by
  rw [Binding.parameter, h.required hclass]

theorem Binding.Fits.default_of_optional {r : Renderer} {data : String} {b : Binding}
    (h : b.Fits r data) (hclass : b.cls = .optional) : b.parameter.default.isSome = true := by
  obtain ⟨text, -, hrole⟩ := h.optional hclass
  rw [Binding.parameter, hrole]
  rfl

/-- No parameter without a default follows one with a default. -/
theorem parameterList_defaults_last {r : Renderer} {data : String}
    (accounts : List InstructionAccountNode) {bindings : List Binding}
    (h : ∀ b ∈ bindings, b.Fits r data) :
    (parameterList r accounts bindings).Pairwise
      fun p q => p.default.isSome = true → q.default.isSome = true := by
  have hfirst (p : Parameter)
      (hp : p ∈ accounts.map (fun a => ⟨r.flavor.publicKey.spelling, accountName a, none⟩)
        ++ (accounts.filter (·.signer == .either)).map
          (fun a => ⟨"bool", accountName a ++ "IsSigner", none⟩)
        ++ (bindings.filter (·.cls == .required)).map (·.parameter)) : p.default = none := by
    rw [List.mem_append, List.mem_append, List.mem_map, List.mem_map, List.mem_map] at hp
    rcases hp with (⟨a, -, rfl⟩ | ⟨a, -, rfl⟩) | ⟨b, hb, rfl⟩
    · rfl
    · rfl
    · obtain ⟨hmem, hclass⟩ := List.mem_filter.mp hb
      exact (h b hmem).default_of_required (beq_iff_eq.mp hclass)
  have hoptional (p : Parameter)
      (hp : p ∈ (bindings.filter (·.cls == .optional)).map (·.parameter)) :
      p.default.isSome = true := by
    obtain ⟨b, hb, rfl⟩ := List.mem_map.mp hp
    obtain ⟨hmem, hclass⟩ := List.mem_filter.mp hb
    exact (h b hmem).default_of_optional (beq_iff_eq.mp hclass)
  rw [parameterList, List.pairwise_append]
  refine ⟨?_, ?_, ?_⟩
  · apply List.pairwise_iff_forall_sublist.mpr
    intro p q hsublist hdefault
    rw [hfirst p (hsublist.subset List.mem_cons_self)] at hdefault
    cases hdefault
  · apply List.pairwise_iff_forall_sublist.mpr
    intro p q hsublist _
    exact hoptional q (hsublist.subset (List.mem_cons_of_mem p List.mem_cons_self))
  · intro p _ q hq _
    exact hoptional q hq

/-! ### The page -/

/-- The constructor of an instruction as it is written: its parameters in their order, and in its
body one assignment for each argument that the caller sees, in the order of the document. -/
def constructorText (r : Renderer) (program : ProgramNode) (ix : InstructionNode)
    (bindings : List Binding) : String :=
  let name := Naming.pascal ix.name
  let parameters := (parameterList r ix.accounts bindings).map (·.text)
  let assignments := (bindings.filter (·.cls != .preset)).map (·.assignment)
  r.flavor.structName (name ++ "Instruction") ++ "(" ++ String.intercalate ", " parameters
    ++ ")\n\t\x7b\n\t\t" ++ "ProgramId = " ++ programConstant program ++ ";"
    ++ String.join (ix.accounts.map (accountLine r))
    ++ "\n\t\t" ++ r.flavor.structName (name ++ "InstructionData") ++ " Args;"
    ++ String.join assignments ++ "\n\t\tData = BorshSerialize(Args);\n\t\x7d"

/-- A page that ends with the data struct of an instruction, the function that serialises it and the
class of the instruction, in which there is nothing but the constructor. -/
def HoldsConstructor (r : Renderer) (program : ProgramNode) (ix : InstructionNode)
    (bindings : List Binding) (page : String) : Prop :=
  let name := Naming.pascal ix.name
  let data := r.flavor.structName (name ++ "InstructionData")
  ∃ before, page = before ++ (Declaration.struct data (bindings.map (·.member))).text
    ++ "\n\n" ++ serializer data (bindings.map (·.member.name))
    ++ "\n\n" ++ docBlock ix.docs ++ "struct " ++ r.flavor.structName (name ++ "Instruction")
    ++ " : " ++ r.flavor.instruction.spelling ++ "\n\x7b\n\t" ++ constructorText r program ix bindings
    ++ "\n\x7d;\n"

private theorem join_map_if {α : Type} (p : α → Bool) (f : α → String) (list : List α) :
    String.join (list.map fun a => if p a then "" else f a) =
      String.join ((list.filter fun a => !p a).map f) := by
  induction list with
  | nil => rfl
  | cons a rest ih =>
    rw [List.map_cons, String.join_cons, ih, List.filter_cons]
    cases p a with
    | true => exact String.empty_append
    | false => exact (String.join_cons ..).symm

theorem instructionClass_eq {r : Renderer} {data : String} {bindings : List Binding}
    (h : ∀ b ∈ bindings, b.Fits r data) (program : ProgramNode) (ix : InstructionNode) :
    instructionClass r program (Naming.pascal ix.name) ix.accounts (bindings.map (·.argument))
        (r.flavor.structName (Naming.pascal ix.name ++ "InstructionData")) =
      "struct " ++ r.flavor.structName (Naming.pascal ix.name ++ "Instruction") ++ " : "
        ++ r.flavor.instruction.spelling ++ "\n\x7b\n\t" ++ constructorText r program ix bindings
        ++ "\n\x7d;" := by
  have hassignments : String.join ((bindings.map (·.argument)).map assignmentLine) =
      String.join ((bindings.filter (·.cls != .preset)).map (·.assignment)) := by
    calc String.join ((bindings.map (·.argument)).map assignmentLine)
        = String.join (bindings.map fun b => if b.cls == .preset then "" else b.assignment) := by
          rw [List.map_map]
          exact congrArg String.join (List.map_congr_left fun b hb => (h b hb).assignmentLine)
      _ = String.join ((bindings.filter (·.cls != .preset)).map (·.assignment)) :=
          join_map_if (fun b : Binding => b.cls == .preset) ..
  have hclose : "\n\t\tData = BorshSerialize(Args);\n\t\x7d\n\x7d;" =
      "\n\t\tData = BorshSerialize(Args);\n\t\x7d" ++ "\n\x7d;" := by decide
  unfold instructionClass constructorText
  dsimp only
  rw [constructorParameters_eq _ h, hassignments, hclose]
  simp only [String.append_assoc]

/-- The page of an instruction whose arguments fit holds the data struct and the constructor. -/
theorem instructionPage_holdsConstructor {r : Renderer} {program : ProgramNode}
    {ix : InstructionNode} {m : Manifest} {bindings : List Binding}
    (hnodes : bindings.map (·.node) = ix.arguments)
    (htype : m.type = (Declaration.struct
      (r.flavor.structName (Naming.pascal ix.name ++ "InstructionData"))
      (bindings.map (·.member))).text)
    (hfits : ∀ b ∈ bindings, b.Fits r (Naming.pascal ix.name ++ "InstructionData"))
    (includes : IncludeSet) :
    HoldsConstructor r program ix bindings (instructionPage r program ix
      (bindings.map (·.argument)) (declare r.target (Naming.pascal ix.name ++ "InstructionData")
        (.struct ix.data) m) includes) := by
  have hnames : (ix.data.map fun f => Naming.pascal f.name) = bindings.map (·.member.name) := by
    rw [InstructionNode.data, ← hnodes, List.map_map, List.map_map]
    exact List.map_congr_left fun b hb => (hfits b hb).name.symm
  have hclass := instructionClass_eq hfits program ix
  have hend : "\n\x7d;\n" = "\n\x7d;" ++ "\n" := by decide
  refine ⟨headerTop ++ r.includeBlock includes ++ "\n\n"
    ++ accountsStruct r (Naming.pascal ix.name) ix.accounts ++ nestedBlock m.nested ++ "\n\n", ?_⟩
  unfold instructionPage declare TopLevel.serializerBlock
  dsimp only
  rw [hnames, htype]
  change _ ++ instructionClass r program _ _ _ (r.flavor.structName _) ++ "\n" = _
  rw [hclass, hend]
  simp only [String.append_assoc]
  rfl

/-- What a rendered instruction is made from: the arguments, each with its parameter and its member,
and the lowered data. -/
theorem bindings_of_renderInstruction {r : Renderer} {program : ProgramNode}
    {ix : InstructionNode} {map : FileMap} (h : renderInstruction r program ix = .ok map) :
    let data := Naming.pascal ix.name ++ "InstructionData"
    ∃ (bindings : List Binding) (m : Manifest) (includes : IncludeSet),
      map = FileMap.empty.add (r.headerPath "Instructions" (Naming.pascal ix.name))
        (instructionPage r program ix (bindings.map (·.argument))
          (declare r.target data (.struct ix.data) m) includes) ∧
      renderArguments r ix.conflicts data ix.arguments = .ok (bindings.map (·.argument)) ∧
      lower r.target (dataContext data) (.struct ix.data) = .ok m ∧
      m.type = (Declaration.struct (r.flavor.structName data) (bindings.map (·.member))).text ∧
      bindings.map (·.node) = ix.arguments ∧
      ∀ b ∈ bindings, b.Fits r data := by
  intro data
  obtain ⟨arguments, harguments, h⟩ := Generated.bind_eq_ok_iff.mp h
  obtain ⟨m, hm, h⟩ := Generated.bind_eq_ok_iff.mp h
  have hm := Generated.inside_eq_ok_iff.mp hm
  obtain rfl := Except.ok.inj h
  have hstruct := hm
  rw [lower] at hstruct
  obtain ⟨_, -, hstruct⟩ := Generated.bind_eq_ok_iff.mp hstruct
  obtain ⟨fields, hfields, hstruct⟩ := Generated.bind_eq_ok_iff.mp hstruct
  obtain ⟨bindings, hnodes, hbound, hmembers, hfits⟩ :=
    bindings_of_ok ix.arguments _ arguments fields harguments hfields
  subst hbound
  refine ⟨bindings, m, _, rfl, harguments, hm, ?_, hnodes, hfits⟩
  rw [hmembers, ← Except.ok.inj hstruct]
  rfl

/-- The file of a rendered instruction and what stands in it. -/
theorem files_of_renderInstruction {r : Renderer} {program : ProgramNode} {ix : InstructionNode}
    {m : Manifest} {includes : IncludeSet} {bindings : List Binding} {map : FileMap}
    (hmap : map = FileMap.empty.add (r.headerPath "Instructions" (Naming.pascal ix.name))
      (instructionPage r program ix (bindings.map (·.argument))
        (declare r.target (Naming.pascal ix.name ++ "InstructionData") (.struct ix.data) m) includes))
    (htype : m.type = (Declaration.struct
      (r.flavor.structName (Naming.pascal ix.name ++ "InstructionData"))
      (bindings.map (·.member))).text)
    (hnodes : bindings.map (·.node) = ix.arguments)
    (hfits : ∀ b ∈ bindings, b.Fits r (Naming.pascal ix.name ++ "InstructionData")) :
    ∃ page, map.files = [(r.headerPath "Instructions" (Naming.pascal ix.name), page)] ∧
      HoldsConstructor r program ix bindings page := by
  subst hmap
  exact ⟨_, rfl, instructionPage_holdsConstructor hnodes htype hfits includes⟩

/-- The constructor of an instruction passes every argument that the caller sees to a member of the
same type, and leaves the others to their initial values. The one file of the instruction holds the
struct of these members and the constructor with these parameters and assignments. -/
theorem constructor_assigns_same_types {r : Renderer} {program : ProgramNode}
    {ix : InstructionNode} {map : FileMap} (h : renderInstruction r program ix = .ok map) :
    let name := Naming.pascal ix.name
    let data := name ++ "InstructionData"
    let type := TypeNode.struct ix.data
    ∃ (bindings : List Binding) (m : Manifest) (includes : IncludeSet),
      let arguments := bindings.map (·.argument)
      let parameters := parameterList r ix.accounts bindings
      map = FileMap.empty.add (r.headerPath "Instructions" name)
        (instructionPage r program ix arguments (declare r.target data type m) includes) ∧
      (∃ page, map.files = [(r.headerPath "Instructions" name, page)] ∧
        HoldsConstructor r program ix bindings page) ∧
      lower r.target (dataContext data) type = .ok m ∧
      m.type = (Declaration.struct (r.flavor.structName data) (bindings.map (·.member))).text ∧
      bindings.map (·.node) = ix.arguments ∧
      (∀ b ∈ bindings, b.Fits r data) ∧
      arguments.map assignmentLine =
        bindings.map (fun b => if b.cls == .preset then "" else b.assignment) ∧
      constructorParameters r ix.accounts arguments = parameters.map (·.text) ∧
      parameters.Pairwise fun p q => p.default.isSome = true → q.default.isSome = true := by
  intro name data type
  obtain ⟨bindings, m, includes, hmap, -, hm, htype, hnodes, hfits⟩ :=
    bindings_of_renderInstruction h
  refine ⟨bindings, m, includes, hmap, files_of_renderInstruction hmap htype hnodes hfits, hm, htype,
    hnodes, hfits, ?_, constructorParameters_eq _ hfits, parameterList_defaults_last _ hfits⟩
  rw [List.map_map]
  exact List.map_congr_left fun b hb => (hfits b hb).assignmentLine

/-- An array that is required, a mark that is preset and a flag that has a default. -/
theorem constructor_assigns_same_types_deposit :
    let r : Renderer := ⟨⟨.unreal5, "Vault"⟩, false, false, []⟩
    let byte := TypeNode.number (.little "u8")
    let program : ProgramNode := ⟨"vault", "", "", "", [], [], [], [], [], [], false⟩
    let ix : InstructionNode :=
      ⟨"deposit", [], [⟨"payer", [], true, .either, false, none⟩],
        [⟨"flag", [], byte, some (.number "1"), ""⟩,
         ⟨"mark", [], byte, some (.number "7"), omittedStrategy⟩,
         ⟨"raw", [], .array byte (.fixed 4), none, ""⟩], [], false⟩
    ∃ (map : FileMap) (bindings : List Binding),
      renderInstruction r program ix = .ok map ∧
      bindings.map (·.cls) = [.optional, .preset, .required] ∧
      ∀ b ∈ bindings, b.Fits r "DepositInstructionData" := by
  intro r byte program ix
  have hname : Naming.pascal ix.name ++ "InstructionData" = "DepositInstructionData" := by
    decide +kernel
  cases hmap : renderInstruction r program ix with
  | error e =>
    have hok : (renderInstruction r program ix).toBool = true := by decide +kernel
    rw [hmap] at hok
    cases hok
  | ok map =>
    obtain ⟨bindings, -, -, -, -, -, -, hnodes, hfits, -⟩ := constructor_assigns_same_types hmap
    refine ⟨map, bindings, rfl, ?_, ?_⟩
    · calc bindings.map (·.cls) = (bindings.map (·.node)).map argumentClass := by
            rw [List.map_map]
            rfl
        _ = ix.arguments.map argumentClass := by rw [hnodes]
        _ = [.optional, .preset, .required] := by decide +kernel
    · rw [← hname]
      exact hfits

end ClientGen.Render
