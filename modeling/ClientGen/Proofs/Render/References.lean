import Mathlib.Data.List.Forall2
import ClientGen.Proofs.Render.Contents
import ClientGen.Proofs.Render.IncludeBlock
/-!
# What the header of an entity asks for

The header of an entity includes the headers of the constructs that occur in its types and values.
On top of these it includes only headers that every module can count on: those of other modules,
the one with the helpers and the one of the programs. So links are the only headers that depend on
what the document declares.
-/
namespace ClientGen.Render

open ClientGen.Idl ClientGen.Cpp

/-- The headers that the helpers of a module need. -/
def helperHeaders : Template → List String
  | .unrealModuleHeader =>
    ["CoreMinimal.h", "Algo/Reverse.h", "Modules/ModuleManager.h", "Solana/PublicKey.h",
     "type_traits"]
  | .standardModuleHeader =>
    ["algorithm", "cstdint", "cstring", "string", "type_traits", "vector", "Solana/PublicKey.h"]
  | _ => []

/-- The headers of other modules that generated files include. -/
def externalHeaders (flavor : Flavor) : List String :=
  ownHeaders flavor ++
    [flavor.accountMeta.header, flavor.instruction.header, flavor.errorsHeader, borshHeader] ++
    helperHeaders flavor.moduleHeader

namespace Renderer

/-- The headers that are there whatever a document declares. -/
def baseHeaders (r : Renderer) : List String :=
  externalHeaders r.flavor ++ [r.target.moduleHeader, r.programsHeader]

/-- A set that lists the headers of some constructs, and otherwise only headers that are there
anyway. -/
def Asks (r : Renderer) (used : List Construct) (set : IncludeSet) : Prop :=
  ∃ extra, extra ⊆ r.baseHeaders ∧ set.Lists (headersOf r.target used ++ extra)

section

variable {r : Renderer} {set other : IncludeSet} {used more : List Construct}

theorem Asks.of_lists (h : set.Lists (headersOf r.target used)) : r.Asks used set :=
  ⟨[], List.nil_subset _, by rwa [List.append_nil]⟩

theorem Asks.merge (h : r.Asks used set) (h' : r.Asks more other) :
    r.Asks (used ++ more) (set.merge other) := by
  obtain ⟨extra, hextra, hlists⟩ := h
  obtain ⟨extra', hextra', hlists'⟩ := h'
  refine ⟨extra ++ extra', List.append_subset.mpr ⟨hextra, hextra'⟩, ?_⟩
  refine (hlists.merge hlists').congr fun path => ?_
  simp only [headersOf_append, List.mem_append]
  grind

theorem Asks.addAll (h : r.Asks used set) {paths : List String} (hpaths : paths ⊆ r.baseHeaders) :
    r.Asks used (set.addAll paths) := by
  obtain ⟨extra, hextra, hlists⟩ := h
  refine ⟨extra ++ paths, List.append_subset.mpr ⟨hextra, hpaths⟩, ?_⟩
  rw [← List.append_assoc]
  exact hlists.addAll paths

theorem Asks.mergeAll (h : r.Asks used set) {others : List IncludeSet}
    {lists : List (List Construct)} (hothers : List.Forall₂ (fun o l => r.Asks l o) others lists) :
    r.Asks (used ++ lists.flatten) (set.mergeAll others) := by
  induction hothers generalizing set used with
  | nil => simpa [IncludeSet.mergeAll] using h
  | cons hfirst _ ih => simpa [IncludeSet.mergeAll] using ih (h.merge hfirst)

theorem Asks.empty : r.Asks [] IncludeSet.empty := Asks.of_lists IncludeSet.Lists.empty

end

end Renderer

/-! ### Accounts -/

def isVariableSeed : SeedNode → Bool
  | .variable .. => true
  | .constant .. => false

/-- Whether fields and variants are well placed in the type of a seed. -/
def seedWellPlaced : SeedNode → Bool
  | .variable _ _ type => wellPlaced type
  | .constant .. => true

/-- The constructs of a seed. -/
def seedConstructs : SeedNode → List Construct
  | .variable _ _ type => constructs false false type ++ folding (isFixedArray false type)
  | .constant type value =>
    if value.isProgramId then [] else written true (valueConstructs (seedValue type value))

/-- The seeds of the derived address at which an account lives. -/
def seedNodes (links : Links) (a : AccountNode) : List SeedNode :=
  ((a.pda.bind links.pda?).map (·.seeds)).getD []

/-- The constructs that the header of an account asks for. Those of the seeds count only if one of
them is a parameter. -/
def accountConstructs (links : Links) (a : AccountNode) : List Construct :=
  constructs false false a.data ++
    (if (seedNodes links a).any isVariableSeed then (seedNodes links a).flatMap seedConstructs
      else [])

section

variable {r : Renderer} {p : ProgramNode} {links : Links}

/-- A rendered seed against its node. -/
structure Seed.Renders (r : Renderer) (seed : Seed) (node : SeedNode) : Prop where
  asks : r.Asks (seedConstructs node) seed.includes
  parameter : seed.parameter.isSome = isVariableSeed node

theorem renderSeed_renders (account : String) : ∀ node : SeedNode, seedWellPlaced node = true →
    Generated.Ensures (renderSeed r p account node) fun seed => seed.Renders r node
  | .variable name docs type, hplaced => by
    rw [renderSeed]
    have htype := (@lower_needs r.target
      { Context.root (account ++ Naming.pascal name) with nested := true } type hplaced)
    apply (htype.inside (.seed name)).bind
    intro m hm
    split
    · exact Generated.ensures_error _
    · exact Generated.ensures_ok ⟨Renderer.Asks.of_lists hm.materialize.includes, rfl⟩
  | .constant type value, _ => by
    rw [renderSeed]
    split
    · rename_i hprogram
      refine Generated.ensures_ok ⟨?_, rfl⟩
      rw [seedConstructs, if_pos hprogram]
      exact Renderer.Asks.empty
    · rename_i hprogram
      apply ((literal_needs_written true _).inside .constantSeed).bind
      intro l hl
      refine Generated.ensures_ok ⟨?_, rfl⟩
      rw [seedConstructs, if_neg hprogram]
      exact Renderer.Asks.of_lists hl

theorem renderSeeds_renders (account : String) (nodes : List SeedNode)
    (hplaced : ∀ node ∈ nodes, seedWellPlaced node = true) :
    Generated.Ensures (renderSeeds r p account nodes) fun seeds =>
      List.Forall₂ (Seed.Renders r) seeds nodes := by
  induction nodes with
  | nil => exact Generated.ensures_ok .nil
  | cons node rest ih =>
    rw [List.forall_mem_cons] at hplaced
    rw [renderSeeds]
    apply (renderSeed_renders account node hplaced.1).bind
    intro seed hseed
    apply (ih hplaced.2).bind
    intro seeds hseeds
    exact Generated.ensures_ok (.cons hseed hseeds)

theorem accountSeeds_renders {a : AccountNode}
    (hplaced : ∀ node ∈ seedNodes links a, seedWellPlaced node = true) :
    Generated.Ensures (accountSeeds r p a links) fun seeds =>
      List.Forall₂ (Seed.Renders r) seeds (seedNodes links a) := by
  unfold accountSeeds
  unfold seedNodes at hplaced ⊢
  split
  · rename_i hpda
    rw [hpda]
    exact Generated.ensures_ok .nil
  · rename_i name hpda
    rw [hpda] at hplaced ⊢
    split
    · exact Generated.ensures_error _
    · rename_i pda hlink
      rw [Option.bind_some, hlink] at hplaced ⊢
      exact renderSeeds_renders _ pda.seeds hplaced

theorem seedHeaders_asks {used : List Construct} {set : IncludeSet} (h : r.Asks used set)
    {seeds : List Seed} {nodes : List SeedNode}
    (hseeds : List.Forall₂ (Seed.Renders r) seeds nodes) :
    r.Asks (used ++ if nodes.any isVariableSeed then nodes.flatMap seedConstructs else [])
      (seedHeaders r set seeds) := by
  have hparameter : seeds.any (·.parameter.isSome) = nodes.any isVariableSeed := by
    induction hseeds with
    | nil => rfl
    | cons hseed _ ih => rw [List.any_cons, List.any_cons, hseed.parameter, ih]
  have hincludes : List.Forall₂ (fun o l => r.Asks l o) (seeds.map (·.includes))
      (nodes.map seedConstructs) := by
    rw [List.forall₂_map_left_iff, List.forall₂_map_right_iff]
    exact hseeds.imp fun _ _ hseed => hseed.asks
  have hmerged := h.merge (Renderer.Asks.empty.mergeAll hincludes)
  rw [List.nil_append, ← List.flatMap_def] at hmerged
  have hbase : [r.target.moduleHeader, r.flavor.sequence.header] ⊆ r.baseHeaders := by
    simp [Renderer.baseHeaders, externalHeaders, ownHeaders]
  have hprograms : [r.programsHeader] ⊆ r.baseHeaders := by simp [Renderer.baseHeaders]
  have hfirst : r.Asks
      (used ++ if nodes.any isVariableSeed then nodes.flatMap seedConstructs else [])
      (if nodes.any isVariableSeed then
        set.merge (IncludeSet.empty.mergeAll (seeds.map (·.includes))) else set) := by
    split
    · exact hmerged
    · rwa [List.append_nil]
  unfold seedHeaders
  rw [hparameter]
  generalize (used ++ if nodes.any isVariableSeed then nodes.flatMap seedConstructs else []) =
    total at hfirst ⊢
  generalize (if nodes.any isVariableSeed then
    set.merge (IncludeSet.empty.mergeAll (seeds.map (·.includes))) else set) = first at hfirst ⊢
  dsimp only
  have hsecond : r.Asks total (if seeds.isEmpty then first
      else first.addAll [r.target.moduleHeader, r.flavor.sequence.header]) := by
    split
    · exact hfirst
    · exact hfirst.addAll hbase
  split
  · exact hsecond.addAll hprograms
  · exact hsecond

/-- What is declared for a type asks for the constructs of the type. -/
theorem declare_asks {name : String} {ctx : Context} {type : TypeNode} {m : Manifest}
    (hplaced : wellPlaced type = true) (hassign : ctx.assignable = false)
    (hsize : ctx.size = .none) (h : lower r.target ctx type = .ok m) :
    r.Asks (constructs false false type) (declare r.target name type m).headers := by
  have hneeds := (lower_needs ctx type hplaced).of_ok m h
  rw [hassign, hsize] at hneeds
  refine ⟨extraHeaders r.flavor type, ?_, declare_headers name hneeds⟩
  intro path hpath
  unfold extraHeaders at hpath
  split at hpath
  · simp [Renderer.baseHeaders, externalHeaders, List.mem_singleton.mp hpath]
  · split at hpath
    · simp [Renderer.baseHeaders, externalHeaders, ownHeaders, List.mem_singleton.mp hpath]
    · cases hpath

theorem account_asks {a : AccountNode} {m : Manifest} {seeds : List Seed}
    (hdata : wellPlaced a.data = true)
    (hseeds : ∀ node ∈ seedNodes links a, seedWellPlaced node = true)
    (h : r.AccountParts links p a m seeds) :
    r.Asks (accountConstructs links a) (seedHeaders r (r.accountDecl a m).headers seeds) :=
  seedHeaders_asks (declare_asks hdata rfl rfl h.data)
    ((accountSeeds_renders hseeds).of_ok seeds h.seeds)

/-! ### Instructions -/

/-- The constructs that an argument asks for besides being serialised. -/
def argumentConstructs (a : ArgumentNode) : List Construct :=
  match a.defaultValue.filter (·.isLiteral) with
  | none => constructs false false a.type ++ folding (isFixedArray false a.type)
  | some value =>
    if a.strategy == omittedStrategy then []
    else
      constructs false false a.type ++ folding (isFixedArray false a.type) ++ valueConstructs value

/-- The constructs that the header of an instruction asks for. -/
def instructionConstructs (ix : InstructionNode) : List Construct :=
  ix.arguments.flatMap argumentConstructs ++ fieldConstructs true ix.data

theorem renderArgument_asks (conflicts : List String) (data : String) {a : ArgumentNode}
    (hplaced : wellPlaced a.type = true) :
    Generated.Ensures (renderArgument r conflicts data a) fun argument =>
      r.Asks (argumentConstructs a) argument.includes := by
  rw [renderArgument]
  have htype := @lower_needs r.target
    { Context.root (data ++ Naming.pascal a.name) with nested := true } a.type hplaced
  apply (htype.inside (.argument a.name)).bind
  intro m hm
  have hlists := hm.materialize.includes
  unfold argumentConstructs
  cases a.defaultValue.filter (·.isLiteral) with
  | none => exact Generated.ensures_ok (Renderer.Asks.of_lists hlists)
  | some value =>
    apply ((literal_needs value).inside (.argumentDefault a.name)).bind
    intro l hl
    cases a.strategy == omittedStrategy with
    | true => exact Generated.ensures_ok Renderer.Asks.empty
    | false =>
      exact Generated.ensures_ok
        ((Renderer.Asks.of_lists hlists).merge (Renderer.Asks.of_lists hl))

theorem renderArguments_asks (conflicts : List String) (data : String)
    (arguments : List ArgumentNode) (hplaced : ∀ a ∈ arguments, wellPlaced a.type = true) :
    Generated.Ensures (renderArguments r conflicts data arguments) fun rendered =>
      List.Forall₂ (fun o l => r.Asks l o) (rendered.map (·.includes))
        (arguments.map argumentConstructs) := by
  induction arguments with
  | nil => exact Generated.ensures_ok .nil
  | cons a rest ih =>
    rw [List.forall_mem_cons] at hplaced
    rw [renderArguments]
    apply (renderArgument_asks conflicts data hplaced.1).bind
    intro first hfirst
    apply (ih hplaced.2).bind
    intro rendered hrendered
    exact Generated.ensures_ok (.cons hfirst hrendered)

theorem wellPlacedFields_data {ix : InstructionNode}
    (h : ∀ a ∈ ix.arguments, wellPlaced a.type = true) : wellPlacedFields ix.data = true := by
  unfold InstructionNode.data
  generalize ix.arguments = arguments at h ⊢
  induction arguments with
  | nil => rfl
  | cons a rest ih =>
    rw [List.forall_mem_cons] at h
    rw [List.map_cons, ArgumentNode.field, wellPlacedFields, h.1, ih h.2, Bool.and_self]

theorem instruction_asks {ix : InstructionNode} {arguments : List Argument} {m : Manifest}
    (hplaced : ∀ a ∈ ix.arguments, wellPlaced a.type = true)
    (h : r.InstructionParts ix arguments m) :
    r.Asks (instructionConstructs ix) (r.instructionHeaders arguments m) := by
  have harguments := (renderArguments_asks _ _ _ hplaced).of_ok arguments h.arguments
  have hmerged := Renderer.Asks.empty.mergeAll harguments
  rw [List.nil_append, ← List.flatMap_def] at hmerged
  have hdata := (lower_needs (Renderer.dataContext ix) (.struct ix.data)
    (wellPlacedFields_data hplaced)).of_ok m h.data
  refine (hmerged.merge (Renderer.Asks.of_lists hdata.includes)).addAll ?_
  simp [Renderer.baseHeaders, externalHeaders, ownHeaders]

end

end ClientGen.Render
