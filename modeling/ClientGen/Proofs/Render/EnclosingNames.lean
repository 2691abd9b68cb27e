import ClientGen.Proofs.Cpp.Parts
import ClientGen.Proofs.Render.Contents
import ClientGen.Proofs.Render.ErrorClasses
/-!
# Enclosing names

Rendering starts to lower the types of an account, of its seeds, of a defined type and of an
instruction, each under a name that comes from the entity. Only accounts and defined types can be
without a name. Under an entity that has one, the name stands around every type, so that none is
missing there.
-/
namespace ClientGen.Render

open ClientGen.Idl ClientGen.Cpp

/-- The types that rendering starts to lower, with the names of the declarations they are for. -/
inductive Renderer.Starts (r : Renderer) (root : RootNode) : String → Visit → Prop
  | account {p : ProgramNode} {a : AccountNode} (hp : p ∈ r.programsOf root)
    (ha : a ∈ r.accountsOf p) :
    Starts r root (Naming.pascal a.name) ⟨.root (Naming.pascal a.name), a.data⟩
  | seed {p : ProgramNode} {a : AccountNode} {link name : String} {pda : PdaNode}
    {docs : List String} {type : TypeNode} (hp : p ∈ r.programsOf root) (ha : a ∈ r.accountsOf p)
    (hlink : a.pda = some link) (hpda : root.links.pda? link = some pda)
    (hseed : .variable name docs type ∈ pda.seeds) :
    Starts r root (Naming.pascal a.name)
      ⟨{ Context.root (Naming.pascal a.name ++ Naming.pascal name) with nested := true }, type⟩
  | definedType {p : ProgramNode} {d : DefinedTypeNode} (hp : p ∈ r.programsOf root)
    (hd : d ∈ r.definedTypesOf p) :
    Starts r root (Naming.pascal d.name) ⟨.root (Naming.pascal d.name), d.type⟩
  | argument {p : ProgramNode} {ix : InstructionNode} {a : ArgumentNode}
    (hp : p ∈ r.programsOf root) (hix : ix ∈ r.instructionsOf p) (ha : a ∈ ix.arguments) :
    Starts r root (Naming.pascal ix.name ++ "InstructionData")
      ⟨{ Context.root (Naming.pascal ix.name ++ "InstructionData" ++ Naming.pascal a.name) with
        nested := true }, a.type⟩
  | data {p : ProgramNode} {ix : InstructionNode} (hp : p ∈ r.programsOf root)
    (hix : ix ∈ r.instructionsOf p) :
    Starts r root (Naming.pascal ix.name ++ "InstructionData")
      ⟨Renderer.dataContext ix, .struct ix.data⟩

section

variable {r : Renderer} {root : RootNode} {name : String} {start : Visit}

theorem Renderer.Starts.parent (h : r.Starts root name start) :
    ∃ path, start.ctx.parent = name ++ path := by
  cases h with
  | account | definedType | data => exact ⟨"", String.append_empty.symm⟩
  | @seed _ _ _ seed => exact ⟨Naming.pascal seed, rfl⟩
  | @argument _ _ a => exact ⟨Naming.pascal a.name, rfl⟩

theorem Renderer.Starts.hasUnnamed (h : r.Starts root name start) (hname : name = "") :
    r.HasUnnamed root := by
  cases h with
  | account hp ha => exact ⟨_, hp, .inl ⟨_, ha, hname⟩⟩
  | seed hp ha => exact ⟨_, hp, .inl ⟨_, ha, hname⟩⟩
  | definedType hp hd => exact ⟨_, hp, .inr ⟨_, hd, hname⟩⟩
  | argument | data =>
    -- The data of an instruction has a name even if the instruction has none.
    exact absurd hname (data_ne_empty _)

theorem Renderer.Starts.parent_of_reaches {visit : Visit} (h : r.Starts root name start)
    (hreaches : start.Reaches visit) : ∃ path, visit.ctx.parent = name ++ path := by
  obtain ⟨first, hfirst⟩ := h.parent
  obtain ⟨more, hmore⟩ := hreaches.parent
  refine ⟨first ++ more, ?_⟩
  rw [hmore, hfirst, String.append_assoc]

/-! ### What has been lowered -/

theorem lower_of_renderSeeds {p : ProgramNode} {account name : String} {docs : List String}
    {type : TypeNode} :
    ∀ {nodes : List SeedNode} {seeds : List Seed}, renderSeeds r p account nodes = .ok seeds →
      .variable name docs type ∈ nodes →
        ∃ m, lower r.target
          { Context.root (account ++ Naming.pascal name) with nested := true } type = .ok m := by
  intro nodes
  induction nodes with
  | nil =>
    intro seeds _ hmem
    cases hmem
  | cons node rest ih =>
    intro seeds hok hmem
    obtain ⟨seed, hseed, hok⟩ := Generated.bind_eq_ok_iff.mp hok
    obtain ⟨more, hmore, -⟩ := Generated.bind_eq_ok_iff.mp hok
    rcases List.mem_cons.mp hmem with rfl | hmem
    · obtain ⟨m, hm, -⟩ := Generated.bind_eq_ok_iff.mp hseed
      exact ⟨m, Generated.inside_eq_ok_iff.mp hm⟩
    · exact ih hmore hmem

theorem lower_of_renderArguments {conflicts : List String} {data : String} {a : ArgumentNode} :
    ∀ {nodes : List ArgumentNode} {arguments : List Argument},
      renderArguments r conflicts data nodes = .ok arguments → a ∈ nodes →
        ∃ m, lower r.target
          { Context.root (data ++ Naming.pascal a.name) with nested := true } a.type = .ok m := by
  intro nodes
  induction nodes with
  | nil =>
    intro arguments _ hmem
    cases hmem
  | cons node rest ih =>
    intro arguments hok hmem
    obtain ⟨argument, hargument, hok⟩ := Generated.bind_eq_ok_iff.mp hok
    obtain ⟨more, hmore, -⟩ := Generated.bind_eq_ok_iff.mp hok
    rcases List.mem_cons.mp hmem with rfl | hmem
    · obtain ⟨m, hm, -⟩ := Generated.bind_eq_ok_iff.mp hargument
      exact ⟨m, Generated.inside_eq_ok_iff.mp hm⟩
    · exact ih hmore hmem

theorem render_of_outcome_ok {out : FileMap} (h : r.Outcome root (.ok out)) :
    (r.render root).files = .ok out := by
  rcases ((describes_render r root).outcome_iff _).mp h with heq | ⟨path, -, heq⟩
  · exact heq.symm
  · cases hfiles : (r.render root).files with
    | ok rendered =>
      rw [hfiles] at heq
      exact heq.symm
    | error e =>
      rw [hfiles] at heq
      cases heq

/-- A document that is rendered has been lowered from every start. -/
theorem Renderer.Starts.lowers {keys : List (ProgramNode × Literal)} {out : FileMap}
    (h : r.Starts root name start) (hout : r.Renders root keys out) :
    ∃ m, lower r.target start.ctx start.type = .ok m := by
  cases h with
  | account hp ha =>
    obtain ⟨m, seeds, hparts⟩ := hout.account _ hp _ ha
    exact ⟨m, hparts.data⟩
  | seed hp ha hlink hpda hseed =>
    obtain ⟨m, seeds, hparts⟩ := hout.account _ hp _ ha
    have hseeds := hparts.seeds
    simp only [accountSeeds, hlink, hpda] at hseeds
    exact lower_of_renderSeeds hseeds hseed
  | definedType hp hd => exact hout.definedType _ hp _ hd
  | argument hp hix ha =>
    obtain ⟨arguments, m, hparts⟩ := hout.instruction _ hp _ hix
    exact lower_of_renderArguments hparts.arguments ha
  | data hp hix =>
    obtain ⟨arguments, m, hparts⟩ := hout.instruction _ hp _ hix
    exact ⟨m, hparts.data⟩

end

/-- Rendering misses a name only if an exported account or defined type has none. Under an entity
with a name, every type at any depth is lowered in a context that starts with this name, and never
fails for the lack of one. What rendering succeeds with has been lowered in these contexts. -/
theorem enclosing_name_kept {o : Options} {r : Renderer} (hr : o.renderer? = some r)
    (root : RootNode) :
    (∀ e what, r.Outcome root (.error e) → e.cause = .missingContext what → r.HasUnnamed root) ∧
    ∀ name start visit, r.Starts root name start → start.Reaches visit →
      (∃ path, visit.ctx.parent = name ++ path) ∧
      (name = "" → r.HasUnnamed root) ∧
      (name ≠ "" → visit.ctx.parent ≠ "" ∧
        ∀ e what, lower r.target visit.ctx visit.type = .error e → e.cause ≠ .missingContext what) ∧
      ∀ out, r.Outcome root (.ok out) → ∃ m, lower r.target visit.ctx visit.type = .ok m := by
  constructor
  · intro e what houtcome hcause
    have hfailure := renderFailure_of_outcome houtcome
    rw [hcause] at hfailure
    cases hfailure with
    | inherent h =>
      cases h with
      | missingContext _ hunnamed => exact hunnamed
  · intro name start visit hstart hreaches
    obtain ⟨path, hpath⟩ := hstart.parent_of_reaches hreaches
    refine ⟨⟨path, hpath⟩, hstart.hasUnnamed, ?_, ?_⟩
    · intro hname
      have hparent : visit.ctx.parent ≠ "" := by
        rw [hpath]
        intro hempty
        exact hname (String.append_eq_empty_iff.mp hempty).1
      refine ⟨hparent, ?_⟩
      intro e what he hcause
      have hinherent := (lower_failsOnly visit.ctx visit.type).of_error e he
      rw [hcause] at hinherent
      cases hinherent with
      | missingContext _ hempty => exact hparent hempty
    · intro out hout
      obtain ⟨keys, hrenders⟩ :=
        render_contents (Options.flavor_mem_of_renderer? hr) (render_of_outcome_ok hout)
      exact hreaches.lowers (hstart.lowers hrenders)

/-- An account without a name stops rendering. The one beside it keeps its name around an item of a
tuple in one of its fields. -/
theorem enclosing_name_kept_vault :
    let options : Options := ⟨"vault", "", false, false, []⟩
    let pair : FieldNode := ⟨"pair", .tuple [.publicKey, .struct []], [], none, ""⟩
    let state : AccountNode := ⟨"state", [], .struct [pair], none, none, false⟩
    let program : ProgramNode :=
      { name := "vault", publicKey := "11111111111111111111111111111111", version := "",
        origin := "", docs := [], accounts := [state, ⟨"", [], .struct [], none, none, false⟩],
        instructions := [], definedTypes := [], pdas := [], errors := [], isInternal := false }
    let root : RootNode := ⟨"", "", program, []⟩
    let item (name : String) : Visit :=
      ⟨((Context.root name).child.field pair.name).item 1, .struct []⟩
    ∃ r, options.renderer? = some r ∧ r.HasUnnamed root ∧
      (item (Naming.pascal state.name)).ctx.parent ≠ "" ∧
      (item (Naming.pascal state.name)).ctx.parent = "StatePairItem1" := by
  intro options pair state program root item
  have hr := renderer?_vault
  let r : Renderer := ⟨⟨.unreal5, "Vault"⟩, false, false, []⟩
  have hresult : (r.render root).files =
      .error (.inside (.program "vault") (.inside (.account "") (.missingContext "struct"))) := by
    decide +kernel
  have houtcome := outcome_render r root
  rw [hresult] at houtcome
  have hkept := enclosing_name_kept hr root
  have hstart := @Renderer.Starts.account r root program state (List.mem_singleton_self program)
    List.mem_cons_self
  have hreaches (name : String) : Visit.Reaches ⟨.root name, .struct [pair]⟩ (item name) :=
    ((Relation.ReflTransGen.single (.structField (List.mem_singleton_self pair))).tail .field).tail
      (.item rfl)
  have hname : Naming.pascal state.name ≠ "" := by decide +kernel
  obtain ⟨hnamed, -⟩ := (hkept.2 _ _ _ hstart (hreaches _)).2.2.1 hname
  exact ⟨r, hr, hkept.1 _ _ houtcome rfl, hnamed, by decide +kernel⟩

end ClientGen.Render
