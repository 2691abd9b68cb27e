import ClientGen.Proofs.Render.PageCode
import ClientGen.Proofs.Render.Unions
/-!
# The order of entities

The header of an entity is made from the entity itself, the name of its program and the derived
addresses of the document. It does not show where among its siblings the entity stands. So a
document with its accounts, defined types and top-level instructions in another order is rendered
to the same files, or not at all.
-/
namespace ClientGen.Idl

/-- The same program with its accounts, defined types and top-level instructions in another
order. -/
structure ProgramNode.Reordered (p p' : ProgramNode) : Prop where
  accounts : p.accounts.Perm p'.accounts
  definedTypes : p.definedTypes.Perm p'.definedTypes
  instructions : p.instructions.Perm p'.instructions
  name : p.name = p'.name
  publicKey : p.publicKey = p'.publicKey
  version : p.version = p'.version
  origin : p.origin = p'.origin
  docs : p.docs = p'.docs
  pdas : p.pdas = p'.pdas
  errors : p.errors = p'.errors
  isInternal : p.isInternal = p'.isInternal

theorem ProgramNode.Reordered.symm {p p' : ProgramNode} (h : p.Reordered p') : p'.Reordered p :=
  ⟨h.accounts.symm, h.definedTypes.symm, h.instructions.symm, h.name.symm, h.publicKey.symm,
    h.version.symm, h.origin.symm, h.docs.symm, h.pdas.symm, h.errors.symm, h.isInternal.symm⟩

theorem flattenAll_eq_flatMap (leavesOnly : Bool) (instructions : List InstructionNode) :
    flattenAll leavesOnly instructions = instructions.flatMap (·.flatten leavesOnly) := by
  induction instructions with
  | nil => rfl
  | cons ix rest ih => rw [flattenAll, ih, List.flatMap_cons]

/-- The same document with the entities of its programs in another order. -/
def RootNode.Reordered (root root' : RootNode) : Prop :=
  List.Forall₂ ProgramNode.Reordered root.programs root'.programs

theorem RootNode.Reordered.symm {root root' : RootNode} (h : root.Reordered root') :
    root'.Reordered root :=
  List.Forall₂.flip (h.imp fun _ _ hp => hp.symm)

theorem RootNode.Reordered.pdas {root root' : RootNode} (h : root.Reordered root') :
    root.pdas = root'.pdas := by
  rw [RootNode.pdas, RootNode.pdas, List.flatMap_def, List.flatMap_def,
    map_eq_of_forall₂ h fun _ _ hp => hp.pdas]

end ClientGen.Idl

namespace ClientGen.Render

open ClientGen.Idl ClientGen.Cpp

/-! ### Runs -/

/-- Two steps that yield the same files, unless both fail. -/
def Step.SameYield (step step' : Step) : Prop := ∀ map, step.files = .ok map ↔ step'.files = .ok map

section

variable {steps steps' : List Step} {map out : FileMap}

theorem runSteps_ok_of_perm (hmap : map.IsSorted) (hperm : steps.Perm steps')
    (h : (runSteps map steps).files = .ok out) : (runSteps map steps').files = .ok out := by
  obtain ⟨maps, hmaps, hout⟩ := (runSteps_eq_ok_iff hmap).mp h
  obtain ⟨maps', hmaps', hperm'⟩ := List.perm_comp_forall₂ hperm.symm hmaps
  exact (runSteps_eq_ok_iff hmap).mpr ⟨maps', hmaps', hout.of_perm (hperm'.symm.cons map)⟩

theorem runSteps_ok_of_sameYield (hmap : map.IsSorted)
    (hsteps : List.Forall₂ Step.SameYield steps steps')
    (h : (runSteps map steps).files = .ok out) : (runSteps map steps').files = .ok out := by
  obtain ⟨maps, hmaps, hout⟩ := (runSteps_eq_ok_iff hmap).mp h
  refine (runSteps_eq_ok_iff hmap).mpr ⟨maps, ?_, hout⟩
  clear hout h
  induction hsteps generalizing maps with
  | nil => exact hmaps
  | cons hstep _ ih =>
    cases hmaps with
    | cons hfirst hrest => exact .cons ((hstep _).mp hfirst) (ih _ hrest)

end

/-! ### Entities -/

section

variable {r : Renderer} {p p' : ProgramNode} {links links' : Links}

theorem programConstant_congr (hname : p.name = p'.name) :
    programConstant p = programConstant p' := by
  rw [programConstant, programConstant, hname]

theorem renderSeeds_congr (hname : p.name = p'.name) (account : String) (seeds : List SeedNode) :
    renderSeeds r p account seeds = renderSeeds r p' account seeds := by
  induction seeds with
  | nil => rfl
  | cons seed rest ih =>
    have hseed : renderSeed r p account seed = renderSeed r p' account seed := by
      cases seed with
      | «variable» name docs type => rfl
      | constant type value => rw [renderSeed, renderSeed, programConstant_congr hname]
    rw [renderSeeds, renderSeeds, hseed, ih]

theorem renderAccount_congr (hname : p.name = p'.name) (hpdas : links.pdas = links'.pdas)
    (a : AccountNode) : renderAccount r p links a = renderAccount r p' links' a := by
  -- the links are asked for derived addresses only
  have hseeds : accountSeeds r p a links = accountSeeds r p' a links' := by
    simp only [accountSeeds, Links.pda?, hpdas, renderSeeds_congr hname]
  rw [renderAccount, renderAccount, hseeds]

theorem renderInstruction_congr (hname : p.name = p'.name) (ix : InstructionNode) :
    renderInstruction r p ix = renderInstruction r p' ix := by
  have hpage : instructionPage r p ix = instructionPage r p' ix := by
    funext arguments decl includes
    unfold instructionPage instructionClass
    rw [programConstant_congr hname]
  unfold renderInstruction
  rw [hpage]

theorem renderErrors_congr (hname : p.name = p'.name) (herrors : p.errors = p'.errors) :
    renderErrors r p = renderErrors r p' := by
  rw [renderErrors, renderErrors, hname, herrors]

/-- Rendering a program with its entities in another order takes the same steps in another
order. -/
theorem programSteps_perm (h : p.Reordered p') (hpdas : links.pdas = links'.pdas) :
    (r.programSteps links p).Perm (r.programSteps links' p') := by
  have haccounts : (r.accountsOf p).Perm (r.accountsOf p') := h.accounts.filter _
  have htypes : (r.definedTypesOf p).Perm (r.definedTypesOf p') := h.definedTypes.filter _
  have hinstructions : (r.instructionsOf p).Perm (r.instructionsOf p') := by
    unfold Renderer.instructionsOf ProgramNode.allInstructions
    rw [flattenAll_eq_flatMap, flattenAll_eq_flatMap]
    exact (h.instructions.flatMap_right _).filter _
  unfold Renderer.programSteps Renderer.instructionStep
  simp only [renderAccount_congr h.name hpdas, renderInstruction_congr h.name,
    renderErrors_congr h.name h.errors, h.errors]
  exact (((haccounts.map _).append (htypes.map _)).append (hinstructions.map _)).append_right _

theorem renderProgram_sameYield (h : p.Reordered p') (hpdas : links.pdas = links'.pdas) :
    (r.renderProgram links p).SameYield (r.renderProgram links' p') := by
  intro map
  have hsteps := programSteps_perm (r := r) h hpdas
  rw [Renderer.renderProgram, Renderer.renderProgram, h.isInternal]
  split
  · constructor
    · exact runSteps_ok_of_perm FileMap.isSorted_empty hsteps
    · exact runSteps_ok_of_perm FileMap.isSorted_empty hsteps.symm
  · exact Iff.rfl

end

/-! ### Documents -/

section

variable {r : Renderer} {programs programs' : List ProgramNode}

theorem moduleInfo_congr (h : List.Forall₂ ProgramNode.Reordered programs programs') :
    r.moduleInfo programs = r.moduleInfo programs' := by
  have hversion : Renderer.moduleVersion programs = Renderer.moduleVersion programs' := by
    induction h with
    | nil => rfl
    | cons hp _ ih =>
      rw [Renderer.moduleVersion, Renderer.moduleVersion, ih, hp.version, hp.name]
  have hempty : programs.isEmpty = programs'.isEmpty := by cases h <;> rfl
  have hnames : programs.map (fun p => Naming.pascal p.name) =
      programs'.map fun p => Naming.pascal p.name :=
    map_eq_of_forall₂ h fun _ _ hp => by rw [hp.name]
  simp only [Renderer.moduleInfo, Renderer.moduleDescription, hversion, hempty, hnames,
    h.length_eq]

/-- The addresses of the programs, each with another order of its entities. -/
theorem programKeys_reordered (h : List.Forall₂ ProgramNode.Reordered programs programs') :
    ∀ {keys : List (ProgramNode × Literal)}, r.programKeys programs = .ok keys →
      ∃ keys', r.programKeys programs' = .ok keys' ∧
        List.Forall₂ (fun k k' => k.1.Reordered k'.1 ∧ k.2 = k'.2) keys keys' := by
  induction h with
  | nil =>
    intro keys hkeys
    cases hkeys
    exact ⟨[], rfl, .nil⟩
  | @cons p p' rest rest' hp _ ih =>
    intro keys hkeys
    obtain ⟨key, hkey, hkeys⟩ := Generated.bind_eq_ok_iff.mp hkeys
    obtain ⟨more, hmore, hkeys⟩ := Generated.bind_eq_ok_iff.mp hkeys
    cases hkeys
    obtain ⟨more', hmore', hsame⟩ := ih hmore
    rw [hp.name, hp.publicKey] at hkey
    refine ⟨(p', key) :: more', ?_, .cons ⟨hp, rfl⟩ hsame⟩
    exact Generated.bind_eq_ok_iff.mpr
      ⟨key, hkey, Generated.bind_eq_ok_iff.mpr ⟨more', hmore', rfl⟩⟩

theorem programsPage_congr {keys keys' : List (ProgramNode × Literal)}
    (h : List.Forall₂ (fun k k' => k.1.Reordered k'.1 ∧ k.2 = k'.2) keys keys') :
    r.programsPage keys = r.programsPage keys' := by
  have hincludes : keys.map (fun k => k.2.includes) = keys'.map fun k => k.2.includes :=
    map_eq_of_forall₂ h fun _ _ hk => by rw [hk.2]
  have htexts : keys.map (fun k => "\n" ++ docBlock k.1.docs ++ r.keyText k) =
      keys'.map fun k => "\n" ++ docBlock k.1.docs ++ r.keyText k := by
    refine map_eq_of_forall₂ h ?_
    rintro ⟨p, key⟩ ⟨p', key'⟩ ⟨hp, hkey⟩
    dsimp only at hp hkey
    unfold Renderer.keyText
    dsimp only
    rw [hp.docs, programConstant_congr hp.name, hkey]
  rw [programsPage_eq, programsPage_eq, Renderer.keyHeaders, Renderer.keyHeaders, hincludes, htexts]

theorem baseStep_ok_of_reordered (h : List.Forall₂ ProgramNode.Reordered programs programs')
    {base : FileMap} (hbase : (r.baseStep programs).files = .ok base) :
    (r.baseStep programs').files = .ok base := by
  have hempty : programs.isEmpty = programs'.isEmpty := by cases h <;> rfl
  rw [Renderer.baseStep, hempty] at hbase
  rw [Renderer.baseStep]
  split at hbase
  · rename_i hnone
    rw [if_pos hnone]
    exact hbase
  · rename_i hsome
    rw [if_neg hsome]
    cases hkeys : r.programKeys programs with
    | error e =>
      rw [hkeys] at hbase
      cases hbase
    | ok keys =>
      obtain ⟨keys', hkeys', hsame⟩ := programKeys_reordered h hkeys
      rw [hkeys] at hbase
      rw [hkeys', ← hbase]
      simp only [Renderer.moduleFiles, moduleInfo_congr h, programsPage_congr hsame]

theorem render_ok_of_reordered {root root' : RootNode} (h : root.Reordered root') {out : FileMap}
    (hout : (r.render root).files = .ok out) : (r.render root').files = .ok out := by
  have hprograms : List.Forall₂ ProgramNode.Reordered (r.programsOf root) (r.programsOf root') :=
    List.rel_filter (fun p p' hp => by simp only [hp.isInternal]) h
  rw [render_files] at hout ⊢
  obtain ⟨base, hbase, hrun⟩ := Generated.bind_eq_ok_iff.mp hout
  refine Generated.bind_eq_ok_iff.mpr ⟨base, baseStep_ok_of_reordered hprograms hbase, ?_⟩
  refine runSteps_ok_of_sameYield (baseStep_isSorted hbase) ?_ hrun
  rw [List.forall₂_map_left_iff, List.forall₂_map_right_iff]
  refine hprograms.imp fun p p' hp map => ?_
  exact Generated.inside_eq_ok_iff.trans
    ((renderProgram_sameYield hp h.pdas map).trans Generated.inside_eq_ok_iff.symm)

end

/-- The order in which the programs of a document declare their accounts, defined types and
top-level instructions does not matter: in any other order the document is rendered or not just the
same, and to the same map, with the same paths and the same digest. Derived addresses may share
names, since none of them changes its place. -/
theorem render_order_independent (r : Renderer) {root root' : RootNode}
    (h : root.Reordered root') :
    ((∃ out, (r.render root).files = .ok out) ↔ ∃ out, (r.render root').files = .ok out) ∧
    ∀ out out', (r.render root).files = .ok out → (r.render root').files = .ok out' →
      out = out' ∧ out.paths = out'.paths ∧ out.digest = out'.digest := by
  refine ⟨⟨?_, ?_⟩, ?_⟩
  · rintro ⟨out, hout⟩
    exact ⟨out, render_ok_of_reordered h hout⟩
  · rintro ⟨out, hout⟩
    exact ⟨out, render_ok_of_reordered h.symm hout⟩
  · intro out out' hout hout'
    have heq := (render_ok_of_reordered h hout).symm.trans hout'
    cases heq
    exact ⟨rfl, rfl, rfl⟩

/-- A program with its two accounts and its two instructions the other way round. -/
theorem render_order_independent_vault :
    let r : Renderer := ⟨⟨.unreal5, "Vault"⟩, true, false, []⟩
    let pool : AccountNode := ⟨"pool", [], .struct [], some "pool", none, false⟩
    let state : AccountNode := ⟨"state", [], .publicKey, none, none, false⟩
    let swap : InstructionNode := ⟨"swap", [], [], [], [⟨"sell", [], [], [], [], false⟩], false⟩
    let close : InstructionNode := ⟨"close", [], [], [], [], false⟩
    let program (accounts : List AccountNode) (instructions : List InstructionNode) : ProgramNode :=
      { name := "vault", publicKey := "11111111111111111111111111111111", version := "",
        origin := "", docs := [], accounts := accounts, instructions := instructions,
        definedTypes := [], pdas := [⟨"pool", [], []⟩], errors := [], isInternal := false }
    ∃ out, (r.render ⟨"", "", program [pool, state] [swap, close], []⟩).files = .ok out ∧
      (r.render ⟨"", "", program [state, pool] [close, swap], []⟩).files = .ok out := by
  intro r pool state swap close program
  have hprogram : (program [pool, state] [swap, close]).Reordered
      (program [state, pool] [close, swap]) :=
    ⟨.swap .., .refl _, .swap .., rfl, rfl, rfl, rfl, rfl, rfl, rfl, rfl⟩
  let root : RootNode := ⟨"", "", program [pool, state] [swap, close], []⟩
  let root' : RootNode := ⟨"", "", program [state, pool] [close, swap], []⟩
  have hroot : root.Reordered root' := .cons hprogram .nil
  obtain ⟨hiff, hsame⟩ := render_order_independent r hroot
  have hok : (r.render root).files.toBool = true := by decide +kernel
  obtain ⟨out, hout⟩ := Generated.exists_ok hok
  obtain ⟨out', hout'⟩ := hiff.mp ⟨out, hout⟩
  rw [← (hsame out out' hout hout').1] at hout'
  exact ⟨out, hout, hout'⟩

end ClientGen.Render
