import Mathlib.Data.List.Perm.Subperm
import ClientGen.Proofs.Idl.DistinctNames
import ClientGen.Proofs.Render.Unions
/-!
# Wider and narrower selections

Two options select what is rendered: whether internal entities are, and whether instructions that
only group others are. A wider selection adds files and changes none of those that entities have.
So what can be rendered with a wider selection can be rendered with a narrower one.
-/
namespace ClientGen.Render

open ClientGen.Idl ClientGen.Cpp

/-- A renderer that differs from another only in that it may leave out more. -/
structure Renderer.Narrower (r r' : Renderer) : Prop where
  target : r.target = r'.target
  remap : r.remap = r'.remap
  renderParents : r.renderParents = true → r'.renderParents = true
  includeInternal : r.includeInternal = true → r'.includeInternal = true

/-! ### Runs -/

/-- A step that yields some of the files of another, if that one yields any. -/
def Step.Within (step step' : Step) : Prop :=
  ∀ large, step'.files = .ok large →
    ∃ small, step.files = .ok small ∧ small.files.Subperm large.files

instance : Std.Refl Step.Within := ⟨fun _ map hmap => ⟨map, hmap, .refl _⟩⟩

theorem Step.Within.inside {step step' : Step} (h : step.Within step') (place : Cpp.Place) :
    (Renderer.inside place step).Within (Renderer.inside place step') := by
  intro large hlarge
  obtain ⟨small, hsmall, hfiles⟩ := h large (Generated.inside_eq_ok_iff.mp hlarge)
  exact ⟨small, Generated.inside_eq_ok_iff.mpr hsmall, hfiles⟩

section

variable {steps steps' : List Step}

/-- If steps all yield files, so do those within them, and no others. -/
theorem yields_of_within (h : List.SublistForall₂ Step.Within steps steps') :
    ∀ {maps' : List FileMap}, List.Forall₂ (fun step map => step.files = .ok map) steps' maps' →
      ∃ maps : List FileMap, List.Forall₂ (fun step map => step.files = .ok map) steps maps ∧
        (maps.flatMap (·.files)).Subperm (maps'.flatMap (·.files)) := by
  induction h with
  | nil => exact fun _ => ⟨[], .nil, List.nil_subperm⟩
  | cons hstep _ ih =>
    rintro _ (_ | ⟨hlarge, hrest⟩)
    obtain ⟨small, hsmall, hfiles⟩ := hstep _ hlarge
    obtain ⟨maps, hmaps, hmore⟩ := ih hrest
    exact ⟨small :: maps, .cons hsmall hmaps, hfiles.append hmore⟩
  | cons_right _ ih =>
    -- a step that is left out only takes away files
    rintro _ (_ | ⟨-, hrest⟩)
    obtain ⟨maps, hmaps, hmore⟩ := ih hrest
    exact ⟨maps, hmaps, hmore.trans (List.sublist_append_right _ _).subperm⟩

/-- A run of steps within others comes to its end if theirs does. It starts with the same paths or
fewer of them, and then adds the same files or fewer of them. -/
theorem runSteps_within {base base' large : FileMap} (hbase : base.IsSorted)
    (hbase' : base'.IsSorted) (hpaths : base.paths.Subperm base'.paths)
    (hsteps : List.SublistForall₂ Step.Within steps steps')
    (hlarge : (runSteps base' steps').files = .ok large) :
    ∃ small added added', (runSteps base steps).files = .ok small ∧
      small.files.Perm (base.files ++ added) ∧ large.files.Perm (base'.files ++ added') ∧
      added.Subperm added' := by
  obtain ⟨maps', hmaps', hunion'⟩ := (runSteps_eq_ok_iff hbase').mp hlarge
  obtain ⟨maps, hmaps, hadded⟩ := yields_of_within hsteps hmaps'
  -- no path is claimed twice by the larger run, so none is by the smaller one
  have hnodup' := FileMap.exists_isUnion_iff.mp ⟨large, hunion'⟩
  have hall : ((base :: maps).flatMap (·.paths)).Subperm ((base' :: maps').flatMap (·.paths)) := by
    obtain ⟨kept, hkept, hsublist⟩ := hadded
    rw [List.flatMap_cons, List.flatMap_cons, FileMap.flatMap_paths, FileMap.flatMap_paths]
    exact hpaths.append ⟨kept.map (·.1), hkept.map _, hsublist.map _⟩
  obtain ⟨kept, hkept, hsublist⟩ := hall
  obtain ⟨small, hunion⟩ :=
    FileMap.exists_isUnion_iff.mpr (hkept.nodup_iff.mp (hnodup'.sublist hsublist))
  refine ⟨small, _, _, (runSteps_eq_ok_iff hbase).mpr ⟨maps, hmaps, hunion⟩, ?_, ?_, hadded⟩
  · exact hunion.perm
  · exact hunion'.perm

end

/-! ### Entities -/

section

variable {r r' : Renderer} {links : Links} {p : ProgramNode}

namespace Renderer.Narrower

/-- Apart from what it selects, the wider renderer is the narrower one. -/
theorem eq (h : r.Narrower r') :
    r' = ⟨r.target, r'.renderParents, r'.includeInternal, r.remap⟩ := by
  rw [h.target, h.remap]

theorem exports (h : r.Narrower r') {isInternal : Bool} (hexported : r.exports isInternal = true) :
    r'.exports isInternal = true := by
  rw [Renderer.exports, Bool.or_eq_true] at hexported ⊢
  exact hexported.imp_left h.includeInternal

/-- What a narrower selection keeps of some entities is kept in order by a wider one. -/
theorem filter_exports {α : Type} (h : r.Narrower r') (isInternal : α → Bool) (entities : List α) :
    (entities.filter fun a => r.exports (isInternal a)).Sublist
      (entities.filter fun a => r'.exports (isInternal a)) :=
  List.monotone_filter_right entities fun _ hexported => h.exports hexported

theorem programsOf (h : r.Narrower r') (root : RootNode) :
    (r.programsOf root).Sublist (r'.programsOf root) := h.filter_exports _ _

theorem instructionsOf (h : r.Narrower r') :
    (r.instructionsOf p).Sublist (r'.instructionsOf p) := by
  have hbelow : (p.allInstructions !r.renderParents).Sublist
      (p.allInstructions !r'.renderParents) := by
    cases hparents : r'.renderParents with
    | true => exact flattenAll_sublist _ _
    | false =>
      have hnone : r.renderParents = false := by
        rw [Bool.eq_false_iff]
        intro hsome
        rw [h.renderParents hsome] at hparents
        cases hparents
      rw [hnone]
  exact (hbelow.filter _).trans (h.filter_exports _ _)

theorem renderSeeds (h : r.Narrower r') (account : String) (seeds : List SeedNode) :
    Render.renderSeeds r p account seeds = Render.renderSeeds r' p account seeds := by
  induction seeds with
  | nil => rfl
  | cons seed rest ih =>
    have hseed : renderSeed r p account seed = renderSeed r' p account seed := by
      cases seed <;> rw [renderSeed, renderSeed, h.target]
    rw [Render.renderSeeds, Render.renderSeeds, hseed, ih]

theorem renderArguments (h : r.Narrower r') (conflicts : List String) (data : String)
    (arguments : List ArgumentNode) :
    Render.renderArguments r conflicts data arguments =
      Render.renderArguments r' conflicts data arguments := by
  induction arguments with
  | nil => rfl
  | cons a rest ih =>
    have hfirst : renderArgument r conflicts data a = renderArgument r' conflicts data a := by
      rw [renderArgument, renderArgument, h.target]
    rw [Render.renderArguments, Render.renderArguments, hfirst, ih]

theorem programKeys (h : r.Narrower r') (programs : List ProgramNode) :
    r.programKeys programs = r'.programKeys programs := by
  induction programs with
  | nil => rfl
  | cons p rest ih => rw [Renderer.programKeys, Renderer.programKeys, ih, h.target]

theorem renderAccount (h : r.Narrower r') (a : AccountNode) :
    Render.renderAccount r p links a = Render.renderAccount r' p links a := by
  have hseeds : accountSeeds r p a links = accountSeeds r' p a links := by
    simp only [accountSeeds, h.renderSeeds]
  rw [Render.renderAccount, Render.renderAccount, hseeds, h.eq]
  rfl

theorem renderDefinedType (h : r.Narrower r') (d : DefinedTypeNode) :
    Render.renderDefinedType r d = Render.renderDefinedType r' d := by
  rw [h.eq]
  rfl

theorem renderInstruction (h : r.Narrower r') (ix : InstructionNode) :
    Render.renderInstruction r p ix = Render.renderInstruction r' p ix := by
  have harguments := h.renderArguments ix.conflicts (Naming.pascal ix.name ++ "InstructionData")
    ix.arguments
  unfold Render.renderInstruction
  dsimp only
  rw [harguments, h.eq]
  rfl

theorem renderErrors (h : r.Narrower r') (p : ProgramNode) :
    Render.renderErrors r p = Render.renderErrors r' p := by
  rw [h.eq]
  rfl

theorem programSteps (h : r.Narrower r') :
    (r.programSteps links p).Sublist (r'.programSteps links p) := by
  unfold Renderer.programSteps Renderer.instructionStep
  simp only [h.renderAccount, h.renderDefinedType, h.renderInstruction, h.renderErrors]
  have haccounts : (r.accountsOf p).Sublist (r'.accountsOf p) := h.filter_exports _ _
  have htypes : (r.definedTypesOf p).Sublist (r'.definedTypesOf p) := h.filter_exports _ _
  exact (((haccounts.map _).append (htypes.map _)).append (h.instructionsOf.map _)).append
    (.refl _)

theorem renderProgram (h : r.Narrower r') (hexported : r.exports p.isInternal = true) :
    (r.renderProgram links p).Within (r'.renderProgram links p) := by
  intro large hlarge
  rw [Renderer.renderProgram, if_pos (h.exports hexported)] at hlarge
  rw [Renderer.renderProgram, if_pos hexported]
  obtain ⟨small, added, added', hsmall, hfiles, hfiles', hadded⟩ :=
    runSteps_within FileMap.isSorted_empty FileMap.isSorted_empty (.refl _)
      h.programSteps.sublistForall₂ hlarge
  exact ⟨small, hsmall, (hfiles.subperm.trans hadded).trans hfiles'.symm.subperm⟩

theorem baseStep (h : r.Narrower r') (programs : List ProgramNode) :
    r.baseStep programs = r'.baseStep programs := by
  unfold Renderer.baseStep
  rw [h.programKeys, h.eq]
  rfl

end Renderer.Narrower

/-! ### Documents -/

theorem programKeys_of_sublist {programs programs' : List ProgramNode}
    (h : programs.Sublist programs') :
    ∀ {keys' : List (ProgramNode × Literal)}, r.programKeys programs' = .ok keys' →
      ∃ keys, r.programKeys programs = .ok keys := by
  induction h with
  | slnil => exact fun hkeys => ⟨_, hkeys⟩
  | cons p _ ih =>
    intro keys' hkeys
    obtain ⟨key, -, hkeys⟩ := Generated.bind_eq_ok_iff.mp hkeys
    obtain ⟨more, hmore, -⟩ := Generated.bind_eq_ok_iff.mp hkeys
    exact ih hmore
  | cons_cons p _ ih =>
    intro keys' hkeys
    obtain ⟨key, hkey, hkeys⟩ := Generated.bind_eq_ok_iff.mp hkeys
    obtain ⟨more', hmore', -⟩ := Generated.bind_eq_ok_iff.mp hkeys
    obtain ⟨more, hmore⟩ := ih hmore'
    refine ⟨(p, key) :: more, ?_⟩
    exact Generated.bind_eq_ok_iff.mpr ⟨key, hkey, Generated.bind_eq_ok_iff.mpr ⟨more, hmore, rfl⟩⟩

/-- Fewer programs make a module too, with files at the same paths, or none. -/
theorem baseStep_of_sublist (hflavor : r.flavor ∈ Flavor.all)
    {programs programs' : List ProgramNode} (h : programs.Sublist programs') {base' : FileMap}
    (hbase' : (r.baseStep programs').files = .ok base') :
    ∃ base, (r.baseStep programs).files = .ok base ∧ base.paths.Subperm base'.paths := by
  cases hempty : programs.isEmpty with
  | true =>
    refine ⟨.empty, ?_, List.nil_subperm⟩
    rw [Renderer.baseStep, hempty, if_pos rfl]
  | false =>
    have hempty' : programs'.isEmpty = false := by
      rw [List.isEmpty_eq_false_iff] at hempty ⊢
      rintro rfl
      exact hempty (List.sublist_nil.mp h)
    have hpaths' := (baseStep_ok hflavor hempty' hbase').perm
    rw [Renderer.baseStep, hempty', if_neg Bool.false_ne_true] at hbase'
    cases hkeys' : r.programKeys programs' with
    | error e =>
      rw [hkeys'] at hbase'
      cases hbase'
    | ok keys' =>
      obtain ⟨keys, hkeys⟩ := programKeys_of_sublist h hkeys'
      have hbase : (r.baseStep programs).files = .ok (r.moduleFiles programs
          (FileMap.empty.add (r.publicRoot ++ r.programsHeader) (r.programsPage keys))) := by
        rw [Renderer.baseStep, hempty, if_neg Bool.false_ne_true, hkeys]
      exact ⟨_, hbase, ((baseStep_ok hflavor hempty hbase).perm.trans hpaths'.symm).subperm⟩

/-- A narrower selection is rendered if a wider one is. It adds to the files of its module some of
the files that the wider one adds. -/
theorem render_within (hflavor : r.flavor ∈ Flavor.all) (h : r.Narrower r') {root : RootNode}
    {large : FileMap} (hlarge : (r'.render root).files = .ok large) :
    ∃ base base' small added added', (r.baseStep (r.programsOf root)).files = .ok base ∧
      (r'.baseStep (r'.programsOf root)).files = .ok base' ∧ (r.render root).files = .ok small ∧
      small.files.Perm (base.files ++ added) ∧ large.files.Perm (base'.files ++ added') ∧
      added.Subperm added' := by
  rw [render_files] at hlarge
  obtain ⟨base', hbase', hlarge⟩ := Generated.bind_eq_ok_iff.mp hlarge
  have hprograms := h.programsOf root
  have hwide := hbase'
  rw [← h.baseStep] at hwide
  obtain ⟨base, hbase, hpaths⟩ := baseStep_of_sublist hflavor hprograms hwide
  have hsteps : List.SublistForall₂ Step.Within
      ((r.programsOf root).map fun p =>
        Renderer.inside (.program p.name) (r.renderProgram root.links p))
      ((r'.programsOf root).map fun p =>
        Renderer.inside (.program p.name) (r'.renderProgram root.links p)) := by
    refine List.sublistForall₂_iff.mpr ⟨_, ?_, hprograms.map _⟩
    rw [List.forall₂_map_left_iff, List.forall₂_map_right_iff, List.forall₂_same]
    intro p hp
    exact (h.renderProgram (List.mem_filter.mp hp).2).inside _
  obtain ⟨small, added, added', hsmall, hfiles⟩ :=
    runSteps_within (baseStep_isSorted hbase) (baseStep_isSorted hbase') hpaths hsteps hlarge
  refine ⟨base, base', small, added, added', hbase, hbase', ?_, hfiles⟩
  rw [render_files, hbase]
  exact hsmall

end

/-- What is rendered with a wider selection is rendered with a narrower one. Every header and source
of an account, a defined type, an instruction or the errors of a program then stands in the larger
map with the same text; and if no program is internal, so does every file of the module. -/
theorem render_narrower_selection {r r' : Renderer} (hflavor : r.flavor ∈ Flavor.all)
    (h : r.Narrower r') {root : RootNode} {large : FileMap}
    (hlarge : (r'.render root).files = .ok large) :
    ∃ small, (r.render root).files = .ok small ∧
      small.paths.Perm (r.exportedPaths root) ∧
      (∀ p ∈ r.programsOf root, ∀ path ∈ r.programPaths p,
        ∃ text, small.get? path = some text ∧ large.get? path = some text) ∧
      ((∀ p ∈ root.programs, p.isInternal = false) → ∀ path ∈ r.modulePaths,
        ∃ text, small.get? path = some text ∧ large.get? path = some text) := by
  obtain ⟨base, base', small, added, added', hbase, hbase', hsmall, hfiles, hfiles', hadded⟩ :=
    render_within hflavor h hlarge
  have hextends := render_extends hflavor hsmall
  have hperm : small.paths.Perm (r.exportedPaths root) := hextends.perm
  -- a path of the small map has its text in both if it was added, or if the base is the same
  have hboth {path : String} (hpath : path ∈ small.paths)
      (hshared : ∀ file ∈ base.files, file.1 = path → file ∈ base'.files) :
      ∃ text, small.get? path = some text ∧ large.get? path = some text := by
    obtain ⟨⟨_, text⟩, hfile, rfl⟩ := List.mem_map.mp hpath
    refine ⟨text, (render_isSorted hsmall).get?_eq_some_iff.mpr hfile,
      (render_isSorted hlarge).get?_eq_some_iff.mpr (hfiles'.mem_iff.mpr ?_)⟩
    rcases List.mem_append.mp (hfiles.mem_iff.mp hfile) with hfile | hfile
    · exact List.mem_append_left _ (hshared _ hfile rfl)
    · exact List.mem_append_right _ (hadded.subset hfile)
  refine ⟨small, hsmall, hperm, ?_, ?_⟩
  · intro p hp path hpath
    have hsome : (r.programsOf root).isEmpty = false :=
      List.isEmpty_eq_false_iff.mpr (List.ne_nil_of_mem hp)
    have hentity : path ∈ (r.programsOf root).flatMap r.programPaths :=
      List.mem_flatMap.mpr ⟨p, hp, hpath⟩
    have hnodup := hperm.nodup_iff.mp hextends.nodup
    rw [Renderer.exportedPaths, hsome, if_neg Bool.false_ne_true] at hperm hnodup
    refine hboth (hperm.mem_iff.mpr (List.mem_append_right _ hentity)) ?_
    rintro file hfile rfl
    -- no file of an entity is one of the module
    have hmodule : file.1 ∈ r.modulePaths :=
      (baseStep_ok hflavor hsome hbase).perm.mem_iff.mp (List.mem_map_of_mem hfile)
    exact absurd rfl ((List.nodup_append.mp hnodup).2.2 _ hmodule _ hentity)
  · intro hpublic path hpath
    have hall (s : Renderer) : s.programsOf root = root.programs := by
      rw [Renderer.programsOf, List.filter_eq_self]
      intro p hp
      rw [Renderer.exports, hpublic p hp, Bool.not_false, Bool.or_true]
    have hsame : base = base' := by
      rw [hall, h.baseStep] at hbase
      rw [hall, hbase] at hbase'
      exact Except.ok.inj hbase'
    refine hboth ?_ fun file hfile _ => hsame ▸ hfile
    refine hperm.mem_iff.mpr ?_
    rw [Renderer.exportedPaths, hall, RootNode.programs, List.isEmpty_cons,
      if_neg Bool.false_ne_true]
    exact List.mem_append_left _ hpath

/-- A program with an internal type and an instruction that groups another, with and without
them. -/
theorem render_narrower_selection_vault :
    let narrow : Renderer := ⟨⟨.unreal5, "Vault"⟩, false, false, []⟩
    let wide : Renderer := ⟨⟨.unreal5, "Vault"⟩, true, true, []⟩
    let program : ProgramNode :=
      { name := "vault", publicKey := "11111111111111111111111111111111", version := "",
        origin := "", docs := [], accounts := [],
        instructions := [⟨"trade", [], [], [], [⟨"sell", [], [], [], [], false⟩], false⟩],
        definedTypes := [⟨"hidden", [], .struct [], true⟩], pdas := [], errors := [],
        isInternal := false }
    let root : RootNode := ⟨"", "", program, []⟩
    ∃ small large sell programs, (narrow.render root).files = .ok small ∧
      (wide.render root).files = .ok large ∧ small.size = 6 ∧ large.size = 8 ∧
      small.get? "Source/Vault/Public/Vault/Instructions/Sell.h" = some sell ∧
      large.get? "Source/Vault/Public/Vault/Instructions/Sell.h" = some sell ∧
      small.get? "Source/Vault/Public/Vault/Programs.h" = some programs ∧
      large.get? "Source/Vault/Public/Vault/Programs.h" = some programs := by
  intro narrow wide program root
  have hflavor : narrow.flavor ∈ Flavor.all := List.mem_cons_of_mem _ (List.mem_singleton_self _)
  have hnarrower : narrow.Narrower wide := ⟨rfl, rfl, fun _ => rfl, fun _ => rfl⟩
  have hlarge : (wide.render root).files.toOption.map (·.size) = some 8 := by decide +kernel
  cases hfiles : (wide.render root).files with
  | error e =>
    rw [hfiles] at hlarge
    cases hlarge
  | ok large =>
    rw [hfiles] at hlarge
    obtain ⟨small, hsmall, hpaths, hentities, hmodule⟩ :=
      render_narrower_selection hflavor hnarrower hfiles
    have hsize : small.size = 6 := by
      have hlength : (narrow.exportedPaths root).length = 6 := by decide +kernel
      rw [← hlength, ← hpaths.length_eq, FileMap.paths, List.length_map]
      rfl
    have hpath : "Source/Vault/Public/Vault/Instructions/Sell.h" ∈ narrow.programPaths program := by
      decide +kernel
    obtain ⟨sell, hsell, hsell'⟩ := hentities program List.mem_cons_self _ hpath
    obtain ⟨programs, hprograms, hprograms'⟩ := hmodule (by simp [root, program, RootNode.programs])
      _ List.mem_cons_self
    exact ⟨small, large, sell, programs, hsmall, rfl, hsize, Option.some.inj hlarge, hsell, hsell',
      hprograms, hprograms'⟩

end ClientGen.Render
