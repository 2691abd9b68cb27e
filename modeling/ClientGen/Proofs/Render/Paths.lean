import ClientGen.Proofs.Cpp.Tracking
import ClientGen.Proofs.Render.FileMap
import ClientGen.Render.Root
/-!
# Paths of the generated files

A document that is rendered becomes the files of the module and one header for everything that is
exported, with a second file for the errors of a program. No path is missing and none is claimed
twice, so the number of files follows from the numbers of exported entities.
-/
namespace ClientGen.Render

open ClientGen.Idl ClientGen.Cpp

/-- A map that holds files at further paths, and none twice. -/
structure FileMap.Extends (map out : FileMap) (further : List String) : Prop where
  perm : out.paths.Perm (map.paths ++ further)
  nodup : out.paths.Nodup

theorem FileMap.Extends.trans {map middle out : FileMap} {first second : List String}
    (h : map.Extends middle first) (h' : middle.Extends out second) :
    map.Extends out (first ++ second) := by
  refine ⟨?_, h'.nodup⟩
  rw [← List.append_assoc]
  exact h'.perm.trans (h.perm.append_right second)

/-- A step whose files, if there are any, lie at given paths. -/
def Step.Yields (step : Step) (paths : List String) : Prop :=
  ∀ map, step.files = .ok map → map.paths.Perm paths

theorem runSteps_append_files (map : FileMap) (first second : List Step) :
    (runSteps map (first ++ second)).files =
      (runSteps map first).files.bind fun out => (runSteps out second).files := by
  induction first generalizing map with
  | nil => rfl
  | cons step rest ih =>
    rw [List.cons_append, runSteps, runSteps]
    cases step.files.bind map.merge with
    | error e => rfl
    | ok joined => exact ih joined

/-- Steps one after another add the paths of each. -/
theorem runSteps_extends {α : Type} (step : α → Step) (paths : α → List String) (list : List α)
    (hyields : ∀ a ∈ list, (step a).Yields (paths a)) :
    ∀ map out : FileMap, map.paths.Nodup → (runSteps map (list.map step)).files = .ok out →
      map.Extends out (list.flatMap paths) := by
  induction list with
  | nil =>
    intro map out hnodup h
    cases h
    exact ⟨by rw [List.flatMap_nil, List.append_nil], hnodup⟩
  | cons a rest ih =>
    intro map out hnodup h
    rw [List.map_cons, runSteps] at h
    cases hfiles : (step a).files with
    | error e =>
      rw [hfiles] at h
      cases h
    | ok files =>
      rw [hfiles, Except.bind] at h
      cases hmerge : map.merge files with
      | error e =>
        rw [hmerge] at h
        cases h
      | ok joined =>
        rw [hmerge] at h
        obtain ⟨hperm, hjoined⟩ := FileMap.merge_ok hnodup hmerge
        have hfirst : map.Extends joined (paths a) := by
          refine ⟨?_, hjoined⟩
          have hpaths := FileMap.paths_perm_of_files_perm hperm
          rw [List.map_append] at hpaths
          exact hpaths.trans ((hyields a (List.mem_cons_self ..) files hfiles).append_left _)
        have hrest := ih (fun b hb => hyields b (List.mem_cons_of_mem a hb)) joined out hjoined h
        rw [List.flatMap_cons]
        exact hfirst.trans hrest

theorem Step.Yields.inside {step : Step} {paths : List String} (place : Cpp.Place)
    (h : step.Yields paths) : (Renderer.inside place step).Yields paths := by
  intro map hmap
  exact h map (Generated.inside_eq_ok_iff.mp hmap)

/-- A step that yields a single file. -/
theorem Step.yields_single {step : Step} {path : String}
    (h : ∀ map, step.files = .ok map → ∃ page, map = FileMap.empty.add path page) :
    step.Yields [path] := by
  intro map hmap
  obtain ⟨page, rfl⟩ := h map hmap
  exact List.Perm.refl _

theorem renderAccount_ok {r : Renderer} {p : ProgramNode} {links : Links} {a : AccountNode}
    {map : FileMap} (h : renderAccount r p links a = .ok map) :
    ∃ page, map = FileMap.empty.add (r.headerPath "Accounts" (Naming.pascal a.name)) page := by
  obtain ⟨m, -, h⟩ := Generated.bind_eq_ok_iff.mp h
  obtain ⟨seeds, -, h⟩ := Generated.bind_eq_ok_iff.mp h
  cases h
  exact ⟨_, rfl⟩

theorem renderDefinedType_ok {r : Renderer} {d : DefinedTypeNode} {map : FileMap}
    (h : renderDefinedType r d = .ok map) :
    ∃ page, map = FileMap.empty.add (r.headerPath "Types" (Naming.pascal d.name)) page := by
  obtain ⟨m, -, h⟩ := Generated.bind_eq_ok_iff.mp h
  cases h
  exact ⟨_, rfl⟩

theorem renderInstruction_ok {r : Renderer} {p : ProgramNode} {ix : InstructionNode}
    {map : FileMap} (h : renderInstruction r p ix = .ok map) :
    ∃ page, map = FileMap.empty.add (r.headerPath "Instructions" (Naming.pascal ix.name)) page := by
  obtain ⟨arguments, -, h⟩ := Generated.bind_eq_ok_iff.mp h
  obtain ⟨m, -, h⟩ := Generated.bind_eq_ok_iff.mp h
  cases h
  exact ⟨_, rfl⟩

/-! ### The paths of a document -/

namespace Renderer

/-- The files of the errors of a program, none if it has no errors. -/
def errorPaths (r : Renderer) (p : ProgramNode) : List String :=
  if p.errors.isEmpty then []
  else
    [r.headerPath "Errors" (Naming.pascal p.name), r.sourcePath "Errors" (Naming.pascal p.name)]

/-- The files of a program: a header for each exported entity, and the files of its errors. -/
def programPaths (r : Renderer) (p : ProgramNode) : List String :=
  (r.accountsOf p).map (fun a => r.headerPath "Accounts" (Naming.pascal a.name))
    ++ (r.definedTypesOf p).map (fun d => r.headerPath "Types" (Naming.pascal d.name))
    ++ (r.instructionsOf p).map (fun ix => r.headerPath "Instructions" (Naming.pascal ix.name))
    ++ r.errorPaths p

/-- The files that every module has. -/
def modulePaths (r : Renderer) : List String :=
  (r.publicRoot ++ r.programsHeader) :: r.flavor.scaffold.map (·.path r.plugin)
    ++ [r.publicRoot ++ r.plugin ++ ".h", r.privateRoot ++ r.plugin ++ ".cpp"]

/-- The files of a document, none if no program is exported. -/
def exportedPaths (r : Renderer) (root : RootNode) : List String :=
  if (r.programsOf root).isEmpty then []
  else r.modulePaths ++ (r.programsOf root).flatMap r.programPaths

end Renderer

/-- The last character of a path. -/
def ending (path : String) : Option Char := path.toList.getLast?

theorem ending_append {s t : String} (h : t.toList ≠ []) : ending (s ++ t) = ending t := by
  unfold ending
  rw [String.toList_append, List.getLast?_append, List.getLast?_eq_some_getLast h, Option.some_or]

theorem renderErrors_files_perm (r : Renderer) (p : ProgramNode) :
    (renderErrors r p).files.Perm
      [(r.headerPath "Errors" (Naming.pascal p.name),
          errorsHeaderPage r (Naming.pascal p.name) p.errors),
        (r.sourcePath "Errors" (Naming.pascal p.name),
          errorsSourcePage r (Naming.pascal p.name) p.errors)] := by
  have hne : r.headerPath "Errors" (Naming.pascal p.name)
      ≠ r.sourcePath "Errors" (Naming.pascal p.name) := by
    intro heq
    have hending := congrArg ending heq
    unfold Renderer.headerPath Renderer.header Renderer.sourcePath at hending
    rw [← String.append_assoc, ending_append (by decide), ending_append (by decide)] at hending
    exact absurd hending (by decide)
  exact FileMap.ofList_files_perm
    [(r.headerPath "Errors" (Naming.pascal p.name),
        errorsHeaderPage r (Naming.pascal p.name) p.errors),
      (r.sourcePath "Errors" (Naming.pascal p.name),
        errorsSourcePage r (Naming.pascal p.name) p.errors)]
    (by simpa using hne)

theorem renderErrors_paths (r : Renderer) (p : ProgramNode) (h : p.errors.isEmpty = false) :
    (renderErrors r p).paths.Perm (r.errorPaths p) := by
  rw [Renderer.errorPaths, h]
  exact FileMap.paths_perm_of_files_perm (renderErrors_files_perm r p)

theorem runSteps_errors {r : Renderer} {p : ProgramNode} {map out : FileMap}
    (hnodup : map.paths.Nodup)
    (h : (runSteps map (if p.errors.isEmpty then [] else [⟨[], .ok (renderErrors r p)⟩])).files
      = .ok out) :
    map.Extends out (r.errorPaths p) := by
  cases hempty : p.errors.isEmpty with
  | true =>
    rw [hempty] at h
    cases h
    refine ⟨?_, hnodup⟩
    rw [Renderer.errorPaths, hempty, if_pos rfl, List.append_nil]
  | false =>
    rw [hempty] at h
    have hyields : (⟨[], .ok (renderErrors r p)⟩ : Step).Yields (r.errorPaths p) := by
      intro files hfiles
      cases hfiles
      exact renderErrors_paths r p hempty
    have hextends := runSteps_extends (fun _ : Unit => ⟨[], .ok (renderErrors r p)⟩)
      (fun _ => r.errorPaths p) [()] (fun _ _ => hyields) map out hnodup h
    rwa [List.flatMap_cons, List.flatMap_nil, List.append_nil] at hextends

/-- A program is rendered to the files of its exported entities. -/
theorem renderProgram_yields {r : Renderer} {links : Links} {p : ProgramNode}
    (hexported : r.exports p.isInternal = true) :
    (r.renderProgram links p).Yields (r.programPaths p) := by
  intro out h
  rw [Renderer.renderProgram, if_pos hexported, Renderer.programSteps, runSteps_append_files] at h
  -- four blocks of steps, peeled off from the last to the first
  obtain ⟨instructions, h, herrors⟩ := Generated.bind_eq_ok_iff.mp h
  rw [runSteps_append_files] at h
  obtain ⟨types, h, hinstructions⟩ := Generated.bind_eq_ok_iff.mp h
  rw [runSteps_append_files] at h
  obtain ⟨accounts, haccounts, htypes⟩ := Generated.bind_eq_ok_iff.mp h
  have hfirst : FileMap.empty.Extends accounts
      ((r.accountsOf p).flatMap fun a => [r.headerPath "Accounts" (Naming.pascal a.name)]) := by
    refine runSteps_extends _ _ _ ?_ _ _ List.nodup_nil haccounts
    intro a _
    exact (Step.yields_single fun map hmap => renderAccount_ok hmap).inside _
  have hsecond : accounts.Extends types
      ((r.definedTypesOf p).flatMap fun d => [r.headerPath "Types" (Naming.pascal d.name)]) := by
    refine runSteps_extends _ _ _ ?_ _ _ hfirst.nodup htypes
    intro d _
    exact (Step.yields_single fun map hmap => renderDefinedType_ok hmap).inside _
  have hthird : types.Extends instructions
      ((r.instructionsOf p).flatMap fun ix =>
        [r.headerPath "Instructions" (Naming.pascal ix.name)]) := by
    refine runSteps_extends _ _ _ ?_ _ _ hsecond.nodup hinstructions
    intro ix _
    exact (Step.yields_single fun map hmap => renderInstruction_ok hmap).inside _
  have hfourth : instructions.Extends out (r.errorPaths p) :=
    runSteps_errors hthird.nodup herrors
  have hall := ((hfirst.trans hsecond).trans hthird).trans hfourth
  rw [← List.map_eq_flatMap, ← List.map_eq_flatMap, ← List.map_eq_flatMap] at hall
  exact hall.perm

/-! ### The files of the module -/

/-- The files that every module has, given the text of the header of the programs. -/
def Renderer.baseFiles (r : Renderer) (programs : List ProgramNode) (programsPage : String) :
    List (String × String) :=
  let info := r.moduleInfo programs
  (r.publicRoot ++ r.programsHeader, programsPage)
    :: r.flavor.scaffold.map (fun file => (file.path r.plugin, info.page file.template))
    ++ [(r.publicRoot ++ r.plugin ++ ".h", info.page r.flavor.moduleHeader),
        (r.privateRoot ++ r.plugin ++ ".cpp", info.page r.flavor.moduleSource)]

theorem baseFiles_paths (r : Renderer) (programs : List ProgramNode) (programsPage : String) :
    (r.baseFiles programs programsPage).map (·.1) = r.modulePaths := by
  rw [Renderer.baseFiles, Renderer.modulePaths, List.map_append, List.map_cons, List.map_map]
  rfl

theorem moduleFiles_eq_ofList (r : Renderer) (programs : List ProgramNode) (programsPage : String) :
    r.moduleFiles programs (FileMap.empty.add (r.publicRoot ++ r.programsHeader) programsPage) =
      FileMap.ofList (r.baseFiles programs programsPage) := by
  rw [FileMap.ofList, Renderer.baseFiles, List.cons_append, List.foldl_cons, List.foldl_append,
    List.foldl_map]
  rfl

private theorem nodup_of_ending {programs first second header source : String}
    (hne : programs ≠ header)
    (h : ([programs, first, second, source].map ending).Nodup)
    (h' : ([first, second, header, source].map ending).Nodup) :
    [programs, first, second, header, source].Nodup := by
  have hending (a b : String) (hab : ending a ≠ ending b) : a ≠ b := by
    intro heq
    exact hab (by rw [heq])
  have hprograms := (List.nodup_cons.mp (List.Pairwise.of_map ending hending h)).1
  have hrest := List.Pairwise.of_map ending hending h'
  refine List.nodup_cons.mpr ⟨?_, hrest⟩
  simp only [List.mem_cons, List.not_mem_nil, or_false, not_or] at hprograms ⊢
  exact ⟨hprograms.1, hprograms.2.1, hne, hprograms.2.2⟩

/-- The paths of the module differ for every name that it may have: all but two of them end in
different characters. -/
theorem modulePaths_nodup (r : Renderer) (hflavor : r.flavor ∈ Flavor.all) :
    r.modulePaths.Nodup := by
  have hne : r.publicRoot ++ r.programsHeader ≠ r.publicRoot ++ r.plugin ++ ".h" := by
    unfold Renderer.programsHeader
    rw [String.append_assoc, Ne, String.append_right_inj, String.append_right_inj]
    decide
  have hprograms : ending (r.publicRoot ++ r.programsHeader) = some 'h' := by
    unfold Renderer.programsHeader
    rw [← String.append_assoc, ending_append (by decide)]
    rfl
  have hheader : ending (r.publicRoot ++ r.plugin ++ ".h") = some 'h' := ending_append (by decide)
  have hsource : ending (r.privateRoot ++ r.plugin ++ ".cpp") = some 'p' :=
    ending_append (by decide)
  rw [Flavor.all, List.mem_cons, List.mem_singleton] at hflavor
  rcases hflavor with hflavor | hflavor
  · rw [Renderer.modulePaths, hflavor]
    apply nodup_of_ending hne
    · simp only [List.map_cons, List.map_nil, hprograms, hsource]
      decide
    · simp only [List.map_cons, List.map_nil, hheader, hsource]
      decide
  · have hdescriptor : ending (r.plugin ++ ".uplugin") = some 'n' := ending_append (by decide)
    have hrules : ending ("Source/" ++ r.plugin ++ "/" ++ r.plugin ++ ".Build.cs") = some 's' :=
      ending_append (by decide)
    rw [Renderer.modulePaths, hflavor]
    apply nodup_of_ending hne
    · simp only [List.map_cons, List.map_nil, hprograms, hsource, hdescriptor, hrules]
      decide
    · simp only [List.map_cons, List.map_nil, hheader, hsource, hdescriptor, hrules]
      decide

/-- The files of a module that exports some program. -/
theorem baseStep_ok {r : Renderer} (hflavor : r.flavor ∈ Flavor.all) {programs : List ProgramNode}
    (hprograms : programs.isEmpty = false) {map : FileMap}
    (h : (r.baseStep programs).files = .ok map) : FileMap.empty.Extends map r.modulePaths := by
  rw [Renderer.baseStep, hprograms] at h
  cases hkeys : r.programKeys programs with
  | error e =>
    rw [hkeys] at h
    cases h
  | ok keys =>
    rw [hkeys] at h
    cases h
    have hpaths := baseFiles_paths r programs (r.programsPage keys)
    have hnodup := modulePaths_nodup r hflavor
    have hfiles := FileMap.ofList_files_perm (r.baseFiles programs (r.programsPage keys))
      (by rw [hpaths]; exact hnodup)
    have hperm := FileMap.paths_perm_of_files_perm hfiles
    rw [hpaths, ← moduleFiles_eq_ofList] at hperm
    exact ⟨hperm, hperm.nodup_iff.mpr hnodup⟩

theorem render_files (r : Renderer) (root : RootNode) :
    (r.render root).files =
      (r.baseStep (r.programsOf root)).files.bind fun base =>
        (runSteps base ((r.programsOf root).map fun p =>
          Renderer.inside (.program p.name) (r.renderProgram root.links p))).files := by
  unfold Renderer.render
  dsimp only
  cases (r.baseStep (r.programsOf root)).files <;> rfl

theorem render_extends {r : Renderer} (hflavor : r.flavor ∈ Flavor.all) {root : RootNode}
    {out : FileMap} (h : (r.render root).files = .ok out) :
    FileMap.empty.Extends out (r.exportedPaths root) := by
  rw [render_files] at h
  obtain ⟨base, hbase, h⟩ := Generated.bind_eq_ok_iff.mp h
  rw [Renderer.exportedPaths]
  cases hempty : (r.programsOf root).isEmpty with
  | true =>
    rw [List.isEmpty_iff.mp hempty] at hbase h
    cases hbase
    cases h
    exact ⟨List.Perm.refl _, List.nodup_nil⟩
  | false =>
    have hmodule := baseStep_ok hflavor hempty hbase
    have hyields (p : ProgramNode) (hp : p ∈ r.programsOf root) :
        (Renderer.inside (.program p.name) (r.renderProgram root.links p)).Yields
          (r.programPaths p) :=
      (renderProgram_yields (List.mem_filter.mp hp).2).inside _
    exact hmodule.trans (runSteps_extends _ _ _ hyields base out hmodule.nodup h)

/-! ### Numbers of files -/

/-- The number of entities that have a header of their own. -/
def Renderer.Stats.entities (stats : Renderer.Stats) : Nat :=
  stats.accounts + stats.definedTypes + stats.instructions

theorem count_entities (r : Renderer) (stats : Renderer.Stats) (p : ProgramNode)
    (hexported : r.exports p.isInternal = true) :
    (Renderer.Stats.count r stats p).entities + (r.errorPaths p).length =
      stats.entities + (r.programPaths p).length := by
  simp only [Renderer.Stats.count, hexported, if_true, Renderer.Stats.entities,
    Renderer.programPaths, List.length_append, List.length_map, Renderer.accountsOf,
    Renderer.definedTypesOf, Renderer.instructionsOf, List.countP_eq_length_filter]
  omega

theorem errorPaths_length (r : Renderer) (p : ProgramNode) :
    (r.errorPaths p).length = if p.errors.isEmpty then 0 else 2 := by
  unfold Renderer.errorPaths
  split <;> rfl

/-- What is counted program by program agrees with the files. -/
theorem foldl_count_entities (r : Renderer) (programs : List ProgramNode) :
    ∀ stats : Renderer.Stats,
      let exported := programs.filter fun p => r.exports p.isInternal
      (programs.foldl (Renderer.Stats.count r) stats).entities
          + 2 * exported.countP (fun p => !p.errors.isEmpty) =
        stats.entities + (exported.flatMap r.programPaths).length := by
  induction programs with
  | nil =>
    intro stats
    rfl
  | cons p rest ih =>
    intro stats
    have hrest := ih (Renderer.Stats.count r stats p)
    rw [List.foldl_cons, List.filter_cons]
    cases hexported : r.exports p.isInternal with
    | false =>
      have hskipped : Renderer.Stats.count r stats p = stats := by
        rw [Renderer.Stats.count, hexported]
        rfl
      rw [hskipped] at hrest ⊢
      exact hrest
    | true =>
      have hfirst := count_entities r stats p hexported
      have herrors := errorPaths_length r p
      simp only [if_true, List.flatMap_cons, List.length_append, List.countP_cons] at hrest ⊢
      cases hempty : p.errors.isEmpty with
      | true =>
        simp only [hempty, if_true] at herrors
        simp only [Bool.not_true, Bool.false_eq_true, if_false]
        omega
      | false =>
        simp only [hempty, Bool.false_eq_true, if_false] at herrors
        simp only [Bool.not_false, if_true]
        omega

theorem exportedPaths_length {r : Renderer} (hflavor : r.flavor ∈ Flavor.all) {root : RootNode}
    (hprograms : r.programsOf root ≠ []) :
    (r.exportedPaths root).length =
      5 + (r.stats (some root)).entities
        + 2 * (r.programsOf root).countP fun p => !p.errors.isEmpty := by
  have hmodule : r.modulePaths.length = 5 := by
    rw [Renderer.modulePaths]
    rw [Flavor.all, List.mem_cons, List.mem_singleton] at hflavor
    rcases hflavor with hflavor | hflavor <;> rw [hflavor] <;> rfl
  have hcount : (r.stats (some root)).entities
        + 2 * (r.programsOf root).countP (fun p => !p.errors.isEmpty) =
      0 + ((r.programsOf root).flatMap r.programPaths).length :=
    foldl_count_entities r root.programs ⟨0, 0, 0, 0, 0⟩
  have hempty : (r.programsOf root).isEmpty = false := List.isEmpty_eq_false_iff.mpr hprograms
  rw [Renderer.exportedPaths, hempty, if_neg Bool.false_ne_true, List.length_append, hmodule]
  omega

theorem Options.flavor_mem_of_renderer? {o : Options} {r : Renderer} (h : o.renderer? = some r) :
    r.flavor ∈ Flavor.all := by
  obtain ⟨flavor, hflavor, rfl⟩ := Option.map_eq_some_iff.mp h
  unfold Flavor.find? at hflavor
  exact List.mem_of_find?_eq_some hflavor

/-- Options that name no flavor ask for the standard one. -/
theorem Options.renderer?_of_standard {o : Options} (h : o.flavor = "") :
    o.renderer? = some ⟨⟨.unreal5, o.pluginName⟩, o.renderParents, o.includeInternal, o.remap⟩ := by
  have hname : Text.lower "unreal5" = "unreal5" := by decide +kernel
  have hflavor : Flavor.find? o.flavorName = some .unreal5 := by
    rw [Options.flavorName, h]
    change Flavor.all.find? (·.name == Text.lower "unreal5") = some .unreal5
    rw [hname]
    rfl
  rw [Options.renderer?, hflavor]
  rfl

theorem isInternal_of_exports {r : Renderer} {isInternal : Bool}
    (hinternal : r.includeInternal = false) (h : r.exports isInternal = true) :
    isInternal = false := by
  rw [Renderer.exports, hinternal, Bool.false_or, Bool.not_eq_true'] at h
  exact h

/-- A document that is rendered becomes exactly the files of what it exports: none of them is
missing, none is written twice, and there is no other. So the number of files is told by the
numbers of exported entities, and no internal entity has a file unless it is asked for. -/
theorem render_exports_exactly {o : Options} {r : Renderer} (hr : o.renderer? = some r)
    {root : RootNode} {out : FileMap} (h : (r.render root).files = .ok out) :
    let stats := r.stats (some root)
    out.paths.Perm (r.exportedPaths root) ∧
    (r.exportedPaths root).Nodup ∧
    (r.programsOf root = [] → out.size = 0) ∧
    (r.programsOf root ≠ [] →
      out.size = 5 + stats.accounts + stats.definedTypes + stats.instructions
        + 2 * (r.programsOf root).countP fun p => !p.errors.isEmpty) ∧
    (r.includeInternal = false → ∀ p ∈ r.programsOf root,
      p.isInternal = false ∧ (∀ a ∈ r.accountsOf p, a.isInternal = false) ∧
        (∀ d ∈ r.definedTypesOf p, d.isInternal = false) ∧
        ∀ ix ∈ r.instructionsOf p, ix.isInternal = false) := by
  intro stats
  have hflavor := Options.flavor_mem_of_renderer? hr
  have hextends := render_extends hflavor h
  have hperm : out.paths.Perm (r.exportedPaths root) := hextends.perm
  have hsize : out.size = (r.exportedPaths root).length := by
    rw [← hperm.length_eq, FileMap.paths, List.length_map]
    rfl
  refine ⟨hperm, hperm.nodup_iff.mp hextends.nodup, ?_, ?_, ?_⟩
  · intro hnone
    rw [hsize, Renderer.exportedPaths, hnone]
    rfl
  · intro hsome
    have hlength := exportedPaths_length hflavor hsome
    rw [hsize, hlength]
    unfold Renderer.Stats.entities stats
    omega
  · intro hinternal p hp
    refine ⟨isInternal_of_exports hinternal (List.mem_filter.mp hp).2, ?_, ?_, ?_⟩
    · intro a ha
      exact isInternal_of_exports hinternal (List.mem_filter.mp ha).2
    · intro d hd
      exact isInternal_of_exports hinternal (List.mem_filter.mp hd).2
    · intro ix hix
      exact isInternal_of_exports hinternal (List.mem_filter.mp hix).2

/-- A program with an account, an internal type and an error becomes eight files. -/
theorem render_exports_exactly_vault :
    let options : Options := ⟨"vault", "", false, false, []⟩
    let program : ProgramNode :=
      { name := "vault", publicKey := "11111111111111111111111111111111", version := "",
        origin := "", docs := [],
        accounts := [⟨"state", [], .struct [], none, none, false⟩], instructions := [],
        definedTypes := [⟨"hidden", [], .struct [], true⟩], pdas := [],
        errors := [⟨"denied", 6000, "", []⟩], isInternal := false }
    ∃ r out, options.renderer? = some r ∧ (r.render ⟨"", "", program, []⟩).files = .ok out ∧
      out.size = 8 := by
  intro options program
  let r : Renderer := ⟨⟨.unreal5, "Vault"⟩, false, false, []⟩
  have hr : options.renderer? = some r := by
    have hplugin : options.pluginName = "Vault" := by decide +kernel
    have hname : Text.lower "unreal5" = "unreal5" := by decide +kernel
    have hflavor : Flavor.find? options.flavorName = some .unreal5 := by
      change Flavor.all.find? (·.name == Text.lower "unreal5") = some .unreal5
      rw [hname]
      rfl
    rw [Options.renderer?, hflavor, hplugin]
    rfl
  cases hout : (r.render ⟨"", "", program, []⟩).files with
  | error e =>
    have hok : (r.render ⟨"", "", program, []⟩).files.toBool = true := by decide +kernel
    rw [hout] at hok
    cases hok
  | ok out =>
    refine ⟨r, out, hr, hout, ?_⟩
    obtain ⟨-, -, -, hsize, -⟩ := render_exports_exactly hr hout
    rw [hsize (List.cons_ne_nil _ _)]
    rfl

end ClientGen.Render
