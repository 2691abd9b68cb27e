import Mathlib.Data.List.Forall2
import Mathlib.Data.List.Nodup
import ClientGen.Proofs.Cpp.Agreement
import ClientGen.Proofs.Render.Paths
/-!
# Rendering with two renderers

What a document can be rendered to does not depend on the dialect, on the name of the module or on
replaced include paths. Two renderers that select the same entities both succeed, or both fail for
the same reason; with one module name, their files differ in the scaffold only.

The argument follows the two runs step by step. Both hold the files of the same entities all the
time, each at the paths of its own module, so a path is claimed twice in both runs or in neither.
-/
namespace ClientGen.Render

open ClientGen.Idl ClientGen.Cpp

/-! ### Files of entities -/

inductive Category where
  | accounts
  | definedTypes
  | instructions
  | errors
deriving DecidableEq, Repr

/-- The directory of a category. -/
def Category.folder : Category → String
  | .accounts => "Accounts"
  | .definedTypes => "Types"
  | .instructions => "Instructions"
  | .errors => "Errors"

/-- A file of an entity, apart from the module in which it lies. -/
inductive EntityFile where
  | header (category : Category) (name : String)
  | source (name : String)
deriving DecidableEq, Repr

/-- Where a file lies in the module of a renderer. -/
def EntityFile.path (r : Renderer) : EntityFile → String
  | .header category name => r.headerPath category.folder name
  | .source name => r.sourcePath "Errors" name

/-- The first character of a path. -/
def opening (path : String) : Option Char := path.toList.head?

theorem opening_append {s : String} (t : String) (h : s.toList ≠ []) :
    opening (s ++ t) = opening s := by
  unfold opening
  rw [String.toList_append, List.head?_append, List.head?_eq_some_head h, Option.some_or]

theorem Category.folder_append_inj {category category' : Category} {rest rest' : String}
    (h : category.folder ++ rest = category'.folder ++ rest') :
    category = category' ∧ rest = rest' := by
  -- the folders start with different letters
  have hopening := congrArg opening h
  have hne (c : Category) : c.folder.toList ≠ [] := by cases c <;> decide
  rw [opening_append _ (hne category), opening_append _ (hne category')] at hopening
  have hcategory : category = category' := by
    revert hopening
    cases category <;> cases category' <;> decide
  subst hcategory
  exact ⟨rfl, (String.append_right_inj _).mp h⟩

theorem headerPath_ending (r : Renderer) (category name : String) :
    ending (r.headerPath category name) = some 'h' := by
  unfold Renderer.headerPath Renderer.header
  rw [← String.append_assoc, ending_append (by decide)]
  rfl

theorem sourcePath_ending (r : Renderer) (category name : String) :
    ending (r.sourcePath category name) = some 'p' := by
  unfold Renderer.sourcePath
  rw [ending_append (by decide)]
  rfl

/-- Files of different entities lie at different paths, whatever the module is called. -/
theorem EntityFile.path_injective (r : Renderer) : Function.Injective (EntityFile.path r) := by
  intro file file' h
  cases file with
  | header category name =>
    cases file' with
    | header category' name' =>
      simp only [path, Renderer.headerPath, Renderer.header, String.append_assoc,
        String.append_right_inj] at h
      obtain ⟨rfl, hname⟩ := Category.folder_append_inj h
      rw [String.append_right_inj, String.append_left_inj] at hname
      rw [hname]
    | source name' =>
      have hending := congrArg ending h
      rw [path, path, headerPath_ending, sourcePath_ending] at hending
      exact absurd hending (by decide)
  | source name =>
    cases file' with
    | header category' name' =>
      have hending := congrArg ending h
      rw [path, path, headerPath_ending, sourcePath_ending] at hending
      exact absurd hending (by decide)
    | source name' =>
      simp only [path, Renderer.sourcePath, String.append_assoc, String.append_right_inj,
        String.append_left_inj] at h
      rw [h]

theorem scaffold_ending {r : Renderer} (hflavor : r.flavor ∈ Flavor.all) {path : String}
    (h : path ∈ r.flavor.scaffold.map (·.path r.plugin)) :
    ending path ≠ some 'h' ∧ ending path ≠ some 'p' := by
  rw [Flavor.all, List.mem_cons, List.mem_singleton] at hflavor
  rcases hflavor with hflavor | hflavor
  · rw [hflavor] at h
    have hpath : path = "CMakeLists.txt" ∨ path = "vcpkg.json" := by
      simpa [Flavor.stl20] using h
    rcases hpath with rfl | rfl <;> decide
  · rw [hflavor] at h
    have hpath : path = r.plugin ++ ".uplugin" ∨
        path = "Source/" ++ r.plugin ++ "/" ++ r.plugin ++ ".Build.cs" := by
      simpa [Flavor.unreal5] using h
    rcases hpath with rfl | rfl <;> rw [ending_append (by decide)] <;> decide

theorem headerPath_not_mem_modulePaths {r : Renderer} (hflavor : r.flavor ∈ Flavor.all)
    (category : Category) (name : String) :
    r.headerPath category.folder name ∉ r.modulePaths := by
  intro h
  have hending := headerPath_ending r category.folder name
  simp only [Renderer.modulePaths, List.mem_append, List.mem_cons, List.not_mem_nil,
    or_false] at h
  rcases h with (hprograms | hscaffold) | hheader | hsource
  · have hsplit : "/Programs.h" = "/" ++ "Programs.h" := by decide
    simp only [Renderer.headerPath, Renderer.header, Renderer.programsHeader, hsplit,
      String.append_assoc, String.append_right_inj] at hprograms
    have hopening := congrArg opening hprograms
    rw [opening_append _ (by cases category <;> decide)] at hopening
    revert hopening
    cases category <;> decide
  · exact (scaffold_ending hflavor hscaffold).1 hending
  · simp only [Renderer.headerPath, Renderer.header, String.append_assoc,
      String.append_right_inj] at hheader
    have hopening := congrArg opening hheader
    rw [opening_append _ (by decide)] at hopening
    exact absurd hopening (by decide)
  · rw [hsource, ending_append (by decide)] at hending
    exact absurd hending (by decide)

theorem sourcePath_not_mem_modulePaths {r : Renderer} (hflavor : r.flavor ∈ Flavor.all)
    (name : String) : r.sourcePath "Errors" name ∉ r.modulePaths := by
  intro h
  have hending := sourcePath_ending r "Errors" name
  simp only [Renderer.modulePaths, Renderer.programsHeader, ← String.append_assoc, List.mem_append,
    List.mem_cons, List.not_mem_nil, or_false] at h
  rcases h with (hprograms | hscaffold) | hheader | hsource
  · rw [hprograms, ending_append (by decide)] at hending
    exact absurd hending (by decide)
  · exact (scaffold_ending hflavor hscaffold).2 hending
  · rw [hheader, ending_append (by decide)] at hending
    exact absurd hending (by decide)
  · simp only [Renderer.sourcePath, String.append_assoc, String.append_right_inj] at hsource
    have hopening := congrArg opening hsource
    rw [opening_append _ (by decide)] at hopening
    exact absurd hopening (by decide)

/-- The files of the module itself are none of an entity. -/
theorem EntityFile.path_not_mem_modulePaths {r : Renderer} (hflavor : r.flavor ∈ Flavor.all)
    (file : EntityFile) : file.path r ∉ r.modulePaths := by
  cases file with
  | header category name => exact headerPath_not_mem_modulePaths hflavor category name
  | source name => exact Render.sourcePath_not_mem_modulePaths hflavor name

/-! ### Two runs side by side -/

/-- A map that holds some files of entities next to others. -/
structure FileMap.Holds (r : Renderer) (others : List String) (files : List EntityFile)
    (map : FileMap) : Prop where
  perm : map.paths.Perm (others ++ files.map (·.path r))
  nodup : map.paths.Nodup

/-- Two maps that hold the files of the same entities, each next to files of its own. -/
def SameFiles (r r' : Renderer) (others others' : List String) (map map' : FileMap) : Prop :=
  ∃ files, map.Holds r others files ∧ map'.Holds r' others' files

section

variable {r r' : Renderer} {others others' : List String}

/-- Whether a path is claimed twice shows in the entities alone. -/
theorem FileMap.Holds.nodup_append_iff {map more : FileMap} {files files' : List EntityFile}
    (hothers : ∀ file : EntityFile, file.path r ∉ others) (h : map.Holds r others files)
    (h' : more.Holds r [] files') :
    (map.paths ++ more.paths).Nodup ↔ (files ++ files').Nodup := by
  have hperm : (map.paths ++ more.paths).Perm (others ++ (files ++ files').map (·.path r)) := by
    rw [List.map_append, ← List.append_assoc]
    exact h.perm.append h'.perm
  have hnodup := (List.nodup_append.mp (h.perm.nodup_iff.mp h.nodup)).1
  rw [hperm.nodup_iff, List.nodup_append, List.nodup_map_iff (EntityFile.path_injective r)]
  constructor
  · rintro ⟨-, hfiles, -⟩
    exact hfiles
  · intro hfiles
    refine ⟨hnodup, hfiles, ?_⟩
    rintro path hpath path' hmem rfl
    obtain ⟨file, -, rfl⟩ := List.mem_map.mp hmem
    exact hothers file hpath

theorem FileMap.Holds.merge {map more out : FileMap} {files files' : List EntityFile}
    (h : map.Holds r others files) (h' : more.Holds r [] files')
    (hmerge : map.merge more = .ok out) : out.Holds r others (files ++ files') := by
  obtain ⟨hperm, hnodup⟩ := FileMap.merge_ok h.nodup hmerge
  have hpaths := FileMap.paths_perm_of_files_perm hperm
  rw [List.map_append] at hpaths
  refine ⟨hpaths.trans ?_, hnodup⟩
  rw [List.map_append, ← List.append_assoc]
  exact h.perm.append h'.perm

theorem SameFiles.merge {map map' more more' : FileMap}
    (hothers : ∀ file : EntityFile, file.path r ∉ others)
    (hothers' : ∀ file : EntityFile, file.path r' ∉ others')
    (h : SameFiles r r' others others' map map') (hmore : SameFiles r r' [] [] more more') :
    Agree (SameFiles r r' others others') (map.merge more) (map'.merge more') := by
  obtain ⟨files, hmap, hmap'⟩ := h
  obtain ⟨files', hfiles, hfiles'⟩ := hmore
  have hiff := hmap.nodup_append_iff hothers hfiles
  have hiff' := hmap'.nodup_append_iff hothers' hfiles'
  rcases FileMap.merge_cases hmap.nodup more with
    ⟨out, hout, hnodup⟩ | ⟨path, hpath, hclash⟩ <;>
  rcases FileMap.merge_cases hmap'.nodup more' with
    ⟨out', hout', hnodup'⟩ | ⟨path', hpath', hclash'⟩
  · rw [hout, hout']
    exact .ok ⟨files ++ files', hmap.merge hfiles hout, hmap'.merge hfiles' hout'⟩
  · exact absurd (hiff'.mpr (hiff.mp hnodup)) hclash'
  · exact absurd (hiff.mpr (hiff'.mp hnodup')) hclash
  · rw [hpath, hpath']
    exact .error (.duplicatePath path path')

/-- Steps that are related one by one are related as a whole, if joining files keeps maps
related. -/
theorem runSteps_agree_of_merge {rel relMore : FileMap → FileMap → Prop}
    (hmerge : ∀ {map map' more more'}, rel map map' → relMore more more' →
      Agree rel (map.merge more) (map'.merge more')) {steps steps' : List Step}
    (h : List.Forall₂ (fun s s' => Agree relMore s.files s'.files) steps steps') :
    ∀ map map' : FileMap, rel map map' →
      Agree rel (runSteps map steps).files (runSteps map' steps').files := by
  induction h with
  | nil =>
    intro map map' hmap
    exact .ok hmap
  | @cons step step' rest rest' hstep _ ih =>
    intro map map' hmap
    have hjoined : Agree rel (step.files.bind map.merge) (step'.files.bind map'.merge) :=
      hstep.bind fun _ _ hmore => hmerge hmap hmore
    rw [runSteps, runSteps]
    generalize step.files.bind map.merge = joined at hjoined ⊢
    generalize step'.files.bind map'.merge = joined' at hjoined ⊢
    cases hjoined with
    | ok hjoined => exact ih _ _ hjoined
    | error halike => exact .error halike

theorem runSteps_agree (hothers : ∀ file : EntityFile, file.path r ∉ others)
    (hothers' : ∀ file : EntityFile, file.path r' ∉ others') {steps steps' : List Step}
    (h : List.Forall₂ (fun s s' => Agree (SameFiles r r' [] []) s.files s'.files) steps steps') :
    ∀ map map' : FileMap, SameFiles r r' others others' map map' →
      Agree (SameFiles r r' others others') (runSteps map steps).files
        (runSteps map' steps').files :=
  runSteps_agree_of_merge (fun hmap hmore => hmap.merge hothers hothers' hmore) h

end

/-! ### Rendering -/

section

variable {r r' : Renderer}

/-- A single file of an entity in both modules. -/
theorem SameFiles.single (file : EntityFile) (page page' : String) :
    SameFiles r r' [] [] (FileMap.empty.add (file.path r) page)
      (FileMap.empty.add (file.path r') page') :=
  ⟨[file], ⟨List.Perm.refl _, List.nodup_singleton _⟩, ⟨List.Perm.refl _, List.nodup_singleton _⟩⟩

theorem renderErrors_holds (r : Renderer) (p : ProgramNode) (h : p.errors.isEmpty = false) :
    (renderErrors r p).Holds r []
      [.header .errors (Naming.pascal p.name), .source (Naming.pascal p.name)] := by
  have hperm := renderErrors_paths r p h
  rw [Renderer.errorPaths, h] at hperm
  refine ⟨hperm, hperm.nodup_iff.mpr ?_⟩
  have hfiles : [EntityFile.header .errors (Naming.pascal p.name),
      .source (Naming.pascal p.name)].Nodup := by simp
  exact hfiles.map (EntityFile.path_injective r)

theorem programKeys_agrees (programs : List ProgramNode) :
    FailAlike (r.programKeys programs) (r'.programKeys programs) := by
  induction programs with
  | nil => exact .ok trivial
  | cons p rest ih =>
    rw [Renderer.programKeys, Renderer.programKeys]
    exact ((publicKeyLiteral_agrees p.publicKey).inside (.program p.name)).bind fun _ _ _ =>
      ih.bind fun _ _ _ => .ok trivial

variable (hformats : SameFormats r.flavor r'.flavor)

include hformats

theorem renderSeed_agrees (p : ProgramNode) (account : String) : ∀ seed : SeedNode,
    FailAlike (renderSeed r p account seed) (renderSeed r' p account seed)
  | .variable name docs type => by
    rw [renderSeed, renderSeed]
    apply ((lower_agrees hformats _ type).inside (.seed name)).bind
    intro m m' h
    have hempty : m.nested.isEmpty = m'.nested.isEmpty := by
      rw [Bool.eq_iff_iff, List.isEmpty_iff_length_eq_zero, List.isEmpty_iff_length_eq_zero,
        h.nested]
    rw [hempty]
    split
    · exact .fail _
    · exact .ok trivial
  | .constant type value => by
    rw [renderSeed, renderSeed]
    split
    · exact .ok trivial
    · exact ((literal_agrees hformats true _).inside .constantSeed).bind fun _ _ _ => .ok trivial

theorem renderSeeds_agrees (p : ProgramNode) (account : String) (seeds : List SeedNode) :
    FailAlike (renderSeeds r p account seeds) (renderSeeds r' p account seeds) := by
  induction seeds with
  | nil => exact .ok trivial
  | cons seed rest ih =>
    rw [renderSeeds, renderSeeds]
    exact (renderSeed_agrees hformats p account seed).bind fun _ _ _ =>
      ih.bind fun _ _ _ => .ok trivial

theorem accountSeeds_agrees (p : ProgramNode) (a : AccountNode) (links : Links) :
    FailAlike (accountSeeds r p a links) (accountSeeds r' p a links) := by
  unfold accountSeeds
  split
  · exact .ok trivial
  · split
    · exact .fail _
    · exact renderSeeds_agrees hformats p _ _

theorem renderAccount_agrees (p : ProgramNode) (links : Links) (a : AccountNode) :
    Agree (SameFiles r r' [] []) (renderAccount r p links a) (renderAccount r' p links a) := by
  apply (lower_agrees hformats _ a.data).bind
  intro m m' _
  apply (accountSeeds_agrees hformats p a links).bind
  intro seeds seeds' _
  exact .ok (SameFiles.single (.header .accounts (Naming.pascal a.name)) _ _)

theorem renderDefinedType_agrees (d : DefinedTypeNode) :
    Agree (SameFiles r r' [] []) (renderDefinedType r d) (renderDefinedType r' d) := by
  apply (lower_agrees hformats _ d.type).bind
  intro m m' _
  exact .ok (SameFiles.single (.header .definedTypes (Naming.pascal d.name)) _ _)

theorem renderArgument_agrees (conflicts : List String) (data : String) (a : ArgumentNode) :
    FailAlike (renderArgument r conflicts data a) (renderArgument r' conflicts data a) := by
  rw [renderArgument, renderArgument]
  apply ((lower_agrees hformats _ a.type).inside (.argument a.name)).bind
  intro m m' _
  cases a.defaultValue.filter (·.isLiteral) with
  | none => exact .ok trivial
  | some value =>
    apply ((literal_agrees hformats false value).inside (.argumentDefault a.name)).bind
    intro l l' _
    cases a.strategy == omittedStrategy <;> exact .ok trivial

theorem renderArguments_agrees (conflicts : List String) (data : String)
    (arguments : List ArgumentNode) :
    FailAlike (renderArguments r conflicts data arguments)
      (renderArguments r' conflicts data arguments) := by
  induction arguments with
  | nil => exact .ok trivial
  | cons a rest ih =>
    rw [renderArguments, renderArguments]
    exact (renderArgument_agrees hformats conflicts data a).bind fun _ _ _ =>
      ih.bind fun _ _ _ => .ok trivial

theorem renderInstruction_agrees (p : ProgramNode) (ix : InstructionNode) :
    Agree (SameFiles r r' [] []) (renderInstruction r p ix) (renderInstruction r' p ix) := by
  apply (renderArguments_agrees hformats ix.conflicts _ ix.arguments).bind
  intro arguments arguments' _
  apply ((lower_agrees hformats _ (.struct ix.data)).inside .instructionData).bind
  intro m m' _
  exact .ok (SameFiles.single (.header .instructions (Naming.pascal ix.name)) _ _)

end

/-- Renderers that select the same entities. -/
structure SameSelection (r r' : Renderer) : Prop where
  renderParents : r.renderParents = r'.renderParents
  includeInternal : r.includeInternal = r'.includeInternal

section

variable {r r' : Renderer}

theorem SameSelection.exports (h : SameSelection r r') (isInternal : Bool) :
    r.exports isInternal = r'.exports isInternal := by
  rw [Renderer.exports, Renderer.exports, h.includeInternal]

theorem SameSelection.accountsOf (h : SameSelection r r') (p : ProgramNode) :
    r.accountsOf p = r'.accountsOf p := by
  simp only [Renderer.accountsOf, h.exports]

theorem SameSelection.definedTypesOf (h : SameSelection r r') (p : ProgramNode) :
    r.definedTypesOf p = r'.definedTypesOf p := by
  simp only [Renderer.definedTypesOf, h.exports]

theorem SameSelection.instructionsOf (h : SameSelection r r') (p : ProgramNode) :
    r.instructionsOf p = r'.instructionsOf p := by
  simp only [Renderer.instructionsOf, h.exports, h.renderParents]

theorem SameSelection.programsOf (h : SameSelection r r') (root : RootNode) :
    r.programsOf root = r'.programsOf root := by
  simp only [Renderer.programsOf, h.exports]

/-- Steps over one list that agree for every entry. -/
theorem forall₂_steps {α : Type} {step step' : α → Step} (list : List α)
    (h : ∀ a, Agree (SameFiles r r' [] []) (step a).files (step' a).files) :
    List.Forall₂ (fun s s' : Step => Agree (SameFiles r r' [] []) s.files s'.files)
      (list.map step) (list.map step') := by
  rw [List.forall₂_map_left_iff, List.forall₂_map_right_iff]
  exact List.forall₂_same.mpr fun a _ => h a

theorem errorSteps_agree (p : ProgramNode) :
    List.Forall₂ (fun s s' : Step => Agree (SameFiles r r' [] []) s.files s'.files)
      (if p.errors.isEmpty then [] else [⟨[], .ok (renderErrors r p)⟩])
      (if p.errors.isEmpty then [] else [⟨[], .ok (renderErrors r' p)⟩]) := by
  cases hempty : p.errors.isEmpty with
  | true => exact .nil
  | false =>
    have hfiles : SameFiles r r' [] [] (renderErrors r p) (renderErrors r' p) :=
      ⟨_, renderErrors_holds r p hempty, renderErrors_holds r' p hempty⟩
    exact .cons (.ok hfiles) .nil

theorem programSteps_agree (hformats : SameFormats r.flavor r'.flavor)
    (hsame : SameSelection r r') (links : Links) (p : ProgramNode) :
    List.Forall₂ (fun s s' : Step => Agree (SameFiles r r' [] []) s.files s'.files)
      (r.programSteps links p) (r'.programSteps links p) := by
  rw [Renderer.programSteps, Renderer.programSteps, hsame.accountsOf, hsame.definedTypesOf,
    hsame.instructionsOf]
  refine List.rel_append (List.rel_append (List.rel_append ?_ ?_) ?_) (errorSteps_agree p)
  · exact forall₂_steps _ fun a => (renderAccount_agrees hformats p links a).inside _
  · exact forall₂_steps _ fun d => (renderDefinedType_agrees hformats d).inside _
  · exact forall₂_steps _ fun ix => (renderInstruction_agrees hformats p ix).inside _

theorem SameFiles.empty : SameFiles r r' [] [] .empty .empty :=
  ⟨[], ⟨List.Perm.refl _, List.nodup_nil⟩, ⟨List.Perm.refl _, List.nodup_nil⟩⟩

theorem renderProgram_agrees (hformats : SameFormats r.flavor r'.flavor)
    (hsame : SameSelection r r') (links : Links) (p : ProgramNode) :
    Agree (SameFiles r r' [] []) (r.renderProgram links p).files
      (r'.renderProgram links p).files := by
  rw [Renderer.renderProgram, Renderer.renderProgram, hsame.exports]
  cases r'.exports p.isInternal with
  | false => exact .ok SameFiles.empty
  | true =>
    exact runSteps_agree (fun _ => List.not_mem_nil) (fun _ => List.not_mem_nil)
      (programSteps_agree hformats hsame links p) _ _ SameFiles.empty

/-- The files of the two modules, before any entity is rendered. -/
theorem baseStep_agrees (hflavor : r.flavor ∈ Flavor.all) (hflavor' : r'.flavor ∈ Flavor.all)
    {programs : List ProgramNode} (hprograms : programs.isEmpty = false) :
    Agree (SameFiles r r' r.modulePaths r'.modulePaths) (r.baseStep programs).files
      (r'.baseStep programs).files := by
  have hbase := @baseStep_ok r hflavor programs hprograms
  have hbase' := @baseStep_ok r' hflavor' programs hprograms
  have hkeys := @programKeys_agrees r r' programs
  simp only [Renderer.baseStep, hprograms, Bool.false_eq_true, if_false] at hbase hbase' ⊢
  generalize r.programKeys programs = keys at hkeys hbase ⊢
  generalize r'.programKeys programs = keys' at hkeys hbase' ⊢
  cases hkeys with
  | error halike => exact .error halike
  | ok _ =>
    refine .ok ⟨[], ?_, ?_⟩
    · have hextends := hbase rfl
      exact ⟨by simpa [FileMap.paths, FileMap.empty] using hextends.perm, hextends.nodup⟩
    · have hextends := hbase' rfl
      exact ⟨by simpa [FileMap.paths, FileMap.empty] using hextends.perm, hextends.nodup⟩

theorem render_agrees (hflavor : r.flavor ∈ Flavor.all) (hflavor' : r'.flavor ∈ Flavor.all)
    (hsame : SameSelection r r') (root : RootNode) :
    FailAlike (r.render root).files (r'.render root).files := by
  rw [render_files, render_files, hsame.programsOf]
  cases hempty : (r'.programsOf root).isEmpty with
  | true =>
    rw [List.isEmpty_iff.mp hempty]
    exact .ok trivial
  | false =>
    have hformats := sameFormats_of_mem_all hflavor hflavor'
    apply (baseStep_agrees hflavor hflavor' hempty).bind
    intro map map' hmap
    have hsteps : List.Forall₂ (fun s s' : Step => Agree (SameFiles r r' [] []) s.files s'.files)
        ((r'.programsOf root).map fun p =>
          Renderer.inside (.program p.name) (r.renderProgram root.links p))
        ((r'.programsOf root).map fun p =>
          Renderer.inside (.program p.name) (r'.renderProgram root.links p)) :=
      forall₂_steps _ fun p => (renderProgram_agrees hformats hsame root.links p).inside _
    have hrun := runSteps_agree (fun file => file.path_not_mem_modulePaths hflavor)
      (fun file => file.path_not_mem_modulePaths hflavor') hsteps map map' hmap
    exact hrun.mono fun _ _ _ => trivial

/-! ### Files that do not depend on the dialect -/

/-- The files of a module that its dialect asks for. -/
def Renderer.scaffoldPaths (r : Renderer) : List String := r.flavor.scaffold.map (·.path r.plugin)

/-- The other files of a document that exports some program. -/
def Renderer.plainPaths (r : Renderer) (root : RootNode) : List String :=
  [r.publicRoot ++ r.programsHeader, r.publicRoot ++ r.plugin ++ ".h",
      r.privateRoot ++ r.plugin ++ ".cpp"]
    ++ (r.programsOf root).flatMap r.programPaths

theorem exportedPaths_perm (r : Renderer) (root : RootNode) (h : r.programsOf root ≠ []) :
    (r.exportedPaths root).Perm (r.scaffoldPaths ++ r.plainPaths root) := by
  rw [Renderer.exportedPaths, List.isEmpty_eq_false_iff.mpr h, if_neg Bool.false_ne_true,
    Renderer.modulePaths, Renderer.plainPaths, ← List.append_assoc, List.cons_append]
  apply List.Perm.append_right
  exact List.perm_middle.symm

theorem plainPaths_eq (hplugin : r.plugin = r'.plugin) (hsame : SameSelection r r')
    (root : RootNode) : r.plainPaths root = r'.plainPaths root := by
  have hpaths (p : ProgramNode) : r.programPaths p = r'.programPaths p := by
    simp only [Renderer.programPaths, Renderer.errorPaths, Renderer.headerPath,
      Renderer.sourcePath, Renderer.header, Renderer.publicRoot, Renderer.privateRoot, hplugin,
      hsame.accountsOf, hsame.definedTypesOf, hsame.instructionsOf]
  simp only [Renderer.plainPaths, Renderer.publicRoot, Renderer.privateRoot,
    Renderer.programsHeader, hplugin, hsame.programsOf, funext hpaths]

/-- Two renderers that select the same entities, in any dialects and modules: both render a
document or neither does, and then for the same reason, except that a path that is claimed twice is
named as it stands in the module. If both render it in modules of one name, then their files differ
in the scaffold only. -/
theorem render_independent (hflavor : r.flavor ∈ Flavor.all) (hflavor' : r'.flavor ∈ Flavor.all)
    (hparents : r.renderParents = r'.renderParents)
    (hinternal : r.includeInternal = r'.includeInternal) (root : Option RootNode) :
    ((∃ out, (r.render? root).files = .ok out) ↔ ∃ out, (r'.render? root).files = .ok out) ∧
    (∀ e e', (r.render? root).files = .error e → (r'.render? root).files = .error e' →
      e = e' ∨ ∃ places path path',
        e = .within places (.duplicatePath path) ∧ e' = .within places (.duplicatePath path')) ∧
    ∀ out out', (r.render? root).files = .ok out → (r'.render? root).files = .ok out' →
      r.plugin = r'.plugin →
        (out.paths = [] ∧ out'.paths = []) ∨
          ∃ common, out.paths.Perm (r.scaffoldPaths ++ common) ∧
            out'.paths.Perm (r'.scaffoldPaths ++ common) := by
  have hsame : SameSelection r r' := ⟨hparents, hinternal⟩
  have hagree : FailAlike (r.render? root).files (r'.render? root).files := by
    cases root with
    | none => exact .fail _
    | some root => exact render_agrees hflavor hflavor' hsame root
  refine ⟨hagree.ok_iff, ?_, ?_⟩
  · intro e e' he he'
    rw [he, he'] at hagree
    exact hagree.alike.eq_or_duplicatePath
  · intro out out' hout hout' hplugin
    cases root with
    | none => cases hout
    | some root =>
      have hpaths := (render_extends hflavor hout).perm
      have hpaths' := (render_extends hflavor' hout').perm
      by_cases hnone : r.programsOf root = []
      · have hnone' : r'.programsOf root = [] := by rw [← hsame.programsOf, hnone]
        rw [Renderer.exportedPaths, hnone] at hpaths
        rw [Renderer.exportedPaths, hnone'] at hpaths'
        exact .inl ⟨hpaths.eq_nil, hpaths'.eq_nil⟩
      · have hsome' : r'.programsOf root ≠ [] := by rw [← hsame.programsOf]; exact hnone
        refine .inr ⟨r.plainPaths root, hpaths.trans (exportedPaths_perm r root hnone), ?_⟩
        rw [plainPaths_eq hplugin hsame]
        exact hpaths'.trans (exportedPaths_perm r' root hsome')

end

/-- A program with an account in both dialects: the same files but for two of the build. -/
theorem render_independent_vault :
    let unreal : Renderer := ⟨⟨.unreal5, "Vault"⟩, false, false, []⟩
    let standard : Renderer := ⟨⟨.stl20, "Vault"⟩, false, false, [("vector", "span")]⟩
    let program : ProgramNode :=
      { name := "vault", publicKey := "11111111111111111111111111111111", version := "",
        origin := "", docs := [],
        accounts := [⟨"state", [], .array .publicKey .remainder, none, none, false⟩],
        instructions := [], definedTypes := [], pdas := [], errors := [], isInternal := false }
    let root : Option RootNode := some ⟨"", "", program, []⟩
    ∃ out out' common, (unreal.render? root).files = .ok out ∧
      (standard.render? root).files = .ok out' ∧
      out.paths.Perm (["Vault.uplugin", "Source/Vault/Vault.Build.cs"] ++ common) ∧
      out'.paths.Perm (["CMakeLists.txt", "vcpkg.json"] ++ common) := by
  intro unreal standard program root
  obtain ⟨hok, -, hpaths⟩ := @render_independent unreal standard
    (List.mem_cons_of_mem _ (List.mem_singleton_self _)) List.mem_cons_self rfl rfl root
  have hsize : (unreal.render? root).files.toOption.map (·.size) = some 6 := by decide +kernel
  cases hout : (unreal.render? root).files with
  | error e =>
    rw [hout] at hsize
    cases hsize
  | ok out =>
    obtain ⟨out', hout'⟩ := hok.mp ⟨out, hout⟩
    rcases hpaths out out' hout hout' rfl with ⟨hnone, -⟩ | ⟨common, hperm, hperm'⟩
    · rw [hout] at hsize
      have hlength : out.size = 0 := by
        rw [FileMap.size, ← List.length_map (·.1), ← FileMap.paths, hnone, List.length_nil]
      have hsix : out.size = 6 := Option.some.inj hsize
      omega
    · exact ⟨out, out', common, rfl, hout', hperm, hperm'⟩

end ClientGen.Render
