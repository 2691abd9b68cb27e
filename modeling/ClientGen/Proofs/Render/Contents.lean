import Mathlib.Data.List.Forall2
import ClientGen.Proofs.Render.Paths
/-!
# Contents of the generated files

A document that is rendered becomes the files of the module and, for every exported entity, the
page that its lowered types give. Nothing else is written, and every exported entity has been
lowered.
-/
namespace ClientGen.Render

open ClientGen.Idl ClientGen.Cpp

/-- The files after some steps are those before them and those of each step. -/
theorem runSteps_contents (steps : List Step) :
    ∀ map out : FileMap, map.paths.Nodup → (runSteps map steps).files = .ok out →
      (∀ step ∈ steps, ∃ more, step.files = .ok more) ∧
      ∀ file, file ∈ out.files ↔
        file ∈ map.files ∨ ∃ step ∈ steps, ∃ more, step.files = .ok more ∧ file ∈ more.files := by
  induction steps with
  | nil =>
    intro map out _ h
    cases h
    simp
  | cons step rest ih =>
    intro map out hnodup h
    rw [runSteps] at h
    cases hfiles : step.files with
    | error e =>
      rw [hfiles] at h
      cases h
    | ok more =>
      rw [hfiles, Except.bind] at h
      cases hmerge : map.merge more with
      | error e =>
        rw [hmerge] at h
        cases h
      | ok joined =>
        rw [hmerge] at h
        obtain ⟨hperm, hjoined⟩ := FileMap.merge_ok hnodup hmerge
        obtain ⟨hrest, hmem⟩ := ih joined out hjoined h
        refine ⟨List.forall_mem_cons.mpr ⟨⟨more, hfiles⟩, hrest⟩, ?_⟩
        intro file
        rw [hmem, hperm.mem_iff, List.mem_append, or_assoc]
        simp [hfiles]

/-! ### Entities -/

namespace Renderer

/-- The header of an account is made from its lowered data and its seeds. -/
structure AccountParts (r : Renderer) (links : Links) (p : ProgramNode) (a : AccountNode)
    (m : Manifest) (seeds : List Seed) : Prop where
  data : lower r.target (.root (Naming.pascal a.name)) a.data = .ok m
  seeds : accountSeeds r p a links = .ok seeds

/-- What the lowered data of an account is declared as. -/
def accountDecl (r : Renderer) (a : AccountNode) (m : Manifest) : TopLevel :=
  declare r.target (Naming.pascal a.name) a.data m

def accountText (r : Renderer) (a : AccountNode) (m : Manifest) (seeds : List Seed) : String :=
  accountPage r a (r.accountDecl a m) seeds
    ((seedHeaders r (r.accountDecl a m).headers seeds).erase
      (r.header "Accounts" (Naming.pascal a.name)))

/-- What the lowered type of a defined type is declared as. -/
def definedTypeDecl (r : Renderer) (d : DefinedTypeNode) (m : Manifest) : TopLevel :=
  declare r.target (Naming.pascal d.name) d.type m

def definedTypeText (r : Renderer) (d : DefinedTypeNode) (m : Manifest) : String :=
  definedTypePage r d.docs (r.definedTypeDecl d m)
    ((r.definedTypeDecl d m).headers.erase (r.target.typeHeader d.name))

/-- The context in which the data of an instruction is lowered. -/
def dataContext (ix : InstructionNode) : Context :=
  { Context.root (Naming.pascal ix.name ++ "InstructionData") with assignable := true }

/-- The header of an instruction is made from its arguments and its lowered data. -/
structure InstructionParts (r : Renderer) (ix : InstructionNode) (arguments : List Argument)
    (m : Manifest) : Prop where
  arguments : renderArguments r ix.conflicts (Naming.pascal ix.name ++ "InstructionData")
    ix.arguments = .ok arguments
  data : lower r.target (dataContext ix) (.struct ix.data) = .ok m

/-- What the lowered data of an instruction is declared as. -/
def instructionDecl (r : Renderer) (ix : InstructionNode) (m : Manifest) : TopLevel :=
  declare r.target (Naming.pascal ix.name ++ "InstructionData") (.struct ix.data) m

/-- The headers that an instruction includes. -/
def instructionHeaders (r : Renderer) (arguments : List Argument) (m : Manifest) : IncludeSet :=
  ((IncludeSet.empty.mergeAll (arguments.map (·.includes))).merge m.includes).addAll
    [r.flavor.accountMeta.header, r.flavor.instruction.header, r.flavor.publicKey.header,
      r.programsHeader, borshHeader]

def instructionText (r : Renderer) (p : ProgramNode) (ix : InstructionNode)
    (arguments : List Argument) (m : Manifest) : String :=
  instructionPage r p ix arguments (r.instructionDecl ix m)
    ((r.instructionHeaders arguments m).erase (r.header "Instructions" (Naming.pascal ix.name)))

/-- A file that rendering a program writes at a path, with what it is made from. -/
inductive Writes (r : Renderer) (links : Links) (p : ProgramNode) : String → String → Prop
  | account {a : AccountNode} (ha : a ∈ r.accountsOf p) {m : Manifest} {seeds : List Seed}
      (h : r.AccountParts links p a m seeds) :
      Writes r links p (r.headerPath "Accounts" (Naming.pascal a.name)) (r.accountText a m seeds)
  | definedType {d : DefinedTypeNode} (hd : d ∈ r.definedTypesOf p) {m : Manifest}
      (h : lower r.target (.root (Naming.pascal d.name)) d.type = .ok m) :
      Writes r links p (r.headerPath "Types" (Naming.pascal d.name)) (r.definedTypeText d m)
  | instruction {ix : InstructionNode} (hix : ix ∈ r.instructionsOf p) {arguments : List Argument}
      {m : Manifest} (h : r.InstructionParts ix arguments m) :
      Writes r links p (r.headerPath "Instructions" (Naming.pascal ix.name))
        (r.instructionText p ix arguments m)
  | errorsHeader (herrors : p.errors ≠ []) :
      Writes r links p (r.headerPath "Errors" (Naming.pascal p.name))
        (errorsHeaderPage r (Naming.pascal p.name) p.errors)
  | errorsSource (herrors : p.errors ≠ []) :
      Writes r links p (r.sourcePath "Errors" (Naming.pascal p.name))
        (errorsSourcePage r (Naming.pascal p.name) p.errors)

end Renderer

section

variable {r : Renderer} {links : Links} {p : ProgramNode}

theorem renderAccount_eq_ok_iff {a : AccountNode} {map : FileMap} :
    renderAccount r p links a = .ok map ↔ ∃ m seeds, r.AccountParts links p a m seeds ∧
      FileMap.empty.add (r.headerPath "Accounts" (Naming.pascal a.name))
        (r.accountText a m seeds) = map := by
  constructor
  · intro h
    obtain ⟨m, hm, h⟩ := Generated.bind_eq_ok_iff.mp h
    obtain ⟨seeds, hseeds, h⟩ := Generated.bind_eq_ok_iff.mp h
    exact ⟨m, seeds, ⟨hm, hseeds⟩, Except.ok.inj h⟩
  · rintro ⟨m, seeds, hparts, rfl⟩
    exact Generated.bind_eq_ok_iff.mpr ⟨m, hparts.data,
      Generated.bind_eq_ok_iff.mpr ⟨seeds, hparts.seeds, rfl⟩⟩

theorem renderDefinedType_eq_ok_iff {d : DefinedTypeNode} {map : FileMap} :
    renderDefinedType r d = .ok map ↔
      ∃ m, lower r.target (.root (Naming.pascal d.name)) d.type = .ok m ∧
        FileMap.empty.add (r.headerPath "Types" (Naming.pascal d.name))
          (r.definedTypeText d m) = map := by
  constructor
  · intro h
    obtain ⟨m, hm, h⟩ := Generated.bind_eq_ok_iff.mp h
    exact ⟨m, hm, Except.ok.inj h⟩
  · rintro ⟨m, hm, rfl⟩
    exact Generated.bind_eq_ok_iff.mpr ⟨m, hm, rfl⟩

theorem renderInstruction_eq_ok_iff {ix : InstructionNode} {map : FileMap} :
    renderInstruction r p ix = .ok map ↔ ∃ arguments m, r.InstructionParts ix arguments m ∧
      FileMap.empty.add (r.headerPath "Instructions" (Naming.pascal ix.name))
        (r.instructionText p ix arguments m) = map := by
  constructor
  · intro h
    obtain ⟨arguments, harguments, h⟩ := Generated.bind_eq_ok_iff.mp h
    obtain ⟨m, hm, h⟩ := Generated.bind_eq_ok_iff.mp h
    exact ⟨arguments, m, ⟨harguments, Generated.inside_eq_ok_iff.mp hm⟩, Except.ok.inj h⟩
  · rintro ⟨arguments, m, hparts, rfl⟩
    exact Generated.bind_eq_ok_iff.mpr ⟨arguments, hparts.arguments,
      Generated.bind_eq_ok_iff.mpr ⟨m, Generated.inside_eq_ok_iff.mpr hparts.data, rfl⟩⟩

/-- A step of a program renders one of its exported entities. -/
theorem mem_programSteps_iff (step : Step) :
    step ∈ r.programSteps links p ↔
      (∃ a ∈ r.accountsOf p,
        Renderer.inside (.account a.name) ⟨[], renderAccount r p links a⟩ = step) ∨
      (∃ d ∈ r.definedTypesOf p,
        Renderer.inside (.definedType d.name) ⟨[], renderDefinedType r d⟩ = step) ∨
      (∃ ix ∈ r.instructionsOf p,
        Renderer.inside (.instruction ix.name) (r.instructionStep p ix) = step) ∨
      (p.errors ≠ [] ∧ ⟨[], .ok (renderErrors r p)⟩ = step) := by
  have herrors : step ∈ (if p.errors.isEmpty then [] else [⟨[], .ok (renderErrors r p)⟩]) ↔
      p.errors ≠ [] ∧ ⟨[], .ok (renderErrors r p)⟩ = step := by
    cases hempty : p.errors.isEmpty with
    | true => simp [List.isEmpty_iff.mp hempty]
    | false => simp [List.isEmpty_eq_false_iff.mp hempty, eq_comm]
  simp only [Renderer.programSteps, List.mem_append, List.mem_map, herrors, or_assoc]

/-- The steps of a program write the pages of its exported entities and nothing else. -/
theorem exists_step_iff_writes (path text : String) :
    (∃ step ∈ r.programSteps links p, ∃ more, step.files = .ok more ∧ (path, text) ∈ more.files) ↔
      r.Writes links p path text := by
  constructor
  · rintro ⟨step, hstep, more, hmore, hfile⟩
    rcases (mem_programSteps_iff step).mp hstep with
      ⟨a, ha, rfl⟩ | ⟨d, hd, rfl⟩ | ⟨ix, hix, rfl⟩ | ⟨herrors, rfl⟩
    · obtain ⟨m, seeds, hparts, rfl⟩ :=
        renderAccount_eq_ok_iff.mp (Generated.inside_eq_ok_iff.mp hmore)
      cases List.mem_singleton.mp hfile
      exact .account ha hparts
    · obtain ⟨m, hm, rfl⟩ := renderDefinedType_eq_ok_iff.mp (Generated.inside_eq_ok_iff.mp hmore)
      cases List.mem_singleton.mp hfile
      exact .definedType hd hm
    · obtain ⟨arguments, m, hparts, rfl⟩ :=
        renderInstruction_eq_ok_iff.mp (Generated.inside_eq_ok_iff.mp hmore)
      cases List.mem_singleton.mp hfile
      exact .instruction hix hparts
    · cases hmore
      rw [(renderErrors_files_perm r p).mem_iff, List.mem_cons, List.mem_singleton] at hfile
      rcases hfile with hfile | hfile
      · cases hfile
        exact .errorsHeader herrors
      · cases hfile
        exact .errorsSource herrors
  · intro h
    cases h with
    | @account a ha m seeds hparts =>
      exact ⟨_, (mem_programSteps_iff _).mpr (.inl ⟨a, ha, rfl⟩), _,
        Generated.inside_eq_ok_iff.mpr (renderAccount_eq_ok_iff.mpr ⟨m, seeds, hparts, rfl⟩),
        List.mem_singleton_self _⟩
    | @definedType d hd m hm =>
      exact ⟨_, (mem_programSteps_iff _).mpr (.inr (.inl ⟨d, hd, rfl⟩)), _,
        Generated.inside_eq_ok_iff.mpr (renderDefinedType_eq_ok_iff.mpr ⟨m, hm, rfl⟩),
        List.mem_singleton_self _⟩
    | @instruction ix hix arguments m hparts =>
      exact ⟨_, (mem_programSteps_iff _).mpr (.inr (.inr (.inl ⟨ix, hix, rfl⟩))), _,
        Generated.inside_eq_ok_iff.mpr
          (renderInstruction_eq_ok_iff.mpr ⟨arguments, m, hparts, rfl⟩),
        List.mem_singleton_self _⟩
    | errorsHeader herrors =>
      exact ⟨_, (mem_programSteps_iff _).mpr (.inr (.inr (.inr ⟨herrors, rfl⟩))), _, rfl,
        (renderErrors_files_perm r p).mem_iff.mpr List.mem_cons_self⟩
    | errorsSource herrors =>
      exact ⟨_, (mem_programSteps_iff _).mpr (.inr (.inr (.inr ⟨herrors, rfl⟩))), _, rfl,
        (renderErrors_files_perm r p).mem_iff.mpr (List.mem_cons_of_mem _ List.mem_cons_self)⟩

end

/-! ### The module -/

/-- The headers that the page of the programs includes. -/
def Renderer.keyHeaders (r : Renderer) (keys : List (ProgramNode × Literal)) : IncludeSet :=
  (IncludeSet.ofPaths [r.flavor.publicKey.header]).mergeAll (keys.map fun k => k.2.includes)

/-- The constant that holds the address of a program. -/
def Renderer.keyText (r : Renderer) (k : ProgramNode × Literal) : String :=
  "inline const " ++ r.flavor.publicKey.spelling ++ " " ++ programConstant k.1 ++ " = "
    ++ k.2.text ++ ";"

theorem programsPage_eq (r : Renderer) (keys : List (ProgramNode × Literal)) :
    r.programsPage keys = headerTop ++ r.includeBlock (r.keyHeaders keys) ++ "\n"
      ++ String.join (keys.map fun k => "\n" ++ docBlock k.1.docs ++ r.keyText k) ++ "\n" := by
  have hassoc (docs spelling name key : String) :
      "\n" ++ docs ++ ("inline const " ++ spelling ++ " " ++ name ++ " = " ++ key ++ ";") =
        "\n" ++ docs ++ "inline const " ++ spelling ++ " " ++ name ++ " = " ++ key ++ ";" := by
    simp only [String.append_assoc]
  have hkey : (fun k : ProgramNode × Literal => "\n" ++ docBlock k.1.docs ++ r.keyText k) = _ :=
    funext fun k => hassoc (docBlock k.1.docs) _ _ _
  rw [hkey]
  rfl

theorem programKeys_forall₂ {r : Renderer} (programs : List ProgramNode) :
    ∀ {keys : List (ProgramNode × Literal)}, r.programKeys programs = .ok keys →
      List.Forall₂ (fun p k => k.1 = p ∧ publicKeyLiteral r.target p.publicKey = .ok k.2)
        programs keys := by
  induction programs with
  | nil =>
    intro keys h
    cases h
    exact .nil
  | cons p rest ih =>
    intro keys h
    obtain ⟨key, hkey, h⟩ := Generated.bind_eq_ok_iff.mp h
    obtain ⟨more, hmore, h⟩ := Generated.bind_eq_ok_iff.mp h
    cases h
    exact .cons ⟨rfl, Generated.inside_eq_ok_iff.mp hkey⟩ (ih hmore)

/-- The files of a module that exports some programs. -/
def Renderer.moduleContents (r : Renderer) (programs : List ProgramNode)
    (keys : List (ProgramNode × Literal)) : List (String × String) :=
  if programs.isEmpty then [] else r.baseFiles programs (r.programsPage keys)

/-- What a rendered document is made of: every exported entity has been lowered, and the files are
those of the module and those that its programs write. -/
structure Renderer.Renders (r : Renderer) (root : RootNode) (keys : List (ProgramNode × Literal))
    (out : FileMap) : Prop where
  ofKeys : r.programKeys (r.programsOf root) = .ok keys
  account : ∀ p ∈ r.programsOf root, ∀ a ∈ r.accountsOf p,
    ∃ m seeds, r.AccountParts root.links p a m seeds
  definedType : ∀ p ∈ r.programsOf root, ∀ d ∈ r.definedTypesOf p,
    ∃ m, lower r.target (.root (Naming.pascal d.name)) d.type = .ok m
  instruction : ∀ p ∈ r.programsOf root, ∀ ix ∈ r.instructionsOf p,
    ∃ arguments m, r.InstructionParts ix arguments m
  mem_iff : ∀ path text, (path, text) ∈ out.files ↔
    (path, text) ∈ r.moduleContents (r.programsOf root) keys ∨
      ∃ p ∈ r.programsOf root, r.Writes root.links p path text

theorem baseStep_contents {r : Renderer} (hflavor : r.flavor ∈ Flavor.all)
    {programs : List ProgramNode} {base : FileMap} (h : (r.baseStep programs).files = .ok base) :
    ∃ keys, r.programKeys programs = .ok keys ∧ base.paths.Nodup ∧
      ∀ file, file ∈ base.files ↔ file ∈ r.moduleContents programs keys := by
  unfold Renderer.baseStep at h
  unfold Renderer.moduleContents
  split at h
  · rename_i hempty
    cases h
    rw [List.isEmpty_iff.mp hempty]
    exact ⟨[], rfl, List.nodup_nil, fun _ => Iff.rfl⟩
  · rename_i hempty
    cases hkeys : r.programKeys programs with
    | error e =>
      rw [hkeys] at h
      cases h
    | ok keys =>
      rw [hkeys] at h
      cases h
      have hpaths := baseFiles_paths r programs (r.programsPage keys)
      have hnodup := modulePaths_nodup r hflavor
      have hperm := FileMap.ofList_files_perm (r.baseFiles programs (r.programsPage keys))
        (by rw [hpaths]; exact hnodup)
      rw [← moduleFiles_eq_ofList] at hperm
      refine ⟨keys, rfl, ?_, ?_⟩
      · rw [(FileMap.paths_perm_of_files_perm hperm).nodup_iff, hpaths]
        exact hnodup
      · intro file
        rw [if_neg hempty]
        exact hperm.mem_iff

theorem render_contents {r : Renderer} (hflavor : r.flavor ∈ Flavor.all) {root : RootNode}
    {out : FileMap} (h : (r.render root).files = .ok out) : ∃ keys, r.Renders root keys out := by
  rw [render_files] at h
  obtain ⟨base, hbase, h⟩ := Generated.bind_eq_ok_iff.mp h
  obtain ⟨keys, hkeys, hnodup, hmodule⟩ := baseStep_contents hflavor hbase
  obtain ⟨hok, hmem⟩ := runSteps_contents _ base out hnodup h
  -- every program has been rendered, and so has every step of it
  have hprogram (p : ProgramNode) (hp : p ∈ r.programsOf root) : ∃ files : FileMap,
      (r.renderProgram root.links p).files = .ok files ∧
      (∀ step ∈ r.programSteps root.links p, ∃ more, step.files = .ok more) ∧
      ∀ path text, (path, text) ∈ files.files ↔ r.Writes root.links p path text := by
    obtain ⟨files, hfiles⟩ := hok _ (List.mem_map_of_mem hp)
    have hrun := Generated.inside_eq_ok_iff.mp hfiles
    refine ⟨files, hrun, ?_⟩
    rw [Renderer.renderProgram, if_pos (List.mem_filter.mp hp).2] at hrun
    obtain ⟨hsteps, hwrites⟩ := runSteps_contents _ .empty files List.nodup_nil hrun
    refine ⟨hsteps, ?_⟩
    intro path text
    rw [hwrites, ← exists_step_iff_writes]
    simp [FileMap.empty]
  refine ⟨keys, hkeys, ?_, ?_, ?_, ?_⟩
  · intro p hp a ha
    obtain ⟨files, -, hsteps, -⟩ := hprogram p hp
    obtain ⟨more, hmore⟩ := hsteps _ ((mem_programSteps_iff _).mpr (.inl ⟨a, ha, rfl⟩))
    obtain ⟨m, seeds, hparts, -⟩ :=
      renderAccount_eq_ok_iff.mp (Generated.inside_eq_ok_iff.mp hmore)
    exact ⟨m, seeds, hparts⟩
  · intro p hp d hd
    obtain ⟨files, -, hsteps, -⟩ := hprogram p hp
    obtain ⟨more, hmore⟩ := hsteps _ ((mem_programSteps_iff _).mpr (.inr (.inl ⟨d, hd, rfl⟩)))
    obtain ⟨m, hm, -⟩ := renderDefinedType_eq_ok_iff.mp (Generated.inside_eq_ok_iff.mp hmore)
    exact ⟨m, hm⟩
  · intro p hp ix hix
    obtain ⟨files, -, hsteps, -⟩ := hprogram p hp
    obtain ⟨more, hmore⟩ :=
      hsteps _ ((mem_programSteps_iff _).mpr (.inr (.inr (.inl ⟨ix, hix, rfl⟩))))
    obtain ⟨arguments, m, hparts, -⟩ :=
      renderInstruction_eq_ok_iff.mp (Generated.inside_eq_ok_iff.mp hmore)
    exact ⟨arguments, m, hparts⟩
  · intro path text
    rw [hmem, hmodule]
    apply or_congr Iff.rfl
    constructor
    · rintro ⟨step, hstep, more, hmore, hfile⟩
      obtain ⟨p, hp, rfl⟩ := List.mem_map.mp hstep
      obtain ⟨files, hfiles, -, hwrites⟩ := hprogram p hp
      have heq := hfiles.symm.trans (Generated.inside_eq_ok_iff.mp hmore)
      cases heq
      exact ⟨p, hp, (hwrites path text).mp hfile⟩
    · rintro ⟨p, hp, hwritten⟩
      obtain ⟨files, hfiles, -, hwrites⟩ := hprogram p hp
      exact ⟨_, List.mem_map_of_mem hp, files, Generated.inside_eq_ok_iff.mpr hfiles,
        (hwrites path text).mpr hwritten⟩

end ClientGen.Render
