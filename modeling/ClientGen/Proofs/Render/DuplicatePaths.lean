import Mathlib.Data.List.Count
import ClientGen.Proofs.Idl.DistinctNames
import ClientGen.Proofs.Render.Failures
import ClientGen.Proofs.Render.Independence
/-!
# Paths that are claimed twice

Rendering fails with a path that is claimed twice only if two exported entities of one category
generate the same name, and it always fails then. A document whose check finds no duplicate never
gets there as long as it exports a single program.

Each step claims files of entities. The invariant of a run is that its map holds exactly what the
steps before claimed, so that joining one more map fails exactly if a file is claimed again.
-/
namespace ClientGen.Render

open ClientGen.Idl ClientGen.Cpp

/-! ### Names and files of a document -/

def Category.all : List Category := [.accounts, .definedTypes, .instructions, .errors]

/-- The files of an entity. -/
def Category.files : Category → String → List EntityFile
  | .errors, name => [.header .errors name, .source name]
  | category, name => [.header category name]

/-- The category and the name of the entity of a file. -/
def EntityFile.owner : EntityFile → Category × String
  | .header category name => (category, name)
  | .source name => (.errors, name)

namespace Renderer

/-- The generated names of the exported entities of a program. The errors of a program make one
entity, which is named after the program. -/
def namesOf (r : Renderer) (p : ProgramNode) : Category → List String
  | .accounts => (r.accountsOf p).map fun a => Naming.pascal a.name
  | .definedTypes => (r.definedTypesOf p).map fun d => Naming.pascal d.name
  | .instructions => (r.instructionsOf p).map fun ix => Naming.pascal ix.name
  | .errors => if p.errors.isEmpty then [] else [Naming.pascal p.name]

/-- The generated names of a category over all exported programs. -/
def exportedNames (r : Renderer) (root : RootNode) (category : Category) : List String :=
  (r.programsOf root).flatMap fun p => r.namesOf p category

/-- Two exported entities of one category generate the same name. -/
def NamesClash (r : Renderer) (root : RootNode) : Prop :=
  ∃ category, ¬ (r.exportedNames root category).Nodup

/-- The files that the steps of a program claim, step by step. -/
def claims (r : Renderer) (p : ProgramNode) : List (List EntityFile) :=
  Category.all.flatMap fun category => (r.namesOf p category).map category.files

end Renderer

section

variable (r : Renderer)

theorem Category.count_files (category : Category) (name : String) (file : EntityFile) :
    (category.files name).count file = if (category, name) = file.owner then 1 else 0 := by
  cases category <;> cases file <;> simp [files, EntityFile.owner, List.count_cons]

/-- How often a file is claimed shows in the names of its category. -/
theorem count_claims (p : ProgramNode) (file : EntityFile) :
    (r.claims p).flatten.count file = (r.namesOf p file.owner.1).count file.owner.2 := by
  have hcategory (category : Category) (names : List String) :
      (names.map category.files).flatten.count file =
        if file.owner.1 = category then names.count file.owner.2 else 0 := by
    induction names with
    | nil => simp
    | cons name rest ih =>
      rw [List.map_cons, List.flatten_cons, List.count_append, Category.count_files, ih,
        List.count_cons]
      by_cases hfirst : file.owner.1 = category <;> by_cases hname : name = file.owner.2 <;>
        grind
  simp only [Renderer.claims, Category.all, List.flatMap_cons, List.flatMap_nil,
    List.flatten_append, List.count_append, List.append_nil, hcategory]
  cases file.owner.1 <;> simp

theorem nodup_claims_iff (root : RootNode) :
    ((r.programsOf root).flatMap fun p => (r.claims p).flatten).Nodup ↔ ¬ r.NamesClash root := by
  have hcount (file : EntityFile) :
      ((r.programsOf root).flatMap fun p => (r.claims p).flatten).count file =
        (r.exportedNames root file.owner.1).count file.owner.2 := by
    rw [Renderer.exportedNames, List.count_flatMap, List.count_flatMap]
    congr 1
    exact List.map_congr_left fun p _ => count_claims r p file
  simp only [Renderer.NamesClash, not_exists, not_not, List.nodup_iff_count_le_one, hcount]
  constructor
  · intro h category name
    exact h (.header category name)
  · intro h file
    exact h file.owner.1 file.owner.2

end

/-! ### Steps that claim files -/

/-- A step that yields the files it claims, and never fails with a path that is claimed twice
unless it claims one twice itself. -/
structure Step.Claims (r : Renderer) (files : List EntityFile) (step : Step) : Prop where
  holds : ∀ map, step.files = .ok map → map.Holds r [] files
  fails : files.Nodup → step.files.FailsOnly fun e => ∀ path, e ≠ .duplicatePath path

section

variable {r : Renderer}

theorem Step.Claims.inside {files : List EntityFile} {step : Step} (place : Cpp.Place)
    (h : step.Claims r files) : (Renderer.inside place step).Claims r files := by
  refine ⟨?_, ?_⟩
  · intro map hmap
    exact h.holds map (Generated.inside_eq_ok_iff.mp hmap)
  · intro hnodup
    exact (h.fails hnodup).inside place

/-- Steps one after another claim what each of them claims. -/
theorem runSteps_claims {others : List String} (hothers : ∀ file : EntityFile, file.path r ∉ others)
    {claims : List (List EntityFile)} {steps : List Step}
    (h : List.Forall₂ (fun files step => step.Claims r files) claims steps) :
    ∀ (map : FileMap) (files : List EntityFile), map.Holds r others files →
      (∀ out, (runSteps map steps).files = .ok out →
        out.Holds r others (files ++ claims.flatten)) ∧
      ((files ++ claims.flatten).Nodup →
        (runSteps map steps).files.FailsOnly fun e => ∀ path, e ≠ .duplicatePath path) := by
  induction h with
  | nil =>
    intro map files hmap
    refine ⟨?_, fun _ => Generated.failsOnly_ok _⟩
    intro out hout
    cases hout
    rwa [List.flatten_nil, List.append_nil]
  | @cons claimed step claims rest hstep _ ih =>
    intro map files hmap
    rw [runSteps, List.flatten_cons, ← List.append_assoc]
    cases hfiles : step.files with
    | error e =>
      refine ⟨?_, ?_⟩
      · intro out hout
        cases hout
      · intro hnodup
        have hclaimed := (List.nodup_append.mp (List.nodup_append.mp hnodup).1).2.1
        exact Generated.failsOnly_error ((hstep.fails hclaimed).of_error e hfiles)
    | ok more =>
      have hmore := hstep.holds more hfiles
      have hiff := hmap.nodup_append_iff hothers hmore
      rw [Except.bind]
      rcases FileMap.merge_cases hmap.nodup more with
        ⟨joined, hjoined, -⟩ | ⟨path, hpath, hclash⟩
      · rw [hjoined]
        exact ih joined _ (hmap.merge hmore hjoined)
      · rw [hpath]
        refine ⟨?_, ?_⟩
        · intro out hout
          cases hout
        · intro hnodup
          exact absurd (hiff.mpr (List.nodup_append.mp hnodup).1) hclash

theorem FileMap.Holds.empty : FileMap.empty.Holds r [] [] := ⟨List.Perm.refl _, List.nodup_nil⟩

/-- A step for the header of an entity. -/
theorem Step.claims_header {step : Step} {category : Category} {name : String}
    {causes : Error → Prop}
    (hok : ∀ map, step.files = .ok map →
      ∃ page, map = FileMap.empty.add (r.headerPath category.folder name) page)
    (hfails : step.files.FailsOnly causes) (hcauses : ∀ path, ¬ causes (.duplicatePath path)) :
    step.Claims r [.header category name] := by
  refine ⟨?_, fun _ => hfails.mono fun e he path heq => hcauses path (heq ▸ he)⟩
  intro map hmap
  obtain ⟨page, rfl⟩ := hok map hmap
  exact ⟨List.Perm.refl _, List.nodup_singleton _⟩

theorem not_inherent_duplicatePath {unnamed : Prop} (path : String) :
    ¬ Inherent unnamed (.duplicatePath path) := nofun

theorem programSteps_claims (links : Links) (p : ProgramNode) :
    List.Forall₂ (fun files step => step.Claims r files) (r.claims p) (r.programSteps links p) := by
  have herrors : List.Forall₂ (fun files step => Step.Claims r files step)
      ((r.namesOf p .errors).map Category.errors.files)
      (if p.errors.isEmpty then [] else [⟨[], .ok (renderErrors r p)⟩]) := by
    rw [Renderer.namesOf]
    cases hempty : p.errors.isEmpty with
    | true => exact .nil
    | false =>
      refine .cons ⟨?_, fun _ => Generated.failsOnly_ok _⟩ .nil
      intro map hmap
      cases hmap
      exact renderErrors_holds r p hempty
  simp only [Renderer.claims, Category.all, Renderer.programSteps, List.flatMap_cons,
    List.flatMap_nil, List.append_nil, List.append_assoc]
  refine List.rel_append ?_ (List.rel_append ?_ (List.rel_append ?_ herrors))
  · rw [Renderer.namesOf, List.map_map, List.forall₂_map_left_iff, List.forall₂_map_right_iff]
    refine List.forall₂_same.mpr fun a _ => Step.Claims.inside _ ?_
    exact Step.claims_header (fun map hmap => renderAccount_ok hmap)
      (renderAccount_failsOnly r p links a) fun path hfailure => by
        cases hfailure with
        | inherent h => exact not_inherent_duplicatePath path h
  · rw [Renderer.namesOf, List.map_map, List.forall₂_map_left_iff, List.forall₂_map_right_iff]
    refine List.forall₂_same.mpr fun d _ => Step.Claims.inside _ ?_
    exact Step.claims_header (fun map hmap => renderDefinedType_ok hmap)
      (renderDefinedType_failsOnly r d) not_inherent_duplicatePath
  · rw [Renderer.namesOf, List.map_map, List.forall₂_map_left_iff, List.forall₂_map_right_iff]
    refine List.forall₂_same.mpr fun ix _ => Step.Claims.inside _ ?_
    exact Step.claims_header (fun map hmap => renderInstruction_ok hmap)
      (renderInstruction_failsOnly r p ix) not_inherent_duplicatePath

theorem renderProgram_claims (links : Links) {p : ProgramNode}
    (hexported : r.exports p.isInternal = true) :
    (r.renderProgram links p).Claims r (r.claims p).flatten := by
  obtain ⟨hholds, hfails⟩ := runSteps_claims (fun _ => List.not_mem_nil)
    (programSteps_claims links p) .empty [] FileMap.Holds.empty
  rw [Renderer.renderProgram, if_pos hexported]
  exact ⟨hholds, hfails⟩

theorem baseStep_failsOnly (programs : List ProgramNode) :
    (r.baseStep programs).files.FailsOnly (Inherent False) := by
  unfold Renderer.baseStep
  split
  · exact Generated.failsOnly_ok _
  · split
    · rename_i e hkeys
      exact Generated.failsOnly_error ((programKeys_failsOnly r programs).of_error e hkeys)
    · exact Generated.failsOnly_ok _

/-- The files of the module and then the claims of every exported program. -/
theorem runPrograms_claims (hflavor : r.flavor ∈ Flavor.all) {root : RootNode}
    (hempty : (r.programsOf root).isEmpty = false) {base : FileMap}
    (hbase : (r.baseStep (r.programsOf root)).files = .ok base) :
    let run := (runSteps base ((r.programsOf root).map fun p =>
      Renderer.inside (.program p.name) (r.renderProgram root.links p))).files
    let claimed := (r.programsOf root).flatMap fun p => (r.claims p).flatten
    (∀ out, run = .ok out → out.Holds r r.modulePaths claimed) ∧
      (claimed.Nodup → run.FailsOnly fun e => ∀ path, e ≠ .duplicatePath path) := by
  intro run claimed
  have hmodule := baseStep_ok hflavor hempty hbase
  have hholds : base.Holds r r.modulePaths [] :=
    ⟨by simpa [FileMap.paths, FileMap.empty] using hmodule.perm, hmodule.nodup⟩
  have hsteps : List.Forall₂ (fun files step => Step.Claims r files step)
      ((r.programsOf root).map fun p => (r.claims p).flatten)
      ((r.programsOf root).map fun p =>
        Renderer.inside (.program p.name) (r.renderProgram root.links p)) := by
    rw [List.forall₂_map_left_iff, List.forall₂_map_right_iff]
    exact List.forall₂_same.mpr fun p hp =>
      (renderProgram_claims root.links (List.mem_filter.mp hp).2).inside _
  exact runSteps_claims (fun file => file.path_not_mem_modulePaths hflavor) hsteps base [] hholds

/-- Without a clash of names no path is claimed twice. -/
theorem render_failsOnly_of_not_namesClash (hflavor : r.flavor ∈ Flavor.all) {root : RootNode}
    (h : ¬ r.NamesClash root) :
    (r.render root).files.FailsOnly fun e => ∀ path, e ≠ .duplicatePath path := by
  have hbase := (@baseStep_failsOnly r (r.programsOf root)).mono
    fun e he path (heq : e = .duplicatePath path) => not_inherent_duplicatePath path (heq ▸ he)
  rw [render_files]
  apply hbase.bind
  intro base hok
  cases hempty : (r.programsOf root).isEmpty with
  | true =>
    rw [List.isEmpty_iff.mp hempty]
    exact Generated.failsOnly_ok _
  | false => exact (runPrograms_claims hflavor hempty hok).2 ((nodup_claims_iff r root).mpr h)

/-- Where names clash, a path is claimed twice and nothing is rendered. -/
theorem not_namesClash_of_render_ok (hflavor : r.flavor ∈ Flavor.all) {root : RootNode}
    {out : FileMap} (h : (r.render root).files = .ok out) : ¬ r.NamesClash root := by
  rw [← nodup_claims_iff]
  rw [render_files] at h
  obtain ⟨base, hbase, h⟩ := Generated.bind_eq_ok_iff.mp h
  cases hempty : (r.programsOf root).isEmpty with
  | true =>
    rw [List.isEmpty_iff.mp hempty]
    exact List.nodup_nil
  | false =>
    have hholds := (runPrograms_claims hflavor hempty hbase).1 out h
    have hnodup := hholds.perm.nodup_iff.mp hholds.nodup
    exact List.Nodup.of_map _ (List.nodup_append.mp hnodup).2.1

/-- Names that differ within each program do not clash in a document that exports one program. -/
theorem not_namesClash_of_distinctNames {root : RootNode}
    (hdistinct : ∀ p ∈ root.programs, p.DistinctNames) (hone : (r.programsOf root).length ≤ 1) :
    ¬ r.NamesClash root := by
  rintro ⟨category, hclash⟩
  apply hclash
  rw [Renderer.exportedNames]
  match hprograms : r.programsOf root with
  | [] => exact List.nodup_nil
  | p :: q :: rest =>
    rw [hprograms] at hone
    simp at hone
  | [p] =>
    have hp : p ∈ root.programs := (List.mem_filter.mp (hprograms ▸ List.mem_singleton_self p)).1
    have hnames := hdistinct p hp
    rw [List.flatMap_cons, List.flatMap_nil, List.append_nil]
    cases category with
    | accounts => exact hnames.accounts.sublist (List.filter_sublist.map _)
    | definedTypes => exact hnames.definedTypes.sublist (List.filter_sublist.map _)
    | instructions => exact (hnames.instructions _).sublist (List.filter_sublist.map _)
    | errors =>
      rw [Renderer.namesOf]
      split
      · exact List.nodup_nil
      · exact List.nodup_singleton _

end

/-- Rendering fails with a path that is claimed twice only if two exported entities of one category
generate the same name, and always fails then. So it never does for a document whose check finds no
duplicate and that exports at most one program. -/
theorem duplicatePath_only_if_names_clash {o : Options} {r : Renderer} (hr : o.renderer? = some r)
    (root : RootNode) :
    (∀ e path, (r.render root).files = .error e → e.cause = .duplicatePath path →
      r.NamesClash root) ∧
    (r.NamesClash root → ∃ e, (r.render root).files = .error e) ∧
    ((∀ problem ∈ root.problems, problem.code ≠ .duplicate) → (r.programsOf root).length ≤ 1 →
      ∀ e path, (r.render root).files = .error e → e.cause ≠ .duplicatePath path) := by
  have hflavor := Options.flavor_mem_of_renderer? hr
  refine ⟨?_, ?_, ?_⟩
  · intro e path he hcause
    by_contra hclash
    exact (render_failsOnly_of_not_namesClash hflavor hclash).of_error e he path hcause
  · intro hclash
    cases hfiles : (r.render root).files with
    | error e => exact ⟨e, rfl⟩
    | ok out => exact absurd hclash (not_namesClash_of_render_ok hflavor hfiles)
  · intro hcheck hone e path he
    have hdistinct := RootNode.distinctNames_of_no_duplicate hcheck
    have hclash := not_namesClash_of_distinctNames hdistinct hone
    exact (render_failsOnly_of_not_namesClash hflavor hclash).of_error e he path

/-- Two accounts whose names differ in their casing only: nothing is rendered. -/
theorem duplicatePath_only_if_names_clash_casing :
    let options : Options := ⟨"vault", "", false, false, []⟩
    let program : ProgramNode :=
      { name := "vault", publicKey := "11111111111111111111111111111111", version := "",
        origin := "", docs := [],
        accounts := [⟨"fee_state", [], .struct [], none, none, false⟩,
          ⟨"FeeState", [], .struct [], none, none, false⟩],
        instructions := [], definedTypes := [], pdas := [], errors := [], isInternal := false }
    ∃ r e, options.renderer? = some r ∧ r.NamesClash ⟨"", "", program, []⟩ ∧
      (r.render ⟨"", "", program, []⟩).files = .error e := by
  intro options program
  let r : Renderer := ⟨⟨.unreal5, options.pluginName⟩, false, false, []⟩
  have hr : options.renderer? = some r := Options.renderer?_of_standard rfl
  have hclash : r.NamesClash ⟨"", "", program, []⟩ := by
    have hfirst : Naming.pascal "fee_state" = "FeeState" := by decide +kernel
    have hsecond : Naming.pascal "FeeState" = "FeeState" := by decide +kernel
    refine ⟨.accounts, ?_⟩
    change ¬ [Naming.pascal "fee_state", Naming.pascal "FeeState"].Nodup
    rw [hfirst, hsecond]
    decide
  obtain ⟨e, he⟩ := (duplicatePath_only_if_names_clash hr ⟨"", "", program, []⟩).2.1 hclash
  exact ⟨r, e, hr, hclash, he⟩

end ClientGen.Render
