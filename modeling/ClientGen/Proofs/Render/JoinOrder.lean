import ClientGen.Proofs.Render.Unions
import ClientGen.Scenario.Outcome
/-!
# Rendering in any order of files

Rendering has as many outcomes as there are orders in which the files of maps can be walked through.
All of them are the same map, or all of them are the same error; but when joining fails and several
paths are claimed twice, each of these paths is named by some outcome.
-/
namespace ClientGen.Render

open ClientGen.Idl ClientGen.Cpp

/-! ### Paths that may be named -/

/-- The error with another path that is claimed twice. -/
def naming (path : String) : Error → Error
  | .inside place inner => .inside place (naming path inner)
  | .duplicatePath _ => .duplicatePath path
  | e => e

/-- An outcome is the given one up to the path that is named. -/
def Varies (result : Generated FileMap) (paths : List String) (out : Generated FileMap) : Prop :=
  out = result ∨ ∃ path ∈ paths, out = result.mapError (naming path)

/-- The paths that are claimed twice where joining steps first fails. For a step that fails itself,
those that its error may name are given. -/
def runClashes (map : FileMap) : List (Step × List String) → List String
  | [] => []
  | (step, inner) :: rest =>
    match step.files with
    | .error _ => inner
    | .ok more =>
      match map.merge more with
      | .error _ => map.clashes more
      | .ok joined => runClashes joined rest

namespace Renderer

/-- The paths that are claimed twice where rendering a program first fails to join files. -/
def programClashes (r : Renderer) (links : Links) (p : ProgramNode) : List String :=
  if r.exports p.isInternal then
    runClashes .empty ((r.programSteps links p).map fun step => (step, []))
  else []

/-- The paths that are claimed twice where rendering a document first fails to join files. -/
def clashes (r : Renderer) (root : RootNode) : List String :=
  match (r.baseStep (r.programsOf root)).files with
  | .error _ => []
  | .ok base =>
    runClashes base ((r.programsOf root).map fun p =>
      (inside (.program p.name) (r.renderProgram root.links p), r.programClashes root.links p))

end Renderer

/-! ### Runs -/

/-- What is known of a part: its outcomes are all alike but for the path that they name, and there
is one for each of the given paths. -/
structure Describes (part : Generated FileMap → Prop) (result : Generated FileMap)
    (paths : List String) : Prop where
  isSorted : ∀ map, result = .ok map → map.IsSorted
  outcome_iff : ∀ out, part out ↔ Varies result paths out
  nodup : paths.Nodup
  named : paths ≠ [] → ∃ e, result = .error e ∧ ∃ path ∈ paths, e.cause = .duplicatePath path

namespace Describes

variable {part : Generated FileMap → Prop} {result : Generated FileMap} {paths : List String}

/-- A part with a single outcome names no path. -/
theorem single (h : ∀ map, result = .ok map → map.IsSorted) :
    Describes (fun out => out = result) result [] where
  isSorted := h
  outcome_iff out := by simp [Varies]
  nodup := List.nodup_nil
  named h := absurd rfl h

theorem congr {other : Generated FileMap → Prop} (h : Describes part result paths)
    (hother : ∀ out, other out ↔ part out) : Describes other result paths :=
  { h with outcome_iff := fun out => (hother out).trans (h.outcome_iff out) }

private theorem mapError_inside (place : Cpp.Place) (path : String) :
    (Generated.inside place result).mapError (naming path) =
      Generated.inside place (result.mapError (naming path)) := by
  cases result <;> rfl

/-- A place around the error leaves the paths as they are. -/
theorem inside (h : Describes part result paths) (place : Cpp.Place) :
    Describes (fun out => ∃ inner, part inner ∧ out = Generated.inside place inner)
      (Generated.inside place result) paths where
  isSorted map hmap := h.isSorted map (Generated.inside_eq_ok_iff.mp hmap)
  outcome_iff out := by
    simp only [h.outcome_iff]
    constructor
    · rintro ⟨inner, rfl | ⟨path, hpath, rfl⟩, rfl⟩
      · exact .inl rfl
      · exact .inr ⟨path, hpath, (mapError_inside place path).symm⟩
    · rintro (rfl | ⟨path, hpath, rfl⟩)
      · exact ⟨result, .inl rfl, rfl⟩
      · exact ⟨_, .inr ⟨path, hpath, rfl⟩, mapError_inside place path⟩
  nodup := h.nodup
  named hne := by
    obtain ⟨e, rfl, path, hpath, hcause⟩ := h.named hne
    exact ⟨.inside place e, rfl, path, hpath, hcause⟩

theorem of_error {e : Error} (h : Describes part (.error e) paths) (more : FileMap) :
    ¬ part (.ok more) := by
  intro hmore
  rcases (h.outcome_iff _).mp hmore with heq | ⟨path, -, heq⟩ <;> cases heq

theorem of_ok {more : FileMap} (h : Describes part (.ok more) paths) (out : Generated FileMap) :
    part out ↔ out = .ok more := by
  rw [h.outcome_iff]
  constructor
  · rintro (rfl | ⟨path, -, rfl⟩) <;> rfl
  · exact .inl

/-- Joining a map to another names any of the paths that are claimed already. -/
theorem join_error {map more : FileMap} (hmap : map.IsSorted) (hmore : more.IsSorted) {e : Error}
    (h : map.merge more = .error e) :
    Describes (map.Joins more) (.error e) (map.clashes more) := by
  obtain ⟨path, hpath, rfl⟩ := FileMap.merge_error hmore h
  refine ⟨?_, ?_, hmore.nodup.filter _, fun _ => ⟨_, rfl, path, hpath, rfl⟩⟩
  · intro _ hok
    cases hok
  intro out
  rw [FileMap.joins_iff hmap hmore]
  constructor
  · rintro (⟨hnone, -⟩ | hclash)
    · rw [hnone] at hpath
      cases hpath
    · exact .inr hclash
  · rintro (rfl | hclash)
    · exact .inr ⟨path, hpath, rfl⟩
    · exact .inr hclash

end Describes

private theorem runsTo_cons_iff_of_error {part : Generated FileMap → Prop}
    {parts : List (Generated FileMap → Prop)} {map : FileMap}
    (h : ∀ more, ¬ part (.ok more)) (out : Generated FileMap) :
    RunsTo map (part :: parts) out ↔ part out := by
  constructor
  · rintro (_ | hfail | ⟨hmore, -⟩ | ⟨hmore, -, -⟩)
    · exact hfail
    · exact absurd hmore (h _)
    · exact absurd hmore (h _)
  · intro hout
    cases out with
    | error e => exact .failed hout
    | ok more => exact absurd hout (h more)

private theorem runsTo_cons_iff_of_clash {part : Generated FileMap → Prop}
    {parts : List (Generated FileMap → Prop)} {map more : FileMap}
    (h : ∀ out, part out ↔ out = .ok more) (hclash : ∀ joined, ¬ map.Joins more (.ok joined))
    (out : Generated FileMap) : RunsTo map (part :: parts) out ↔ map.Joins more out := by
  constructor
  · rintro (_ | hfail | ⟨hok, hjoin⟩ | ⟨hok, hjoin, -⟩)
    · cases (h _).mp hfail
    · cases (h _).mp hok
      exact hjoin
    · cases (h _).mp hok
      exact absurd hjoin (hclash _)
  · intro hjoin
    cases out with
    | error e => exact .clashed ((h _).mpr rfl) hjoin
    | ok joined => exact absurd hjoin (hclash joined)

private theorem runsTo_cons_iff_of_joined {part : Generated FileMap → Prop}
    {parts : List (Generated FileMap → Prop)} {map more joined : FileMap}
    (h : ∀ out, part out ↔ out = .ok more) (hjoins : ∀ out, map.Joins more out ↔ out = .ok joined)
    (out : Generated FileMap) : RunsTo map (part :: parts) out ↔ RunsTo joined parts out := by
  constructor
  · rintro (_ | hfail | ⟨hok, hjoin⟩ | ⟨hok, hjoin, hrest⟩)
    · cases (h _).mp hfail
    · cases (h _).mp hok
      cases (hjoins _).mp hjoin
    · cases (h _).mp hok
      cases (hjoins _).mp hjoin
      exact hrest
  · intro hrest
    exact .joined ((h _).mpr rfl) ((hjoins _).mpr rfl) hrest

private theorem describes_step {part : Generated FileMap → Prop} {step : Step}
    {inner : List String} {parts : List (Generated FileMap → Prop)}
    {steps : List (Step × List String)} (hpart : Describes part step.files inner)
    (hrest : ∀ joined : FileMap, joined.IsSorted →
      Describes (RunsTo joined parts) (runSteps joined (steps.map (·.1))).files
        (runClashes joined steps))
    {map : FileMap} (hmap : map.IsSorted) :
    Describes (RunsTo map (part :: parts)) (runSteps map (step :: steps.map (·.1))).files
      (runClashes map ((step, inner) :: steps)) := by
  rw [runSteps, runClashes]
  -- The part fails itself, clashes with the map or is joined; only then does the run go on.
  cases hfiles : step.files with
  | error e =>
    rw [hfiles] at hpart
    exact hpart.congr (runsTo_cons_iff_of_error hpart.of_error)
  | ok more =>
    rw [hfiles] at hpart
    have hmore := hpart.isSorted more rfl
    dsimp only [Except.bind]
    cases hmerge : map.merge more with
    | error e =>
      have hjoin := Describes.join_error hmap hmore hmerge
      exact hjoin.congr (runsTo_cons_iff_of_clash hpart.of_ok hjoin.of_error)
    | ok joined =>
      have hjoins : ∀ out, map.Joins more out ↔ out = .ok joined := by
        intro out
        rw [FileMap.joins_iff hmap hmore, FileMap.clashes_of_merge_ok hmap hmore hmerge, hmerge]
        simp
      have hjoined := hrest joined (FileMap.merge_ok_isSorted hmap hmerge)
      exact hjoined.congr (runsTo_cons_iff_of_joined hpart.of_ok hjoins)

/-- A run of parts is described step by step. -/
theorem describes_run {parts : List (Generated FileMap → Prop)} {steps : List (Step × List String)}
    (h : List.Forall₂ (fun part step => Describes part step.1.files step.2) parts steps) :
    ∀ map : FileMap, map.IsSorted →
      Describes (RunsTo map parts) (runSteps map (steps.map (·.1))).files
        (runClashes map steps) := by
  induction h with
  | nil =>
    intro map hmap
    have hdone : Describes (fun out => out = .ok map) (.ok map) [] := by
      apply Describes.single
      intro other hother
      cases hother
      exact hmap
    apply hdone.congr
    intro out
    constructor
    · rintro ⟨⟩
      rfl
    · rintro rfl
      exact .done map
  | cons hpart _ ih =>
    intro map hmap
    exact describes_step hpart ih hmap

/-! ### Documents -/

private theorem isSorted_of_single {path : String} {map : FileMap}
    (h : ∃ page, map = FileMap.empty.add path page) : map.IsSorted := by
  obtain ⟨page, rfl⟩ := h
  exact FileMap.isSorted_empty.add path page

private theorem programSteps_isSorted {r : Renderer} {links : Links} {p : ProgramNode} {step : Step}
    (h : step ∈ r.programSteps links p) {map : FileMap} (hmap : step.files = .ok map) :
    map.IsSorted := by
  rw [Renderer.programSteps, List.mem_append, List.mem_append, List.mem_append, List.mem_map,
    List.mem_map, List.mem_map] at h
  obtain ((⟨a, -, rfl⟩ | ⟨d, -, rfl⟩) | ⟨ix, -, rfl⟩) | herrors := h
  · exact isSorted_of_single (renderAccount_ok (Generated.inside_eq_ok_iff.mp hmap))
  · exact isSorted_of_single (renderDefinedType_ok (Generated.inside_eq_ok_iff.mp hmap))
  · exact isSorted_of_single (renderInstruction_ok (Generated.inside_eq_ok_iff.mp hmap))
  · split at herrors
    · cases herrors
    · rw [List.mem_singleton.mp herrors] at hmap
      cases hmap
      exact (FileMap.isSorted_empty.add _ _).add _ _

theorem describes_renderProgram (r : Renderer) (links : Links) (p : ProgramNode) :
    Describes (r.ProgramOutcome links p) (r.renderProgram links p).files
      (r.programClashes links p) := by
  rw [Renderer.ProgramOutcome, Renderer.renderProgram, Renderer.programClashes]
  split
  · have hsteps : List.Forall₂ (fun part step => Describes part step.1.files step.2)
        ((r.programSteps links p).map fun step out => out = step.files)
        ((r.programSteps links p).map fun step => (step, ([] : List String))) := by
      rw [List.forall₂_map_left_iff, List.forall₂_map_right_iff, List.forall₂_same]
      intro step hstep
      exact .single fun map hmap => programSteps_isSorted hstep hmap
    have hrun := describes_run hsteps .empty FileMap.isSorted_empty
    rw [List.map_map] at hrun
    simpa [Function.comp_def] using hrun
  · apply Describes.single
    intro map hmap
    cases hmap
    exact FileMap.isSorted_empty

theorem describes_render (r : Renderer) (root : RootNode) :
    Describes (r.Outcome root) (r.render root).files (r.clashes root) := by
  unfold Renderer.Outcome Renderer.clashes
  rw [render_files]
  cases hbase : (r.baseStep (r.programsOf root)).files with
  | error e => exact .single fun map hmap => by cases hmap
  | ok base =>
    have hprograms : List.Forall₂ (fun part step => Describes part step.1.files step.2)
        ((r.programsOf root).map fun p out =>
          ∃ inner, r.ProgramOutcome root.links p inner ∧
            out = Generated.inside (.program p.name) inner)
        ((r.programsOf root).map fun p =>
          (Renderer.inside (.program p.name) (r.renderProgram root.links p),
            r.programClashes root.links p)) := by
      rw [List.forall₂_map_left_iff, List.forall₂_map_right_iff, List.forall₂_same]
      intro p _
      exact (describes_renderProgram r root.links p).inside _
    have hrun := describes_run hprograms base (baseStep_isSorted hbase)
    rw [List.map_map] at hrun
    exact hrun

/-! ### What is reported -/

/-- What is told of an outcome: the files, or the message of the error. -/
def report (out : Generated FileMap) : Except String FileMap := out.mapError (·.message)

private theorem naming_cause {e : Error} {path : String} (h : e.cause = .duplicatePath path) :
    naming path e = e := by
  induction e with
  | inside place inner ih => rw [naming, ih h]
  | duplicatePath _ => exact h.symm
  | _ => cases h

private theorem naming_message_injective {e : Error} {path : String}
    (h : e.cause = .duplicatePath path) {a b : String}
    (heq : (naming a e).message = (naming b e).message) : a = b := by
  induction e with
  | inside place inner ih =>
    simp only [naming, Error.message, String.append_right_inj] at heq
    exact ih h heq
  | duplicatePath _ =>
    simp only [naming, Error.message, String.append_left_inj] at heq
    exact heq
  | _ => cases h

namespace Describes

variable {part : Generated FileMap → Prop} {result : Generated FileMap} {paths : List String}

/-- If there is at most one path to name, there is a single outcome. -/
theorem eq_result (h : Describes part result paths) (hpaths : paths.length ≤ 1)
    {out : Generated FileMap} (hout : part out) : out = result := by
  rcases (h.outcome_iff out).mp hout with rfl | ⟨path, hpath, rfl⟩
  · rfl
  · obtain ⟨e, rfl, other, hother, hcause⟩ := h.named (List.ne_nil_of_mem hpath)
    obtain ⟨single, rfl⟩ := List.length_eq_one_iff.mp
      (Nat.le_antisymm hpaths (List.length_pos_of_mem hpath))
    rw [List.mem_singleton.mp hpath, ← List.mem_singleton.mp hother, Except.mapError,
      naming_cause hcause]

/-- Two paths to name make two outcomes with messages of their own. -/
theorem exists_message_ne (h : Describes part result paths) (hpaths : ¬ paths.length ≤ 1) :
    ∃ e e' : Error, part (.error e) ∧ part (.error e') ∧ e.message ≠ e'.message := by
  match paths, hpaths with
  | a :: b :: rest, _ =>
    obtain ⟨e, rfl, path, -, hcause⟩ := h.named (List.cons_ne_nil _ _)
    refine ⟨naming a e, naming b e, ?_, ?_, ?_⟩
    · exact (h.outcome_iff _).mpr (.inr ⟨a, List.mem_cons_self, rfl⟩)
    · exact (h.outcome_iff _).mpr (.inr ⟨b, List.mem_cons_of_mem _ List.mem_cons_self, rfl⟩)
    · intro heq
      refine (List.nodup_cons.mp h.nodup).1 ?_
      rw [naming_message_injective hcause heq]
      exact List.mem_cons_self
  | [_], hpaths => exact absurd (Nat.le_refl 1) hpaths
  | [], hpaths => exact absurd (Nat.zero_le 1) hpaths

/-- Anything that is told of the outcomes, and tells errors of different messages apart, is the same
for all of them exactly if there is at most one path to name. -/
theorem eq_iff {α : Type} (h : Describes part result paths) (told : Generated FileMap → α)
    (htold : ∀ e e' : Error, told (.error e) = told (.error e') → e.message = e'.message) :
    (∀ out out', part out → part out' → told out = told out') ↔ paths.length ≤ 1 := by
  constructor
  · intro hsame
    by_contra hpaths
    obtain ⟨e, e', he, he', hne⟩ := h.exists_message_ne hpaths
    exact hne (htold e e' (hsame _ _ he he'))
  · intro hpaths out out' hout hout'
    rw [h.eq_result hpaths hout, h.eq_result hpaths hout']

end Describes

end ClientGen.Render

/-! ### Scenarios -/

namespace ClientGen.Scenario

open ClientGen.Render

/-- The paths that are claimed twice where generating the files of a scenario fails to join them. -/
def clashes (reader : Idl.DocumentReader) (tree : FileTree) (s : Scenario) : List String :=
  match (Idl.load reader tree false false s.idl).result, s.options.renderer? with
  | .ok document, some r => r.clashes document.root
  | _, _ => []

theorem mayGenerate_generate (reader : Idl.DocumentReader) (tree : FileTree) (s : Scenario) :
    s.MayGenerate reader tree (s.generate reader tree false) := by
  unfold MayGenerate generate
  cases (Idl.load reader tree false false s.idl).result with
  | error e => rfl
  | ok document =>
    cases s.options.renderer? with
    | none => rfl
    | some r =>
      exact ⟨_, ((describes_render r document.root).outcome_iff _).mpr (.inl rfl), rfl⟩

/-- The run in the order of the maps themselves is one of those that may be. -/
theorem exists_run (formats : Formats) (tree : FileTree) (s : Scenario) :
    ∃ o, s.run formats tree false = some o ∧ s.MayEnd formats tree o ∧
      o.files = s.generate formats.documents tree false := by
  refine ⟨_, rfl, ⟨_, s.mayGenerate_generate formats.documents tree, rfl⟩, rfl⟩

private theorem snapshot_error_injective {formats : Formats} {s : Scenario}
    {e e' : GenerationError} {complaints complaints' : List Complaint}
    (h : s.snapshot formats ⟨.error e, complaints⟩ = s.snapshot formats ⟨.error e', complaints'⟩) :
    e.message formats = e'.message formats := by
  simp only [snapshot, String.append_right_inj, String.append_left_inj] at h
  exact h

theorem snapshot_eq_iff (formats : Formats) (tree : FileTree) (s : Scenario) :
    (∀ o o', s.MayEnd formats tree o → s.MayEnd formats tree o' →
      s.snapshot formats o = s.snapshot formats o') ↔
      (s.clashes formats.documents tree).length ≤ 1 := by
  unfold MayEnd MayGenerate clashes
  cases (Idl.load formats.documents tree false false s.idl).result with
  | error e => simp
  | ok document =>
    cases s.options.renderer? with
    | none => simp
    | some r =>
      rw [← (describes_render r document.root).eq_iff (fun out => s.snapshot formats
        ⟨out.mapError .render, s.complaints formats (out.mapError .render)⟩) fun e e' h =>
          snapshot_error_injective h]
      constructor
      · intro hsame out out' hout hout'
        exact hsame _ _ ⟨_, ⟨out, hout, rfl⟩, rfl⟩ ⟨_, ⟨out', hout', rfl⟩, rfl⟩
      · rintro hsame _ _ ⟨_, ⟨out, hout, rfl⟩, rfl⟩ ⟨_, ⟨out', hout', rfl⟩, rfl⟩
        exact hsame out out' hout hout'

end ClientGen.Scenario

namespace ClientGen.Render

open ClientGen.Idl ClientGen.Cpp

/-- Whatever the order of files is, rendering a document ends with the files of the map's own order,
or with its error up to the path that is named. What is told of it, and the snapshot of a scenario,
are the same in every order exactly if at most one path is claimed twice where rendering stops. -/
theorem reproducible_iff_single_clash (r : Renderer) (root : RootNode) (formats : Formats)
    (tree : FileTree) (s : Scenario) :
    (∀ out, r.Outcome root out ↔ Varies (r.render root).files (r.clashes root) out) ∧
    ((∀ out out', r.Outcome root out → r.Outcome root out' → report out = report out') ↔
      (r.clashes root).length ≤ 1) ∧
    (∃ o, s.run formats tree false = some o ∧ s.MayEnd formats tree o) ∧
    ((∀ o o', s.MayEnd formats tree o → s.MayEnd formats tree o' →
      s.snapshot formats o = s.snapshot formats o') ↔
      (s.clashes formats.documents tree).length ≤ 1) := by
  have hrender := describes_render r root
  have hreport : ∀ e e' : Error, report (.error e) = report (.error e') → e.message = e'.message :=
    fun e e' h => Except.error.inj h
  obtain ⟨o, hrun, hmay, -⟩ := s.exists_run formats tree
  exact ⟨hrender.outcome_iff, hrender.eq_iff report hreport, ⟨o, hrun, hmay⟩,
    s.snapshot_eq_iff formats tree⟩

/-- Two programs with accounts of the same two names: either of the two paths may be named. -/
theorem clashing_accounts_named_by_chance :
    let options : Options := ⟨"vault", "", false, false, []⟩
    let accounts : List AccountNode :=
      [⟨"pool", [], .struct [], none, none, false⟩, ⟨"state", [], .struct [], none, none, false⟩]
    let program (name : String) : ProgramNode :=
      { name := name, publicKey := "11111111111111111111111111111111", version := "",
        origin := "", docs := [], accounts := accounts, instructions := [], definedTypes := [],
        pdas := [], errors := [], isInternal := false }
    let root : RootNode := ⟨"", "", program "vault", [program "market"]⟩
    ∃ r out out', options.renderer? = some r ∧ r.Outcome root out ∧ r.Outcome root out' ∧
      report out = .error "Source/Vault/Public/Vault/Accounts/Pool.h rendered twice" ∧
      report out' = .error "Source/Vault/Public/Vault/Accounts/State.h rendered twice" := by
  intro options accounts program root
  have hplugin : options.pluginName = "Vault" := by decide +kernel
  have hr := Options.renderer?_of_standard (o := options) rfl
  rw [hplugin] at hr
  let r : Renderer := ⟨⟨.unreal5, "Vault"⟩, false, false, []⟩
  have hclashes : r.clashes root = ["Source/Vault/Public/Vault/Accounts/Pool.h",
      "Source/Vault/Public/Vault/Accounts/State.h"] := by decide +kernel
  have hresult : (r.render root).files =
      .error (.duplicatePath "Source/Vault/Public/Vault/Accounts/Pool.h") := by decide +kernel
  have houtcome := (describes_render r root).outcome_iff
  rw [hclashes, hresult] at houtcome
  refine ⟨r, _, .error (.duplicatePath "Source/Vault/Public/Vault/Accounts/State.h"), hr,
    (houtcome _).mpr (.inl rfl), (houtcome _).mpr (.inr ⟨_, ?_, rfl⟩), rfl, rfl⟩
  decide

end ClientGen.Render
