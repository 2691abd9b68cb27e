import ClientGen.Command.Validate
import ClientGen.Proofs.Render.DuplicatePaths
import ClientGen.Proofs.Render.JoinOrder
/-!
# Classes of errors

An error carries the mark of its cause through all places around it, and commands report it under
the code of that mark. Whatever rendering fails for, there is exactly one mark, but for a derived
address that is not declared: an account asks for it and no program of the document has it.
-/
namespace ClientGen.Cpp

/-- What errors are told apart by. -/
inductive Mark where
  | unsupported
  | missingContext
  | invalidValue
  | duplicatePath
deriving DecidableEq, Repr

/-- The code that a mark is reported under. -/
def Mark.code : Mark → ErrorCode
  | .unsupported => .unsupported
  | .missingContext => .missingContext
  | .invalidValue => .invalidValue
  | .duplicatePath => .duplicatePath

theorem Mark.code_text_ne (mark : Mark) : mark.code.text ≠ "E201" := by
  cases mark <;> decide

/-- The marks that an error carries. A place around an error adds none and takes none away. -/
def Error.marks : Error → List Mark
  | .unsupported _ => [.unsupported]
  | .missingContext _ => [.missingContext]
  | .invalidValue _ => [.invalidValue]
  | .duplicatePath _ => [.duplicatePath]
  | .missingPda _ => []
  | .missingRoot => []
  | .inside _ inner => inner.marks

theorem Error.marks_cause (e : Error) : e.cause.marks = e.marks := by
  induction e with
  | inside place inner ih => exact ih
  | _ => rfl

end ClientGen.Cpp

namespace ClientGen.Render

open ClientGen.Idl ClientGen.Cpp

namespace Renderer

/-- An exported account or defined type has no name in the generated code. -/
def HasUnnamed (r : Renderer) (root : RootNode) : Prop :=
  ∃ p ∈ r.programsOf root,
    (∃ a ∈ r.accountsOf p, Naming.pascal a.name = "") ∨
      ∃ d ∈ r.definedTypesOf p, Naming.pascal d.name = ""

/-- An exported account asks for a derived address that no program of the document declares. -/
def LacksPda (r : Renderer) (root : RootNode) (name : String) : Prop :=
  ∃ p ∈ r.programsOf root, ∃ a ∈ r.accountsOf p, a.pda = some name ∧
    ∀ q ∈ root.programs, ∀ pda ∈ q.pdas, pda.name ≠ name

end Renderer

/-- Why a document cannot be rendered. -/
inductive RenderFailure (r : Renderer) (root : RootNode) : Error → Prop
  | inherent {e : Error} (h : Inherent (r.HasUnnamed root) e) : RenderFailure r root e
  | missingPda {name : String} (h : r.LacksPda root name) : RenderFailure r root (.missingPda name)
  | duplicatePath (path : String) : RenderFailure r root (.duplicatePath path)

theorem FileMap.merge_failsOnly {causes : Error → Prop} (h : ∀ path, causes (.duplicatePath path))
    (map more : FileMap) : (map.merge more).FailsOnly causes := by
  unfold FileMap.merge
  cases map.mergeAll [more] with
  | error path => exact Generated.failsOnly_error (h path)
  | ok joined => exact Generated.failsOnly_ok joined

theorem runSteps_failsOnly {causes : Error → Prop} (h : ∀ path, causes (.duplicatePath path))
    {steps : List Step} (hsteps : ∀ step ∈ steps, step.files.FailsOnly causes) :
    ∀ map : FileMap, (runSteps map steps).files.FailsOnly causes := by
  induction steps with
  | nil =>
    intro map
    exact Generated.failsOnly_ok map
  | cons step rest ih =>
    intro map
    rw [List.forall_mem_cons] at hsteps
    have hjoin : Generated.FailsOnly (step.files.bind map.merge) causes :=
      hsteps.1.bind fun more _ => FileMap.merge_failsOnly h map more
    rw [runSteps]
    cases hjoined : step.files.bind map.merge with
    | error e => exact Generated.failsOnly_error (hjoin.of_error e hjoined)
    | ok joined => exact ih hsteps.2 joined

section

variable {r : Renderer} {root : RootNode}

theorem pda_name_ne_of_links {name : String} (h : root.links.pda? name = none) :
    ∀ q ∈ root.programs, ∀ pda ∈ q.pdas, pda.name ≠ name := by
  intro q hq pda hpda
  have hmem : pda ∈ root.pdas := List.mem_flatMap.mpr ⟨q, hq, hpda⟩
  simpa using List.find?_eq_none.mp h pda hmem

theorem programSteps_failsOnly {p : ProgramNode} (hp : p ∈ r.programsOf root) :
    ∀ step ∈ r.programSteps root.links p, step.files.FailsOnly (RenderFailure r root) := by
  intro step hstep
  rw [Renderer.programSteps, List.mem_append, List.mem_append, List.mem_append, List.mem_map,
    List.mem_map, List.mem_map] at hstep
  obtain ((⟨a, ha, rfl⟩ | ⟨d, hd, rfl⟩) | ⟨ix, -, rfl⟩) | herrors := hstep
  · refine ((renderAccount_failsOnly r p root.links a).mono ?_).inside (.account a.name)
    rintro e (h | ⟨name, hname, hlink⟩)
    · exact .inherent (h.mono fun hempty => ⟨p, hp, .inl ⟨a, ha, hempty⟩⟩)
    · exact .missingPda ⟨p, hp, a, ha, hname, pda_name_ne_of_links hlink⟩
  · refine ((renderDefinedType_failsOnly r d).mono ?_).inside (.definedType d.name)
    intro e h
    exact .inherent (h.mono fun hempty => ⟨p, hp, .inr ⟨d, hd, hempty⟩⟩)
  · refine ((renderInstruction_failsOnly r p ix).mono ?_).inside (.instruction ix.name)
    intro e h
    exact .inherent (h.mono False.elim)
  · split at herrors
    · cases herrors
    · rw [List.mem_singleton.mp herrors]
      exact Generated.failsOnly_ok _

theorem render_failsOnly (r : Renderer) (root : RootNode) :
    (r.render root).files.FailsOnly (RenderFailure r root) := by
  have hbase : (r.baseStep (r.programsOf root)).files.FailsOnly (RenderFailure r root) :=
    (baseStep_failsOnly (r.programsOf root)).mono fun e h => .inherent (h.mono False.elim)
  rw [render_files]
  refine hbase.bind fun base _ => runSteps_failsOnly .duplicatePath ?_ base
  intro step hstep
  obtain ⟨p, hp, rfl⟩ := List.mem_map.mp hstep
  have hrun := runSteps_failsOnly RenderFailure.duplicatePath (programSteps_failsOnly hp) .empty
  have hexported : r.exports p.isInternal = true := (List.mem_filter.mp hp).2
  rw [Renderer.renderProgram, if_pos hexported]
  exact hrun.inside (.program p.name)

private theorem renderFailure_naming (path : String) {e : Error}
    (h : RenderFailure r root e.cause) : RenderFailure r root (naming path e).cause := by
  induction e with
  | inside place inner ih => exact ih h
  | duplicatePath _ => exact .duplicatePath path
  | _ => exact h

/-- In whatever order files are joined, rendering fails for the same causes. -/
theorem renderFailure_of_outcome {e : Error} (h : r.Outcome root (.error e)) :
    RenderFailure r root e.cause := by
  have hvaries := ((describes_render r root).outcome_iff _).mp h
  have hfails := render_failsOnly r root
  rcases hvaries with heq | ⟨path, -, heq⟩
  · exact hfails.of_error e heq.symm
  · cases hfiles : (r.render root).files with
    | ok out =>
      rw [hfiles] at heq
      cases heq
    | error inner =>
      rw [hfiles] at heq
      cases heq
      exact renderFailure_naming path (hfails.of_error inner hfiles)

/-- Every cause has one mark, but for a derived address that is not declared. -/
theorem RenderFailure.marks {e : Error} (h : RenderFailure r root e) :
    (∃ mark, e.marks = [mark]) ∨ ∃ name, e = .missingPda name := by
  cases h with
  | inherent h =>
    cases h with
    | unsupported construct => exact .inl ⟨.unsupported, rfl⟩
    | invalidValue value => exact .inl ⟨.invalidValue, rfl⟩
    | missingContext what _ => exact .inl ⟨.missingContext, rfl⟩
  | @missingPda name _ => exact .inr ⟨name, rfl⟩
  | duplicatePath path => exact .inl ⟨.duplicatePath, rfl⟩

theorem renderer?_vault : Options.renderer? ⟨"vault", "", false, false, []⟩ =
    some ⟨⟨.unreal5, "Vault"⟩, false, false, []⟩ := by
  have hplugin : Options.pluginName ⟨"vault", "", false, false, []⟩ = "Vault" := by decide +kernel
  have hr := Options.renderer?_of_standard (o := ⟨"vault", "", false, false, []⟩) rfl
  rwa [hplugin] at hr

theorem outcome_render (r : Renderer) (root : RootNode) : r.Outcome root (r.render root).files :=
  ((describes_render r root).outcome_iff _).mpr (.inl rfl)

end

end ClientGen.Render

namespace ClientGen.Command

open ClientGen.Idl ClientGen.Cpp ClientGen.Render

theorem Issue.renderCode_eq (e : Error) :
    Issue.renderCode e = (e.marks.head?.map Mark.code).getD .render := by
  rw [← Error.marks_cause, Issue.renderCode]
  induction e with
  | inside place inner ih => exact ih
  | _ => rfl

/-- A known flavor always has a renderer, so that an issue in it comes from an error. -/
theorem exists_error_of_flavorIssue? {root : RootNode} {flavor : Flavor} {issue : Issue}
    (hflavor : flavor ∈ Flavor.all) (h : flavorIssue? root flavor = some issue) :
    ∃ r e, (validationOptions flavor.name).renderer? = some r ∧
      (r.render root).files = .error e ∧ issue = .ofRenderError flavor.name e := by
  have hknown : ∀ f ∈ Flavor.all, (validationOptions f.name).renderer?.isSome = true := by
    decide +kernel
  obtain ⟨r, hr⟩ := Option.isSome_iff_exists.mp (hknown flavor hflavor)
  rw [flavorIssue?, hr] at h
  cases hfiles : (r.render root).files with
  | error e =>
    simp only [hfiles, Option.some.injEq] at h
    exact ⟨r, e, hr, hfiles, h.symm⟩
  | ok out =>
    simp only [hfiles] at h
    cases h

/-- In whatever order files are joined, an error of the renderer carries exactly one mark and is
reported under its code, or it is a derived address that an exported account asks for and no program
declares; this alone is reported under the code of all other errors. Validating reports what a
renderer failed with, and nothing else. -/
theorem errors_carry_one_mark (root : RootNode) :
    (∀ (r : Renderer) (e : Error), r.Outcome root (.error e) →
      ((∃ mark, e.marks = [mark] ∧ ∀ flavor, (Issue.ofRenderError flavor e).code = mark.code) ∨
        e.marks = [] ∧ ∃ name, e.cause = .missingPda name) ∧
      (∀ flavor, (Issue.ofRenderError flavor e).code.text = "E201" ↔
        ∃ name, e.cause = .missingPda name) ∧
      ∀ name, e.cause = .missingPda name → r.LacksPda root name) ∧
    ∀ flavor ∈ Flavor.all, ∀ issue, flavorIssue? root flavor = some issue →
      ∃ (r : Renderer) (e : Error), r.Outcome root (.error e) ∧
        issue = .ofRenderError flavor.name e := by
  constructor
  · intro r e houtcome
    have hfailure := renderFailure_of_outcome houtcome
    have hcode (flavor : String) : (Issue.ofRenderError flavor e).code =
        (e.marks.head?.map Mark.code).getD .render := Issue.renderCode_eq e
    have hlacks (name : String) (hname : e.cause = .missingPda name) : r.LacksPda root name := by
      rw [hname] at hfailure
      cases hfailure with
      | inherent h => cases h
      | missingPda h => exact h
    rcases hfailure.marks with ⟨mark, hmark⟩ | ⟨name, hname⟩
    · rw [e.marks_cause] at hmark
      have hmarked (flavor : String) : (Issue.ofRenderError flavor e).code = mark.code := by
        rw [hcode, hmark]
        rfl
      refine ⟨.inl ⟨mark, hmark, hmarked⟩, ?_, hlacks⟩
      intro flavor
      rw [hmarked]
      constructor
      · intro htext
        exact absurd htext mark.code_text_ne
      · rintro ⟨name, hname⟩
        rw [← e.marks_cause, hname] at hmark
        cases hmark
    · have hnone : e.marks = [] := by
        rw [← e.marks_cause, hname]
        rfl
      refine ⟨.inr ⟨hnone, name, hname⟩, ?_, hlacks⟩
      intro flavor
      rw [hcode, hnone]
      exact ⟨fun _ => ⟨name, hname⟩, fun _ => rfl⟩
  · intro flavor hflavor issue hissue
    obtain ⟨r, e, -, hfiles, rfl⟩ := exists_error_of_flavorIssue? hflavor hissue
    refine ⟨r, e, ?_, rfl⟩
    rw [← hfiles]
    exact outcome_render r root

/-- An account at a derived address in a program that declares none. -/
theorem errors_carry_one_mark_missing_pda :
    let options : Options := ⟨"vault", "", false, false, []⟩
    let program : ProgramNode :=
      { name := "vault", publicKey := "11111111111111111111111111111111", version := "",
        origin := "", docs := [],
        accounts := [⟨"state", [], .struct [], some "vault", none, false⟩],
        instructions := [], definedTypes := [], pdas := [], errors := [], isInternal := false }
    let root : RootNode := ⟨"", "", program, []⟩
    ∃ r e, options.renderer? = some r ∧ r.Outcome root (.error e) ∧
      (Issue.ofRenderError "unreal5" e).code.text = "E201" ∧ r.LacksPda root "vault" := by
  intro options program root
  let r : Renderer := ⟨⟨.unreal5, "Vault"⟩, false, false, []⟩
  let e : Error := .inside (.program "vault") (.inside (.account "state") (.missingPda "vault"))
  have hresult : (r.render root).files = .error e := by decide +kernel
  have houtcome := outcome_render r root
  rw [hresult] at houtcome
  obtain ⟨-, hcode, hlacks⟩ := (errors_carry_one_mark root).1 r e houtcome
  exact ⟨r, e, renderer?_vault, houtcome, (hcode "unreal5").mpr ⟨"vault", rfl⟩, hlacks "vault" rfl⟩

end ClientGen.Command
