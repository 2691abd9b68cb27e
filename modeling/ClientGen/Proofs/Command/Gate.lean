import ClientGen.Command.Run
import ClientGen.Proofs.Idl.Modes
import ClientGen.Proofs.Naming.Separators
import ClientGen.Proofs.Render.Independence
/-!
# Validating before generating

Validating reads a document strictly and renders it with standard options. Generating reads it
leniently and renders it with the options of a run. A document without problems is read alike by
both, and whether it can be rendered does not depend on the flavor, the name of the module or the
dependency map. So a document that was found valid can be generated.
-/
namespace ClientGen

theorem Render.Options.selection_of_renderer? {o : Options} {r : Renderer}
    (h : o.renderer? = some r) :
    r.renderParents = o.renderParents ∧ r.includeInternal = o.includeInternal := by
  obtain ⟨flavor, -, rfl⟩ := Option.map_eq_some_iff.mp h
  exact ⟨rfl, rfl⟩

/-- Settings with nothing wrong in them that select what is rendered by validating: a known flavor,
a name of the module that has a word, some output directory, no empty text in the dependency map,
and neither internal entities nor instructions that only group others. -/
structure Settings.Plain (s : Settings) : Prop where
  flavor : (Flavor.find? s.flavor).isSome = true
  plugin : Naming.words s.plugin ≠ []
  output : s.output ≠ ""
  dependencyMap : ∀ d ∈ s.dependencyMap, d.1 ≠ "" ∧ d.2 ≠ ""
  renderParents : s.renderParents = false
  includeInternal : s.includeInternal = false

namespace Settings.Plain

variable {s : Settings}

theorem fault? (h : s.Plain) : s.fault? = none := by
  have hflavor : ¬ (Flavor.find? s.flavor).isNone = true := by
    obtain ⟨flavor, hflavor⟩ := Option.isSome_iff_exists.mp h.flavor
    rw [hflavor]
    exact Bool.false_ne_true
  have hplugin : ¬ (s.plugin.isEmpty || (Naming.pascal s.plugin).isEmpty) = true := by
    have hpascal := Naming.pascal_ne_empty h.plugin
    rw [Bool.or_eq_true, String.isEmpty_iff, String.isEmpty_iff, not_or]
    refine ⟨?_, hpascal⟩
    intro hempty
    rw [hempty] at hpascal
    exact hpascal (by decide +kernel)
  have houtput : ¬ s.output.isEmpty = true := by
    rw [String.isEmpty_iff]
    exact h.output
  have hdependencies : (s.dependencyMap.find? fun d => d.1.isEmpty || d.2.isEmpty) = none := by
    rw [List.find?_eq_none]
    intro d hd
    rw [Bool.or_eq_true, String.isEmpty_iff, String.isEmpty_iff, not_or]
    exact h.dependencyMap d hd
  rw [Settings.fault?, if_neg hflavor, if_neg hplugin, if_neg houtput, hdependencies,
    Option.map_none]

theorem validated (h : s.Plain) : s.validated = .ok s := by
  rw [Settings.validated, h.fault?]

theorem renderer? (h : s.Plain) : ∃ r, s.options.renderer? = some r := by
  by_cases hempty : s.flavor = ""
  · exact ⟨_, Render.Options.renderer?_of_standard hempty⟩
  · have hname : s.options.flavorName = s.flavor := by
      rw [Render.Options.flavorName, if_neg]
      · rfl
      · rw [String.isEmpty_iff]
        exact hempty
    obtain ⟨flavor, hflavor⟩ := Option.isSome_iff_exists.mp h.flavor
    rw [Render.Options.renderer?, hname, hflavor]
    exact ⟨_, rfl⟩

end Settings.Plain

namespace Command

open ClientGen.Console ClientGen.Render

/-! ### Rendering with other options -/

/-- A document that has no issue in some flavor is rendered with every plain settings. -/
theorem render_ok_of_no_issue {root : Idl.RootNode} {flavor : Flavor}
    (hnone : flavorIssue? root flavor = none) {s : Settings} (hs : s.Plain) {r : Renderer}
    (hr : s.options.renderer? = some r) : ∃ out, (r.render root).files = .ok out := by
  unfold flavorIssue? at hnone
  cases hrenderer : (validationOptions flavor.name).renderer? with
  | none =>
    rw [hrenderer] at hnone
    cases hnone
  | some r' =>
    simp only [hrenderer] at hnone
    cases hfiles : (r'.render root).files with
    | error e =>
      rw [hfiles] at hnone
      cases hnone
    | ok out =>
      obtain ⟨hparents, hinternal⟩ := Options.selection_of_renderer? hr
      obtain ⟨hparents', hinternal'⟩ := Options.selection_of_renderer? hrenderer
      have hsame : SameSelection r r' :=
        ⟨(hparents.trans hs.renderParents).trans hparents'.symm,
          (hinternal.trans hs.includeInternal).trans hinternal'.symm⟩
      exact (render_agrees (Options.flavor_mem_of_renderer? hr)
        (Options.flavor_mem_of_renderer? hrenderer) hsame root).ok_iff.mpr ⟨out, hfiles⟩

/-! ### What validating tells -/

section

variable {around : Surroundings} {s : Speaker} {tree : FileTree}

theorem misuse_exitCode_ne_zero (s : Speaker) (tree : FileTree) (code : ErrorCode)
    (message : String) : (misuse s tree code message).exitCode ≠ 0 := by
  change Failure.misuseCode ≠ 0
  decide

theorem Validation.report_exitCode_eq_zero_iff {v : Validation} :
    (v.report s tree).exitCode = 0 ↔ v.errors = [] := by
  unfold Validation.report
  cases v.errors with
  | nil => exact ⟨fun _ => rfl, fun _ => rfl⟩
  | cons first more =>
    constructor
    · intro h
      change Failure.failureCode = 0 at h
      exact absurd h (by decide)
    · intro h
      cases h

theorem validateIn_exitCode_eq_zero_iff {flavors : List Flavor} {path : String} :
    (validateIn around s tree flavors path).exitCode = 0 ↔
      ∃ document, (Idl.load around.formats.documents tree around.cancelled true
        path).result = .ok document ∧
        ∀ flavor ∈ flavors, flavorIssue? document.root flavor = none := by
  unfold validateIn
  cases hload : (Idl.load around.formats.documents tree around.cancelled true path).result with
  | error e =>
    dsimp only
    constructor
    · split
      · intro h
        exact absurd h (misuse_exitCode_ne_zero s tree _ _)
      · intro h
        cases Validation.report_exitCode_eq_zero_iff.mp h
    · rintro ⟨document, hdocument, -⟩
      cases hdocument
  | ok document =>
    refine Validation.report_exitCode_eq_zero_iff.trans ?_
    rw [List.filterMap_eq_nil_iff]
    constructor
    · intro hnone
      exact ⟨document, rfl, hnone⟩
    · rintro ⟨_, ⟨⟩, hnone⟩
      exact hnone

/-- A document that was found valid is read strictly and has no issue in some flavor. -/
theorem exists_document_of_validate {arguments : Arguments}
    (h : (validate around s tree arguments).exitCode = 0) :
    ∃ document flavor, (Idl.load around.formats.documents tree around.cancelled true
      (arguments.words.head?.getD "")).result = .ok document ∧
      flavorIssue? document.root flavor = none := by
  unfold validate at h
  dsimp only at h
  split at h
  · obtain ⟨document, hload, hnone⟩ := validateIn_exitCode_eq_zero_iff.mp h
    exact ⟨document, .unreal5, hload, hnone _ (List.mem_cons_of_mem _ List.mem_cons_self)⟩
  · split at h
    · exact absurd h (misuse_exitCode_ne_zero s tree _ _)
    · rename_i flavor _
      obtain ⟨document, hload, hnone⟩ := validateIn_exitCode_eq_zero_iff.mp h
      exact ⟨document, flavor, hload, hnone flavor List.mem_cons_self⟩

end

/-! ### What generating needs -/

/-- With plain settings, a document that is read and rendered is generated if nothing is to be
written. -/
theorem generateWith_dryRun_exitCode {around : Surroundings} {s : Speaker} {tree : FileTree}
    {settings : Settings} (hidl : settings.idl ≠ "") {document : Idl.Document}
    (hload : (Idl.load around.formats.documents tree around.cancelled false
      settings.idl).result = .ok document)
    {r : Renderer} (hr : settings.options.renderer? = some r) {out : FileMap}
    (hout : (r.render document.root).files = .ok out) :
    (generateWith around s tree settings true).exitCode = 0 := by
  have hempty : ¬ settings.idl.isEmpty = true := by
    rw [String.isEmpty_iff]
    exact hidl
  simp only [generateWith, if_neg hempty, hload, renderOutput, hr, hout, if_true]
  rfl

/-- Whoever validates a document with success, in all flavors or in one, can generate it from the
same tree in every flavor, under every name of the module that has a word and with every dependency
map without empty texts, unless more entities are selected. The document may be of any format, if
both commands read it with one engine. Nothing is written here, and settings that are named have to
be readable. -/
theorem generate_of_validate {around around' : Surroundings} {tree : FileTree}
    {line line' : List String} {format format' : Format} {arguments arguments' : Arguments}
    (hvalidate : readLine line = .ok (.command .validate format arguments))
    (hvalid : (run around tree line).exitCode = 0)
    (hgenerate : readLine line' = .ok (.command .generate format' arguments'))
    (hdry : arguments'.isOn "dry-run" = true) (hcancelled : around'.cancelled = false)
    (hengine : around'.formats.documents = around.formats.documents)
    {base settings : Settings} (hbase : (GenerateFlags.ofArguments arguments').base tree = .ok base)
    (hsettings : settings =
      (GenerateFlags.ofArguments arguments').override arguments'.words.head? base)
    (hplain : settings.Plain) (hsame : settings.idl = arguments.words.head?.getD "") :
    (run around' tree line').exitCode = 0 := by
  rw [run, hvalidate] at hvalid
  obtain ⟨document, flavor, hload, hnone⟩ := exists_document_of_validate hvalid
  have hidl : settings.idl ≠ "" := hsame ▸ Idl.path_ne_empty_of_load hload
  have hlenient : (Idl.load around'.formats.documents tree around'.cancelled false
      settings.idl).result = .ok document := by
    rw [hcancelled, hengine, hsame]
    exact Idl.load_lenient_of_strict hload
  obtain ⟨r, hr⟩ := hplain.renderer?
  obtain ⟨out, hout⟩ := render_ok_of_no_issue hnone hplain hr
  have hresolved : (GenerateFlags.ofArguments arguments').settings tree arguments'.words.head? =
      .ok settings := by
    rw [GenerateFlags.settings, hbase]
    change (Settings.validated (GenerateFlags.override _ _ _)).mapError _ = _
    rw [← hsettings, hplain.validated]
    rfl
  rw [run, hgenerate]
  simp only [runRequest, generate, hresolved]
  have hflag : (GenerateFlags.ofArguments arguments').dryRun = true := hdry
  rw [hflag]
  exact generateWith_dryRun_exitCode hidl hlenient hr hout

/-- A document that is validated in one flavor is generated in the other, under another name. -/
theorem generate_of_validate_vault :
    let json := "\x7b\"kind\":\"rootNode\",\"program\":\x7b\"kind\":\"programNode\","
      ++ "\"name\":\"vault\",\"publicKey\":\"11111111111111111111111111111111\"\x7d\x7d"
    let document := "_key: \"11111111111111111111111111111111\"\nkind: \"rootNode\"\n"
      ++ "program: \x7bkind: \"programNode\", name: \"vault\", publicKey: _key\x7d\n"
    let tree : FileTree := ⟨[(["vault.cue"], .file document)], []⟩
    let formats := { Formats.standard with documents := .knowing [(document, json)] }
    let around : Surroundings := ⟨formats, false, fun _ => none, ""⟩
    let validating := ["validate", "--flavor", "stl20", "vault.cue"]
    let generating := ["generate", "--dry-run", "--plugin", "my vault", "vault.cue"]
    (run around tree validating).exitCode = 0 ∧ (run around tree generating).exitCode = 0 := by
  intro json document tree formats around validating generating
  have hvalid : (run around tree validating).exitCode = 0 := by decide +kernel
  refine ⟨hvalid, ?_⟩
  let arguments : Arguments := ⟨[("flavor", .text "stl20")], ["vault.cue"]⟩
  let arguments' : Arguments :=
    ⟨[("dry-run", .switch true), ("plugin", .text "my vault")], ["vault.cue"]⟩
  have hvalidate : readLine validating = .ok (.command .validate .text arguments) := by
    decide +kernel
  have hgenerate : readLine generating = .ok (.command .generate .text arguments') := by
    decide +kernel
  let flags := GenerateFlags.ofArguments arguments'
  have hplain : (flags.override (some "vault.cue") .standard).Plain := by
    refine ⟨?_, ?_, ?_, ?_, rfl, rfl⟩
    · decide +kernel
    · decide +kernel
    · decide
    · intro d hd
      cases hd
  exact generate_of_validate hvalidate hvalid hgenerate rfl rfl rfl rfl rfl hplain rfl

end Command

end ClientGen
