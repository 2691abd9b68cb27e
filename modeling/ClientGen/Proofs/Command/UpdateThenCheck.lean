import ClientGen.Proofs.Command.Snapshots
/-!
# Writing snapshots and comparing with them

A run of scenarios is one of those that the orders of generated files allow. After a run that wrote
all snapshots, each scenario is compared with the last snapshot at its place. That cannot fail
exactly if no snapshot depends on the order of files and scenarios with a common place have the same
snapshot. Scenarios whose files differ in the extension alone have a common place.
-/
namespace ClientGen.Command

open ClientGen.FileTree ClientGen.Path

variable {around : Surroundings} {update : Bool} {tree after last : FileTree} {path text : String}
  {paths : List String} {verdict : Verdict} {verdicts : List Verdict}

/-! ### Runs -/

theorem runScenario_eq_some (hcancelled : around.cancelled = false) (update : Bool)
    (tree : FileTree) (path : String) :
    ∃ verdict after, runScenario around update tree path = some (verdict, after) ∧
      MayRun around update tree path verdict after := by
  unfold runScenario MayRun
  cases Scenario.load tree path with
  | error fault => exact ⟨_, _, rfl, rfl⟩
  | ok scenario =>
    obtain ⟨outcome, hrun, hmay, -⟩ := scenario.exists_run around.formats tree
    dsimp only
    rw [hcancelled, hrun]
    exact ⟨_, _, rfl, outcome, hmay, rfl⟩

/-- The run in the order of the maps themselves is one of the runs. -/
theorem suiteRuns_runScenarios (hcancelled : around.cancelled = false) (update : Bool)
    (tree : FileTree) (paths : List String) :
    SuiteRuns around update tree paths (runScenarios around update tree paths).verdicts
      (runScenarios around update tree paths).tree := by
  induction paths generalizing tree with
  | nil => exact .done tree
  | cons path rest ih =>
    obtain ⟨verdict, after, hrun, hmay⟩ := runScenario_eq_some hcancelled update tree path
    rw [runScenarios, hrun]
    exact .step hmay (ih after)

/-! ### Snapshots of a run -/

/-- A text that may be the snapshot of a scenario. -/
def MaySnapshot (formats : Formats) (tree : FileTree) (path text : String) : Prop :=
  ∃ scenario outcome, Scenario.load tree path = .ok scenario ∧
    scenario.MayEnd formats tree outcome ∧ text = scenario.snapshot formats outcome

theorem MaySnapshot.of_snapped {formats : Formats} (h : Snapped paths tree after)
    (hpath : isScenarioPath path = true) (hmay : MaySnapshot formats tree path text) :
    MaySnapshot formats after path text := by
  obtain ⟨scenario, outcome, hload, hend, htext⟩ := hmay
  exact ⟨scenario, outcome, h.load hpath hload, (h.mayEnd_iff hload formats outcome).mpr hend,
    htext⟩

/-- The snapshot at the place of a scenario is one that some scenario with this place may have. -/
def IsStored (formats : Formats) (tree : FileTree) (paths : List String) (path : String) : Prop :=
  ∃ other ∈ paths, ∃ text, snapshotPlace tree.working other = snapshotPlace tree.working path ∧
    MaySnapshot formats tree other text ∧
    tree.locate (snapshotPath path) = .ok (snapshotPlace tree.working path) ∧
    tree.get? (snapshotPlace tree.working path) = some (.file text)

/-- A scenario whose snapshot was written left it at its place. -/
theorem snapped_step (hclosed : tree.IsClosed) (h : MayRun around true tree path verdict after)
    (hwritten : verdict.updated = true) :
    after.IsClosed ∧ Snapped [path] tree after ∧ ∃ text, MaySnapshot around.formats tree path text ∧
      after.locate (snapshotPath path) = .ok (snapshotPlace tree.working path) ∧
      after.get? (snapshotPlace tree.working path) = some (.file text) := by
  unfold MayRun at h
  cases hload : Scenario.load tree path with
  | error fault =>
    rw [hload] at h
    cases h
    cases hwritten
  | ok scenario =>
    rw [hload] at h
    obtain ⟨outcome, hend, hsettle⟩ := h
    rw [settle, if_pos rfl] at hsettle
    cases hwrite : writeSnapshot tree (snapshotPath path)
        (scenario.snapshot around.formats outcome) with
    | error fault =>
      rw [hwrite] at hsettle
      cases hsettle
      cases hwritten
    | ok written =>
      rw [hwrite] at hsettle
      cases hsettle
      obtain ⟨hafter, hsnapped, hget, hlocate⟩ := snapped_writeSnapshot hclosed hwrite
      exact ⟨hafter, hsnapped, _, ⟨scenario, outcome, hload, hend, rfl⟩, hlocate, hget⟩

/-- After a run that wrote all snapshots, each place has one of those that belong there. -/
theorem snapped_run (h : SuiteRuns around true tree paths verdicts last)
    (hclosed : tree.IsClosed) (hwritten : ∀ verdict ∈ verdicts, verdict.updated = true)
    (hpaths : ∀ path ∈ paths, isScenarioPath path = true) :
    Snapped paths tree last ∧ ∀ path ∈ paths, IsStored around.formats last paths path := by
  induction h with
  | done tree => exact ⟨.refl tree, List.forall_mem_nil _⟩
  | @step tree after last path rest verdict verdicts hfirst hrest ih =>
    obtain ⟨hverdict, hverdicts⟩ := List.forall_mem_cons.mp hwritten
    obtain ⟨hpath, hothers⟩ := List.forall_mem_cons.mp hpaths
    obtain ⟨hafter, hstep, text, hmay, hlocate, hget⟩ := snapped_step hclosed hfirst hverdict
    obtain ⟨hsnapped, hstored⟩ := ih hafter hverdicts hothers
    have hall := hstep.trans hsnapped
    refine ⟨hall, List.forall_mem_cons.mpr ⟨?_, ?_⟩⟩
    · rw [← hall.changes.working] at hlocate hget
      have hthere := hsnapped.changes.locate hlocate
      by_cases hlater : ∃ other ∈ rest,
          snapshotPlace last.working other = snapshotPlace last.working path
      · -- a later scenario with this place left its own snapshot
        obtain ⟨other, hother, hplace⟩ := hlater
        obtain ⟨source, hsource, text', hsame, hmay', -, hget'⟩ := hstored other hother
        rw [hplace] at hsame hget'
        exact ⟨source, List.mem_cons_of_mem _ hsource, text', hsame, hmay', hthere, hget'⟩
      · refine ⟨path, List.mem_cons_self, text, rfl, hmay.of_snapped hall hpath, hthere, ?_⟩
        refine hsnapped.changes.kept ?_ hget
        rintro ⟨other, hother, hplace⟩
        rw [← hsnapped.changes.working] at hplace
        exact hlater ⟨other, hother, hplace.symm⟩
    · intro other hother
      obtain ⟨source, hsource, hrest⟩ := hstored other hother
      exact ⟨source, List.mem_cons_of_mem _ hsource, hrest⟩

/-! ### Comparing -/

/-- How the messages begin that are not about a snapshot. -/
def messageStarts : List String :=
  ["failed to load scenario: ", "generation failed: ", "expected error containing ",
    "unknown assertion type ", "Assertion failed: "]

theorem mismatchMessage_ne {start : String} (h : start ∈ messageStarts) (rest : String) :
    mismatchMessage ≠ start ++ rest := by
  intro heq
  have hnone : ∀ start ∈ messageStarts,
      start.toList.isPrefixOf mismatchMessage.toList = false := by decide
  have hprefix : start.toList <+: mismatchMessage.toList := by
    rw [heq, String.toList_append]
    exact List.prefix_append _ _
  rw [← List.isPrefixOf_iff_prefix, hnone start h] at hprefix
  cases hprefix

theorem message_eq_append (complaint : Complaint) :
    ∃ start ∈ messageStarts, ∃ rest, complaint.message = start ++ rest := by
  cases complaint with
  | failed message => exact ⟨"generation failed: ", by decide, _, rfl⟩
  | otherError expected message =>
    refine ⟨"expected error containing ", by decide,
      Text.displayed expected ++ (", got: " ++ message), ?_⟩
    change "expected error containing " ++ Text.displayed expected ++ ", got: " ++ message = _
    rw [String.append_assoc, String.append_assoc]
  | noError expected =>
    refine ⟨"expected error containing ", by decide,
      Text.displayed expected ++ ", generation succeeded", ?_⟩
    change "expected error containing " ++ Text.displayed expected ++ ", generation succeeded" = _
    rw [String.append_assoc]
  | assertion failure =>
    have hreport (type : AssertionType) (expected actual : String) (paths : List String) :
        ∃ start ∈ messageStarts, ∃ rest,
          AssertionFailure.report type expected actual paths = start ++ rest := by
      refine ⟨"Assertion failed: ", by decide, type.name ++ ("\n  Expected: " ++ (expected ++
        ("\n  Actual: " ++ (actual ++ ("\n" ++ AssertionFailure.listing paths))))), ?_⟩
      change "Assertion failed: " ++ type.name ++ "\n  Expected: " ++ expected ++ "\n  Actual: " ++
        actual ++ "\n" ++ AssertionFailure.listing paths = _
      simp only [String.append_assoc]
    cases failure with
    | unknownType type => exact ⟨"unknown assertion type ", by decide, _, rfl⟩
    | missing | present | textMissing | textFound | wrongCount => exact hreport _ _ _ _

/-- No complaint about what was generated looks like one about a snapshot. -/
theorem mismatchMessage_not_mem_errors (outcome : Outcome) : mismatchMessage ∉ outcome.errors := by
  intro hmem
  obtain ⟨complaint, -, hcomplaint⟩ := List.mem_map.mp hmem
  obtain ⟨start, hstart, rest, hmessage⟩ := message_eq_append complaint
  exact mismatchMessage_ne hstart rest (hcomplaint.symm.trans hmessage)

/-- Comparing leaves the files alone, and finds fault with a snapshot only if the scenario may have
another one. -/
theorem of_mayRun_compare (h : MayRun around false tree path verdict after) :
    after = tree ∧ ∀ stored, tree.read (snapshotPath path) = .ok stored →
      mismatchMessage ∈ verdict.errors →
        ∃ text, MaySnapshot around.formats tree path text ∧ text ≠ stored := by
  unfold MayRun at h
  cases hload : Scenario.load tree path with
  | error fault =>
    rw [hload] at h
    cases h
    refine ⟨rfl, fun _ _ hmem => ?_⟩
    exact absurd (List.mem_singleton.mp hmem) (mismatchMessage_ne (by decide) _)
  | ok scenario =>
    rw [hload] at h
    obtain ⟨outcome, hend, hsettle⟩ := h
    rw [settle, if_neg Bool.false_ne_true] at hsettle
    cases hsettle
    refine ⟨rfl, fun stored hread hmem => ⟨_, ⟨scenario, outcome, hload, hend, rfl⟩, ?_⟩⟩
    rintro rfl
    rw [List.mem_append, snapshotErrors, hread] at hmem
    simp [mismatchMessage_not_mem_errors] at hmem

theorem exists_mayRun_compare (around : Surroundings) (tree : FileTree) (path : String) :
    ∃ verdict, MayRun around false tree path verdict tree := by
  unfold MayRun
  cases Scenario.load tree path with
  | error fault => exact ⟨_, rfl⟩
  | ok scenario =>
    obtain ⟨outcome, -, hend, -⟩ := scenario.exists_run around.formats tree
    exact ⟨_, outcome, hend, rfl⟩

theorem exists_mismatch {stored : String} (hread : tree.read (snapshotPath path) = .ok stored)
    (hmay : MaySnapshot around.formats tree path text) (hother : text ≠ stored) :
    ∃ verdict, MayRun around false tree path verdict tree ∧ mismatchMessage ∈ verdict.errors := by
  obtain ⟨scenario, outcome, hload, hend, htext⟩ := hmay
  refine ⟨(settle around false tree path scenario outcome).1, ?_, ?_⟩
  · rw [MayRun, hload]
    exact ⟨outcome, hend, rfl⟩
  · have hstored : stored ≠ scenario.snapshot around.formats outcome := htext ▸ hother.symm
    rw [settle, if_neg Bool.false_ne_true, snapshotErrors, hread]
    simp [hstored]

theorem of_suiteRuns_compare (h : SuiteRuns around false tree paths verdicts last) :
    ∀ verdict ∈ verdicts, ∃ path ∈ paths, MayRun around false tree path verdict tree := by
  induction h with
  | done tree => exact List.forall_mem_nil _
  | step hfirst hrest ih =>
    obtain ⟨rfl, -⟩ := of_mayRun_compare hfirst
    refine List.forall_mem_cons.mpr ⟨⟨_, List.mem_cons_self, hfirst⟩, fun verdict hverdict => ?_⟩
    obtain ⟨path, hpath, hrun⟩ := ih verdict hverdict
    exact ⟨path, List.mem_cons_of_mem _ hpath, hrun⟩

theorem exists_suiteRuns_compare (around : Surroundings) (tree : FileTree) (paths : List String) :
    ∃ verdicts, SuiteRuns around false tree paths verdicts tree := by
  induction paths with
  | nil => exact ⟨[], .done tree⟩
  | cons path rest ih =>
    obtain ⟨first, hfirst⟩ := exists_mayRun_compare around tree path
    obtain ⟨verdicts, hverdicts⟩ := ih
    exact ⟨_, .step hfirst hverdicts⟩

/-- Whatever may become of one of the scenarios, some run has it. -/
theorem exists_suiteRuns_with (hpath : path ∈ paths)
    (h : MayRun around false tree path verdict tree) :
    ∃ verdicts, SuiteRuns around false tree paths verdicts tree ∧ verdict ∈ verdicts := by
  induction paths with
  | nil => cases hpath
  | cons other rest ih =>
    rcases List.mem_cons.mp hpath with rfl | hrest
    · obtain ⟨verdicts, hverdicts⟩ := exists_suiteRuns_compare around tree rest
      exact ⟨_, .step h hverdicts, List.mem_cons_self⟩
    · obtain ⟨first, hfirst⟩ := exists_mayRun_compare around tree other
      obtain ⟨verdicts, hverdicts, hmem⟩ := ih hrest
      exact ⟨_, .step hfirst hverdicts, List.mem_cons_of_mem _ hmem⟩

/-- If each place has a snapshot that belongs there, no comparison fails exactly if all snapshots
that belong to one place are the same. -/
theorem compare_iff (hstored : ∀ path ∈ paths, IsStored around.formats tree paths path) :
    (∀ compared last, SuiteRuns around false tree paths compared last →
      ∀ verdict ∈ compared, mismatchMessage ∉ verdict.errors) ↔
    ∀ path ∈ paths, ∀ other ∈ paths,
      snapshotPlace tree.working path = snapshotPlace tree.working other →
      ∀ text text', MaySnapshot around.formats tree path text →
        MaySnapshot around.formats tree other text' → text = text' := by
  constructor
  · intro h path hpath other hother hsame text text' hmay hmay'
    obtain ⟨-, -, stored, -, -, hlocate, hget⟩ := hstored path hpath
    obtain ⟨-, -, -, -, -, hlocate', -⟩ := hstored other hother
    rw [← hsame] at hlocate'
    have heq (path text) (hpath : path ∈ paths) (hmay : MaySnapshot around.formats tree path text)
        (hread : tree.read (snapshotPath path) = .ok stored) : text = stored := by
      by_contra hne
      obtain ⟨verdict, hrun, hmem⟩ := exists_mismatch hread hmay hne
      obtain ⟨compared, hruns, hverdict⟩ := exists_suiteRuns_with hpath hrun
      exact h compared tree hruns verdict hverdict hmem
    rw [heq path text hpath hmay (read_of_locate hlocate hget),
      heq other text' hother hmay' (read_of_locate hlocate' hget)]
  · intro h compared last hruns verdict hverdict hmem
    obtain ⟨path, hpath, hrun⟩ := of_suiteRuns_compare hruns verdict hverdict
    obtain ⟨other, hother, stored, hsame, hmay', hlocate, hget⟩ := hstored path hpath
    obtain ⟨text, hmay, hne⟩ :=
      (of_mayRun_compare hrun).2 stored (read_of_locate hlocate hget) hmem
    exact hne (h path hpath other hother hsame.symm text stored hmay hmay')

/-! ### Scenarios with a common place -/

/-- The snapshot of a scenario in the order of the maps themselves. -/
def ownSnapshot (formats : Formats) (tree : FileTree) (scenario : Scenario) : Option String :=
  (scenario.run formats tree false).map (scenario.snapshot formats)

/-- No snapshot depends on the order of files, and scenarios have the same snapshot if their files
are in one directory and differ in the extension alone. -/
def AgreeOnSnapshots (formats : Formats) (tree : FileTree) (paths : List String) : Prop :=
  ∀ path ∈ paths, ∀ other ∈ paths,
    destination tree.working (Path.directory path) =
      destination tree.working (Path.directory other) → stem path = stem other →
    ∀ scenario rival, Scenario.load tree path = .ok scenario →
      Scenario.load tree other = .ok rival →
      (scenario.clashes formats.documents tree).length ≤ 1 ∧
        ownSnapshot formats tree scenario = ownSnapshot formats tree rival

theorem lastPart_ne_empty (h : isScenarioPath path = true) : lastPart path ≠ "" := by
  rw [isScenarioPath, Bool.or_eq_true, beq_iff_eq, beq_iff_eq] at h
  intro hempty
  rw [← extension_lastPart, hempty] at h
  revert h
  decide

theorem agreeOnSnapshots_iff {formats : Formats}
    (hpaths : ∀ path ∈ paths, isScenarioPath path = true) :
    AgreeOnSnapshots formats tree paths ↔ ∀ path ∈ paths, ∀ other ∈ paths,
      snapshotPlace tree.working path = snapshotPlace tree.working other →
      ∀ text text', MaySnapshot formats tree path text → MaySnapshot formats tree other text' →
        text = text' := by
  have hplace (path) (hpath : path ∈ paths) (other) (hother : other ∈ paths) :=
    snapshotPlace_eq_iff (lastPart_ne_empty (hpaths path hpath))
      (lastPart_ne_empty (hpaths other hother)) tree.working
  constructor
  · rintro h path hpath other hother hsame _ _ ⟨scenario, outcome, hload, hend, rfl⟩
      ⟨rival, outcome', hload', hend', rfl⟩
    obtain ⟨hdirectory, hstem⟩ := (hplace path hpath other hother).mp hsame
    obtain ⟨hsingle, hown⟩ :=
      h path hpath other hother hdirectory hstem scenario rival hload hload'
    obtain ⟨hsingle', -⟩ :=
      h other hother path hpath hdirectory.symm hstem.symm rival scenario hload' hload
    obtain ⟨own, hrun, hmay, -⟩ := scenario.exists_run formats tree
    obtain ⟨own', hrun', hmay', -⟩ := rival.exists_run formats tree
    rw [ownSnapshot, ownSnapshot, hrun, hrun'] at hown
    rw [(scenario.snapshot_eq_iff formats tree).mpr hsingle outcome own hend hmay,
      (rival.snapshot_eq_iff formats tree).mpr hsingle' outcome' own' hend' hmay']
    exact Option.some.inj hown
  · intro h path hpath other hother hdirectory hstem scenario rival hload hload'
    have hsame := (hplace path hpath other hother).mpr ⟨hdirectory, hstem⟩
    refine ⟨(scenario.snapshot_eq_iff formats tree).mp fun outcome outcome' hend hend' => ?_, ?_⟩
    · exact h path hpath path hpath rfl _ _ ⟨scenario, outcome, hload, hend, rfl⟩
        ⟨scenario, outcome', hload, hend', rfl⟩
    · obtain ⟨own, hrun, hmay, -⟩ := scenario.exists_run formats tree
      obtain ⟨own', hrun', hmay', -⟩ := rival.exists_run formats tree
      rw [ownSnapshot, ownSnapshot, hrun, hrun', Option.map_some, Option.map_some,
        h path hpath other hother hsame _ _ ⟨scenario, own, hload, hmay, rfl⟩
          ⟨rival, own', hload', hmay', rfl⟩]

/-- Scenarios with places of their own agree if no snapshot depends on the order of files. -/
theorem agreeOnSnapshots_of_places {formats : Formats}
    (hplaces : ∀ path ∈ paths, ∀ other ∈ paths,
      destination tree.working (Path.directory path) =
        destination tree.working (Path.directory other) → stem path = stem other → path = other)
    (hsingle : ∀ path ∈ paths, ∀ scenario, Scenario.load tree path = .ok scenario →
      (scenario.clashes formats.documents tree).length ≤ 1) :
    AgreeOnSnapshots formats tree paths := by
  intro path hpath other hother hdirectory hstem scenario rival hload hload'
  cases hplaces path hpath other hother hdirectory hstem
  rw [hload] at hload'
  cases hload'
  exact ⟨hsingle path hpath scenario hload, rfl⟩

theorem isScenarioPath_of_mem {directory : String} (h : path ∈ scenarioPaths tree directory) :
    isScenarioPath path = true := by
  unfold scenarioPaths at h
  split at h
  · cases h
  · obtain ⟨⟨way, entry⟩, -, hpath⟩ := List.mem_filterMap.mp h
    dsimp only at hpath
    split at hpath
    · rename_i hscenario
      rw [Bool.and_eq_true] at hscenario
      cases hpath
      exact hscenario.2
    · cases hpath

theorem scenarioPaths_eq_nil {directory : String} (h : tree.contains directory = false) :
    scenarioPaths tree directory = [] := by
  unfold scenarioPaths
  split
  · rfl
  · rename_i location entry hfind
    rw [contains_iff.mpr ⟨location, entry, hfind⟩] at h
    cases h

theorem mem_of_mem_selectedPaths {filter : String} (h : path ∈ selectedPaths filter paths) :
    path ∈ paths := by
  unfold selectedPaths at h
  split at h
  · exact h
  · exact (List.mem_filter.mp h).1

/-- Writing the snapshots of the scenarios below a directory leaves these scenarios. -/
theorem selectedPaths_kept {directory filter : String}
    (hupdate : SuiteRuns around true tree
      (selectedPaths filter (scenarioPaths tree directory)) verdicts after)
    (hsnapped : Snapped (selectedPaths filter (scenarioPaths tree directory)) tree after) :
    selectedPaths filter (scenarioPaths after directory) =
      selectedPaths filter (scenarioPaths tree directory) := by
  cases hdirectory : tree.contains directory with
  | true => rw [hsnapped.scenarioPaths hdirectory]
  | false =>
    -- without the directory there are no scenarios, and nothing was written
    have hnil : selectedPaths filter (scenarioPaths tree directory) = [] := by
      rw [scenarioPaths_eq_nil hdirectory, List.eq_nil_iff_forall_not_mem]
      exact fun path hpath => absurd (mem_of_mem_selectedPaths hpath) List.not_mem_nil
    rw [hnil] at hupdate
    cases hupdate
    rfl

/-- Writing all snapshots leaves the scenarios that were selected. After it no comparison fails, in
whatever order generated files come, exactly if no snapshot depends on that order and scenarios
whose files differ in the extension alone have the same snapshot. -/
theorem no_mismatch_after_update_iff (around : Surroundings) {tree after : FileTree}
    (directory filter : String) {verdicts : List Verdict} (hclosed : tree.IsClosed)
    (hupdate : SuiteRuns around true tree
      (selectedPaths filter (scenarioPaths tree directory)) verdicts after)
    (hwritten : ∀ verdict ∈ verdicts, verdict.updated = true) :
    let paths := selectedPaths filter (scenarioPaths tree directory)
    selectedPaths filter (scenarioPaths after directory) = paths ∧
    ((∀ compared last, SuiteRuns around false after paths compared last →
        ∀ verdict ∈ compared, mismatchMessage ∉ verdict.errors) ↔
      AgreeOnSnapshots around.formats after paths) ∧
    (around.cancelled = false → ∀ update tree paths,
      SuiteRuns around update tree paths (runScenarios around update tree paths).verdicts
        (runScenarios around update tree paths).tree) := by
  intro paths
  have hpaths : ∀ path ∈ paths, isScenarioPath path = true := fun path hpath =>
    isScenarioPath_of_mem (mem_of_mem_selectedPaths hpath)
  obtain ⟨hsnapped, hstored⟩ := snapped_run hupdate hclosed hwritten hpaths
  refine ⟨selectedPaths_kept hupdate hsnapped, ?_, suiteRuns_runScenarios⟩
  rw [compare_iff hstored, agreeOnSnapshots_iff hpaths]

/-- Two scenarios whose document is refused for its extension, in files of given names, and
snapshots of such scenarios. -/
def refusedScenarios (file other : String) (snapshots : List (String × String)) : FileTree :=
  let text (name : String) : String :=
    "\x7b\"name\": \"" ++ name ++ "\", \"idl\": \"idl.txt\", \"expect_error\": \"want\"\x7d"
  let snapshot (name : String) : String :=
    "scenario: " ++ name ++
      "\nerror: E004: unsupported IDL extension \".txt\" (want .json or .cue)\n"
  let golden : List (Location × Entry) :=
    if snapshots.isEmpty then [] else [(["s", "golden"], .directory)]
  ⟨[(["s"], .directory), (["s", file], .file (text "first")), (["s", other], .file (text "second"))]
    ++ golden ++ (snapshots.map fun s => (["s", "golden", s.1], .file (snapshot s.2)))
    ++ [(["s", "idl.txt"], .file "")], []⟩

/-- No work is called off, and no program is there. -/
def bareSurroundings : Surroundings := ⟨.standard, false, fun _ => none, ""⟩

/-- Two scenarios with names of their own are compared with their own snapshots. -/
theorem no_mismatch_after_update_iff_two_names :
    let tree := refusedScenarios "a.yaml" "b.yml" []
    let paths := selectedPaths "" (scenarioPaths tree "s")
    let written := runScenarios bareSurroundings true tree paths
    tree.IsClosed ∧ SuiteRuns bareSurroundings true tree paths written.verdicts written.tree ∧
      (∀ verdict ∈ written.verdicts, verdict.updated = true) ∧
      ∀ compared last, SuiteRuns bareSurroundings false written.tree paths compared last →
        ∀ verdict ∈ compared, mismatchMessage ∉ verdict.errors := by
  have hfiles : refusedScenarios "a.yaml" "b.yml" [] =
      .ofFiles [] (refusedScenarios "a.yaml" "b.yml" []).files := by decide +kernel
  have hpaths : selectedPaths "" (scenarioPaths (refusedScenarios "a.yaml" "b.yml" []) "s") =
      ["s/a.yaml", "s/b.yml"] := by decide +kernel
  have hfirst : runScenario bareSurroundings true (refusedScenarios "a.yaml" "b.yml" [])
      "s/a.yaml" = some (⟨"first", "", [], true⟩,
        refusedScenarios "a.yaml" "b.yml" [("a.golden", "first")]) := by decide +kernel
  have hsecond : runScenario bareSurroundings true
      (refusedScenarios "a.yaml" "b.yml" [("a.golden", "first")]) "s/b.yml" =
        some (⟨"second", "", [], true⟩, refusedScenarios "a.yaml" "b.yml"
          [("a.golden", "first"), ("b.golden", "second")]) := by decide +kernel
  have hnone : ∀ path ∈ ["s/a.yaml", "s/b.yml"],
      (Scenario.load (refusedScenarios "a.yaml" "b.yml"
        [("a.golden", "first"), ("b.golden", "second")]) path).map (fun scenario =>
          scenario.clashes bareSurroundings.formats.documents (refusedScenarios "a.yaml" "b.yml"
            [("a.golden", "first"), ("b.golden", "second")])) = .ok [] := by decide +kernel
  intro tree paths written
  have hclosed : tree.IsClosed := by
    change (refusedScenarios "a.yaml" "b.yml" []).IsClosed
    rw [hfiles]
    exact (ofFiles_isSound _ _).closed
  have hupdate : SuiteRuns bareSurroundings true tree paths written.verdicts written.tree :=
    suiteRuns_runScenarios rfl true tree paths
  have hrun : written = ⟨[⟨"first", "", [], true⟩, ⟨"second", "", [], true⟩],
      refusedScenarios "a.yaml" "b.yml" [("a.golden", "first"), ("b.golden", "second")],
      false⟩ := by
    simp only [written, paths, tree, hpaths, runScenarios, hfirst, hsecond]
  have hwritten : ∀ verdict ∈ written.verdicts, verdict.updated = true := by
    rw [hrun]
    decide
  obtain ⟨-, hcompare, -⟩ :=
    no_mismatch_after_update_iff bareSurroundings "s" "" hclosed hupdate hwritten
  refine ⟨hclosed, hupdate, hwritten, hcompare.mpr ?_⟩
  simp only [hrun, tree, hpaths]
  refine agreeOnSnapshots_of_places (by decide +kernel) fun path hpath scenario hload => ?_
  have hclashes := hnone path hpath
  simp only [hload, Except.map, Except.ok.injEq] at hclashes
  rw [hclashes]
  decide

/-- Of two scenarios whose files differ in the extension alone, the first is compared with the
snapshot of the second. -/
theorem common_place_is_overwritten :
    let tree := refusedScenarios "a.yaml" "a.yml" []
    let paths := selectedPaths "" (scenarioPaths tree "s")
    let written := runScenarios bareSurroundings true tree paths
    let compared := runScenarios bareSurroundings false written.tree
      (selectedPaths "" (scenarioPaths written.tree "s"))
    (∀ verdict ∈ written.verdicts, verdict.updated = true) ∧
      compared.verdicts.map (·.errors) = [[mismatchMessage], []] := by
  have hpaths : selectedPaths "" (scenarioPaths (refusedScenarios "a.yaml" "a.yml" []) "s") =
      ["s/a.yaml", "s/a.yml"] := by decide +kernel
  have hfirst : runScenario bareSurroundings true (refusedScenarios "a.yaml" "a.yml" [])
      "s/a.yaml" = some (⟨"first", "", [], true⟩,
        refusedScenarios "a.yaml" "a.yml" [("a.golden", "first")]) := by decide +kernel
  have hsecond : runScenario bareSurroundings true
      (refusedScenarios "a.yaml" "a.yml" [("a.golden", "first")]) "s/a.yml" =
        some (⟨"second", "", [], true⟩,
          refusedScenarios "a.yaml" "a.yml" [("a.golden", "second")]) := by decide +kernel
  have hpaths' : selectedPaths "" (scenarioPaths
      (refusedScenarios "a.yaml" "a.yml" [("a.golden", "second")]) "s") =
        ["s/a.yaml", "s/a.yml"] := by decide +kernel
  have hcompared : runScenario bareSurroundings false
      (refusedScenarios "a.yaml" "a.yml" [("a.golden", "second")]) "s/a.yaml" =
        some (⟨"first", "", [mismatchMessage], false⟩,
          refusedScenarios "a.yaml" "a.yml" [("a.golden", "second")]) := by decide +kernel
  have hcompared' : runScenario bareSurroundings false
      (refusedScenarios "a.yaml" "a.yml" [("a.golden", "second")]) "s/a.yml" =
        some (⟨"second", "", [], false⟩,
          refusedScenarios "a.yaml" "a.yml" [("a.golden", "second")]) := by decide +kernel
  simp only [hpaths, runScenarios, hfirst, hsecond, hpaths', hcompared, hcompared']
  decide

end ClientGen.Command
