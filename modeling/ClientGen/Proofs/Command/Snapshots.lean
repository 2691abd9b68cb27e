import ClientGen.Command.Suite
import ClientGen.Proofs.FileTree
import ClientGen.Proofs.Path.Extensions
import ClientGen.Proofs.Render.JoinOrder
/-!
# Snapshots beside scenarios

Writing the snapshot of a scenario adds directories and changes the content of a file whose name has
the extension of snapshots. No scenario and no document has such a name, so the scenarios below a
directory stay the same, and each of them is read as before.
-/
namespace ClientGen.FileTree

open ClientGen.Path

variable {tree after : FileTree} {path : String}

/-! ### Where a path with a name at its end leads -/

/-- A path with a name at its end leads to an entry of that name. -/
theorem destination_eq_concat (h : IsName (lastPart path)) (working : Location) :
    ∃ init, destination working path = init ++ [lastPart path] := by
  obtain ⟨init, hinit⟩ := parts_eq_concat path
  rw [destination, hinit, List.foldl_append, List.foldl_cons, List.foldl_nil, walk_of_isName h]
  exact ⟨_, rfl⟩

theorem destination_append_slash {before name : String} (hbefore : before ≠ "")
    (hname : IsName name) (working : Location) :
    destination working (before ++ "/" ++ name) = destination working before ++ [name] := by
  rw [destination, origin, isAbsolute_append_slash hbefore, parts_append_slash,
    parts_of_slash_free hname.slash, List.foldl_append, List.foldl_cons, List.foldl_nil,
    walk_of_isName hname]
  rfl

/-! ### What stays in the list of entries -/

/-- What is picked stays if nothing is picked at the location that is put. -/
theorem filterMap_insertEntry {α : Type} {pick : Location × Entry → Option α}
    {location : Location} {entry : Entry} (hnew : pick (location, entry) = none)
    {entries : List (Location × Entry)}
    (hold : ∀ old, (location, old) ∈ entries → pick (location, old) = none) :
    (insertEntry location entry entries).filterMap pick = entries.filterMap pick := by
  induction entries with
  | nil => exact List.filterMap_cons_none hnew
  | cons other rest ih =>
    obtain ⟨name, old⟩ := other
    rw [insertEntry]
    split
    · rename_i hsame
      have hname : location = name := beq_iff_eq.mp hsame
      subst hname
      rw [List.filterMap_cons_none hnew, List.filterMap_cons_none (hold old List.mem_cons_self)]
    · split
      · rw [List.filterMap_cons_none hnew]
      · rw [List.filterMap_cons, List.filterMap_cons,
          ih fun old hmem => hold old (List.mem_cons_of_mem _ hmem)]

theorem get?_of_mem {location : Location} {entry : Entry} (hne : location ≠ [])
    (h : (location, entry) ∈ tree.entries) : tree.get? location ≠ none := by
  rw [get?_of_ne_nil hne, Ne, List.lookup_eq_none_iff]
  intro hnone
  simpa using hnone _ h

theorem makeDirectory_filterMap {α : Type} {pick : Location × Entry → Option α}
    (hpick : ∀ place, pick (place, .directory) = none) (h : tree.makeDirectory path = .ok after) :
    after.entries.filterMap pick = tree.entries.filterMap pick := by
  obtain ⟨location, -, ⟨-, rfl⟩ | ⟨hnone, rfl⟩⟩ := makeDirectory_ok h
  · rfl
  · have hplace : tree.get? location ≠ some .directory := by
      rw [hnone]
      nofun
    exact filterMap_insertEntry (hpick location) fun old hold =>
      absurd hnone (get?_of_mem (ne_nil_of_get? hplace) hold)

/-- Making directories leaves the list of files. -/
theorem makeDirectories_filterMap {α : Type} {pick : Location × Entry → Option α}
    (hpick : ∀ place, pick (place, .directory) = none) (h : tree.makeDirectories path = .ok after) :
    after.entries.filterMap pick = tree.entries.filterMap pick := by
  rw [makeDirectories] at h
  generalize ancestry path = paths at h
  induction paths generalizing tree with
  | nil =>
    cases h
    rfl
  | cons path rest ih =>
    rw [List.foldlM_cons] at h
    cases hmade : tree.makeDirectory path with
    | error fault =>
      rw [hmade] at h
      cases h
    | ok made =>
      rw [hmade] at h
      rw [ih h, makeDirectory_filterMap hpick hmade]

/-- Writing a file changes the list of entries at its own location. -/
theorem write_filterMap {α : Type} {pick : Location × Entry → Option α} {content : String}
    (hpick : ∀ entry, pick (destination tree.working path, entry) = none)
    (h : tree.write path content = .ok after) :
    after.entries.filterMap pick = tree.entries.filterMap pick := by
  unfold write at h
  cases hlocate : tree.locate path with
  | error reason =>
    rw [hlocate] at h
    cases h
  | ok location =>
    rw [hlocate] at h
    dsimp only at h
    split at h
    · cases h
    · cases h
      rw [(locate_ok hlocate).2.1]
      exact filterMap_insertEntry (hpick _) fun old _ => hpick old

/-! ### What is found -/

theorem find_eq_ok_iff {location : Location} {entry : Entry} :
    tree.find path = .ok (location, entry) ↔
      tree.locate path = .ok location ∧ tree.get? location = some entry := by
  unfold find
  cases tree.locate path with
  | error reason => simp [bind, Except.bind]
  | ok found =>
    simp only [bind, Except.bind, Except.ok.injEq]
    cases hentry : tree.get? found with
    | none =>
      simp only [throw, throwThe, MonadExceptOf.throw, reduceCtorEq, false_iff, not_and]
      rintro rfl
      simp [hentry]
    | some other =>
      simp only [pure, Except.pure, Except.ok.injEq, Prod.mk.injEq]
      constructor
      · rintro ⟨rfl, rfl⟩
        exact ⟨rfl, hentry⟩
      · rintro ⟨rfl, hsome⟩
        rw [hentry] at hsome
        exact ⟨rfl, Option.some.inj hsome⟩

theorem contains_iff : tree.contains path = true ↔
    ∃ location entry, tree.find path = .ok (location, entry) := by
  unfold contains
  cases tree.find path with
  | error reason => simp [Except.toBool]
  | ok found =>
    obtain ⟨location, entry⟩ := found
    simp [Except.toBool]

theorem read_eq_ok_iff {text : String} :
    tree.read path = .ok text ↔ ∃ location, tree.find path = .ok (location, .file text) := by
  unfold read
  cases tree.find path with
  | error reason => simp
  | ok found =>
    obtain ⟨location, entry⟩ := found
    cases entry with
    | directory => simp
    | file content => simp

end ClientGen.FileTree

namespace ClientGen.Command

open ClientGen.FileTree ClientGen.Path

variable {tree after last : FileTree} {path text : String} {place : Location} {entry : Entry}
  {paths others : List String}

/-! ### Where snapshots are -/

/-- The location of the snapshot of a scenario. -/
def snapshotPlace (working : Location) (path : String) : Location :=
  destination working (snapshotPath path)

/-- A location with the name of a snapshot. -/
def IsSnapshotPlace (place : Location) : Prop :=
  ∃ init name, place = init ++ [name] ∧ extension name = ".golden"

theorem extension_snapshot (stem : String) : extension (stem ++ ".golden") = ".golden" := by
  have hending : extension (stem ++ "." ++ "golden") = "." ++ "golden" :=
    extension_append stem (by decide) (by decide)
  rwa [String.append_assoc] at hending

theorem isName_of_extension_snapshot (h : extension path = ".golden") : IsName (lastPart path) :=
  isName_lastPart (by rw [h]; decide) (by rw [h]; decide)

theorem extension_snapshotPath (path : String) : extension (snapshotPath path) = ".golden" := by
  have hdirectory : Path.directory path ≠ "" := clean_ne_empty _
  have hgolden : join (Path.directory path) snapshotDirectory ≠ "" := by
    rw [join_eq_clean hdirectory (by decide)]
    exact clean_ne_empty _
  have hname : stem path ++ ".golden" ≠ "" := by
    simp
  have hextension := extension_append_slash (join (Path.directory path) snapshotDirectory)
    (stem path ++ ".golden")
  rw [extension_snapshot] at hextension
  rw [snapshotPath, join_eq_clean hgolden hname,
    extension_clean (isName_of_extension_snapshot hextension), hextension]

theorem isSnapshotPlace_snapshotPlace (working : Location) (path : String) :
    IsSnapshotPlace (snapshotPlace working path) := by
  have hextension := extension_snapshotPath path
  obtain ⟨init, hinit⟩ :=
    destination_eq_concat (isName_of_extension_snapshot hextension) working
  exact ⟨init, _, hinit, (extension_lastPart _).trans hextension⟩

theorem slash_not_mem_stem (h : lastPart path ≠ "") : '/' ∉ (stem path).toList := by
  intro hmem
  rw [stem, base_eq_lastPart h, String.toList_ofList] at hmem
  exact slash_not_mem_lastPart path (List.mem_of_mem_take hmem)

/-- The snapshot of a scenario is in a directory beside it, and named like it but for the
extension. -/
theorem snapshotPlace_eq (h : lastPart path ≠ "") (working : Location) :
    snapshotPlace working path =
      destination working (Path.directory path) ++ [snapshotDirectory, stem path ++ ".golden"] := by
  have hdirectory : Path.directory path ≠ "" := clean_ne_empty _
  have hname : IsName (stem path ++ ".golden") := by
    have hslash : '/' ∉ (stem path ++ ".golden").toList := by
      rw [String.toList_append, List.mem_append, not_or]
      exact ⟨slash_not_mem_stem h, by decide⟩
    have hlast := isName_of_extension_snapshot (extension_snapshot (stem path))
    rwa [lastPart_of_slash_free hslash] at hlast
  have hgolden : IsName snapshotDirectory := ⟨by decide, by decide, by decide, by decide⟩
  rw [snapshotPlace, snapshotPath, join_eq_clean hdirectory hgolden.empty,
    join_eq_clean (clean_ne_empty _) hname.empty, destination_clean,
    destination_append_slash (clean_ne_empty _) hname, destination_clean,
    destination_append_slash hdirectory hgolden, List.append_assoc]
  rfl

theorem snapshotPlace_eq_iff {other : String} (hpath : lastPart path ≠ "")
    (hother : lastPart other ≠ "") (working : Location) :
    snapshotPlace working path = snapshotPlace working other ↔
      destination working (Path.directory path) = destination working (Path.directory other) ∧
        stem path = stem other := by
  rw [snapshotPlace_eq hpath, snapshotPlace_eq hother]
  constructor
  · intro h
    obtain ⟨hdirectory, hnames⟩ := List.append_inj' h
      (by simp only [List.length_cons, List.length_nil])
    simp only [List.cons.injEq, String.append_left_inj, true_and, and_true] at hnames
    exact ⟨hdirectory, hnames⟩
  · rintro ⟨hdirectory, hstem⟩
    rw [hdirectory, hstem]

/-- A path with another extension, which is more than a stop, does not lead to a snapshot. -/
theorem not_isSnapshotPlace (hempty : extension path ≠ "") (hstop : extension path ≠ ".")
    (hother : extension path ≠ ".golden") (working : Location) :
    ¬ IsSnapshotPlace (destination working path) := by
  rintro ⟨init, name, hplace, hname⟩
  obtain ⟨init', hinit⟩ := destination_eq_concat (isName_lastPart hempty hstop) working
  rw [hinit] at hplace
  obtain ⟨-, rfl⟩ := List.append_singleton_inj.mp hplace
  rw [extension_lastPart] at hname
  exact hother hname

theorem not_isSnapshotPlace_of_isScenarioPath (h : isScenarioPath path = true)
    (working : Location) : ¬ IsSnapshotPlace (destination working path) := by
  rw [isScenarioPath, Bool.or_eq_true, beq_iff_eq, beq_iff_eq] at h
  rcases h with h | h
  all_goals exact not_isSnapshotPlace (by rw [h]; decide) (by rw [h]; decide) (by rw [h]; decide) _

/-- What stands in a snapshot is no document. -/
theorem documentFormat_of_isSnapshotPlace {working : Location}
    (h : IsSnapshotPlace (destination working path)) : Idl.DocumentFormat.ofPath? path = none := by
  have hextension : extension path = "" ∨ extension path = "." ∨ extension path = ".golden" := by
    by_contra hothers
    simp only [not_or] at hothers
    exact not_isSnapshotPlace hothers.1 hothers.2.1 hothers.2.2 working h
  rw [Idl.DocumentFormat.ofPath?, lowerExtension]
  rcases hextension with h | h | h
  all_goals
    rw [h]
    decide +kernel

theorem extension_join (directory : String) (h : extension path = ".golden") :
    extension (join directory path) = ".golden" := by
  have hpath : path ≠ "" := by
    rintro rfl
    exact absurd h (by decide)
  unfold join
  split
  · rename_i hboth
    rw [Bool.and_eq_true] at hboth
    exact absurd (String.isEmpty_iff.mp hboth.2) hpath
  · split
    · rw [extension_clean (isName_of_extension_snapshot h), h]
    · have happend := (extension_append_slash directory path).trans h
      rw [if_neg (by rwa [String.isEmpty_iff]),
        extension_clean (isName_of_extension_snapshot happend), happend]

/-- No scenario is found at the place of a snapshot. -/
theorem isScenarioPath_of_isSnapshotPlace (directory : String) {way : Location}
    (h : IsSnapshotPlace way) :
    isScenarioPath (join directory (String.intercalate "/" way)) = false := by
  obtain ⟨init, name, rfl, hname⟩ := h
  have hway : extension (String.intercalate "/" (init ++ [name])) = ".golden" := by
    by_cases hinit : init = []
    · rw [hinit, List.nil_append, String.intercalate_singleton, hname]
    · rw [intercalate_concat hinit, extension_append_slash, hname]
  rw [isScenarioPath, extension_join directory hway]
  decide

/-! ### What writing snapshots leaves -/

/-- The snapshots of some scenarios may be new, with directories on the way, or have other contents;
everything else is as before. -/
structure Snapped (paths : List String) (tree after : FileTree) : Prop where
  changes : Changes tree after
    (fun place => ∃ path ∈ paths, place = snapshotPlace tree.working path) (fun _ => True)
  /-- No file is gone. -/
  files : ∀ place text, tree.get? place = some (.file text) →
    ∃ text', after.get? place = some (.file text')
  /-- The other files are listed in the same order. -/
  listed : ∀ pick : Location × Entry → Option String,
    (∀ place, pick (place, .directory) = none) →
    (∀ place entry, IsSnapshotPlace place → pick (place, entry) = none) →
    after.entries.filterMap pick = tree.entries.filterMap pick

namespace Snapped

theorem refl (tree : FileTree) : Snapped [] tree tree :=
  ⟨Changes.refl _ _ _, fun _ text h => ⟨text, h⟩, fun _ _ _ => rfl⟩

theorem trans (h : Snapped paths tree after) (h' : Snapped others after last) :
    Snapped (paths ++ others) tree last := by
  have hchanges := h'.changes
  rw [h.changes.working] at hchanges
  refine ⟨(h.changes.mono ?_ fun _ => id).trans (hchanges.mono ?_ fun _ => id), ?_, ?_⟩
  · rintro place ⟨path, hpath, hplace⟩
    exact ⟨path, List.mem_append_left _ hpath, hplace⟩
  · rintro place ⟨path, hpath, hplace⟩
    exact ⟨path, List.mem_append_right _ hpath, hplace⟩
  · intro place text htext
    obtain ⟨text', htext'⟩ := h.files place text htext
    exact h'.files place text' htext'
  · intro pick hdirectory hsnapshot
    rw [h'.listed pick hdirectory hsnapshot, h.listed pick hdirectory hsnapshot]

theorem kept (h : Snapped paths tree after) (hplace : ¬ IsSnapshotPlace place)
    (hentry : tree.get? place = some entry) : after.get? place = some entry := by
  refine h.changes.kept ?_ hentry
  rintro ⟨path, -, hpath⟩
  rw [hpath] at hplace
  exact hplace (isSnapshotPlace_snapshotPlace _ path)

end Snapped

theorem writeSnapshot_ok (h : writeSnapshot tree path text = .ok after) :
    ∃ made, tree.makeDirectories (Path.directory path) = .ok made ∧
      made.write path text = .ok after := by
  unfold writeSnapshot at h
  cases hmade : tree.makeDirectories (Path.directory path) with
  | error fault =>
    rw [hmade] at h
    cases h
  | ok made =>
    rw [hmade] at h
    simp only [Except.mapError, bind, Except.bind] at h
    cases hwrite : made.write path text with
    | error fault =>
      rw [hwrite] at h
      cases h
    | ok written =>
      rw [hwrite] at h
      cases h
      exact ⟨made, rfl, hwrite⟩

/-- Writing the snapshot of a scenario puts it at its place. -/
theorem snapped_writeSnapshot (hclosed : tree.IsClosed)
    (h : writeSnapshot tree (snapshotPath path) text = .ok after) :
    after.IsClosed ∧ Snapped [path] tree after ∧
      after.get? (snapshotPlace tree.working path) = some (.file text) ∧
      after.locate (snapshotPath path) = .ok (snapshotPlace tree.working path) := by
  obtain ⟨made, hmade, hwrite⟩ := writeSnapshot_ok h
  obtain ⟨hmadeClosed, hdirectories⟩ := makeDirectories_changes hclosed hmade
  obtain ⟨hafter, hget, hlocate, hfile⟩ := write_changes hmadeClosed hwrite
  rw [hdirectories.working] at hget hlocate hfile
  have hchanges : Changes tree after
      (fun place => ∃ other ∈ [path], place = snapshotPlace tree.working other)
      (fun _ => True) := by
    refine (hdirectories.mono ?_ fun _ _ => trivial).trans (hfile.mono ?_ fun _ _ => trivial)
    · exact fun _ h => h.elim
    · exact fun place hplace => ⟨path, List.mem_singleton_self path, hplace⟩
  refine ⟨hafter, ⟨hchanges, ?_, ?_⟩, hget, hlocate⟩
  · intro place text' htext
    by_cases hplace : place = snapshotPlace tree.working path
    · rw [hplace]
      exact ⟨text, hget⟩
    · exact ⟨text', hfile.kept hplace (hdirectories.kept (fun h => h) htext)⟩
  · intro pick hdirectory hsnapshot
    rw [write_filterMap (fun entry => hsnapshot _ entry (isSnapshotPlace_snapshotPlace _ path))
      hwrite, makeDirectories_filterMap hdirectory hmade]

/-! ### What is read as before -/

theorem load_eq_ok_iff {scenario : Scenario} : Scenario.load tree path = .ok scenario ↔
    ∃ text said, tree.read path = .ok text ∧ Scenario.parse? text = some said ∧
      scenario = said.relativeTo (Path.directory path) ∧ scenario.fault? tree = none := by
  unfold Scenario.load Scenario.loadIn
  cases tree.read path with
  | error fault => simp [Except.mapError, bind, Except.bind]
  | ok text =>
    simp only [Except.mapError, bind, Except.bind, Except.ok.injEq, exists_and_left,
      exists_eq_left']
    cases Scenario.parse? text with
    | none => simp [throw, throwThe, MonadExceptOf.throw]
    | some said =>
      simp only [Option.some.injEq, exists_eq_left']
      cases hfault : (said.relativeTo (Path.directory path)).fault? tree with
      | some fault =>
        simp only [throw, throwThe, MonadExceptOf.throw, reduceCtorEq, false_iff, not_and]
        rintro rfl
        simp [hfault]
      | none =>
        simp only [pure, Except.pure, Except.ok.injEq]
        constructor
        · rintro rfl
          exact ⟨rfl, hfault⟩
        · exact fun h => h.1.symm

theorem contains_of_load {scenario : Scenario} (h : Scenario.load tree path = .ok scenario) :
    tree.contains scenario.idl = true := by
  obtain ⟨-, -, -, -, -, hfault⟩ := load_eq_ok_iff.mp h
  unfold Scenario.fault? at hfault
  cases hidl : tree.contains scenario.idl with
  | true => rfl
  | false =>
    rw [hidl] at hfault
    split at hfault
    · cases hfault
    · split at hfault
      · cases hfault
      · cases hfault

namespace Snapped

variable {directory filter : String} {scenario : Scenario}

/-- What could be found is still there; if it was no snapshot, it is the same. -/
theorem find (h : Snapped paths tree after) (hfind : tree.find path = .ok (place, entry)) :
    ∃ entry', after.find path = .ok (place, entry') ∧
      (entry = .directory ∨ ¬ IsSnapshotPlace place → entry' = entry) ∧
      (∀ text, entry = .file text → ∃ text', entry' = .file text') := by
  obtain ⟨hlocate, hentry⟩ := find_eq_ok_iff.mp hfind
  have hthere := h.changes.locate hlocate
  cases entry with
  | directory =>
    exact ⟨.directory, find_eq_ok_iff.mpr ⟨hthere, h.changes.directories _ hentry⟩,
      fun _ => rfl, fun _ => nofun⟩
  | file text =>
    obtain ⟨text', htext'⟩ := h.files place text hentry
    refine ⟨.file text', find_eq_ok_iff.mpr ⟨hthere, htext'⟩, ?_, fun _ _ => ⟨text', rfl⟩⟩
    rintro (hdirectory | hplace)
    · cases hdirectory
    · have hkept := h.kept hplace hentry
      rw [htext'] at hkept
      exact Option.some.inj hkept

theorem contains (h : Snapped paths tree after) (hpath : tree.contains path = true) :
    after.contains path = true := by
  obtain ⟨place, entry, hfind⟩ := contains_iff.mp hpath
  obtain ⟨entry', hfind', -⟩ := h.find hfind
  exact contains_iff.mpr ⟨place, entry', hfind'⟩

theorem read (h : Snapped paths tree after)
    (hplace : ¬ IsSnapshotPlace (destination tree.working path))
    (hread : tree.read path = .ok text) : after.read path = .ok text := by
  obtain ⟨place, hfind⟩ := read_eq_ok_iff.mp hread
  have hlocation := (locate_ok (find_eq_ok_iff.mp hfind).1).2.1
  rw [← hlocation] at hplace
  obtain ⟨entry', hfind', hsame, -⟩ := h.find hfind
  rw [hsame (.inr hplace)] at hfind'
  exact read_eq_ok_iff.mpr ⟨place, hfind'⟩

/-- The scenarios below a directory are the same. -/
theorem scenarioPaths (h : Snapped paths tree after)
    (hdirectory : tree.contains directory = true) :
    scenarioPaths after directory = scenarioPaths tree directory := by
  obtain ⟨location, entry, hfind⟩ := contains_iff.mp hdirectory
  obtain ⟨entry', hfind', -⟩ := h.find hfind
  rw [Command.scenarioPaths, Command.scenarioPaths, hfind, hfind']
  dsimp only [below]
  rw [List.filterMap_filterMap, List.filterMap_filterMap]
  apply h.listed
  · intro place
    dsimp only
    split
    · rfl
    · rfl
  · intro place entry hplace
    dsimp only
    split
    · rename_i hbelow
      rw [Bool.and_eq_true, decide_eq_true_eq] at hbelow
      -- the last name of a location below the directory is that of the way to it
      have hway : IsSnapshotPlace (place.drop location.length) := by
        obtain ⟨init, name, rfl, hname⟩ := hplace
        rw [List.length_append, List.length_singleton] at hbelow
        rw [List.drop_append_of_le_length (by omega)]
        exact ⟨_, name, rfl, hname⟩
      rw [Option.bind_some, isScenarioPath_of_isSnapshotPlace directory hway]
      simp
    · rfl

theorem load (h : Snapped paths tree after) (hpath : isScenarioPath path = true)
    (hload : Scenario.load tree path = .ok scenario) :
    Scenario.load after path = .ok scenario := by
  have hplace := not_isSnapshotPlace_of_isScenarioPath hpath tree.working
  have hidl := contains_of_load hload
  obtain ⟨text, said, hread, hparse, hsaid, hfault⟩ := load_eq_ok_iff.mp hload
  refine load_eq_ok_iff.mpr ⟨text, said, h.read hplace hread, hparse, hsaid, ?_⟩
  -- of the files, only the document is looked for
  unfold Scenario.fault? at hfault ⊢
  rw [hidl] at hfault
  rwa [h.contains hidl]

theorem idl_load (h : Snapped paths tree after) (reader : Idl.DocumentReader)
    (hpath : tree.contains path = true) :
    Idl.load reader after false false path = Idl.load reader tree false false path := by
  obtain ⟨place, entry, hfind⟩ := contains_iff.mp hpath
  obtain ⟨entry', hfind', hsame, hfile⟩ := h.find hfind
  cases entry with
  | directory =>
    rw [hsame (.inl rfl)] at hfind'
    rw [Idl.load, Idl.load, hfind, hfind']
  | file text =>
    obtain ⟨text', rfl⟩ := hfile text rfl
    simp only [Idl.load, hfind, hfind', read_eq_ok_iff.mpr ⟨_, hfind⟩,
      read_eq_ok_iff.mpr ⟨_, hfind'⟩]
    -- a snapshot may hold another text, but it is refused for its extension
    by_cases hplace : IsSnapshotPlace place
    · rw [(locate_ok (find_eq_ok_iff.mp hfind).1).2.1] at hplace
      simp only [Idl.parse, Idl.documentRoot, documentFormat_of_isSnapshotPlace hplace]
    · cases hsame (.inr hplace)
      rfl

theorem mayEnd_iff (h : Snapped paths tree after) (hload : Scenario.load tree path = .ok scenario)
    (formats : Formats) (outcome : Outcome) :
    scenario.MayEnd formats after outcome ↔ scenario.MayEnd formats tree outcome := by
  simp only [Scenario.MayEnd, Scenario.MayGenerate, h.idl_load _ (contains_of_load hload)]

end Snapped

end ClientGen.Command
