import ClientGen.Proofs.OutputDirectory.Clearing
import ClientGen.Proofs.Render.SortedMaps
/-!
# Which files are written

Paths of a file map differ as texts, but two of them may be cleaned to the same path, and then they
lead to the same file. Files are written in the order of their paths, so that the last of those
holds its content and the others are lost. Besides the files of the map, writing makes directories
that were missing on the way to them; without `keep`, nothing else is left below the directory.
-/
namespace ClientGen.OutputDirectory

open ClientGen.Render ClientGen.FileTree

/-- Whether a fault is that an operation on files failed. -/
def Fault.isOfFiles : Fault → Bool
  | .uncleared .. => true
  | .noDirectory .. => true
  | .unwritten .. => true
  | _ => false

/-- A path that leads to a file below the directory in which it is resolved. -/
structure LeadsBelow (path : String) : Prop where
  isLocal : Path.isLocal path = true
  clean : Path.clean path ≠ "."

/-- Where a file of a map is put below a directory. -/
def target (directory path : String) : String := Path.join (Path.clean directory) path

section

variable {directory path : String}

theorem LeadsBelow.cleanParts (h : LeadsBelow path) : Path.cleanParts path ≠ [] := by
  rw [Ne, ← Path.clean_eq_dot_iff h.isLocal]
  exact h.clean

theorem target_eq_ofParts (directory : String) (h : LeadsBelow path) : target directory path =
    Path.ofParts (Path.isAbsolute directory)
      (Path.cleanParts directory ++ Path.cleanParts path) := by
  rw [target, Path.join_eq_ofParts (Path.clean_ne_empty directory) h.isLocal h.cleanParts,
    Path.isAbsolute_clean, Path.cleanParts_clean]

theorem isCleaned_target (directory : String) (h : LeadsBelow path) :
    Path.IsCleaned (Path.isAbsolute directory)
      (Path.cleanParts directory ++ Path.cleanParts path) :=
  (Path.isCleaned_cleanParts directory).append_names (Path.isName_of_isLocal h.isLocal)

/-- A file is put where its cleaned parts lead to from the directory. -/
theorem destination_target (working : Location) (directory : String) (h : LeadsBelow path) :
    destination working (target directory path) =
      destination working directory ++ Path.cleanParts path := by
  rw [target_eq_ofParts directory h, destination_ofParts (isCleaned_target directory h),
    List.foldl_append, foldl_walk_names (Path.isName_of_isLocal h.isLocal), destination_eq]
  rfl

/-- Two files are put at the same place exactly if their paths are cleaned to the same path. -/
theorem destination_target_eq_iff {other : String} (working : Location) (h : LeadsBelow path)
    (h' : LeadsBelow other) : destination working (target directory path) =
      destination working (target directory other) ↔ Path.clean path = Path.clean other := by
  rw [destination_target working directory h, destination_target working directory h',
    List.append_cancel_left_eq, Path.clean_eq_clean_iff, Path.isAbsolute_of_isLocal h.isLocal,
    Path.isAbsolute_of_isLocal h'.isLocal]
  simp

theorem destination_directory_target (working : Location) (h : LeadsBelow path) :
    destination working (Path.directory (target directory path)) <+:
      destination working (target directory path) := by
  have hparts := isCleaned_target directory h
  obtain ⟨init, name, hsplit⟩ := (List.eq_nil_or_concat (Path.cleanParts path)).resolve_left
    h.cleanParts
  rw [target_eq_ofParts directory h]
  rw [hsplit, List.concat_eq_append, ← List.append_assoc] at hparts ⊢
  obtain ⟨hrooted, hinit⟩ := Path.directory_ofParts hparts
  have hname : Path.IsName name :=
    Path.isName_of_isLocal h.isLocal name (by rw [hsplit]; simp)
  have hstep (all : List String) (start : Location) :
      (all ++ [name]).foldl walk start = all.foldl walk start ++ [name] := by
    rw [List.foldl_append]
    exact walk_of_isName hname _
  rw [destination_eq, hinit, origin, hrooted, destination_ofParts hparts, hstep]
  exact List.prefix_append _ _

end

/-! ### One file after another -/

section

variable {tree after : FileTree} {directory : String}

/-- A local file is written after its directory was made. -/
theorem writeFile_of_isLocal {path : String} (h : Path.isLocal path = true) (tree : FileTree)
    (content : String) : writeFile tree (Path.clean directory) path content =
      match tree.makeDirectories (Path.directory (target directory path)) with
      | .error reason => .error (.noDirectory path reason)
      | .ok made =>
        match made.write (target directory path) content with
        | .error reason => .error (.unwritten path reason)
        | .ok written => .ok written := by
  unfold writeFile
  rw [h, Bool.not_true, if_neg Bool.false_ne_true]
  dsimp only
  rw [← target]
  cases tree.makeDirectories (Path.directory (target directory path)) with
  | error reason => rfl
  | ok made =>
    simp only [Except.mapError, bind, Except.bind]
    cases made.write (target directory path) content with
    | error reason => rfl
    | ok written => rfl

theorem writeFile_ok (hclosed : tree.IsClosed) {path content : String} (hpath : LeadsBelow path)
    (h : writeFile tree (Path.clean directory) path content = .ok after) :
    after.IsClosed ∧
      after.get? (destination tree.working (target directory path)) = some (.file content) ∧
      after.locate (target directory path) =
        .ok (destination tree.working (target directory path)) ∧
      Changes tree after (· = destination tree.working (target directory path))
        (· <+: destination tree.working (target directory path)) := by
  rw [writeFile_of_isLocal hpath.isLocal] at h
  split at h
  · cases h
  · rename_i made hmade
    split at h
    · cases h
    · rename_i written hwritten
      cases h
      obtain ⟨hclosed', hmake⟩ := makeDirectories_changes hclosed hmade
      obtain ⟨hlast, hget, hlocate, hwrite⟩ := write_changes hclosed' hwritten
      rw [hmake.working] at hget hlocate hwrite
      refine ⟨hlast, hget, hlocate, Changes.trans (hmake.mono (fun _ => False.elim) ?_)
        (hwrite.mono (fun _ => id) fun _ => False.elim)⟩
      exact fun place hplace => hplace.trans (destination_directory_target tree.working hpath)

/-- The faults of writing local files are those of operations on files. -/
theorem writeFile_error {path content : String} (hpath : LeadsBelow path) {fault : Fault}
    (h : writeFile tree (Path.clean directory) path content = .error fault) :
    fault.isOfFiles = true := by
  rw [writeFile_of_isLocal hpath.isLocal] at h
  split at h
  · cases h
    rfl
  · split at h
    · cases h
      rfl
    · cases h

theorem writeFiles_fault {files : List (String × String)} (hfiles : ∀ f ∈ files, LeadsBelow f.1)
    {fault : Fault} : ∀ {tree : FileTree},
      (writeFiles false (Path.clean directory) tree files).fault? = some fault →
        fault.isOfFiles = true := by
  induction files with
  | nil => exact nofun
  | cons file rest ih =>
    intro tree h
    obtain ⟨path, content⟩ := file
    obtain ⟨hpath, hrest⟩ := List.forall_mem_cons.mp hfiles
    rw [writeFiles, if_neg Bool.false_ne_true] at h
    cases hfile : writeFile tree (Path.clean directory) path content with
    | error reason =>
      rw [hfile] at h
      cases h
      exact writeFile_error hpath hfile
    | ok written =>
      rw [hfile] at h
      exact ih hrest h

/-- Where one of some files is put. -/
def IsTarget (working : Location) (directory : String) (files : List (String × String))
    (place : Location) : Prop :=
  ∃ file ∈ files, place = destination working (target directory file.1)

/-- What is on the way to one of some files, or at it. -/
def IsOnWay (working : Location) (directory : String) (files : List (String × String))
    (place : Location) : Prop :=
  ∃ file ∈ files, place <+: destination working (target directory file.1)

theorem IsTarget.below {files : List (String × String)} (hfiles : ∀ f ∈ files, LeadsBelow f.1)
    {working place : Location} (h : IsTarget working directory files place) :
    destination working directory <+: place := by
  obtain ⟨file, hfile, hplace⟩ := h
  rw [hplace, destination_target _ _ (hfiles file hfile)]
  exact List.prefix_append _ _

/-- The way to the files leads through the directory. -/
theorem IsOnWay.below_or_above {files : List (String × String)}
    (hfiles : ∀ f ∈ files, LeadsBelow f.1) {working place : Location}
    (h : IsOnWay working directory files place) :
    destination working directory <+: place ∨ place <+: destination working directory := by
  obtain ⟨file, hfile, hplace⟩ := h
  rw [destination_target _ _ (hfiles file hfile)] at hplace
  exact List.prefix_or_prefix_of_prefix (List.prefix_append _ _) hplace

/-- Files that were all written: a file that no later one of them is put in place of has its
content, and nothing changed but the files and missing directories on the way to them. -/
theorem writeFiles_ok {files : List (String × String)} (hfiles : ∀ f ∈ files, LeadsBelow f.1) :
    ∀ {tree : FileTree}, tree.IsClosed →
      (writeFiles false (Path.clean directory) tree files).fault? = none →
      let progress := writeFiles false (Path.clean directory) tree files
      progress.written = files.map (fun file => target directory file.1) ∧
        Changes tree progress.tree (IsTarget tree.working directory files)
          (IsOnWay tree.working directory files) ∧
        ∀ before path content rest, files = before ++ (path, content) :: rest →
          (∀ file ∈ rest, Path.clean file.1 ≠ Path.clean path) →
            progress.tree.read (target directory path) = .ok content := by
  induction files with
  | nil =>
    intro tree _ _
    refine ⟨rfl, Changes.refl _ _ _, ?_⟩
    intro before path content rest h
    exact absurd h.symm (by simp)
  | cons file files ih =>
    intro tree hclosed hnone
    obtain ⟨path, content⟩ := file
    obtain ⟨hpath, hrest⟩ := List.forall_mem_cons.mp hfiles
    rw [writeFiles, if_neg Bool.false_ne_true] at hnone ⊢
    cases hfile : writeFile tree (Path.clean directory) path content with
    | error reason =>
      rw [hfile] at hnone
      cases hnone
    | ok written =>
      rw [hfile] at hnone
      obtain ⟨hclosed', hget, hlocate, hstep⟩ := writeFile_ok hclosed hpath hfile
      obtain ⟨hwritten, hchanges, hlast⟩ := ih hrest hclosed' hnone
      rw [hstep.working] at hchanges
      dsimp only
      refine ⟨?_, Changes.trans (hstep.mono ?_ ?_) (hchanges.mono ?_ ?_), ?_⟩
      · rw [hwritten]
        rfl
      · exact fun place hplace => ⟨_, List.mem_cons_self, hplace⟩
      · exact fun place hplace => ⟨_, List.mem_cons_self, hplace⟩
      · exact fun place ⟨f, hf, hplace⟩ => ⟨f, List.mem_cons_of_mem _ hf, hplace⟩
      · exact fun place ⟨f, hf, hplace⟩ => ⟨f, List.mem_cons_of_mem _ hf, hplace⟩
      · intro before name text later hsplit hlater
        cases before with
        | nil =>
          cases hsplit
          -- no later file is put in place of the first one
          have hother : ¬ IsTarget tree.working directory files
              (destination tree.working (target directory path)) := by
            rintro ⟨f, hf, hsame⟩
            rw [destination_target_eq_iff _ hpath (hrest f hf)] at hsame
            exact hlater f hf hsame.symm
          exact read_of_locate (hchanges.locate hlocate) (hchanges.kept hother hget)
        | cons first more =>
          rw [List.cons_append, List.cons.injEq] at hsplit
          exact hlast more name text later hsplit.2 hlater

end

/-! ### All files of a map -/

section

variable {tree : FileTree} {keep : Bool} {directory : String} {map : FileMap}

/-- Unless an operation on files fails, the files of a map are written, one after another, into what
is left after clearing. -/
theorem write_eq (hsound : tree.IsSound) (haccepted : isRefused directory = false)
    (hpaths : ∀ file ∈ map.files, LeadsBelow file.1)
    (hdone : ∀ fault, (write tree false keep directory map).fault? = some fault →
      fault.isOfFiles = false) :
    ∃ cleared : FileTree, cleared.IsClosed ∧ cleared.working = tree.working ∧
      (∀ place, cleared.get? place =
        if keep = false ∧ destination tree.working directory <+: place ∧ place ≠ [] then none
        else tree.get? place) ∧
      write tree false keep directory map =
        writeFiles false (Path.clean directory) cleared map.files ∧
      (writeFiles false (Path.clean directory) cleared map.files).fault? = none := by
  have hnone (cleared : FileTree)
      (hwrite : write tree false keep directory map =
        writeFiles false (Path.clean directory) cleared map.files) :
      (writeFiles false (Path.clean directory) cleared map.files).fault? = none := by
    cases hfault : (writeFiles false (Path.clean directory) cleared map.files).fault? with
    | none => rfl
    | some fault =>
      have hfiles := writeFiles_fault hpaths hfault
      rw [hdone fault (by rw [hwrite, hfault])] at hfiles
      cases hfiles
  have hstart := write_of_accepted haccepted tree false keep map
  cases keep with
  | true => exact ⟨tree, hsound.closed, rfl, fun place => by simp, hstart, hnone tree hstart⟩
  | false =>
    obtain ⟨hne, hclean⟩ := cleanParts_ne_nil_of_accepted haccepted
    rw [if_neg Bool.false_ne_true] at hstart
    cases hremoved : tree.removeAll (Path.clean directory) with
    | mk cleared fault? =>
      rw [hremoved] at hstart
      cases fault? with
      | some fault =>
        have hfiles := hdone (.uncleared (Path.clean directory) fault) (by rw [hstart])
        cases hfiles
      | none =>
        rw [hclean] at hremoved
        obtain ⟨hclosed, hworking, hget⟩ :=
          removeAll_ok hsound (Path.isCleaned_cleanParts directory) hne hremoved
        rw [← hclean, destination_clean] at hget
        refine ⟨cleared, hclosed, hworking, fun place => ?_, hstart, hnone cleared hstart⟩
        by_cases hplace : place = []
        · simp [hplace, get?_nil]
        · rw [hget place hplace]
          simp [hplace]

theorem target_congr (directory : String) {path other : String} (hpath : LeadsBelow path)
    (hother : LeadsBelow other) (h : Path.clean path = Path.clean other) :
    target directory path = target directory other := by
  rw [target_eq_ofParts directory hpath, target_eq_ofParts directory hother,
    (Path.clean_eq_clean_iff.mp h).2]

/-- If of the files that are put at one place the last is there, then all are there exactly if they
have the same content. -/
theorem all_read_iff {after : FileTree} (hsorted : map.IsSorted)
    (hpaths : ∀ path ∈ map.paths, LeadsBelow path)
    (hlast : ∀ path content, map.get? path = some content →
      (∀ later ∈ map.paths, path < later → Path.clean later ≠ Path.clean path) →
        after.read (target directory path) = .ok content) :
    (∀ path content, map.get? path = some content →
        after.read (target directory path) = .ok content) ↔
      ∀ path ∈ map.paths, ∀ other ∈ map.paths, Path.clean path = Path.clean other →
        map.get? path = map.get? other := by
  constructor
  · intro hall path hpath other hother hclean
    obtain ⟨content, hcontent⟩ := Option.isSome_iff_exists.mp ((map.contains_iff path).mpr hpath)
    obtain ⟨content', hcontent'⟩ :=
      Option.isSome_iff_exists.mp ((map.contains_iff other).mpr hother)
    have hread := hall path content hcontent
    rw [target_congr directory (hpaths path hpath) (hpaths other hother) hclean,
      hall other content' hcontent'] at hread
    cases hread
    rw [hcontent, hcontent']
  · intro hsame path content hcontent
    have hmem := hsorted.get?_eq_some_iff.mp hcontent
    have hpath : path ∈ map.paths := List.mem_map_of_mem hmem
    have hsome : ∃ file ∈ map.files, Path.clean file.1 = Path.clean path := ⟨_, hmem, rfl⟩
    obtain ⟨before, ⟨other, content'⟩, rest, hsplit, hclean, hrest⟩ := exists_last hsome
    have hmem' : (other, content') ∈ map.files := by simp [hsplit]
    have hother : other ∈ map.paths := List.mem_map_of_mem hmem'
    have hcontent' := hsorted.get?_eq_some_iff.mpr hmem'
    have hequal := hsame path hpath other hother hclean.symm
    rw [hcontent, hcontent'] at hequal
    cases hequal
    rw [target_congr directory (hpaths path hpath) (hpaths other hother) hclean.symm]
    refine hlast other content hcontent' ?_
    intro later hlater hless hcleanLater
    obtain ⟨file, hfile, rfl⟩ := List.mem_map.mp hlater
    rw [hsplit] at hfile
    rw [FileMap.IsSorted, hsplit] at hsorted
    obtain ⟨-, hafter, hbefore⟩ := List.pairwise_append.mp hsorted
    rcases List.mem_append.mp hfile with hfirst | hcons
    · exact lt_asymm hless (hbefore file hfirst _ List.mem_cons_self)
    · rcases List.mem_cons.mp hcons with rfl | hlast
      · exact lt_irrefl _ hless
      · exact hrest file hlast (hcleanLater.trans hclean)

/-- What is not at the place of a file of the map, inside the directory and outside. -/
theorem others_of_changes {cleared after : FileTree} {top : Location} {files ways : Location → Prop}
    (hget : ∀ place, cleared.get? place =
      if keep = false ∧ top <+: place ∧ place ≠ [] then none else tree.get? place)
    (hchanges : Changes cleared after files ways) (hfiles : ∀ place, files place → top <+: place)
    (hways : ∀ place, ways place → top <+: place ∨ place <+: top) (place : Location) :
    (top <+: place → ¬ files place → ∀ content, after.get? place = some (.file content) ↔
      keep = true ∧ tree.get? place = some (.file content)) ∧
    (¬ top <+: place → after.get? place = tree.get? place ∨
      tree.get? place = none ∧ after.get? place = some .directory ∧ place <+: top) := by
  constructor
  · intro hbelow hfile content
    have hcleared : cleared.get? place = some (.file content) ↔
        keep = true ∧ tree.get? place = some (.file content) := by
      rw [hget]
      by_cases hroot : place = []
      · subst hroot
        simp [get?_nil]
      · cases keep <;> simp [hbelow, hroot]
    rw [← hcleared]
    rcases hchanges.others place hfile with heq | ⟨hnone, hmade, -⟩
    · rw [heq]
    · simp [hnone, hmade]
  · intro hout
    have hcleared : cleared.get? place = tree.get? place := by
      rw [hget, if_neg]
      exact fun h => hout h.2.1
    rw [← hcleared]
    refine (hchanges.others place fun hfile => hout (hfiles place hfile)).imp_right ?_
    exact fun ⟨hnone, hmade, hway⟩ => ⟨hnone, hmade, (hways place hway).resolve_left hout⟩

/-- Where paths lead to files below an accepted directory and no operation on files fails, all files
of a map are written, in the order of their paths. Each holds its content, unless the path of a
later one is cleaned to the same path; so all of them do exactly if no two paths with different
contents are cleaned to one. No other file is left below the directory, unless what was there is to
stay; then it stays as it was. Outside, only directories on the way to it are made. -/
theorem every_file_stored_iff (hsound : tree.IsSound) (haccepted : isRefused directory = false)
    (hsorted : map.IsSorted) (hpaths : ∀ path ∈ map.paths, LeadsBelow path)
    (hdone : ∀ fault, (write tree false keep directory map).fault? = some fault →
      fault.isOfFiles = false) :
    let progress := write tree false keep directory map
    let top := destination tree.working directory
    progress.fault? = none ∧ progress.written = map.paths.map (target directory) ∧
      (∀ path content, map.get? path = some content →
        (∀ later ∈ map.paths, path < later → Path.clean later ≠ Path.clean path) →
          progress.tree.read (target directory path) = .ok content) ∧
      ((∀ path content, map.get? path = some content →
          progress.tree.read (target directory path) = .ok content) ↔
        ∀ path ∈ map.paths, ∀ other ∈ map.paths, Path.clean path = Path.clean other →
          map.get? path = map.get? other) ∧
      (∀ place, top <+: place →
        (∀ path ∈ map.paths, place ≠ destination tree.working (target directory path)) →
          ∀ content, progress.tree.get? place = some (.file content) ↔
            keep = true ∧ tree.get? place = some (.file content)) ∧
      ∀ place, ¬ top <+: place → progress.tree.get? place = tree.get? place ∨
        tree.get? place = none ∧ progress.tree.get? place = some .directory ∧ place <+: top := by
  have hfiles : ∀ file ∈ map.files, LeadsBelow file.1 :=
    fun file hfile => hpaths file.1 (List.mem_map_of_mem hfile)
  obtain ⟨cleared, hclosed, hworking, hget, hwrite, hnone⟩ :=
    write_eq hsound haccepted hfiles hdone
  obtain ⟨hwritten, hchanges, hread⟩ := writeFiles_ok hfiles hclosed hnone
  rw [hworking] at hchanges
  -- a file that no later one replaces
  have hlast (path content : String) (hcontent : map.get? path = some content)
      (hlater : ∀ later ∈ map.paths, path < later → Path.clean later ≠ Path.clean path) :
      (write tree false keep directory map).tree.read (target directory path) = .ok content := by
    obtain ⟨before, rest, hsplit, hrest⟩ := hsorted.exists_split hcontent
    rw [hwrite]
    exact hread before path content rest hsplit fun file hfile =>
      hlater file.1 (hrest file hfile).1 (hrest file hfile).2
  have hothers := others_of_changes hget hchanges (fun place hplace => hplace.below hfiles)
    fun place hway => hway.below_or_above hfiles
  refine ⟨?_, ?_, hlast, all_read_iff hsorted hpaths hlast, ?_, ?_⟩
  · rw [hwrite, hnone]
  · rw [hwrite, hwritten, FileMap.paths, List.map_map]
    rfl
  · intro place hbelow hother
    rw [hwrite]
    refine (hothers place).1 hbelow ?_
    rintro ⟨file, hfile, hplace⟩
    exact hother file.1 (List.mem_map_of_mem hfile) hplace
  · intro place hout
    rw [hwrite]
    exact (hothers place).2 hout

/-- A directory and paths that are spelled in roundabout ways, over files of an earlier run. -/
theorem every_file_stored_iff_roundabout :
    let tree := ofFiles ["w"] [("out/s/a.h", "old"), ("out/b.h", "old"), ("kept.h", "k")]
    let map := FileMap.ofList [("s//a.h", "1"), ("x/../s/b.h", "2"), ("./c.h", "3")]
    let progress := write tree false false "./out/" map
    isRefused "./out/" = false ∧ (∀ path ∈ map.paths, LeadsBelow path) ∧
      progress.fault? = none ∧ progress.written = ["out/c.h", "out/s/a.h", "out/s/b.h"] ∧
      (∀ path content, map.get? path = some content →
        progress.tree.read (target "./out/" path) = .ok content) ∧
      (∀ content, progress.tree.get? ["w", "out", "b.h"] ≠ some (.file content)) ∧
      progress.tree.get? ["w", "kept.h"] = some (.file "k") := by
  intro tree map progress
  have haccepted : isRefused "./out/" = false := by decide +kernel
  have hlocal : ∀ path ∈ map.paths, Path.isLocal path = true ∧ Path.clean path ≠ "." := by
    decide +kernel
  have hpaths (path : String) (h : path ∈ map.paths) : LeadsBelow path :=
    ⟨(hlocal path h).1, (hlocal path h).2⟩
  have hsorted : map.IsSorted := FileMap.isSorted_empty.foldl_add _
  have hdone (fault : Fault) (h : progress.fault? = some fault) : fault.isOfFiles = false := by
    have hnone : progress.fault? = none := by decide +kernel
    rw [hnone] at h
    cases h
  have hstored := every_file_stored_iff (ofFiles_isSound _ _) haccepted hsorted hpaths hdone
  obtain ⟨hfault, hwritten, -, hall, hbelow, hout⟩ := hstored
  refine ⟨haccepted, hpaths, hfault, hwritten.trans ?_, hall.mpr ?_, fun content hstale => ?_, ?_⟩
  · decide +kernel
  · decide +kernel
  · have hother : ∀ path ∈ map.paths, ["w", "out", "b.h"] ≠
        destination tree.working (target "./out/" path) := by
      decide +kernel
    exact absurd ((hbelow _ (by decide +kernel) hother content).mp hstale).1 (by decide)
  · rcases hout ["w", "kept.h"] (by decide +kernel) with hsame | ⟨hnone, -⟩
    · exact hsame.trans (by decide +kernel)
    · exact absurd hnone (by decide +kernel)

/-- Two paths that are cleaned to one: nothing fails and both are said to be written, but the file
of the first is lost. -/
theorem colliding_paths_lose_a_file :
    let map := FileMap.ofList [("./a.h", "1"), ("a.h", "2")]
    let progress := write (.bare []) false false "out" map
    (∀ path ∈ map.paths, Path.isLocal path = true ∧ Path.clean path ≠ ".") ∧
      progress.fault? = none ∧ progress.written = ["out/a.h", "out/a.h"] ∧
      map.get? "./a.h" = some "1" ∧ progress.tree.read (Path.join "out" "./a.h") = .ok "2" := by
  decide +kernel

end

end ClientGen.OutputDirectory
