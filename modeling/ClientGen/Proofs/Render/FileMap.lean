import ClientGen.Render.FileMap
/-!
# Joining file maps

A file that is put at a fresh path stands among the others, and nothing else changes. Joining maps
succeeds only if no path is claimed twice, and then the files of the result are those of the maps
together.
-/
namespace ClientGen.Render.FileMap

theorem contains_iff (map : FileMap) (path : String) :
    map.contains path = true ↔ path ∈ map.paths := by
  unfold contains get? paths
  rw [List.lookup_isSome_iff]
  constructor
  · rintro ⟨file, hfile, hpath⟩
    rw [beq_iff_eq.mp hpath]
    exact List.mem_map_of_mem hfile
  · intro hpath
    obtain ⟨file, hfile, rfl⟩ := List.mem_map.mp hpath
    exact ⟨file, hfile, beq_self_eq_true _⟩

private theorem insertFile_perm {path content : String} {files : List (String × String)}
    (h : path ∉ files.map (·.1)) :
    (insertFile path content files).Perm ((path, content) :: files) := by
  induction files with
  | nil => exact List.Perm.refl _
  | cons file rest ih =>
    rw [List.map_cons, List.mem_cons, not_or] at h
    rw [insertFile, if_neg (by simpa using h.1)]
    split
    · exact List.Perm.refl _
    · exact ((ih h.2).cons file).trans (List.Perm.swap _ _ _)

theorem add_files_perm {map : FileMap} {path : String} (content : String) (h : path ∉ map.paths) :
    (map.add path content).files.Perm ((path, content) :: map.files) :=
  insertFile_perm h

theorem paths_perm_of_files_perm {map : FileMap} {files : List (String × String)}
    (h : map.files.Perm files) : map.paths.Perm (files.map (·.1)) := by
  unfold paths
  exact h.map _

/-- Files at fresh paths, one after another. -/
theorem foldl_add_files_perm (files : List (String × String)) :
    ∀ map : FileMap, (map.paths ++ files.map (·.1)).Nodup →
      (files.foldl (fun map file => map.add file.1 file.2) map).files.Perm
        (map.files ++ files) := by
  induction files with
  | nil =>
    intro map _
    rw [List.append_nil]
    exact List.Perm.refl _
  | cons file rest ih =>
    intro map hnodup
    have hmove := List.perm_middle.nodup_iff.mp hnodup
    have hfresh : file.1 ∉ map.paths := by
      intro hmem
      exact (List.nodup_cons.mp hmove).1 (List.mem_append_left _ hmem)
    have hadd := add_files_perm file.2 hfresh
    have hpaths := (paths_perm_of_files_perm hadd).append_right (rest.map (·.1))
    have hrest := ih (map.add file.1 file.2) (hpaths.nodup_iff.mpr hmove)
    calc (rest.foldl (fun map file => map.add file.1 file.2) (map.add file.1 file.2)).files
        |>.Perm ((map.add file.1 file.2).files ++ rest) := hrest
      _ |>.Perm (file :: map.files ++ rest) := hadd.append_right rest
      _ |>.Perm (map.files ++ file :: rest) := List.perm_middle.symm

theorem ofList_files_perm (files : List (String × String)) (h : (files.map (·.1)).Nodup) :
    (ofList files).files.Perm files :=
  foldl_add_files_perm files empty h

/-- Files that are collected have fresh paths, each once. -/
theorem collect_ok (map : FileMap) (files : List (String × String)) :
    ∀ incoming result : FileMap, collect map incoming files = .ok result →
      (map.paths ++ incoming.paths).Nodup →
        result.files.Perm (incoming.files ++ files) ∧ (map.paths ++ result.paths).Nodup := by
  induction files with
  | nil =>
    intro incoming result h hnodup
    cases h
    rw [List.append_nil]
    exact ⟨List.Perm.refl _, hnodup⟩
  | cons file rest ih =>
    intro incoming result h hnodup
    rw [collect] at h
    split at h
    · cases h
    · rename_i hclaimed
      rw [Bool.or_eq_true, contains_iff, contains_iff, not_or] at hclaimed
      have hadd := add_files_perm file.2 hclaimed.2
      have hpaths : (incoming.add file.1 file.2).paths.Perm (file.1 :: incoming.paths) :=
        paths_perm_of_files_perm hadd
      have hnodup' : (map.paths ++ (incoming.add file.1 file.2).paths).Nodup := by
        rw [(hpaths.append_left map.paths).nodup_iff, List.perm_middle.nodup_iff, List.nodup_cons,
          List.mem_append, not_or]
        exact ⟨hclaimed, hnodup⟩
      obtain ⟨hresult, hfresh⟩ := ih _ _ h hnodup'
      refine ⟨?_, hfresh⟩
      calc result.files.Perm ((incoming.add file.1 file.2).files ++ rest) := hresult
        _ |>.Perm (file :: incoming.files ++ rest) := hadd.append_right rest
        _ |>.Perm (incoming.files ++ file :: rest) := List.perm_middle.symm

/-- Joining a map to another keeps every file of both and leaves no path claimed twice. -/
theorem merge_ok {map other result : FileMap} (hnodup : map.paths.Nodup)
    (h : map.merge other = .ok result) :
    result.files.Perm (map.files ++ other.files) ∧ result.paths.Nodup := by
  unfold merge mergeAll at h
  cases hcollect : collect map empty ([other].flatMap (·.files)) with
  | error path =>
    rw [hcollect] at h
    cases h
  | ok incoming =>
    rw [hcollect] at h
    cases h
    have hempty : (map.paths ++ empty.paths).Nodup := by simpa [paths, empty] using hnodup
    obtain ⟨hincoming, hfresh⟩ := collect_ok map _ empty incoming hcollect hempty
    have hfold := foldl_add_files_perm incoming.files map hfresh
    refine ⟨hfold.trans (List.Perm.append_left map.files ?_), ?_⟩
    · simpa [empty] using hincoming
    · refine (paths_perm_of_files_perm hfold).nodup_iff.mpr ?_
      rw [List.map_append]
      exact hfresh

/-- Files with fresh paths, each once, are collected. -/
theorem collect_of_nodup (map : FileMap) (files : List (String × String)) :
    ∀ incoming : FileMap, (map.paths ++ incoming.paths ++ files.map (·.1)).Nodup →
      ∃ result, collect map incoming files = .ok result := by
  induction files with
  | nil =>
    intro incoming _
    exact ⟨incoming, rfl⟩
  | cons file rest ih =>
    intro incoming hnodup
    rw [List.map_cons, List.perm_middle.nodup_iff, List.nodup_cons] at hnodup
    have hfresh : file.1 ∉ map.paths ∧ file.1 ∉ incoming.paths := by
      simp only [List.mem_append, not_or] at hnodup
      exact hnodup.1.1
    have hclaimed : ¬ (map.contains file.1 || incoming.contains file.1) = true := by
      rw [Bool.or_eq_true, contains_iff, contains_iff, not_or]
      exact hfresh
    have hadd : (incoming.add file.1 file.2).paths.Perm (file.1 :: incoming.paths) :=
      paths_perm_of_files_perm (add_files_perm file.2 hfresh.2)
    have hnodup' : (map.paths ++ (incoming.add file.1 file.2).paths ++ rest.map (·.1)).Nodup := by
      rw [((hadd.append_left map.paths).append_right _).nodup_iff,
        (List.perm_middle.append_right _).nodup_iff, List.cons_append, List.nodup_cons]
      exact hnodup
    rw [collect, if_neg hclaimed]
    exact ih _ hnodup'

/-- Joining succeeds if no path is claimed twice, and otherwise names one that is. -/
theorem merge_cases {map : FileMap} (hnodup : map.paths.Nodup) (other : FileMap) :
    (∃ out, map.merge other = .ok out ∧ (map.paths ++ other.paths).Nodup) ∨
      ∃ path, map.merge other = .error (.duplicatePath path) ∧
        ¬ (map.paths ++ other.paths).Nodup := by
  have hfiles : [other].flatMap (·.files) = other.files := List.flatMap_singleton ..
  cases hmerge : map.merge other with
  | ok out =>
    obtain ⟨hperm, hout⟩ := merge_ok hnodup hmerge
    have hpaths := paths_perm_of_files_perm hperm
    rw [List.map_append] at hpaths
    exact .inl ⟨out, rfl, hpaths.nodup_iff.mp hout⟩
  | error e =>
    have hfail : ∃ path, collect map empty other.files = .error path ∧ e = .duplicatePath path := by
      unfold merge mergeAll at hmerge
      rw [hfiles] at hmerge
      cases hcollect : collect map empty other.files with
      | error path =>
        rw [hcollect] at hmerge
        cases hmerge
        exact ⟨path, rfl, rfl⟩
      | ok incoming =>
        rw [hcollect] at hmerge
        cases hmerge
    obtain ⟨path, hcollect, rfl⟩ := hfail
    refine .inr ⟨path, rfl, ?_⟩
    intro hdistinct
    have hempty : (map.paths ++ empty.paths ++ other.files.map (·.1)).Nodup := by
      simpa [paths, empty] using hdistinct
    obtain ⟨result, hresult⟩ := collect_of_nodup map other.files empty hempty
    rw [hresult] at hcollect
    cases hcollect

end ClientGen.Render.FileMap
