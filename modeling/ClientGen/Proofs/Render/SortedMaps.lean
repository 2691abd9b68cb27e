import Mathlib.Data.List.Perm.Basic
import Mathlib.Data.String.Basic
import ClientGen.Proofs.Render.FileMap
/-!
# File maps in order

The files of a map stand in increasing order of their paths, so a map is told by the set of its
files. It makes no difference in which order files are put into it.

Where the files of another map are walked through in some order, joining it stops at the first path
that is claimed already. It succeeds in every order or in none, and always with the same map; but
which of several paths it stops at is up to the order.
-/
namespace ClientGen.Render.FileMap

open ClientGen.Cpp

/-- Every path is less than those behind it. -/
def IsSorted (map : FileMap) : Prop := map.files.Pairwise fun a b => a.1 < b.1

theorem isSorted_empty : empty.IsSorted := List.Pairwise.nil

private theorem mem_insertFile {path content : String} {files : List (String × String)}
    {file : String × String} (h : file ∈ insertFile path content files) :
    file = (path, content) ∨ file ∈ files := by
  induction files with
  | nil => exact .inl (List.mem_singleton.mp h)
  | cons first rest ih =>
    rw [insertFile] at h
    split at h
    · rcases List.mem_cons.mp h with h | h
      · exact .inl h
      · exact .inr (List.mem_cons_of_mem _ h)
    · split at h
      · exact List.mem_cons.mp h
      · rcases List.mem_cons.mp h with rfl | h
        · exact .inr List.mem_cons_self
        · exact (ih h).imp_right (List.mem_cons_of_mem _)

theorem IsSorted.add {map : FileMap} (h : map.IsSorted) (path content : String) :
    (map.add path content).IsSorted := by
  obtain ⟨files⟩ := map
  rw [IsSorted, FileMap.add]
  rw [IsSorted] at h
  dsimp only at h ⊢
  induction files with
  | nil => exact List.pairwise_singleton _ _
  | cons first rest ih =>
    obtain ⟨hfirst, hrest⟩ := List.pairwise_cons.mp h
    rw [insertFile]
    split
    · rename_i heq
      rw [beq_iff_eq] at heq
      refine List.pairwise_cons.mpr ⟨fun file hfile => ?_, hrest⟩
      rw [heq]
      exact hfirst file hfile
    · rename_i hne
      split
      · rename_i hlt
        refine List.pairwise_cons.mpr ⟨fun file hfile => ?_, h⟩
        rcases List.mem_cons.mp hfile with rfl | hfile
        · exact hlt
        · exact hlt.trans (hfirst file hfile)
      · rename_i hnlt
        rw [beq_iff_eq] at hne
        have hlt : first.1 < path := lt_of_le_of_ne (not_lt.mp hnlt) (Ne.symm hne)
        refine List.pairwise_cons.mpr ⟨fun file hfile => ?_, ih hrest⟩
        rcases mem_insertFile hfile with rfl | hfile
        · exact hlt
        · exact hfirst file hfile

theorem IsSorted.foldl_add {map : FileMap} (h : map.IsSorted) (files : List (String × String)) :
    (files.foldl (fun map file => map.add file.1 file.2) map).IsSorted := by
  induction files generalizing map with
  | nil => exact h
  | cons file rest ih => exact ih (h.add file.1 file.2)

theorem IsSorted.nodup {map : FileMap} (h : map.IsSorted) : map.paths.Nodup := by
  rw [paths, List.nodup_iff_pairwise_ne, List.pairwise_map]
  exact h.imp fun hlt => hlt.ne

theorem IsSorted.eq_of_perm {map other : FileMap} (h : map.IsSorted) (h' : other.IsSorted)
    (hperm : map.files.Perm other.files) : map = other := by
  obtain ⟨files⟩ := map
  obtain ⟨files'⟩ := other
  congr 1
  exact hperm.eq_of_pairwise (fun a b _ _ hab hba => absurd hba (lt_asymm hab)) h h'

/-- The content at a path of a map in order is that of the one file there. -/
theorem IsSorted.get?_eq_some_iff {map : FileMap} (h : map.IsSorted) {path content : String} :
    map.get? path = some content ↔ (path, content) ∈ map.files := by
  rw [get?, List.lookup_eq_some_iff]
  constructor
  · rintro ⟨before, after, hfiles, -⟩
    rw [hfiles]
    exact List.mem_append_right _ List.mem_cons_self
  · intro hmem
    obtain ⟨before, after, hfiles⟩ := List.append_of_mem hmem
    refine ⟨before, after, hfiles, ?_⟩
    intro file hfile
    rw [IsSorted, hfiles] at h
    have hlt := (List.pairwise_append.mp h).2.2 file hfile (path, content) List.mem_cons_self
    simpa using hlt.ne'

/-- A file stands in front of those with greater paths. -/
theorem IsSorted.exists_split {map : FileMap} (h : map.IsSorted) {path content : String}
    (hcontent : map.get? path = some content) :
    ∃ before rest, map.files = before ++ (path, content) :: rest ∧
      ∀ file ∈ rest, file.1 ∈ map.paths ∧ path < file.1 := by
  obtain ⟨before, rest, hfiles⟩ := List.append_of_mem (h.get?_eq_some_iff.mp hcontent)
  refine ⟨before, rest, hfiles, fun file hfile => ⟨?_, ?_⟩⟩
  · rw [paths, hfiles]
    exact List.mem_map_of_mem (List.mem_append_right _ (List.mem_cons_of_mem _ hfile))
  · rw [IsSorted, hfiles] at h
    exact (List.pairwise_cons.mp (List.pairwise_append.mp h).2.1).1 file hfile

/-! ### Walking through a map -/

/-- The paths of another map that are claimed already. -/
def clashes (map other : FileMap) : List String := other.paths.filter map.contains

private theorem collect_eq (map : FileMap) (files : List (String × String)) :
    ∀ incoming : FileMap, (incoming.paths ++ files.map (·.1)).Nodup →
      collect map incoming files =
        match files.find? fun file => map.contains file.1 with
        | some file => .error file.1
        | none => .ok (files.foldl (fun map file => map.add file.1 file.2) incoming) := by
  induction files with
  | nil => exact fun _ _ => rfl
  | cons file rest ih =>
    intro incoming hnodup
    have hmove := List.perm_middle.nodup_iff.mp hnodup
    have hfresh : file.1 ∉ incoming.paths := by
      intro hmem
      exact (List.nodup_cons.mp hmove).1 (List.mem_append_left _ hmem)
    have hincoming : incoming.contains file.1 = false := by
      rw [Bool.eq_false_iff, ne_eq, contains_iff]
      exact hfresh
    have hadd := (paths_perm_of_files_perm (add_files_perm file.2 hfresh)).append_right
      (rest.map (·.1))
    rw [collect, hincoming, Bool.or_false, List.find?_cons]
    cases map.contains file.1 with
    | true => rfl
    | false => exact ih _ (hadd.nodup_iff.mpr hmove)

section

variable {map other : FileMap}

private theorem collect_walk (hother : other.IsSorted) {files : List (String × String)}
    (hwalk : files.Perm other.files) :
    collect map empty files =
      match files.find? fun file => map.contains file.1 with
      | some file => .error file.1
      | none => .ok (files.foldl (fun map file => map.add file.1 file.2) empty) := by
  apply collect_eq
  exact (hwalk.map _).nodup_iff.mpr hother.nodup

/-- The map itself is walked through in its own order. -/
theorem joins_merge (map other : FileMap) : Joins map other (map.merge other) := by
  have hfiles : [other].flatMap (·.files) = other.files := List.flatMap_singleton ..
  rw [merge, mergeAll, hfiles]
  cases hcollect : collect map empty other.files with
  | error path => exact .clashed (.refl _) hcollect
  | ok incoming => exact .joined (.refl _) hcollect (.refl _)

theorem mem_clashes_iff (path : String) :
    path ∈ map.clashes other ↔ path ∈ other.paths ∧ map.contains path = true := List.mem_filter

private theorem mem_clashes_of_collect (hother : other.IsSorted) {files : List (String × String)}
    (hwalk : files.Perm other.files) {path : String}
    (h : collect map empty files = .error path) : path ∈ map.clashes other := by
  rw [collect_walk hother hwalk] at h
  split at h
  · rename_i file hfind
    cases h
    have hfile := hwalk.mem_iff.mp (List.mem_of_find?_eq_some hfind)
    have hcontains : map.contains file.1 = true := by simpa using List.find?_some hfind
    exact (mem_clashes_iff _).mpr ⟨List.mem_map_of_mem hfile, hcontains⟩
  · cases h

private theorem clashes_of_collect (hother : other.IsSorted) {files : List (String × String)}
    (hwalk : files.Perm other.files) {incoming : FileMap}
    (h : collect map empty files = .ok incoming) : map.clashes other = [] := by
  rw [collect_walk hother hwalk] at h
  split at h
  · cases h
  · rename_i hfind
    rw [clashes, List.filter_eq_nil_iff]
    intro path hpath
    obtain ⟨file, hfile, rfl⟩ := List.mem_map.mp hpath
    exact List.find?_eq_none.mp hfind file (hwalk.mem_iff.mpr hfile)

/-- Files that were collected in one order and put in in another. -/
theorem stored_files (hmap : map.IsSorted) {files stored : List (String × String)}
    {incoming : FileMap} (h : collect map empty files = .ok incoming)
    (hstore : stored.Perm incoming.files) :
    (stored.foldl (fun map file => map.add file.1 file.2) map).IsSorted ∧
      (stored.foldl (fun map file => map.add file.1 file.2) map).files.Perm
        (map.files ++ files) := by
  have hempty : (map.paths ++ empty.paths).Nodup := by simpa [paths, empty] using hmap.nodup
  obtain ⟨hincoming, hfresh⟩ := collect_ok map files empty incoming h hempty
  have hpaths : (map.paths ++ stored.map (·.1)).Nodup :=
    ((hstore.map _).append_left map.paths).nodup_iff.mpr hfresh
  exact ⟨hmap.foldl_add stored, (foldl_add_files_perm stored map hpaths).trans
    ((hstore.trans hincoming).append_left map.files)⟩

private theorem joined_files (hmap : map.IsSorted) {files stored : List (String × String)}
    {incoming : FileMap} (hwalk : files.Perm other.files)
    (h : collect map empty files = .ok incoming) (hstore : stored.Perm incoming.files) :
    (stored.foldl (fun map file => map.add file.1 file.2) map).IsSorted ∧
      (stored.foldl (fun map file => map.add file.1 file.2) map).files.Perm
        (map.files ++ other.files) := by
  obtain ⟨hsorted, hperm⟩ := stored_files hmap h hstore
  exact ⟨hsorted, hperm.trans (hwalk.append_left map.files)⟩

/-- Joining succeeds with one map if no path is claimed already, and otherwise stops at any of the
paths that are. -/
theorem joins_iff (hmap : map.IsSorted) (hother : other.IsSorted) (out : Generated FileMap) :
    Joins map other out ↔
      map.clashes other = [] ∧ out = map.merge other ∨
        ∃ path ∈ map.clashes other, out = .error (.duplicatePath path) := by
  constructor
  · rintro (⟨hwalk, h⟩ | ⟨hwalk, h, hstore⟩)
    · exact .inr ⟨_, mem_clashes_of_collect hother hwalk h, rfl⟩
    · have hnone := clashes_of_collect hother hwalk h
      refine .inl ⟨hnone, ?_⟩
      obtain ⟨hsorted, hperm⟩ := joined_files hmap hwalk h hstore
      generalize hmerge : map.merge other = merged
      have hjoins := joins_merge map other
      rw [hmerge] at hjoins
      cases hjoins with
      | clashed hwalk' h' =>
        have hmem := mem_clashes_of_collect hother hwalk' h'
        rw [hnone] at hmem
        cases hmem
      | joined hwalk' h' hstore' =>
        obtain ⟨hsorted', hperm'⟩ := joined_files hmap hwalk' h' hstore'
        rw [hsorted.eq_of_perm hsorted' (hperm.trans hperm'.symm)]
  · rintro (⟨-, rfl⟩ | ⟨path, hpath, rfl⟩)
    · exact joins_merge map other
    · -- The order that starts with the file of the path.
      obtain ⟨hmem, hcontains⟩ := (mem_clashes_iff path).mp hpath
      obtain ⟨file, hfile, rfl⟩ := List.mem_map.mp hmem
      have hwalk := (List.perm_cons_erase hfile).symm
      refine .clashed hwalk ?_
      rw [collect_walk hother hwalk, List.find?_cons, hcontains]

/-- A map that is joined to another is in order, and no path was claimed. -/
theorem merge_ok_isSorted (hmap : map.IsSorted) {out : FileMap} (h : map.merge other = .ok out) :
    out.IsSorted := by
  have hjoins := joins_merge map other
  rw [h] at hjoins
  cases hjoins with
  | joined hwalk hcollect hstore => exact (joined_files hmap hwalk hcollect hstore).1

theorem merge_error {e : Error} (hother : other.IsSorted) (h : map.merge other = .error e) :
    ∃ path ∈ map.clashes other, e = .duplicatePath path := by
  have hjoins := joins_merge map other
  rw [h] at hjoins
  cases hjoins with
  | clashed hwalk hcollect => exact ⟨_, mem_clashes_of_collect hother hwalk hcollect, rfl⟩

theorem clashes_of_merge_ok (hmap : map.IsSorted) (hother : other.IsSorted) {out : FileMap}
    (h : map.merge other = .ok out) : map.clashes other = [] := by
  have hjoins := (joins_iff hmap hother _).mp (joins_merge map other)
  obtain ⟨hnone, -⟩ | ⟨path, -, heq⟩ := hjoins
  · exact hnone
  · rw [h] at heq
    cases heq

end

end ClientGen.Render.FileMap
