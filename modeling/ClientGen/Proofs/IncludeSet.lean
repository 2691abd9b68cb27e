import ClientGen.IncludeSet
/-!
# What an include set lists

An include set is seen through the list of its paths. A set that was only ever added to by bare
paths lists each path once and spells it as the path itself asks for, and what it lists is told by
membership alone: adding a header twice, or merging two sets that share one, changes nothing.
-/
namespace ClientGen

namespace IncludeSet

/-- The paths of the headers in a set, in order. -/
def paths (set : IncludeSet) : List String := set.entries.map (·.path)

theorem contains_iff {set : IncludeSet} {path : String} :
    set.contains path = true ↔ path ∈ set.paths := by
  simp [contains, paths]

theorem paths_insert (set : IncludeSet) (header : Include) :
    (set.insert header).paths =
      if header.path ∈ set.paths then set.paths else set.paths ++ [header.path] := by
  unfold insert
  simp only [contains_iff]
  split
  · simp only [paths, List.map_map]
    apply List.map_congr_left
    intro e _
    by_cases he : e.path = header.path <;> simp [he]
  · simp [paths]

/-- A set whose paths are exactly the given ones, each listed once and spelled as it looks. -/
structure Lists (set : IncludeSet) (given : List String) : Prop where
  nodup : set.paths.Nodup
  spelled : ∀ header ∈ set.entries, header.isLocal = isLocalPath header.path
  mem_iff : ∀ path, path ∈ set.paths ↔ path ∈ given

variable {set other : IncludeSet} {given more : List String}

theorem Lists.congr (h : set.Lists given) (hmem : ∀ path, path ∈ given ↔ path ∈ more) :
    set.Lists more :=
  ⟨h.nodup, h.spelled, fun path => (h.mem_iff path).trans (hmem path)⟩

theorem Lists.empty : IncludeSet.empty.Lists [] := by
  constructor <;> simp [paths, IncludeSet.empty]

theorem Lists.insert (h : set.Lists given) (header : Include)
    (hlocal : header.isLocal = isLocalPath header.path) :
    (set.insert header).Lists (given ++ [header.path]) := by
  refine ⟨?_, ?_, ?_⟩
  · rw [paths_insert]
    split
    · exact h.nodup
    · rename_i hnew
      rw [List.nodup_append]
      refine ⟨h.nodup, by simp, ?_⟩
      rintro path hpath other hother rfl
      rw [List.mem_singleton.mp hother] at hpath
      exact hnew hpath
  · intro e he
    unfold IncludeSet.insert at he
    split at he
    · obtain ⟨old, hold, rfl⟩ := List.mem_map.mp he
      split
      · exact hlocal
      · exact h.spelled old hold
    · rcases List.mem_append.mp he with he | he
      · exact h.spelled e he
      · rw [List.mem_singleton.mp he]
        exact hlocal
  · intro path
    have hpath := h.mem_iff path
    rw [paths_insert, List.mem_append, List.mem_singleton]
    split
    · rename_i hold
      constructor
      · intro hin
        exact .inl (hpath.mp hin)
      · rintro (hin | rfl)
        · exact hpath.mpr hin
        · exact hold
    · rw [List.mem_append, List.mem_singleton, hpath]

theorem Lists.add (h : set.Lists given) (path : String) : (set.add path).Lists (given ++ [path]) :=
  h.insert ⟨path, isLocalPath path⟩ rfl

theorem Lists.addAll (h : set.Lists given) (added : List String) :
    (set.addAll added).Lists (given ++ added) := by
  induction added generalizing set given with
  | nil => simpa [IncludeSet.addAll] using h
  | cons path rest ih => simpa [IncludeSet.addAll] using ih (h.add path)

theorem Lists.ofPaths (given : List String) : (IncludeSet.ofPaths given).Lists given :=
  Lists.empty.addAll given

theorem Lists.insertAll (h : set.Lists given) (headers : List Include)
    (hlocal : ∀ header ∈ headers, header.isLocal = isLocalPath header.path) :
    (set.insertAll headers).Lists (given ++ headers.map (·.path)) := by
  induction headers generalizing set given with
  | nil => simpa [IncludeSet.insertAll] using h
  | cons header rest ih =>
    have hfirst := h.insert header (hlocal header List.mem_cons_self)
    simpa [IncludeSet.insertAll] using
      ih hfirst fun other hother => hlocal other (List.mem_cons_of_mem _ hother)

theorem Lists.merge (h : set.Lists given) (hother : other.Lists more) :
    (set.merge other).Lists (given ++ more) := by
  refine (h.insertAll other.entries hother.spelled).congr fun path => ?_
  rw [List.mem_append, List.mem_append, ← hother.mem_iff path]
  rfl

theorem Lists.erase (h : set.Lists given) (path : String) :
    (set.erase path).Lists (given.filter (· != path)) := by
  have hpaths : (set.erase path).paths = set.paths.filter (· != path) := by
    simp [IncludeSet.erase, paths, List.filter_map, Function.comp_def]
  refine ⟨?_, ?_, ?_⟩
  · rw [hpaths]
    exact h.nodup.filter _
  · intro header hheader
    exact h.spelled header (List.mem_filter.mp hheader).1
  · intro other
    rw [hpaths, List.mem_filter, List.mem_filter, h.mem_iff other]

/-! ### Taking a path out -/

/-- A header may be put in before or after a path is taken out, unless it has that path. -/
theorem erase_insert (set : IncludeSet) (header : Include) (path : String) :
    (set.insert header).erase path =
      if header.path = path then set.erase path else (set.erase path).insert header := by
  -- a new spelling changes no path, so it changes nothing about what is taken out
  have hrespelled : (set.entries.map fun e => if e.path == header.path then header else e).filter
        (fun e => e.path != path) =
      (set.entries.filter fun e => e.path != path).map
        fun e => if e.path == header.path then header else e := by
    rw [List.filter_map]
    congr 1
    apply List.filter_congr
    intro e _
    by_cases he : e.path = header.path <;> simp [he]
  by_cases hpath : header.path = path
  · rw [if_pos hpath]
    unfold insert
    split
    · simp only [erase, hrespelled]
      congr 1
      refine (List.map_congr_left ?_).trans (List.map_id _)
      intro e he
      have hne : e.path ≠ header.path := by simpa [hpath] using (List.mem_filter.mp he).2
      simp [hne]
    · simp [erase, hpath]
  · rw [if_neg hpath]
    have hcontains : (set.erase path).contains header.path = set.contains header.path := by
      simp only [contains, erase, List.any_filter]
      congr 1
      funext e
      by_cases he : e.path = header.path <;> simp [he, hpath]
    unfold insert
    rw [hcontains]
    split
    · simp only [erase, hrespelled]
    · simp [erase, hpath]

theorem erase_add (set : IncludeSet) (path other : String) :
    (set.add other).erase path =
      if other = path then set.erase path else (set.erase path).add other :=
  set.erase_insert ⟨other, isLocalPath other⟩ path

theorem erase_merge (set other : IncludeSet) (path : String) :
    (set.merge other).erase path = (set.erase path).merge (other.erase path) := by
  obtain ⟨headers⟩ := other
  simp only [merge, insertAll, erase]
  induction headers generalizing set with
  | nil => rfl
  | cons header rest ih =>
    have hinsert := set.erase_insert header path
    simp only [erase] at hinsert
    rw [List.foldl_cons, ih, hinsert]
    by_cases hpath : header.path = path <;> simp [hpath]

theorem erase_of_not_mem {set : IncludeSet} {path : String} (h : path ∉ set.paths) :
    set.erase path = set := by
  unfold erase
  congr 1
  rw [List.filter_eq_self]
  intro e he
  have hne : e.path ≠ path := fun heq => h (heq ▸ List.mem_map_of_mem he)
  simpa using hne

/-! ### Lines -/

/-- The line that includes a path as it looks. -/
def pathLine (path : String) : String :=
  if isLocalPath path then "#include \"" ++ path ++ "\"" else "#include <" ++ path ++ ">"

/-- Without replacements there is one line for every path. -/
theorem Lists.render_nil (h : set.Lists given) :
    set.render [] = String.intercalate "\n" (set.paths.map pathLine) := by
  unfold render paths
  rw [List.map_map]
  congr 1
  apply List.map_congr_left
  intro header hheader
  simp [line, pathLine, h.spelled header hheader]

end IncludeSet

end ClientGen
