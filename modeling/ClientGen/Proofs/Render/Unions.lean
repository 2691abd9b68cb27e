import ClientGen.Proofs.Render.Paths
import ClientGen.Proofs.Render.SortedMaps
/-!
# Runs as unions

Joining two maps gives their union, and there is one exactly if no path is claimed twice. So steps
that run one after another come to the union of what each of them yields. The order of the steps
shows in the errors only.
-/
namespace ClientGen.Render

open ClientGen.Idl ClientGen.Cpp

namespace FileMap

/-- A map in order with the files of some maps and no others. -/
structure IsUnion (out : FileMap) (maps : List FileMap) : Prop where
  isSorted : out.IsSorted
  perm : out.files.Perm (maps.flatMap (·.files))

section

variable {map more out out' : FileMap} {maps maps' : List FileMap}

theorem flatMap_paths (maps : List FileMap) :
    maps.flatMap (·.paths) = (maps.flatMap (·.files)).map (·.1) := by
  rw [List.map_flatMap]
  rfl

/-- There is a union exactly if no path is claimed twice. -/
theorem exists_isUnion_iff : (∃ out : FileMap, out.IsUnion maps) ↔
    (maps.flatMap (·.paths)).Nodup := by
  rw [flatMap_paths]
  constructor
  · rintro ⟨out, hsorted, hperm⟩
    exact (hperm.map _).nodup_iff.mp hsorted.nodup
  · intro hnodup
    exact ⟨ofList (maps.flatMap (·.files)), isSorted_empty.foldl_add _, ofList_files_perm _ hnodup⟩

theorem IsUnion.unique (h : out.IsUnion maps) (h' : out'.IsUnion maps) : out = out' :=
  h.isSorted.eq_of_perm h'.isSorted (h.perm.trans h'.perm.symm)

theorem IsUnion.of_perm (hmaps : maps.Perm maps') (h : out.IsUnion maps) : out.IsUnion maps' :=
  ⟨h.isSorted, h.perm.trans (hmaps.flatMap_right _)⟩

theorem isUnion_singleton_iff (hmap : map.IsSorted) : out.IsUnion [map] ↔ out = map := by
  have hself : map.IsUnion [map] := ⟨hmap, by rw [List.flatMap_singleton]⟩
  constructor
  · intro h
    exact h.unique hself
  · rintro rfl
    exact hself

/-- A union of unions. -/
theorem isUnion_cons_iff {joined : FileMap} (hjoined : joined.IsUnion [map, more]) :
    out.IsUnion (joined :: maps) ↔ out.IsUnion (map :: more :: maps) := by
  have hfiles : ((joined :: maps).flatMap (·.files)).Perm
      ((map :: more :: maps).flatMap (·.files)) := by
    have hperm := hjoined.perm.append_right (maps.flatMap (·.files))
    simpa only [List.flatMap_cons, List.flatMap_nil, List.append_nil, List.append_assoc] using hperm
  constructor
  · intro h
    exact ⟨h.isSorted, h.perm.trans hfiles⟩
  · intro h
    exact ⟨h.isSorted, h.perm.trans hfiles.symm⟩

/-- Joining a map to another gives their union, or fails if there is none. -/
theorem merge_eq_ok_iff (hmap : map.IsSorted) :
    map.merge more = .ok out ↔ out.IsUnion [map, more] := by
  have hok {joined : FileMap} (h : map.merge more = .ok joined) : joined.IsUnion [map, more] := by
    refine ⟨merge_ok_isSorted hmap h, ?_⟩
    simpa using (merge_ok hmap.nodup h).1
  constructor
  · exact hok
  · intro h
    have hnodup : (map.paths ++ more.paths).Nodup := by
      simpa using exists_isUnion_iff.mp ⟨out, h⟩
    rcases merge_cases hmap.nodup more with ⟨joined, hjoined, -⟩ | ⟨path, -, hclash⟩
    · rw [hjoined, (hok hjoined).unique h]
    · exact absurd hnodup hclash

end

end FileMap

/-- Steps that run one after another come to the union of what they yield, if all of them yield
something and no path is claimed twice. -/
theorem runSteps_eq_ok_iff {steps : List Step} {out : FileMap} :
    ∀ {map : FileMap}, map.IsSorted →
      ((runSteps map steps).files = .ok out ↔
        ∃ maps, List.Forall₂ (fun step more => step.files = .ok more) steps maps ∧
          out.IsUnion (map :: maps)) := by
  induction steps with
  | nil =>
    intro map hmap
    simp only [runSteps, List.forall₂_nil_left_iff, exists_eq_left,
      FileMap.isUnion_singleton_iff hmap, Except.ok.injEq, eq_comm]
  | cons step rest ih =>
    intro map hmap
    rw [runSteps]
    constructor
    · intro h
      cases hjoined : step.files.bind map.merge with
      | error e =>
        rw [hjoined] at h
        cases h
      | ok joined =>
        rw [hjoined] at h
        obtain ⟨more, hmore, hmerge⟩ := Generated.bind_eq_ok_iff.mp hjoined
        have hunion := (FileMap.merge_eq_ok_iff hmap).mp hmerge
        obtain ⟨maps, hmaps, hout⟩ := (ih hunion.isSorted).mp h
        exact ⟨more :: maps, .cons hmore hmaps, (FileMap.isUnion_cons_iff hunion).mp hout⟩
    · rintro ⟨_, hmaps, hout⟩
      cases hmaps with
      | @cons _ more _ maps hmore hmaps =>
        -- the first two maps have a union, since all of them have one
        have hnodup := FileMap.exists_isUnion_iff.mp ⟨out, hout⟩
        have hfirst : ([map, more].flatMap (·.paths)).Nodup := by
          refine hnodup.sublist ?_
          simp only [List.flatMap_cons, List.flatMap_nil, List.append_nil, ← List.append_assoc]
          exact List.sublist_append_left _ _
        obtain ⟨joined, hunion⟩ := FileMap.exists_isUnion_iff.mpr hfirst
        have hjoined : step.files.bind map.merge = .ok joined :=
          Generated.bind_eq_ok_iff.mpr ⟨more, hmore, (FileMap.merge_eq_ok_iff hmap).mpr hunion⟩
        rw [hjoined]
        exact (ih hunion.isSorted).mpr ⟨maps, hmaps, (FileMap.isUnion_cons_iff hunion).mpr hout⟩

theorem baseStep_isSorted {r : Renderer} {programs : List ProgramNode} {map : FileMap}
    (h : (r.baseStep programs).files = .ok map) : map.IsSorted := by
  rw [Renderer.baseStep] at h
  split at h
  · cases h
    exact FileMap.isSorted_empty
  · cases hkeys : r.programKeys programs with
    | error e =>
      rw [hkeys] at h
      cases h
    | ok keys =>
      rw [hkeys] at h
      cases h
      rw [moduleFiles_eq_ofList]
      exact FileMap.isSorted_empty.foldl_add _

theorem render_isSorted {r : Renderer} {root : RootNode} {out : FileMap}
    (h : (r.render root).files = .ok out) : out.IsSorted := by
  rw [render_files] at h
  obtain ⟨base, hbase, hrun⟩ := Generated.bind_eq_ok_iff.mp h
  obtain ⟨maps, -, hunion⟩ := (runSteps_eq_ok_iff (baseStep_isSorted hbase)).mp hrun
  exact hunion.isSorted

end ClientGen.Render
