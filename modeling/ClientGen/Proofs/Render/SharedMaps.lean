import Mathlib.Data.List.Nodup
import Mathlib.Data.List.ReduceOption
import Mathlib.Logic.Function.Basic
import ClientGen.Proofs.Render.Unions
/-!
# Merging maps in memory

Maps are objects that are changed in place. So the maps that are merged into one may be absent, may
be given several times, or may be the very map that they are merged into. Their files are walked
through in an order that nobody knows, are staged, and are put into the target one by one, in an
order of its own, only when all of them have been staged.

Merging succeeds in every order or in none, and then the target is what joining the maps as values
gives. When it fails, nothing has been changed.
-/
namespace ClientGen.Render

open ClientGen.Cpp

namespace FileMap

theorem collect_append (map : FileMap) (files more : List (String × String)) :
    ∀ incoming : FileMap, collect map incoming (files ++ more) =
      (collect map incoming files).bind fun staged => collect map staged more := by
  induction files with
  | nil => exact fun _ => rfl
  | cons file rest ih =>
    intro incoming
    rw [List.cons_append, collect, collect]
    split
    · rfl
    · exact ih _

/-- Files stop being collected at a path that is claimed twice. -/
theorem collect_error (map : FileMap) {path : String} (files : List (String × String)) :
    ∀ incoming : FileMap, collect map incoming files = .error path →
      2 ≤ (map.paths ++ incoming.paths ++ files.map (·.1)).count path := by
  induction files with
  | nil =>
    intro incoming h
    cases h
  | cons file rest ih =>
    intro incoming h
    rw [collect] at h
    split at h
    · rename_i hclaimed
      cases h
      rw [Bool.or_eq_true, contains_iff, contains_iff, ← List.mem_append] at hclaimed
      have hbefore := List.count_pos_iff.mpr hclaimed
      rw [List.count_append, List.map_cons, List.count_cons_self]
      omega
    · rename_i hclaimed
      rw [Bool.or_eq_true, contains_iff, contains_iff, not_or] at hclaimed
      have hadd : (incoming.add file.1 file.2).paths.Perm (file.1 :: incoming.paths) :=
        paths_perm_of_files_perm (add_files_perm file.2 hclaimed.2)
      have hcount := ih _ h
      simp only [List.count_append, hadd.count_eq, List.map_cons, List.count_cons] at hcount ⊢
      omega

theorem exists_collect_iff {map : FileMap} (hmap : map.paths.Nodup)
    (files : List (String × String)) :
    (∃ incoming, collect map empty files = .ok incoming) ↔
      (map.paths ++ files.map (·.1)).Nodup := by
  have hempty : map.paths ++ empty.paths = map.paths := List.append_nil _
  constructor
  · rintro ⟨incoming, h⟩
    obtain ⟨hperm, hnodup⟩ := collect_ok map files empty incoming h (by rwa [hempty])
    have hpaths := (paths_perm_of_files_perm hperm).append_left map.paths
    exact hpaths.nodup_iff.mp hnodup
  · intro hnodup
    exact collect_of_nodup map files empty (by rwa [hempty])

/-- Joining maps as values gives their union, or fails if there is none. -/
theorem mergeAll_eq_ok_iff {map out : FileMap} (hmap : map.IsSorted) (others : List FileMap) :
    map.mergeAll others = .ok out ↔ out.IsUnion (map :: others) := by
  have hok {incoming : FileMap} (h : collect map empty (others.flatMap (·.files)) = .ok incoming) :
      ∃ joined, map.mergeAll others = .ok joined ∧ joined.IsUnion (map :: others) := by
    obtain ⟨hsorted, hperm⟩ := stored_files hmap h (.refl _)
    exact ⟨_, by rw [mergeAll, h]; rfl, hsorted, hperm⟩
  constructor
  · intro h
    cases hcollect : collect map empty (others.flatMap (·.files)) with
    | error path =>
      rw [mergeAll, hcollect] at h
      cases h
    | ok incoming =>
      obtain ⟨joined, hjoined, hunion⟩ := hok hcollect
      rw [hjoined] at h
      cases h
      exact hunion
  · intro h
    have hnodup := exists_isUnion_iff.mp ⟨out, h⟩
    rw [List.flatMap_cons, flatMap_paths] at hnodup
    obtain ⟨incoming, hincoming⟩ := (exists_collect_iff hmap.nodup _).mpr hnodup
    obtain ⟨joined, hjoined, hunion⟩ := hok hincoming
    rw [hjoined, hunion.unique h]

end FileMap

/-- The order in which each loop over a map walks through its files; nothing is known of it. -/
structure WalkOrder where
  walk : Nat → List (String × String) → List (String × String)
  perm : ∀ loop files, (walk loop files).Perm files

/-- Maps in memory, each at an address. -/
structure Heap where
  map : Nat → FileMap
  isSorted : ∀ address, (map address).IsSorted

namespace Heap

/-- Puts a file into the map at an address. -/
def put (heap : Heap) (target : Nat) (path content : String) : Heap where
  map := Function.update heap.map target ((heap.map target).add path content)
  isSorted address := by
    by_cases h : address = target
    · rw [h, Function.update_self]
      exact (heap.isSorted target).add path content
    · rw [Function.update_of_ne h]
      exact heap.isSorted address

theorem put_map (heap : Heap) (target : Nat) (path content : String) :
    (heap.put target path content).map =
      Function.update heap.map target ((heap.map target).add path content) := rfl

/-- Stages the files of maps, one map after another; an absent map is passed over. -/
def stage (heap : Heap) (order : WalkOrder) (target loop : Nat) (incoming : FileMap) :
    List (Option Nat) → Except String FileMap
  | [] => .ok incoming
  | none :: rest => heap.stage order target (loop + 1) incoming rest
  | some other :: rest => do
    let staged ← FileMap.collect (heap.map target) incoming
      (order.walk loop (heap.map other).files)
    heap.stage order target (loop + 1) staged rest

/-- Merges maps into the one at an address, and tells the error if there is one. -/
def mergeWith (heap : Heap) (order : WalkOrder) (target : Nat) (others : List (Option Nat)) :
    Heap × Option Error :=
  match heap.stage order target 0 .empty others with
  | .error path => (heap, some (.duplicatePath path))
  | .ok incoming =>
    let stored := order.walk others.length incoming.files
    (stored.foldl (fun heap file => heap.put target file.1 file.2) heap, none)

/-- The maps that are present in a list, each as often as it is listed. -/
def present (heap : Heap) (others : List (Option Nat)) : List FileMap :=
  others.reduceOption.map heap.map

section

variable (heap : Heap) (order : WalkOrder) (target : Nat)

/-- The files of maps in the order in which they are walked through. -/
def walked (loop : Nat) : List (Option Nat) → List (String × String)
  | [] => []
  | none :: rest => walked (loop + 1) rest
  | some other :: rest =>
    order.walk loop (heap.map other).files ++ walked (loop + 1) rest

theorem walked_perm (others : List (Option Nat)) : ∀ loop : Nat,
    (heap.walked order loop others).Perm ((heap.present others).flatMap (·.files)) := by
  induction others with
  | nil => exact fun _ => .refl _
  | cons other rest ih =>
    intro loop
    cases other with
    | none => exact ih (loop + 1)
    | some other => exact (order.perm loop _).append (ih (loop + 1))

/-- Staging collects the files in the order in which they are walked through. -/
theorem stage_eq_collect (others : List (Option Nat)) : ∀ (loop : Nat) (incoming : FileMap),
    heap.stage order target loop incoming others =
      FileMap.collect (heap.map target) incoming (heap.walked order loop others) := by
  induction others with
  | nil => exact fun _ _ => rfl
  | cons other rest ih =>
    intro loop incoming
    cases other with
    | none => exact ih (loop + 1) incoming
    | some other =>
      rw [stage, walked, FileMap.collect_append]
      exact bind_congr fun staged => ih (loop + 1) staged

theorem foldl_put_map (files : List (String × String)) : ∀ heap : Heap,
    (files.foldl (fun heap file => heap.put target file.1 file.2) heap).map =
      Function.update heap.map target
        (files.foldl (fun map file => map.add file.1 file.2) (heap.map target)) := by
  induction files with
  | nil => exact fun heap => (Function.update_eq_self target heap.map).symm
  | cons file rest ih =>
    intro heap
    rw [List.foldl_cons, ih, put_map, Function.update_idem, Function.update_self, List.foldl_cons]

theorem exists_stage_iff (others : List (Option Nat)) :
    (∃ incoming, heap.stage order target 0 .empty others = .ok incoming) ↔
      ((heap.map target).paths ++ (heap.present others).flatMap (·.paths)).Nodup := by
  have hperm := ((heap.walked_perm order others 0).map (·.1)).append_left (heap.map target).paths
  rw [stage_eq_collect, FileMap.exists_collect_iff (heap.isSorted target).nodup, hperm.nodup_iff,
    FileMap.flatMap_paths]

/-- What has been merged is the union of the target and the maps that are present. -/
theorem isUnion_of_stage {others : List (Option Nat)} {incoming : FileMap}
    {stored : List (String × String)} (h : heap.stage order target 0 .empty others = .ok incoming)
    (hstore : stored.Perm incoming.files) :
    (stored.foldl (fun map file => map.add file.1 file.2) (heap.map target)).IsUnion
      (heap.map target :: heap.present others) := by
  rw [stage_eq_collect] at h
  obtain ⟨hsorted, hperm⟩ := FileMap.stored_files (heap.isSorted target) h hstore
  exact ⟨hsorted, hperm.trans ((heap.walked_perm order others 0).append_left _)⟩

theorem mergeWith_of_stage {others : List (Option Nat)} {incoming : FileMap}
    (h : heap.stage order target 0 .empty others = .ok incoming) :
    ∃ after, heap.mergeWith order target others = (after, none) ∧
      (after.map target).IsUnion (heap.map target :: heap.present others) ∧
      ∀ address, address ≠ target → after.map address = heap.map address := by
  rw [mergeWith, h]
  refine ⟨_, rfl, ?_, ?_⟩
  · rw [foldl_put_map, Function.update_self]
    exact heap.isUnion_of_stage order target h (order.perm _ _)
  · intro address hother
    rw [foldl_put_map, Function.update_of_ne hother]

theorem count_of_stage {others : List (Option Nat)} {path : String}
    (h : heap.stage order target 0 .empty others = .error path) :
    2 ≤ ((heap.map target).paths ++ (heap.present others).flatMap (·.paths)).count path := by
  rw [stage_eq_collect] at h
  have hcount := FileMap.collect_error _ _ _ h
  have hperm := (heap.walked_perm order others 0).map (·.1)
  rw [FileMap.flatMap_paths, List.count_append, ← hperm.count_eq]
  simpa [FileMap.paths, FileMap.empty] using hcount

end

theorem get?_of_isUnion {heap : Heap} {target : Nat} {others : List (Option Nat)} {out : FileMap}
    (h : out.IsUnion (heap.map target :: heap.present others)) (path content : String) :
    out.get? path = some content ↔ (heap.map target).get? path = some content ∨
      ∃ other ∈ heap.present others, other.get? path = some content := by
  have hpresent : ∀ other ∈ heap.present others,
      (other.get? path = some content ↔ (path, content) ∈ other.files) := by
    intro other hother
    obtain ⟨address, -, rfl⟩ := List.mem_map.mp hother
    exact (heap.isSorted address).get?_eq_some_iff
  rw [h.isSorted.get?_eq_some_iff, (heap.isSorted target).get?_eq_some_iff, h.perm.mem_iff,
    List.flatMap_cons, List.mem_append, List.mem_flatMap]
  refine or_congr Iff.rfl (exists_congr fun other => and_congr_right fun hother => ?_)
  exact (hpresent other hother).symm

end Heap

/-- In every order of files and for any list of maps, merging succeeds exactly if the paths of the
maps that are present are all different and none is in the target. Then the target is the union of
them, which is what joining them as values gives, and no other map has changed. Otherwise nothing
has changed, and the error names a path that is claimed twice. -/
theorem mergeWith_all_or_nothing (heap : Heap) (order : WalkOrder) (target : Nat)
    (others : List (Option Nat)) :
    let given := heap.present others
    let claimed := given.flatMap (·.paths)
    let after := (heap.mergeWith order target others).1
    let error := (heap.mergeWith order target others).2
    (error = none ↔ claimed.Nodup ∧ ∀ path ∈ claimed, path ∉ (heap.map target).paths) ∧
    (error = none →
      (heap.map target).mergeAll given = .ok (after.map target) ∧
      (∀ path content, (after.map target).get? path = some content ↔
        (heap.map target).get? path = some content ∨
          ∃ other ∈ given, other.get? path = some content) ∧
      ∀ address, address ≠ target → after.map address = heap.map address) ∧
    ∀ e, error = some e →
      after = heap ∧
      (∃ path, e = .duplicatePath path ∧ 2 ≤ ((heap.map target).paths ++ claimed).count path) ∧
      ∃ path, (heap.map target).mergeAll given = .error path := by
  intro given claimed after error
  have hnodup_iff : ((heap.map target).paths ++ claimed).Nodup ↔
      claimed.Nodup ∧ ∀ path ∈ claimed, path ∉ (heap.map target).paths := by
    rw [List.nodup_append', List.disjoint_right, and_iff_right (heap.isSorted target).nodup]
  rw [← hnodup_iff]
  have hstage := heap.exists_stage_iff order target others
  -- Whether all files can be staged decides about everything, and the order has no say in it.
  cases hresult : heap.stage order target 0 .empty others with
  | error path =>
    have hmerge : heap.mergeWith order target others = (heap, some (.duplicatePath path)) := by
      rw [Heap.mergeWith, hresult]
    have hclash : ¬ ((heap.map target).paths ++ claimed).Nodup := by
      rw [← hstage, hresult]
      rintro ⟨_, h⟩
      cases h
    have herror : error = some (.duplicatePath path) := congrArg Prod.snd hmerge
    rw [herror]
    refine ⟨iff_of_false nofun hclash, nofun, ?_⟩
    rintro _ ⟨⟩
    refine ⟨congrArg Prod.fst hmerge, ⟨path, rfl, heap.count_of_stage order target hresult⟩, ?_⟩
    cases hvalue : (heap.map target).mergeAll given with
    | error path => exact ⟨path, rfl⟩
    | ok out =>
      have hunion := (FileMap.mergeAll_eq_ok_iff (heap.isSorted target) given).mp hvalue
      exact absurd (FileMap.exists_isUnion_iff.mp ⟨out, hunion⟩) hclash
  | ok incoming =>
    obtain ⟨merged, hmerge, hunion, hframe⟩ := heap.mergeWith_of_stage order target hresult
    have hafter : after = merged := congrArg Prod.fst hmerge
    have herror : error = none := congrArg Prod.snd hmerge
    rw [hafter, herror]
    refine ⟨iff_of_true rfl (hstage.mp ⟨incoming, hresult⟩), fun _ => ⟨?_, ?_, hframe⟩, nofun⟩
    · exact (FileMap.mergeAll_eq_ok_iff (heap.isSorted target) given).mpr hunion
    · exact Heap.get?_of_isUnion hunion

/-- Absent and empty maps do not matter, however often they are given; a map with a file cannot be
merged into itself. -/
theorem mergeWith_all_or_nothing_self :
    let heap : Heap := ⟨fun address => .ofList ([[("a.h", "a")], [("b.h", "b")]].getD address []),
      fun _ => FileMap.isSorted_empty.foldl_add _⟩
    let order : WalkOrder := ⟨fun _ => List.reverse, fun _ => List.reverse_perm⟩
    let merged := heap.mergeWith order 0 [some 1, none, some 2, some 2]
    let failed := heap.mergeWith order 0 [some 1, some 0]
    merged.2 = none ∧ (merged.1.map 0).get? "b.h" = some "b" ∧
      ∃ e, failed.2 = some e ∧ failed.1 = heap := by
  intro heap order merged failed
  obtain ⟨hiff, hok, -⟩ := mergeWith_all_or_nothing heap order 0 [some 1, none, some 2, some 2]
  obtain ⟨-, -, herror⟩ := mergeWith_all_or_nothing heap order 0 [some 1, some 0]
  have hnone : merged.2 = none := hiff.mpr (by decide +kernel)
  obtain ⟨-, hget, -⟩ := hok hnone
  have hfailed : failed.2 = some (.duplicatePath "a.h") := by decide +kernel
  refine ⟨hnone, (hget "b.h" "b").mpr (.inr ⟨heap.map 1, ?_, ?_⟩), _, hfailed,
    (herror _ hfailed).1⟩
  · exact List.mem_cons_self
  · decide +kernel

end ClientGen.Render
