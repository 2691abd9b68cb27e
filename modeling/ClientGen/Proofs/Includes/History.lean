import Mathlib.Data.List.Induction
import ClientGen.Proofs.IncludeSet
/-!
# What an include set remembers

A set is told by the changes that were made to it. A path is in the set if the newest change of it
put it there, and is spelled as that change says. It stands where it was put when it was not in the
set before, and a path that was removed has lost its place.
-/
namespace ClientGen

/-- A change of an include set. -/
inductive Change where
  | put (header : Include)
  | remove (path : String)
deriving DecidableEq, Repr

namespace Change

def path : Change → String
  | .put header => header.path
  | .remove path => path

def flag? : Change → Option Bool
  | .put header => some header.isLocal
  | .remove _ => none

end Change

/-- What the newest change of a path leaves of it. -/
def newest (path : String) (changes : List Change) : Option Bool :=
  changes.foldl (fun flag c => if c.path = path then c.flag? else flag) none

/-- Every change with those before it and those behind it. -/
def splits (before : List Change) : List Change → List (List Change × Change × List Change)
  | [] => []
  | c :: behind => (before, c, behind) :: splits (before ++ [c]) behind

/-- The path that a change gives its place: one that was not there and is not removed later. -/
def placed? : List Change × Change × List Change → Option String
  | (before, .put header, behind) =>
    if newest header.path before = none ∧ .remove header.path ∉ behind then some header.path
    else none
  | (_, .remove _, _) => none

/-- The headers that are there after some changes, in order. -/
def listed (changes : List Change) : List Include :=
  ((splits [] changes).filterMap placed?).map fun path =>
    ⟨path, (newest path changes).getD false⟩

/-! ### One more change -/

private def placedPaths (changes : List Change) : List String :=
  (splits [] changes).filterMap placed?

private theorem splits_concat (before changes : List Change) (c : Change) :
    splits before (changes ++ [c]) =
      (splits before changes).map (fun s => (s.1, s.2.1, s.2.2 ++ [c])) ++
        [(before ++ changes, c, [])] := by
  induction changes generalizing before with
  | nil => simp [splits]
  | cons d rest ih => simp [splits, ih, List.append_assoc]

private theorem newest_put (path : String) (changes : List Change) (header : Include) :
    newest path (changes ++ [.put header]) =
      if header.path = path then some header.isLocal else newest path changes := by
  rw [newest, List.foldl_append]
  rfl

private theorem newest_remove (path : String) (changes : List Change) (other : String) :
    newest path (changes ++ [.remove other]) =
      if other = path then none else newest path changes := by
  rw [newest, List.foldl_append]
  rfl

private theorem placed?_put (header : Include) (s : List Change × Change × List Change) :
    placed? (s.1, s.2.1, s.2.2 ++ [.put header]) = placed? s := by
  obtain ⟨before, c, behind⟩ := s
  cases c <;> simp [placed?]

private theorem placed?_remove (path : String) (s : List Change × Change × List Change) :
    placed? (s.1, s.2.1, s.2.2 ++ [.remove path]) = (placed? s).filter (· ≠ path) := by
  obtain ⟨before, c, behind⟩ := s
  cases c with
  | put header =>
    by_cases hpath : header.path = path
    · have hgone : ¬(newest header.path before = none ∧
          .remove header.path ∉ behind ++ [.remove path]) := by
        simp [hpath]
      rw [placed?, if_neg hgone, placed?]
      split <;> simp [Option.filter, hpath]
    · have hsame : .remove header.path ∈ behind ++ [Change.remove path] ↔
          .remove header.path ∈ behind := by
        simp [hpath]
      simp only [placed?, hsame]
      split <;> simp [Option.filter, hpath]
  | remove other => rfl

private theorem placedPaths_put (changes : List Change) (header : Include) :
    placedPaths (changes ++ [.put header]) =
      if newest header.path changes = none then placedPaths changes ++ [header.path]
      else placedPaths changes := by
  rw [placedPaths, splits_concat, List.filterMap_append, List.filterMap_map]
  have hold : placed? ∘ (fun s : List Change × Change × List Change =>
      (s.1, s.2.1, s.2.2 ++ [.put header])) = placed? := funext (placed?_put header)
  rw [hold]
  by_cases h : newest header.path changes = none <;> simp [placedPaths, placed?, h]

private theorem placedPaths_remove (changes : List Change) (path : String) :
    placedPaths (changes ++ [.remove path]) = (placedPaths changes).filter (· ≠ path) := by
  rw [placedPaths, splits_concat, List.filterMap_append, List.filterMap_map]
  have hold : placed? ∘ (fun s : List Change × Change × List Change =>
      (s.1, s.2.1, s.2.2 ++ [.remove path])) = fun s => (placed? s).filter (· ≠ path) :=
    funext (placed?_remove path)
  rw [hold, placedPaths, List.filter_filterMap]
  simp [placed?]

private theorem mem_placedPaths (changes : List Change) (path : String) :
    path ∈ placedPaths changes ↔ (newest path changes).isSome = true := by
  induction changes using List.reverseRecOn with
  | nil => simp [placedPaths, splits, newest]
  | append_singleton changes c ih =>
    cases c with
    | put header =>
      rw [newest_put, placedPaths_put]
      by_cases hpath : header.path = path
      · subst hpath
        by_cases hnew : newest header.path changes = none
        · simp [hnew]
        · simp [hnew, ih, Option.isSome_iff_ne_none]
      · have hother : path ≠ header.path := Ne.symm hpath
        split <;> simp [hother, ih]
    | remove other =>
      rw [newest_remove, placedPaths_remove, List.mem_filter, ih]
      by_cases hpath : other = path
      · simp [hpath]
      · simp [hpath, Ne.symm hpath]

private theorem listed_eq (changes : List Change) :
    listed changes =
      (placedPaths changes).map fun path => ⟨path, (newest path changes).getD false⟩ := rfl

private theorem listed_put (changes : List Change) (header : Include) :
    listed (changes ++ [.put header]) =
      if newest header.path changes = none then listed changes ++ [header]
      else (listed changes).map fun e => if e.path == header.path then header else e := by
  rw [listed_eq, placedPaths_put]
  by_cases hnew : newest header.path changes = none
  · -- No path that is placed already is the new one.
    have hold : ∀ path ∈ placedPaths changes, header.path ≠ path := by
      rintro _ hpath rfl
      simp [mem_placedPaths, hnew] at hpath
    simp only [hnew, if_true, listed_eq, List.map_append, List.map_cons, List.map_nil, newest_put,
      Option.getD_some]
    congr 1
    apply List.map_congr_left
    intro path hpath
    rw [if_neg (hold path hpath)]
  · simp only [hnew, if_false, listed_eq, List.map_map, newest_put]
    apply List.map_congr_left
    intro path _
    by_cases hpath : path = header.path
    · simp [hpath]
    · simp [hpath, Ne.symm hpath]

private theorem listed_remove (changes : List Change) (path : String) :
    listed (changes ++ [.remove path]) = (listed changes).filter fun e => e.path != path := by
  have hsame : ((fun e : Include => e.path != path) ∘ fun path : String =>
      Include.mk path ((newest path changes).getD false)) = fun other => decide (other ≠ path) := by
    funext other
    simp [bne, Bool.beq_eq_decide_eq]
  rw [listed_eq, placedPaths_remove, listed_eq, List.filter_map, hsame]
  apply List.map_congr_left
  intro other hother
  have hne : path ≠ other := by
    rintro rfl
    simp at hother
  rw [newest_remove, if_neg hne]

/-! ### Changes of a set -/

namespace IncludeSet

/-- Makes a change. -/
def change (set : IncludeSet) : Change → IncludeSet
  | .put header => set.insert header
  | .remove path => set.erase path

/-- A set that was changed step by step lists what its changes leave. -/
theorem entries_foldl_change (changes : List Change) :
    (changes.foldl change empty).entries = listed changes := by
  induction changes using List.reverseRecOn with
  | nil => rfl
  | append_singleton changes c ih =>
    rw [List.foldl_append, List.foldl_cons, List.foldl_nil]
    generalize changes.foldl change empty = set at ih
    cases c with
    | put header =>
      have hcontains : set.contains header.path = (newest header.path changes).isSome := by
        rw [Bool.eq_iff_iff, ← mem_placedPaths, contains_iff, paths, ih, listed_eq]
        simp
      rw [change, insert, hcontains, listed_put, ← ih]
      cases newest header.path changes <;> rfl
    | remove path => rw [change, erase, listed_remove, ih]

end IncludeSet

end ClientGen
