import ClientGen.Proofs.Includes.Store
/-!
# Sets of bare paths

A set that was never given a spelling spells every header as its path looks. Such a set is told by
its paths in order alone. Merging appends the paths that are new, so it is associative, leaves a set
as it is that has all the paths already, and the order in which sets are merged shows in the order
of the paths only.
-/
namespace ClientGen

namespace IncludeSet

/-- A set that lists each path once and spells it as it looks. -/
def IsBare (set : IncludeSet) : Prop := set.Lists set.paths

section

variable {set other third : IncludeSet} {given : List String}

theorem Lists.isBare (h : set.Lists given) : set.IsBare :=
  h.congr fun path => (h.mem_iff path).symm

theorem isBare_empty : empty.IsBare := Lists.empty.isBare

theorem IsBare.addAll (h : set.IsBare) (paths : List String) : (set.addAll paths).IsBare :=
  (Lists.addAll h paths).isBare

theorem IsBare.erase (h : set.IsBare) (path : String) : (set.erase path).IsBare :=
  (Lists.erase h path).isBare

theorem IsBare.eraseAll (h : set.IsBare) (paths : List String) : (set.eraseAll paths).IsBare := by
  induction paths generalizing set with
  | nil => exact h
  | cons path rest ih => exact ih (h.erase path)

theorem IsBare.merge (h : set.IsBare) (hother : other.IsBare) : (set.merge other).IsBare :=
  (Lists.merge h hother).isBare

theorem IsBare.mem_paths_merge (h : set.IsBare) (hother : other.IsBare) (path : String) :
    path ∈ (set.merge other).paths ↔ path ∈ set.paths ∨ path ∈ other.paths := by
  rw [(Lists.merge h hother).mem_iff, List.mem_append]

/-- Bare sets of the same paths in the same order are the same. -/
theorem IsBare.ext (h : set.IsBare) (hother : other.IsBare) (hpaths : set.paths = other.paths) :
    set = other := by
  have hentries {list : IncludeSet} (hlist : list.IsBare) :
      list.entries = list.paths.map fun path => ⟨path, isLocalPath path⟩ := by
    simp only [paths, List.map_map]
    refine (List.map_id _).symm.trans (List.map_congr_left ?_)
    intro header hheader
    simp [← Lists.spelled hlist header hheader]
  have hsame : set.entries = other.entries := by rw [hentries h, hentries hother, hpaths]
  cases set
  cases other
  exact congrArg IncludeSet.mk hsame

/-! ### Paths of a merge -/

theorem paths_insertAll (headers : List Include) : ∀ set : IncludeSet,
    (headers.map (·.path)).Nodup → (set.insertAll headers).paths =
      set.paths ++ (headers.map (·.path)).filter (· ∉ set.paths) := by
  induction headers with
  | nil => simp [insertAll]
  | cons header rest ih =>
    intro set h
    rw [List.map_cons, List.nodup_cons] at h
    have hrest := ih (set.insert header) h.2
    rw [insertAll, List.foldl_cons, ← insertAll, hrest, paths_insert, List.map_cons,
      List.filter_cons]
    by_cases hold : header.path ∈ set.paths
    · simp [hold]
    · -- the new path does not come again, so it keeps no later path out
      have hsame : (rest.map (·.path)).filter (· ∉ set.paths ++ [header.path]) =
          (rest.map (·.path)).filter (· ∉ set.paths) := by
        apply List.filter_congr
        intro path hpath
        have hne : path ≠ header.path := fun heq => h.1 (heq ▸ hpath)
        simp [hne]
      simp only [if_neg hold, hsame]
      simp [hold]

theorem IsBare.paths_merge (hother : other.IsBare) :
    (set.merge other).paths = set.paths ++ other.paths.filter (· ∉ set.paths) :=
  paths_insertAll other.entries set hother.nodup

/-! ### Laws of merging -/

theorem IsBare.merge_assoc (h : set.IsBare) (hother : other.IsBare) (hthird : third.IsBare) :
    (set.merge other).merge third = set.merge (other.merge third) := by
  have hinner := hother.merge hthird
  apply ((h.merge hother).merge hthird).ext (h.merge hinner)
  rw [hthird.paths_merge, hother.paths_merge, hinner.paths_merge, hthird.paths_merge,
    List.filter_append, List.filter_filter, List.append_assoc]
  congr 2
  apply List.filter_congr
  intro path _
  by_cases hset : path ∈ set.paths <;> by_cases hnext : path ∈ other.paths <;>
    simp [hset, hnext]

theorem IsBare.merge_of_subset (h : set.IsBare) (hother : other.IsBare)
    (hsub : ∀ path ∈ other.paths, path ∈ set.paths) : set.merge other = set := by
  apply (h.merge hother).ext h
  rw [hother.paths_merge, List.filter_eq_nil_iff.mpr, List.append_nil]
  intro path hpath
  simp [hsub path hpath]

theorem IsBare.mergeAll {others : List IncludeSet} (h : set.IsBare)
    (hothers : ∀ other ∈ others, other.IsBare) : (set.mergeAll others).IsBare := by
  induction others generalizing set with
  | nil => exact h
  | cons other rest ih =>
    rw [List.forall_mem_cons] at hothers
    exact ih (h.merge hothers.1) hothers.2

theorem IsBare.mem_paths_mergeAll {others : List IncludeSet} (h : set.IsBare)
    (hothers : ∀ other ∈ others, other.IsBare) (path : String) :
    path ∈ (set.mergeAll others).paths ↔ path ∈ set.paths ∨ ∃ other ∈ others, path ∈ other.paths := by
  induction others generalizing set with
  | nil => simp [IncludeSet.mergeAll]
  | cons other rest ih =>
    rw [List.forall_mem_cons] at hothers
    rw [IncludeSet.mergeAll, List.foldl_cons, ← IncludeSet.mergeAll, ih (h.merge hothers.1) hothers.2,
      h.mem_paths_merge hothers.1]
    simp [or_assoc]

theorem IsBare.mergeAll_of_subset {others : List IncludeSet} (h : set.IsBare)
    (hothers : ∀ other ∈ others, other.IsBare ∧ ∀ path ∈ other.paths, path ∈ set.paths) :
    set.mergeAll others = set := by
  induction others with
  | nil => rfl
  | cons other rest ih =>
    rw [List.forall_mem_cons] at hothers
    rw [IncludeSet.mergeAll, List.foldl_cons, h.merge_of_subset hothers.1.1 hothers.1.2]
    exact ih hothers.2

end

end IncludeSet

namespace Includes

/-- An operation that gives no spelling of its own. -/
def Operation.IsBare : Operation → Prop
  | .addIncludes .. => False
  | _ => True

/-- The sets that are merged, as they are listed. -/
def mergedLists (lists : String → IncludeSet) (others : List (Option String)) : List IncludeSet :=
  others.filterMap fun other => other.map lists

section

variable {lists : String → IncludeSet} (h : ∀ set, (lists set).IsBare)
include h

theorem mergedLists_isBare (others : List (Option String)) :
    ∀ list ∈ mergedLists lists others, list.IsBare := by
  intro list hlist
  obtain ⟨other, -, hother⟩ := List.mem_filterMap.mp hlist
  obtain ⟨name, -, rfl⟩ := Option.map_eq_some_iff.mp hother
  exact h name

/-- A set that comes among the sets it is merged with adds nothing, as it is or as it was. -/
theorem listAfter_mergeWith (set : String) (others : List (Option String)) :
    listAfter lists (.mergeWith set others) = (lists set).mergeAll (mergedLists lists others) := by
  -- the list that has been built so far is bare and still has all paths of the set
  have hloop {step : IncludeSet → Option String → IncludeSet} (hnone : ∀ list, step list none = list)
      (hsome : ∀ list other,
        step list (some other) = list.merge (if other = set then list else lists other))
      (list : IncludeSet) (hlist : list.IsBare)
      (hsub : ∀ path ∈ (lists set).paths, path ∈ list.paths) :
      others.foldl step list = list.mergeAll (mergedLists lists others) := by
    induction others generalizing list with
    | nil => rfl
    | cons other rest ih =>
      rw [List.foldl_cons]
      cases other with
      | none =>
        rw [hnone]
        exact ih list hlist hsub
      | some other =>
        have hsame : list.merge (if other = set then list else lists other) =
            list.merge (lists other) := by
          by_cases hself : other = set
          · subst hself
            rw [if_pos rfl, hlist.merge_of_subset hlist fun _ hpath => hpath,
              hlist.merge_of_subset (h other) hsub]
          · rw [if_neg hself]
        rw [hsome, hsame]
        apply ih (list.merge (lists other)) (hlist.merge (h other))
        intro path hpath
        exact (hlist.mem_paths_merge (h other) path).mpr (.inl (hsub path hpath))
  rw [listAfter]
  exact hloop (fun _ => rfl) (fun _ _ => rfl) (lists set) (h set) fun _ hpath => hpath

theorem listAfter_isBare {op : Operation} (hop : op.IsBare) : (listAfter lists op).IsBare := by
  cases op with
  | new set paths => exact IncludeSet.isBare_empty.addAll paths
  | add set paths => exact (h set).addAll paths
  | addIncludes set headers => exact hop.elim
  | remove set paths => exact (h set).eraseAll paths
  | mergeWith set others =>
    rw [listAfter_mergeWith h]
    exact (h set).mergeAll (mergedLists_isBare h others)
  | clone set source =>
    cases source with
    | none => exact IncludeSet.isBare_empty
    | some source => exact IncludeSet.isBare_empty.merge (h source)

end

theorem lists_append (ops : List Operation) (op : Operation) :
    lists (ops ++ [op]) = Function.update (lists ops) op.target (listAfter (lists ops) op) := by
  rw [lists, List.foldl_append]
  rfl

theorem lists_isBare (ops : List Operation) (h : ∀ op ∈ ops, op.IsBare) (set : String) :
    (lists ops set).IsBare := by
  induction ops using List.reverseRecOn generalizing set with
  | nil => exact IncludeSet.isBare_empty
  | append_singleton ops op ih =>
    rw [List.forall_mem_append] at h
    rw [lists_append]
    by_cases hset : set = op.target
    · subst hset
      rw [Function.update_self]
      exact listAfter_isBare (ih h.1) (h.2 op (List.mem_singleton_self op))
    · rw [Function.update_of_ne hset]
      exact ih h.1 set

/-! ### What is seen -/

theorem View.eq_of_includes_eq {view view' : View} (h : view.IsConsistent)
    (h' : view'.IsConsistent) (hincludes : view.includes = view'.includes) : view = view' := by
  have horder (v : View) : v.order = v.includes.map (·.path) := by
    simp [includes, Function.comp_def]
  have hsame : view.order = view'.order := by rw [horder view, hincludes, ← horder]
  have hflags : view.flags = view'.flags := by
    funext path
    by_cases hpath : path ∈ view.order
    · have hheader : Include.mk path ((view.flags path).getD false) ∈ view'.includes := by
        rw [← hincludes]
        exact List.mem_map_of_mem hpath
      obtain ⟨other, hother, heq⟩ := List.mem_map.mp hheader
      obtain ⟨rfl, hflag⟩ := Include.mk.inj heq
      obtain ⟨flag, hsome⟩ := Option.isSome_iff_exists.mp ((h.mem_iff other).mp hpath)
      obtain ⟨flag', hsome'⟩ := Option.isSome_iff_exists.mp ((h'.mem_iff other).mp hother)
      rw [hsome, hsome'] at hflag ⊢
      exact congrArg some hflag.symm
    · have hpath' : path ∉ view'.order := hsame ▸ hpath
      have hnone {v : View} (hv : v.IsConsistent) (habsent : path ∉ v.order) :
          v.flags path = none := by
        rw [hv.mem_iff] at habsent
        simpa using habsent
      rw [hnone h hpath, hnone h' hpath']
  cases view
  cases view'
  rw [View.mk.injEq]
  exact ⟨hsame, hflags⟩

section

variable (room : Nat → Nat) {ops ops' : List Operation} {set set' : String}

theorem view_eq_of_lists_eq (h : lists ops set = lists ops' set') :
    (Store.run room ops).view set = (Store.run room ops').view set' := by
  have hholds := (represents_run room ops).holds set
  have hholds' := (represents_run room ops').holds set'
  apply View.eq_of_includes_eq hholds.consistent hholds'.consistent
  rw [hholds.includes, hholds'.includes, h]

theorem view_contains (path : String) :
    ((Store.run room ops).view set).contains path = true ↔ path ∈ (lists ops set).paths := by
  have hholds := (represents_run room ops).holds set
  rw [← IncludeSet.contains_iff, Store.view, ← View.contains_includes hholds.consistent,
    hholds.includes]

theorem view_flags (h : ∀ op ∈ ops, op.IsBare) {path : String} {flag : Bool}
    (hflag : ((Store.run room ops).view set).flags path = some flag) :
    flag = isLocalPath path := by
  have hholds := (represents_run room ops).holds set
  have hpath : path ∈ ((Store.run room ops).view set).order := by
    apply (hholds.consistent.mem_iff path).mpr
    exact Option.isSome_iff_exists.mpr ⟨flag, hflag⟩
  have hheader : Include.mk path flag ∈ (lists ops set).entries := by
    rw [← hholds.includes]
    apply List.mem_map.mpr
    refine ⟨path, hpath, ?_⟩
    show Include.mk path ((((Store.run room ops).view set).flags path).getD false) = _
    rw [hflag, Option.getD_some]
  exact (lists_isBare ops h set).spelled _ hheader

end

/-! ### Merging by name -/

section

variable {ops : List Operation} (h : ∀ op ∈ ops, op.IsBare)
include h

theorem lists_mergeWith (set : String) (others : List (Option String)) :
    lists (ops ++ [.mergeWith set others]) =
      Function.update (lists ops) set
        ((lists ops set).mergeAll (mergedLists (lists ops) others)) := by
  rw [lists_append, listAfter_mergeWith (lists_isBare ops h)]
  rfl

theorem lists_mergeWith_first (a b c : String) :
    lists (ops ++ [.mergeWith b [some c], .mergeWith a [some b]]) a =
      ((lists ops a).merge (lists ops b)).merge (lists ops c) := by
  have hbare := lists_isBare ops h
  have hinner := (hbare b).merge (hbare c)
  have hops : ∀ op ∈ ops ++ [.mergeWith b [some c]], op.IsBare := by
    rw [List.forall_mem_append, List.forall_mem_singleton]
    exact ⟨h, trivial⟩
  rw [List.append_cons, lists_mergeWith hops, Function.update_self, lists_mergeWith h]
  show (Function.update (lists ops) b ((lists ops b).merge (lists ops c)) a).merge
    (Function.update (lists ops) b ((lists ops b).merge (lists ops c)) b) = _
  rw [Function.update_self, (hbare a).merge_assoc (hbare b) (hbare c)]
  by_cases hself : a = b
  · subst hself
    rw [Function.update_self, hinner.merge_of_subset hinner fun _ hpath => hpath,
      ← (hbare a).merge_assoc (hbare a) (hbare c),
      (hbare a).merge_of_subset (hbare a) fun _ hpath => hpath]
  · rw [Function.update_of_ne hself]

theorem lists_mergeWith_twice (a b c : String) :
    lists (ops ++ [.mergeWith a [some b], .mergeWith a [some c]]) a =
      ((lists ops a).merge (lists ops b)).merge (lists ops c) := by
  have hbare := lists_isBare ops h
  have hinner := (hbare a).merge (hbare b)
  have hops : ∀ op ∈ ops ++ [.mergeWith a [some b]], op.IsBare := by
    rw [List.forall_mem_append, List.forall_mem_singleton]
    exact ⟨h, trivial⟩
  rw [List.append_cons, lists_mergeWith hops, Function.update_self, lists_mergeWith h]
  show (Function.update (lists ops) a ((lists ops a).merge (lists ops b)) a).merge
    (Function.update (lists ops) a ((lists ops a).merge (lists ops b)) c) = _
  rw [Function.update_self]
  by_cases hself : c = a
  · subst hself
    rw [Function.update_self, hinner.merge_of_subset hinner fun _ hpath => hpath,
      hinner.merge_of_subset (hbare c)]
    intro path hpath
    exact ((hbare c).mem_paths_merge (hbare b) path).mpr (.inl hpath)
  · rw [Function.update_of_ne hself]

theorem mem_lists_mergeWith (set : String) (others : List (Option String)) (path : String) :
    path ∈ (lists (ops ++ [.mergeWith set others]) set).paths ↔
      path ∈ (lists ops set).paths ∨ ∃ other, some other ∈ others ∧
        path ∈ (lists ops other).paths := by
  have hbare := lists_isBare ops h
  rw [lists_mergeWith h, Function.update_self,
    (hbare set).mem_paths_mergeAll (mergedLists_isBare hbare others)]
  simp [mergedLists]

end

/-- Sets that were made without a spelling of their own spell every header as its path looks, and
merging them is associative, leaves out what is there already, adds the same headers in any order of
its arguments however often they come, and does not see a set that is none. -/
theorem merging_bare_sets (room : Nat → Nat) {ops : List Operation}
    (hops : ∀ op ∈ ops, op.IsBare) :
    let after (more : List Operation) : String → View := (Store.run room (ops ++ more)).view
    (∀ set path flag, (after [] set).flags path = some flag → flag = isLocalPath path) ∧
    (∀ a b c,
      after [.mergeWith b [some c], .mergeWith a [some b]] a =
        after [.mergeWith a [some b], .mergeWith a [some c]] a ∧
      after [.mergeWith a [some b, some c]] a =
        after [.mergeWith a [some b], .mergeWith a [some c]] a) ∧
    (∀ a others,
      (∀ b, some b ∈ others → ∀ path, (after [] b).contains path → (after [] a).contains path) →
      after [.mergeWith a others] a = after [] a) ∧
    (∀ a others others', (∀ b, some b ∈ others ↔ some b ∈ others') →
      (after [.mergeWith a others] a).contains = (after [.mergeWith a others'] a).contains) ∧
    (∀ a others, after [.mergeWith a others] = after [.mergeWith a (others.filter (·.isSome))]) ∧
    ∀ a, after [.clone a none] = after [.new a []] := by
  have hbare := lists_isBare ops hops
  intro after
  have hnow : after [] = (Store.run room ops).view := by simp [after]
  refine ⟨?_, ?_, ?_, ?_, ?_, ?_⟩
  · intro set path flag hflag
    rw [hnow] at hflag
    exact view_flags room hops hflag
  · intro a b c
    have htwice := lists_mergeWith_twice hops a b c
    constructor
    · exact view_eq_of_lists_eq room ((lists_mergeWith_first hops a b c).trans htwice.symm)
    · apply view_eq_of_lists_eq room
      rw [htwice, lists_mergeWith hops, Function.update_self]
      rfl
  · intro a others hsub
    rw [hnow] at hsub ⊢
    apply view_eq_of_lists_eq room
    rw [lists_mergeWith hops, Function.update_self]
    apply (hbare a).mergeAll_of_subset
    intro list hlist
    refine ⟨mergedLists_isBare hbare others list hlist, ?_⟩
    intro path hpath
    obtain ⟨other, hother, hname⟩ := List.mem_filterMap.mp hlist
    obtain ⟨b, rfl, rfl⟩ := Option.map_eq_some_iff.mp hname
    have hcontains := hsub b hother path ((view_contains room path).mpr hpath)
    exact (view_contains room path).mp hcontains
  · intro a others others' hsame
    funext path
    rw [Bool.eq_iff_iff, view_contains, view_contains, mem_lists_mergeWith hops,
      mem_lists_mergeWith hops]
    simp only [hsame]
  · intro a others
    have hmerged : mergedLists (lists ops) (others.filter (·.isSome)) =
        mergedLists (lists ops) others := by
      induction others with
      | nil => rfl
      | cons other rest ih => cases other <;> simpa [mergedLists] using ih
    funext set
    apply view_eq_of_lists_eq room
    rw [lists_mergeWith hops, lists_mergeWith hops, hmerged]
  · intro a
    funext set
    apply view_eq_of_lists_eq room
    rw [lists_append, lists_append]
    rfl

/-- Sets that were copied, changed and merged with themselves. -/
def bareOperations : List Operation :=
  [.new "a" ["vector", "b.h", "vector"], .clone "b" (some "a"), .remove "a" ["b.h"],
    .add "b" ["c/d"], .mergeWith "a" [none, some "b", some "a"], .clone "c" none]

theorem merging_bare_sets_bareOperations :
    (∀ op ∈ bareOperations, op.IsBare) ∧
      ((Store.run (fun n => n) (bareOperations ++ [.mergeWith "c" [some "b", none]])).view "c") =
        (Store.run (fun n => n) (bareOperations ++ [.mergeWith "c" [some "b"]])).view "c" ∧
      (Store.run (fun n => n) (bareOperations ++ [.mergeWith "a" [some "b"]])).view "a" =
        (Store.run (fun n => n) (bareOperations ++ [])).view "a" := by
  have hops : ∀ op ∈ bareOperations, op.IsBare := by simp [bareOperations, Operation.IsBare]
  obtain ⟨-, -, hpresent, -, hnone, -⟩ := merging_bare_sets (fun n => n) hops
  refine ⟨hops, congrFun (hnone "c" [some "b", none]) "c", ?_⟩
  apply hpresent
  intro b hb path hpath
  rw [List.mem_singleton, Option.some.injEq] at hb
  subst hb
  have hsub : ∀ path ∈ (lists bareOperations "b").paths, path ∈ (lists bareOperations "a").paths := by
    decide
  simp only [List.append_nil] at hpath ⊢
  exact (view_contains _ path).mpr (hsub path ((view_contains _ path).mp hpath))

end Includes

end ClientGen
