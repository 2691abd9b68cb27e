import ClientGen.Proofs.Includes.History
import ClientGen.Proofs.Includes.Memory
/-!
# Many include sets

Sets with names are made, changed, merged and copied in any order. In memory they are records that
may not get in each other's way; beside them run the lists of headers that the generator uses, and
the histories that say what the lists ought to be. All three agree after every sequence of
operations.
-/
namespace ClientGen.Includes

/-! ### What is seen of one set -/

namespace View

variable {view : View}

theorem contains_iff (h : view.IsConsistent) (path : String) :
    view.contains path = true ↔ path ∈ view.order := (h.mem_iff path).symm

theorem isConsistent_put (h : view.IsConsistent) (header : Include) :
    (view.put header).IsConsistent := by
  have hmem : ∀ path, path ∈ (view.put header).order ↔ path ∈ view.order ∨ path = header.path := by
    intro path
    rw [put]
    dsimp only
    split
    · rename_i hcontains
      have hold := (contains_iff h header.path).mp hcontains
      constructor
      · exact .inl
      · rintro (hpath | rfl)
        · exact hpath
        · exact hold
    · rw [List.mem_append, List.mem_singleton]
  constructor
  · rw [put]
    dsimp only
    split
    · exact h.nodup
    · rename_i hcontains
      have hnew : header.path ∉ view.order := by rwa [← contains_iff h]
      rw [← List.concat_eq_append]
      exact h.nodup.concat hnew
  · intro path
    rw [hmem, put]
    by_cases hpath : path = header.path
    · simp [hpath]
    · simp [hpath, h.mem_iff]

theorem isConsistent_remove (h : view.IsConsistent) (path : String) :
    (view.remove path).IsConsistent := by
  rw [remove]
  split
  · refine ⟨h.nodup.erase path, fun other => ?_⟩
    rw [h.nodup.mem_erase_iff]
    by_cases hpath : other = path
    · simp [hpath]
    · simp [hpath, h.mem_iff]
  · exact h

theorem contains_includes (h : view.IsConsistent) (path : String) :
    IncludeSet.contains ⟨view.includes⟩ path = view.contains path := by
  rw [Bool.eq_iff_iff, contains_iff h, IncludeSet.contains_iff]
  simp [IncludeSet.paths, includes]

theorem includes_put (h : view.IsConsistent) (header : Include) :
    (view.put header).includes = (IncludeSet.insert ⟨view.includes⟩ header).entries := by
  rw [IncludeSet.insert, contains_includes h, put]
  by_cases hcontains : view.contains header.path = true
  · rw [if_pos hcontains]
    simp only [includes, hcontains, if_true, List.map_map]
    apply List.map_congr_left
    intro path _
    by_cases hpath : path = header.path
    · simp [hpath]
    · simp [hpath]
  · have hnew : header.path ∉ view.order := by rwa [← contains_iff h]
    rw [if_neg hcontains]
    simp only [includes, hcontains, if_false, List.map_append, List.map_cons, List.map_nil,
      Function.update_self, Option.getD_some, Bool.false_eq_true]
    congr 1
    apply List.map_congr_left
    intro path hpath
    have hne : path ≠ header.path := fun heq => hnew (heq ▸ hpath)
    rw [Function.update_of_ne hne]

theorem includes_remove (h : view.IsConsistent) (path : String) :
    (view.remove path).includes = (IncludeSet.erase ⟨view.includes⟩ path).entries := by
  have hfilter : (IncludeSet.erase ⟨view.includes⟩ path).entries =
      (view.order.filter (· != path)).map fun other =>
        ⟨other, (view.flags other).getD false⟩ := by
    rw [IncludeSet.erase, includes, List.filter_map]
    rfl
  rw [hfilter, remove]
  split
  · rw [includes, h.nodup.erase_eq_filter]
    apply List.map_congr_left
    intro other hother
    have hne : other ≠ path := by simpa using (List.mem_filter.mp hother).2
    dsimp only
    rw [Function.update_of_ne hne]
  · rename_i hcontains
    have habsent : path ∉ view.order := by rwa [← contains_iff h]
    rw [includes, List.filter_eq_self.mpr]
    intro other hother
    simpa using fun heq : other = path => habsent (heq ▸ hother)

end View

private theorem insert_of_mem {list : IncludeSet} (hnodup : list.paths.Nodup) {header : Include}
    (h : header ∈ list.entries) : list.insert header = list := by
  have hcontains : list.contains header.path = true :=
    IncludeSet.contains_iff.mpr (List.mem_map_of_mem h)
  rw [IncludeSet.insert, if_pos hcontains]
  have hsame : list.entries.map (fun e => if e.path == header.path then header else e) =
      list.entries := by
    refine (List.map_congr_left fun e he => ?_).trans (List.map_id _)
    split
    · rename_i hpath
      exact List.inj_on_of_nodup_map hnodup h he (beq_iff_eq.mp hpath).symm
    · rfl
  rw [hsame]

private theorem merge_self {list : IncludeSet} (hnodup : list.paths.Nodup) :
    list.merge list = list := by
  have hloop : ∀ headers : List Include, (∀ header ∈ headers, header ∈ list.entries) →
      list.insertAll headers = list := by
    intro headers
    induction headers with
    | nil => intros; rfl
    | cons header rest ih =>
      intro hmem
      rw [List.forall_mem_cons] at hmem
      rw [IncludeSet.insertAll, List.foldl_cons, insert_of_mem hnodup hmem.1]
      exact ih hmem.2
  exact hloop _ fun _ h => h

/-- A set in memory that is in order and holds the headers of a list. -/
structure Holds (s : State) (list : IncludeSet) : Prop where
  sound : IsSound s
  consistent : s.view.IsConsistent
  includes : s.view.includes = list.entries

/-- A set in memory got to another state without a change to other sets, and holds a list there. -/
structure Leads (s s' : State) (list : IncludeSet) : Prop where
  confined : Confined s s'
  holds : Holds s' list

theorem Leads.trans {s s' s'' : State} {list list' : IncludeSet} (h : Leads s s' list)
    (h' : Leads s' s'' list') : Leads s s'' list' :=
  ⟨h.confined.trans h'.confined, h'.holds⟩

theorem holds_zero (memory : Memory) : Holds (memory, .zero) .empty :=
  ⟨isSound_zero memory, ⟨List.nodup_nil, by simp [State.view, Memory.view, Memory.slots,
    Record.zero]⟩, rfl⟩

namespace Holds

variable {s : State} {list : IncludeSet} (h : Holds s list)
include h

theorem self : Leads s s list := ⟨.refl s, h⟩

theorem put (room : Nat → Nat) (header : Include) :
    Leads s (put room header s) (list.insert header) := by
  obtain ⟨hstep, hview⟩ := put_step room header h.sound
  refine ⟨hstep.confined, hstep.sound, ?_, ?_⟩
  · rw [hview]
    exact View.isConsistent_put h.consistent header
  · rw [hview, View.includes_put h.consistent, h.includes]

theorem remove (path : String) : Leads s (remove path s) (list.erase path) := by
  obtain ⟨hstep, hview⟩ := remove_step path h.sound h.consistent
  refine ⟨hstep.confined, hstep.sound, ?_, ?_⟩
  · rw [hview]
    exact View.isConsistent_remove h.consistent path
  · rw [hview, View.includes_remove h.consistent, h.includes]

theorem putAll (room : Nat → Nat) (headers : List Include) :
    Leads s (headers.foldl (fun s header => Includes.put room header s) s)
      (list.insertAll headers) := by
  induction headers generalizing s list with
  | nil => exact h.self
  | cons header rest ih =>
    have hfirst := h.put room header
    exact hfirst.trans (ih hfirst.holds)

theorem removeAll (paths : List String) :
    Leads s (paths.foldl (fun s path => Includes.remove path s) s) (list.eraseAll paths) := by
  induction paths generalizing s list with
  | nil => exact h.self
  | cons path rest ih =>
    have hfirst := h.remove path
    exact hfirst.trans (ih hfirst.holds)

theorem mergeSelf (room : Nat → Nat) :
    Leads s (mergeFrom room true s.2 s) (list.merge list) := by
  have hpaths : list.paths = s.view.order := by
    rw [IncludeSet.paths, ← h.includes, View.includes, List.map_map]
    exact List.map_id _
  rw [mergeFrom_self room h.sound h.consistent, merge_self (hpaths ▸ h.consistent.nodup)]
  exact h.self

theorem mergeOther (room : Nat → Nat) {other : Record} {list' : IncludeSet}
    (hapart : Apart s.2 other) (hother : Holds (s.1, other) list') :
    Leads s (mergeFrom room false other s) (list.merge list') := by
  rw [mergeFrom_other room h.sound hapart hother.sound, IncludeSet.merge, ← hother.includes]
  exact h.putAll room _

end Holds

/-! ### Operations -/

/-- An operation on sets with names. A set that is merged or copied may also be none. -/
inductive Operation where
  | new (set : String) (paths : List String)
  | add (set : String) (paths : List String)
  | addIncludes (set : String) (headers : List Include)
  | remove (set : String) (paths : List String)
  | mergeWith (set : String) (others : List (Option String))
  | clone (set : String) (source : Option String)
deriving DecidableEq, Repr

/-- The set that an operation changes. -/
def Operation.target : Operation → String
  | .new set _ | .add set _ | .addIncludes set _ | .remove set _ | .mergeWith set _
  | .clone set _ => set

/-- The header that a bare path asks for. -/
def bareHeader (path : String) : Include := ⟨path, isLocalPath path⟩

/-- Sets in one memory. -/
structure Store where
  memory : Memory
  records : String → Record

namespace Store

/-- No set has a path yet. -/
def start : Store := ⟨⟨fun _ => [], fun _ _ => none, 0, 0⟩, fun _ => .zero⟩

def state (store : Store) (set : String) : State := (store.memory, store.records set)

def view (store : Store) (set : String) : View := (store.state set).view

def assign (store : Store) (set : String) (s : State) : Store :=
  ⟨s.1, Function.update store.records set s.2⟩

/-- The state of the set that an operation changes, after it. -/
def after (room : Nat → Nat) (store : Store) : Operation → State
  | .new _ paths =>
    (paths.map bareHeader).foldl (fun s header => put room header s) (store.memory, .zero)
  | .add set paths =>
    (paths.map bareHeader).foldl (fun s header => put room header s) (store.state set)
  | .addIncludes set headers => headers.foldl (fun s header => put room header s) (store.state set)
  | .remove set paths => paths.foldl (fun s path => Includes.remove path s) (store.state set)
  | .mergeWith set others =>
    others.foldl (fun s other =>
      match other with
      | none => s
      | some other =>
        if other = set then mergeFrom room true s.2 s
        else mergeFrom room false (store.records other) s) (store.state set)
  | .clone _ none => (store.memory, .zero)
  | .clone _ (some source) => mergeFrom room false (store.records source) (store.memory, .zero)

def step (room : Nat → Nat) (store : Store) (op : Operation) : Store :=
  store.assign op.target (store.after room op)

def run (room : Nat → Nat) (ops : List Operation) : Store := ops.foldl (step room) start

end Store

/-- The list that an operation leaves of the set it changes. -/
def listAfter (lists : String → IncludeSet) : Operation → IncludeSet
  | .new _ paths => .ofPaths paths
  | .add set paths => (lists set).addAll paths
  | .addIncludes set headers => (lists set).insertAll headers
  | .remove set paths => (lists set).eraseAll paths
  | .mergeWith set others =>
    others.foldl (fun list other =>
      match other with
      | none => list
      | some other => list.merge (if other = set then list else lists other)) (lists set)
  | .clone _ none => .empty
  | .clone _ (some source) => IncludeSet.empty.merge (lists source)

/-- The lists after operations, one for every set. -/
def lists (ops : List Operation) : String → IncludeSet :=
  ops.foldl (fun lists op => Function.update lists op.target (listAfter lists op)) fun _ => .empty

/-- The changes that an operation leaves on record for the set it changes. Merging puts in what the
other set lists. -/
def changesAfter (changes : String → List Change) : Operation → List Change
  | .new _ paths => paths.map fun path => .put (bareHeader path)
  | .add set paths => changes set ++ paths.map fun path => .put (bareHeader path)
  | .addIncludes set headers => changes set ++ headers.map .put
  | .remove set paths => changes set ++ paths.map .remove
  | .mergeWith set others =>
    others.foldl (fun own other =>
      match other with
      | none => own
      | some other => own ++ (listed (if other = set then own else changes other)).map .put)
      (changes set)
  | .clone _ none => []
  | .clone _ (some source) => (listed (changes source)).map .put

/-- The changes of every set since it was made. -/
def history (ops : List Operation) : String → List Change :=
  ops.foldl (fun changes op => Function.update changes op.target (changesAfter changes op))
    fun _ => []

/-! ### Agreement -/

/-- The sets in memory are apart and hold the lists. -/
structure Represents (store : Store) (lists : String → IncludeSet) : Prop where
  apart : ∀ {set other}, set ≠ other → Apart (store.records set) (store.records other)
  holds : ∀ set, Holds (store.state set) (lists set)

theorem represents_start : Represents .start fun _ => .empty :=
  ⟨fun _ => apart_zero _, fun _ => holds_zero _⟩

namespace Represents

variable {store : Store} {lists : String → IncludeSet} (h : Represents store lists)
include h

private theorem holds_frame {r : Record} {s' : State} (hconfined : Confined (store.memory, r) s')
    {other : String} (hapart : Apart r (store.records other)) :
    s'.1.view (store.records other) = store.view other ∧
      Holds (s'.1, store.records other) (lists other) ∧ Apart s'.2 (store.records other) := by
  obtain ⟨-, hview, hsound, hapart'⟩ := hconfined.frame hapart (h.holds other).sound
  refine ⟨hview, ⟨hsound, ?_, ?_⟩, hapart'⟩
  · rw [State.view, hview]
    exact (h.holds other).consistent
  · rw [State.view, hview]
    exact (h.holds other).includes

private theorem assign {set : String} {r : Record} {s' : State} {list : IncludeSet}
    (hr : ∀ {other}, set ≠ other → Apart r (store.records other))
    (hleads : Leads (store.memory, r) s' list) :
    Represents (store.assign set s') (Function.update lists set list) ∧
      ∀ other, set ≠ other → (store.assign set s').view other = store.view other := by
  have hother : ∀ {other}, set ≠ other → (store.assign set s').records other =
      store.records other := by
    intro other hne
    exact Function.update_of_ne (Ne.symm hne) _ _
  have hself : (store.assign set s').records set = s'.2 := Function.update_self _ _ _
  refine ⟨⟨fun {a b} hab => ?_, fun a => ?_⟩, fun other hne => ?_⟩
  · by_cases ha : set = a
    · subst ha
      rw [hself, hother hab]
      exact (h.holds_frame hleads.confined (hr hab)).2.2
    · by_cases hb : set = b
      · subst hb
        rw [hself, hother ha]
        exact (h.holds_frame hleads.confined (hr ha)).2.2.symm
      · rw [hother ha, hother hb]
        exact h.apart hab
  · by_cases ha : set = a
    · subst ha
      rw [Store.state, hself, Function.update_self]
      exact hleads.holds
    · rw [Store.state, hother ha, Function.update_of_ne (Ne.symm ha)]
      exact (h.holds_frame hleads.confined (hr ha)).2.1
  · rw [Store.view, Store.state, hother hne]
    exact (h.holds_frame hleads.confined (hr hne)).1

private theorem mergeWith (room : Nat → Nat) (set : String) (others : List (Option String))
    {s : State} {list : IncludeSet} (hleads : Leads (store.state set) s list) :
    Leads (store.state set)
      (others.foldl (fun s other =>
        match other with
        | none => s
        | some other =>
          if other = set then mergeFrom room true s.2 s
          else mergeFrom room false (store.records other) s) s)
      (others.foldl (fun list other =>
        match other with
        | none => list
        | some other => list.merge (if other = set then list else lists other)) list) := by
  induction others generalizing s list with
  | nil => exact hleads
  | cons other rest ih =>
    rw [List.foldl_cons, List.foldl_cons]
    apply ih
    cases other with
    | none => exact hleads
    | some other =>
      dsimp only
      by_cases hself : other = set
      · -- The set itself is walked through as it was when its turn came.
        rw [if_pos hself, if_pos hself]
        exact hleads.trans (hleads.holds.mergeSelf room)
      · -- What was put in so far has not touched the other set.
        obtain ⟨-, hholds, hapart⟩ :=
          h.holds_frame hleads.confined (h.apart (Ne.symm hself))
        rw [if_neg hself, if_neg hself]
        exact hleads.trans (hleads.holds.mergeOther room hapart hholds)

/-- What one operation does to the set it names. -/
theorem after (room : Nat → Nat) (op : Operation) :
    ∃ r, (∀ {other}, op.target ≠ other → Apart r (store.records other)) ∧
      Leads (store.memory, r) (store.after room op) (listAfter lists op) := by
  have hadd (paths : List String) (list : IncludeSet) :
      list.insertAll (paths.map bareHeader) = list.addAll paths := by
    rw [IncludeSet.insertAll, List.foldl_map]
    rfl
  cases op with
  | new set paths =>
    refine ⟨.zero, fun _ => apart_zero _, ?_⟩
    have hput := (holds_zero store.memory).putAll room (paths.map bareHeader)
    rwa [hadd] at hput
  | add set paths =>
    refine ⟨_, h.apart, ?_⟩
    have hput := (h.holds set).putAll room (paths.map bareHeader)
    rwa [hadd] at hput
  | addIncludes set headers => exact ⟨_, h.apart, (h.holds set).putAll room headers⟩
  | remove set paths => exact ⟨_, h.apart, (h.holds set).removeAll paths⟩
  | mergeWith set others => exact ⟨_, h.apart, h.mergeWith room set others (h.holds set).self⟩
  | clone set source =>
    refine ⟨.zero, fun _ => apart_zero _, ?_⟩
    cases source with
    | none => exact (holds_zero store.memory).self
    | some source =>
      exact (holds_zero store.memory).mergeOther room (apart_zero _) (h.holds source)

/-- An operation changes the set it names as it changes the list, and no other set. -/
theorem step (room : Nat → Nat) (op : Operation) :
    Represents (store.step room op) (Function.update lists op.target (listAfter lists op)) ∧
      ∀ other, op.target ≠ other → (store.step room op).view other = store.view other := by
  obtain ⟨r, hr, hleads⟩ := h.after room op
  exact h.assign hr hleads

end Represents

theorem represents_run (room : Nat → Nat) (ops : List Operation) :
    Represents (.run room ops) (lists ops) := by
  induction ops using List.reverseRecOn with
  | nil => exact represents_start
  | append_singleton ops op ih =>
    rw [Store.run, lists, List.foldl_append, List.foldl_append]
    exact (ih.step room op).1

/-! ### Histories -/

private theorem foldl_change_puts (headers : List Include) (list : IncludeSet) :
    (headers.map .put).foldl IncludeSet.change list = list.insertAll headers := by
  rw [List.foldl_map]
  rfl

private theorem foldl_change_paths (paths : List String) (list : IncludeSet) :
    (paths.map fun path => .put (bareHeader path)).foldl IncludeSet.change list =
      list.addAll paths := by
  rw [List.foldl_map]
  rfl

private theorem listAfter_eq {lists : String → IncludeSet} {changes : String → List Change}
    (h : ∀ set, lists set = (changes set).foldl IncludeSet.change .empty) (op : Operation) :
    listAfter lists op = (changesAfter changes op).foldl IncludeSet.change .empty := by
  have hlisted (own : List Change) : listed own = (own.foldl IncludeSet.change .empty).entries :=
    (IncludeSet.entries_foldl_change own).symm
  cases op with
  | new set paths => exact (foldl_change_paths paths .empty).symm
  | add set paths =>
    rw [changesAfter, List.foldl_append, ← h, foldl_change_paths]
    rfl
  | addIncludes set headers =>
    rw [changesAfter, List.foldl_append, ← h, foldl_change_puts]
    rfl
  | remove set paths =>
    rw [changesAfter, List.foldl_append, ← h, List.foldl_map]
    rfl
  | mergeWith set others =>
    refine List.foldl_rel (r := fun list (own : List Change) =>
      list = own.foldl IncludeSet.change .empty) (h set) ?_
    intro other _ list own hown
    cases other with
    | none => exact hown
    | some other =>
      dsimp only
      rw [List.foldl_append, ← hown, foldl_change_puts, IncludeSet.merge]
      by_cases hself : other = set
      · rw [if_pos hself, if_pos hself, hlisted, ← hown]
      · rw [if_neg hself, if_neg hself, hlisted, ← h]
  | clone set source =>
    cases source with
    | none => rfl
    | some source =>
      rw [changesAfter, foldl_change_puts, hlisted, ← h]
      rfl

theorem lists_eq_history (ops : List Operation) (set : String) :
    lists ops set = (history ops set).foldl IncludeSet.change .empty := by
  induction ops using List.reverseRecOn generalizing set with
  | nil => rfl
  | append_singleton ops op ih =>
    rw [lists, history, List.foldl_append, List.foldl_append, List.foldl_cons, List.foldl_nil,
      List.foldl_cons, List.foldl_nil]
    by_cases hset : set = op.target
    · rw [hset, Function.update_self, Function.update_self]
      exact listAfter_eq ih op
    · rw [Function.update_of_ne hset, Function.update_of_ne hset]
      exact ih set

/-! ### Everything that can be read -/

/-- A set in memory reads as a list of headers. -/
structure View.Shows (view : View) (list : IncludeSet) : Prop where
  nodup : view.order.Nodup
  mem_iff : ∀ path, path ∈ view.order ↔ (view.flags path).isSome = true
  includes : view.includes = list.entries
  contains : ∀ path, view.contains path = list.contains path
  size : view.size = list.size
  isEmpty : view.isEmpty = list.isEmpty
  render : ∀ remap, view.render remap = list.render remap

private theorem Holds.shows {s : State} {list : IncludeSet} (h : Holds s list) :
    s.view.Shows list := by
  have hlist : list = ⟨s.view.includes⟩ := by rw [h.includes]
  have hlength : s.view.includes.length = s.view.order.length := List.length_map _
  have hempty : s.view.isEmpty = list.isEmpty := by
    rw [hlist, View.isEmpty, View.size, IncludeSet.isEmpty, ← hlength]
    cases s.view.includes <;> rfl
  refine ⟨h.consistent.nodup, h.consistent.mem_iff, h.includes, fun path => ?_, ?_, hempty,
    fun remap => ?_⟩
  · rw [hlist, View.contains_includes h.consistent]
  · rw [hlist, View.size, IncludeSet.size, hlength]
  · rw [View.render, IncludeSet.render, h.includes, hempty]
    split
    · rename_i hnone
      rw [List.isEmpty_iff.mp hnone]
      rfl
    · rfl

/-- After any operations, whatever room arrays get, every set in memory reads as its list, and the
list is what the history of the set says. The next operation on another set changes nothing that
can be seen of it. -/
theorem sets_in_memory_are_lists (room : Nat → Nat) (ops : List Operation) (set : String) :
    ((Store.run room ops).view set).Shows (lists ops set) ∧
      (lists ops set).entries = listed (history ops set) ∧
      ∀ op : Operation, op.target ≠ set →
        (Store.run room (ops ++ [op])).view set = (Store.run room ops).view set := by
  have hrun := represents_run room ops
  refine ⟨(hrun.holds set).shows, ?_, fun op hop => ?_⟩
  · rw [lists_eq_history, IncludeSet.entries_foldl_change]
  · rw [Store.run, List.foldl_append]
    exact (hrun.step room op).2 set hop

/-- A set that is copied, changed and merged with itself and with none. -/
def sampleOperations : List Operation :=
  [.new "a" ["vector", "b.h", "c.h"], .clone "b" (some "a"), .remove "a" ["b.h"],
    .addIncludes "a" [⟨"c.h", false⟩], .add "a" ["b.h"],
    .mergeWith "b" [some "b", none, some "a", some "a"]]

theorem sets_in_memory_are_lists_sampleOperations :
    ((Store.run (fun n => n) sampleOperations).view "a").includes =
        [⟨"vector", false⟩, ⟨"c.h", false⟩, ⟨"b.h", true⟩] ∧
      ((Store.run (fun n => n) sampleOperations).view "b").includes =
        [⟨"vector", false⟩, ⟨"b.h", true⟩, ⟨"c.h", false⟩] := by
  constructor
  · rw [(sets_in_memory_are_lists (fun n => n) sampleOperations "a").1.includes]
    decide
  · rw [(sets_in_memory_are_lists (fun n => n) sampleOperations "b").1.includes]
    decide

end ClientGen.Includes
