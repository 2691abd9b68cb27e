import ClientGen.FileTree
import ClientGen.Proofs.Path.Cleaning
/-!
# Operations on file trees

A path leads to the location that its cleaned parts lead to, if every part on its way is a
directory. Making directories and writing a file add what was missing on the way to the file, and
change nothing else but the file; removing takes away a location and what is below it. In a tree in
which everything is in a directory, all operations keep it so.
-/
namespace ClientGen.FileTree

open ClientGen.Path

variable {tree after : FileTree} {location place : Location} {entry : Entry} {path : String}

/-! ### Entries -/

theorem get?_nil (tree : FileTree) : tree.get? [] = some .directory := rfl

theorem get?_of_ne_nil (h : location ≠ []) : tree.get? location = tree.entries.lookup location := by
  rw [get?, if_neg (by simpa using h)]

theorem ne_nil_of_get? (h : tree.get? location ≠ some .directory) : location ≠ [] := by
  rintro rfl
  exact h rfl

private theorem lookup_cons_eq (place name : Location) (entry : Entry)
    (rest : List (Location × Entry)) : ((name, entry) :: rest).lookup place =
      if place = name then some entry else rest.lookup place := by
  rw [List.lookup_cons]
  by_cases h : place = name
  · simp [h]
  · have hname : (place == name) = false := by simpa using h
    rw [hname, if_neg h]

private theorem lookup_insertEntry (location place : Location) (entry : Entry)
    (entries : List (Location × Entry)) : (insertEntry location entry entries).lookup place =
      if place = location then some entry else entries.lookup place := by
  induction entries with
  | nil => exact lookup_cons_eq ..
  | cons other rest ih =>
    obtain ⟨name, old⟩ := other
    rw [insertEntry, lookup_cons_eq]
    split
    · rename_i hsame
      have hname : location = name := beq_iff_eq.mp hsame
      rw [lookup_cons_eq, hname]
      split
      · rfl
      · rfl
    · rename_i hother
      split
      · rw [lookup_cons_eq, lookup_cons_eq]
      · rw [lookup_cons_eq, ih]
        split
        · rename_i hname
          rw [if_neg]
          rintro rfl
          exact hother (beq_iff_eq.mpr hname)
        · rfl

theorem get?_insert (h : location ≠ []) (entry : Entry) (place : Location) :
    (tree.insert location entry).get? place =
      if place = location then some entry else tree.get? place := by
  by_cases hnil : place = []
  · subst hnil
    rw [if_neg (Ne.symm h), get?_nil, get?_nil]
  · rw [get?_of_ne_nil hnil, get?_of_ne_nil hnil, insert, lookup_insertEntry]

private theorem lookup_filter (keeps : Location → Bool) (place : Location)
    (entries : List (Location × Entry)) : (entries.filter fun e => keeps e.1).lookup place =
      if keeps place then entries.lookup place else none := by
  induction entries with
  | nil => exact (ite_self _).symm
  | cons other rest ih =>
    obtain ⟨name, old⟩ := other
    rw [List.filter_cons, lookup_cons_eq]
    by_cases h : place = name
    · rw [← h, if_pos rfl]
      split
      · rw [lookup_cons_eq, if_pos rfl]
      · rename_i hdropped
        rw [ih, if_neg hdropped]
    · rw [if_neg h, ← ih]
      split
      · rw [lookup_cons_eq, if_neg h]
      · rfl

theorem get?_erase (h : place ≠ []) : (tree.erase location).get? place =
    if location <+: place then none else tree.get? place := by
  rw [get?_of_ne_nil h, get?_of_ne_nil h, erase, lookup_filter fun p => !location.isPrefixOf p]
  by_cases habove : location <+: place
  · have hbool := List.isPrefixOf_iff_prefix.mpr habove
    simp [habove, hbool]
  · have hbool : location.isPrefixOf place = false := by
      rwa [Bool.eq_false_iff, Ne, List.isPrefixOf_iff_prefix]
    simp [habove, hbool]

theorem get?_clear (h : place ≠ []) : (tree.clear location).get? place =
    if location <+: place ∧ location ≠ place then none else tree.get? place := by
  rw [get?_of_ne_nil h, get?_of_ne_nil h, clear,
    lookup_filter fun p => !(location.isPrefixOf p && location != p)]
  have hbool : (!(location.isPrefixOf place && location != place)) = true ↔
      ¬ (location <+: place ∧ location ≠ place) := by
    rw [Bool.not_eq_true', Bool.eq_false_iff, Ne, Bool.and_eq_true, List.isPrefixOf_iff_prefix,
      bne_iff_ne]
  by_cases hbelow : location <+: place ∧ location ≠ place
  · rw [if_pos hbelow, if_neg]
    exact fun hkeeps => hbool.mp hkeeps hbelow
  · rw [if_neg hbelow, if_pos (hbool.mpr hbelow)]

/-! ### Trees in which everything is in a directory -/

/-- Every entry is in a directory. -/
def IsClosed (tree : FileTree) : Prop :=
  ∀ location entry, tree.get? location = some entry →
    tree.get? location.dropLast = some .directory

theorem IsClosed.directory_of_append (h : tree.IsClosed) {more : Location} (hmore : more ≠ [])
    (hentry : tree.get? (location ++ more) = some entry) :
    tree.get? location = some .directory := by
  induction more using List.reverseRecOn generalizing entry with
  | nil => exact absurd rfl hmore
  | append_singleton before name ih =>
    have hparent := h _ _ hentry
    rw [← List.append_assoc, List.dropLast_concat] at hparent
    by_cases hbefore : before = []
    · rwa [hbefore, List.append_nil] at hparent
    · exact ih hbefore hparent

theorem IsClosed.directory_of_prefix (h : tree.IsClosed)
    (hplace : tree.get? place = some .directory) (habove : location <+: place) :
    tree.get? location = some .directory := by
  obtain ⟨more, rfl⟩ := habove
  by_cases hmore : more = []
  · rwa [hmore, List.append_nil] at hplace
  · exact h.directory_of_append hmore hplace

theorem IsClosed.insert (h : tree.IsClosed)
    (hparent : tree.get? location.dropLast = some .directory)
    (hplace : tree.get? location ≠ some .directory) (entry : Entry) :
    (tree.insert location entry).IsClosed := by
  have hne : location ≠ [] := ne_nil_of_get? hplace
  intro place other hother
  rw [get?_insert hne] at hother ⊢
  -- what was no directory before has nothing below it
  have hkept (p : Location) (hp : tree.get? p = some .directory) :
      (if p = location then some entry else tree.get? p) = some .directory := by
    rw [if_neg, hp]
    rintro rfl
    exact hplace hp
  split at hother
  · rename_i heq
    rw [heq]
    exact hkept _ hparent
  · exact hkept _ (h place other hother)

theorem IsClosed.erase (h : tree.IsClosed) (location : Location) :
    (tree.erase location).IsClosed := by
  intro place entry hentry
  by_cases hnil : place.dropLast = []
  · rw [hnil, get?_nil]
  · have hplace : place ≠ [] := by
      rintro rfl
      exact hnil rfl
    rw [get?_erase hplace] at hentry
    rw [get?_erase hnil]
    split at hentry
    · cases hentry
    · rename_i hkept
      rw [if_neg, h place entry hentry]
      exact fun habove => hkept (habove.trans (List.dropLast_prefix place))

/-- Every entry is in a directory, and so is where relative paths start. -/
structure IsSound (tree : FileTree) : Prop where
  closed : tree.IsClosed
  working : tree.get? tree.working = some .directory

/-! ### Where a path leads -/

/-- Where a part of a path leads from a directory. -/
def walk (location : Location) (part : String) : Location :=
  if part == "" || part == "." then location
  else if part == ".." then location.dropLast
  else location ++ [part]

/-- Where a path starts. -/
def origin (working : Location) (path : String) : Location :=
  if isAbsolute path then [] else working

/-- Where a path leads if every part on its way is a directory. -/
def destination (working : Location) (path : String) : Location :=
  (parts path).foldl walk (origin working path)

theorem walk_of_isName {part : String} (h : IsName part) (location : Location) :
    walk location part = location ++ [part] := by
  rw [walk, if_neg, if_neg]
  · simpa using h.up
  · simp [h.empty, h.stay]

theorem foldl_walk_names {names : List String} (h : ∀ name ∈ names, IsName name) :
    ∀ location, names.foldl walk location = location ++ names := by
  induction names with
  | nil => simp
  | cons name rest ih =>
    intro location
    obtain ⟨hname, hrest⟩ := List.forall_mem_cons.mp h
    rw [List.foldl_cons, walk_of_isName hname, ih hrest, List.append_assoc]
    rfl

theorem prefix_foldl_walk_ups (ups : Nat) (location : Location) :
    (List.replicate ups "..").foldl walk location <+: location := by
  induction ups generalizing location with
  | zero => exact List.prefix_rfl
  | succ n ih => exact (ih location.dropLast).trans (List.dropLast_prefix location)

theorem walk_cleanStep {rooted : Bool} {done : List String} {part : String}
    (hdone : IsCleaned rooted done.reverse) {start : Location}
    (hstart : rooted = true → start = []) :
    (cleanStep rooted done part).reverse.foldl walk start =
      walk (done.reverse.foldl walk start) part := by
  have hpush (before : List String) (next : String) : (next :: before).reverse.foldl walk start =
      walk (before.reverse.foldl walk start) next := by
    rw [List.reverse_cons, List.foldl_append, List.foldl_cons, List.foldl_nil]
  unfold cleanStep
  split
  · rename_i hstay
    rw [walk, if_pos hstay]
  · split
    · rename_i hup
      rw [beq_iff_eq.mp hup]
      cases done with
      | nil =>
        cases rooted with
        | true =>
          rw [hstart rfl]
          rfl
        | false => rfl
      | cons last rest =>
        dsimp only
        split
        · rw [hpush]
        · rename_i hlast
          rw [List.reverse_cons] at hdone
          have hname : IsName last := by
            obtain ⟨ups, names, happend, hnames, -⟩ := hdone
            have hmem : last ∈ List.replicate ups ".." ++ names := by simp [← happend]
            rcases List.mem_append.mp hmem with hups | hmem
            · exact absurd (beq_iff_eq.mpr (List.eq_of_mem_replicate hups)) hlast
            · exact hnames last hmem
          rw [hpush, walk_of_isName hname]
          exact List.dropLast_concat.symm
    · exact hpush done part

/-- Cleaning a path does not change where it leads. -/
theorem destination_eq (working : Location) (path : String) :
    destination working path = (cleanParts path).foldl walk (origin working path) := by
  have hstart : isAbsolute path = true → origin working path = [] := by
    intro h
    rw [origin, if_pos h]
  have hfold (all : List String) (hall : ∀ part ∈ all, '/' ∉ part.toList) : ∀ done,
      IsCleaned (isAbsolute path) done.reverse →
        (all.foldl (cleanStep (isAbsolute path)) done).reverse.foldl walk (origin working path) =
          all.foldl walk (done.reverse.foldl walk (origin working path)) := by
    induction all with
    | nil => exact fun _ _ => rfl
    | cons part rest ih =>
      intro done hdone
      obtain ⟨hpart, hrest⟩ := List.forall_mem_cons.mp hall
      rw [List.foldl_cons, List.foldl_cons, ih hrest _ (isCleaned_cleanStep hpart hdone),
        walk_cleanStep hdone hstart]
  exact (hfold _ (fun _ => slash_not_mem_of_mem_parts) []
    ⟨0, [], rfl, List.forall_mem_nil _, fun _ => rfl⟩).symm

theorem destination_clean (working : Location) (path : String) :
    destination working (clean path) = destination working path := by
  rw [destination_eq, destination_eq, cleanParts_clean, origin, isAbsolute_clean, origin]

theorem destination_ofParts {rooted : Bool} {ps : List String} (h : IsCleaned rooted ps)
    (working : Location) : destination working (ofParts rooted ps) =
      ps.foldl walk (if rooted then [] else working) := by
  rw [destination_eq, cleanParts_ofParts h, origin, isAbsolute_ofParts h]

theorem follow_cons {part : String} {rest : List String} {found : Location} :
    tree.follow location (part :: rest) = .ok found ↔
      tree.get? location = some .directory ∧ tree.follow (walk location part) rest = .ok found := by
  rw [follow, walk]
  cases hentry : tree.get? location with
  | none => simp
  | some entry =>
    cases entry with
    | file content => simp
    | directory =>
      dsimp only
      rw [apply_ite fun next => tree.follow next rest,
        apply_ite fun next => tree.follow next rest]
      simp

theorem follow_ok {ps : List String} {found : Location} (h : tree.follow location ps = .ok found) :
    found = ps.foldl walk location := by
  induction ps generalizing location with
  | nil =>
    cases h
    rfl
  | cons part rest ih => exact ih (follow_cons.mp h).2

/-- What leads somewhere leads there in every tree with the same directories and more. -/
theorem follow_mono {ps : List String} {found : Location}
    (hmore : ∀ place, tree.get? place = some .directory → after.get? place = some .directory)
    (h : tree.follow location ps = .ok found) : after.follow location ps = .ok found := by
  induction ps generalizing location with
  | nil => exact h
  | cons part rest ih =>
    obtain ⟨hdirectory, hrest⟩ := follow_cons.mp h
    exact follow_cons.mpr ⟨hmore _ hdirectory, ih hrest⟩

/-- A way that can be followed ends in a directory. -/
theorem IsClosed.parent_of_follow (hclosed : tree.IsClosed) {ps : List String} (hne : ps ≠ [])
    {found : Location} (h : tree.follow location ps = .ok found) :
    tree.get? location = some .directory ∧ tree.get? found.dropLast = some .directory := by
  induction ps generalizing location with
  | nil => exact absurd rfl hne
  | cons part rest ih =>
    obtain ⟨hdirectory, hrest⟩ := follow_cons.mp h
    refine ⟨hdirectory, ?_⟩
    by_cases hlast : rest = []
    · subst hlast
      cases hrest
      rw [walk]
      split
      · exact hclosed _ _ hdirectory
      · split
        · exact hclosed _ _ (hclosed _ _ hdirectory)
        · rwa [List.dropLast_concat]
    · exact (ih hlast hrest).2

/-- Cleaned parts can be followed to every entry that they lead to. -/
theorem IsClosed.follow_of_get? (hclosed : tree.IsClosed) {rooted : Bool} {ps : List String}
    (hps : IsCleaned rooted ps) (hstart : tree.get? location = some .directory)
    (hentry : tree.get? (ps.foldl walk location) = some entry) :
    tree.follow location ps = .ok (ps.foldl walk location) := by
  induction ps generalizing location with
  | nil => rfl
  | cons part rest ih =>
    refine follow_cons.mpr ⟨hstart, ?_⟩
    obtain ⟨ups, names, happend, hnames, hups⟩ := hps
    cases ups with
    | zero =>
      rw [List.replicate_zero, List.nil_append] at happend
      subst happend
      obtain ⟨hname, hrest⟩ := List.forall_mem_cons.mp hnames
      by_cases hlast : rest = []
      · rw [hlast]
        rfl
      · refine ih ⟨0, rest, rfl, hrest, fun _ => rfl⟩ ?_ hentry
        rw [List.foldl_cons, foldl_walk_names hrest] at hentry
        exact hclosed.directory_of_append hlast hentry
    | succ n =>
      rw [List.replicate_succ, List.cons_append, List.cons.injEq] at happend
      obtain ⟨rfl, rfl⟩ := happend
      refine ih ⟨n, names, rfl, hnames, fun hrooted => absurd (hups hrooted) (Nat.succ_ne_zero n)⟩
        ?_ hentry
      exact hclosed _ _ hstart

theorem locate_eq (h : path ≠ "") (tree : FileTree) :
    tree.locate path = tree.follow (origin tree.working path) (parts path) := by
  rw [locate, if_neg (by rwa [String.isEmpty_iff])]
  rfl

theorem locate_ok (h : tree.locate path = .ok location) :
    path ≠ "" ∧ location = destination tree.working path ∧
      tree.follow (origin tree.working path) (parts path) = .ok location := by
  have hne : path ≠ "" := by
    rintro rfl
    cases h
  rw [locate_eq hne] at h
  exact ⟨hne, follow_ok h, h⟩

theorem IsClosed.parent_of_locate (hclosed : tree.IsClosed) (h : tree.locate path = .ok location) :
    tree.get? (origin tree.working path) = some .directory ∧
      tree.get? location.dropLast = some .directory :=
  hclosed.parent_of_follow (parts_ne_nil path) (locate_ok h).2.2

/-! ### What an operation may change -/

/-- After an operation everything is as before, except for files at some locations and for new
directories on some ways. -/
structure Changes (tree after : FileTree) (files ways : Location → Prop) : Prop where
  working : after.working = tree.working
  directories : ∀ place, tree.get? place = some .directory → after.get? place = some .directory
  others : ∀ place, ¬ files place → after.get? place = tree.get? place ∨
    tree.get? place = none ∧ after.get? place = some .directory ∧ ways place

namespace Changes

variable {files ways files' ways' : Location → Prop}

theorem refl (tree : FileTree) (files ways : Location → Prop) : Changes tree tree files ways :=
  ⟨rfl, fun _ h => h, fun _ _ => .inl rfl⟩

theorem mono (h : Changes tree after files ways) (hfiles : ∀ place, files place → files' place)
    (hways : ∀ place, ways place → ways' place) : Changes tree after files' ways' :=
  ⟨h.working, h.directories, fun place hplace =>
    (h.others place fun hfile => hplace (hfiles place hfile)).imp_right fun hnew =>
      ⟨hnew.1, hnew.2.1, hways place hnew.2.2⟩⟩

theorem trans {last : FileTree} (h : Changes tree after files ways)
    (h' : Changes after last files ways) : Changes tree last files ways := by
  refine ⟨h'.working.trans h.working, fun place hplace =>
    h'.directories place (h.directories place hplace), fun place hplace => ?_⟩
  rcases h.others place hplace with heq | ⟨hnone, hmade, hway⟩
  · rw [← heq]
    exact h'.others place hplace
  · exact .inr ⟨hnone, h'.directories place hmade, hway⟩

/-- What was at a location that no file is put at is still there. -/
theorem kept (h : Changes tree after files ways) (hplace : ¬ files place)
    (hentry : tree.get? place = some entry) : after.get? place = some entry := by
  rcases h.others place hplace with heq | ⟨hnone, -⟩
  · rw [heq, hentry]
  · rw [hnone] at hentry
    cases hentry

theorem locate (h : Changes tree after files ways) (hlocate : tree.locate path = .ok location) :
    after.locate path = .ok location := by
  obtain ⟨hne, -, hfollow⟩ := locate_ok hlocate
  rw [locate_eq hne, h.working]
  exact follow_mono h.directories hfollow

end Changes

/-! ### Making directories and writing files -/

theorem makeDirectory_ok (h : tree.makeDirectory path = .ok after) :
    ∃ location, tree.locate path = .ok location ∧
      (tree.get? location = some .directory ∧ after = tree ∨
        tree.get? location = none ∧ after = tree.insert location .directory) := by
  unfold makeDirectory at h
  cases hlocate : tree.locate path with
  | error reason =>
    rw [hlocate] at h
    cases h
  | ok location =>
    rw [hlocate] at h
    dsimp only at h
    refine ⟨location, rfl, ?_⟩
    split at h
    · rename_i hdirectory
      cases h
      exact .inl ⟨hdirectory, rfl⟩
    · cases h
    · rename_i hnone
      cases h
      exact .inr ⟨hnone, rfl⟩

/-- A directory on the way to a location is there already or is added. -/
theorem makeDirectory_changes (hclosed : tree.IsClosed) {rooted : Bool} {before rest : List String}
    (hparts : IsCleaned rooted (before ++ rest))
    (h : tree.makeDirectory (ofParts rooted before) = .ok after) :
    after.IsClosed ∧ Changes tree after (fun _ => False)
      (· <+: (before ++ rest).foldl walk (if rooted then [] else tree.working)) := by
  obtain ⟨location, hlocate, ⟨-, rfl⟩ | ⟨hnone, rfl⟩⟩ := makeDirectory_ok h
  · exact ⟨hclosed, Changes.refl _ _ _⟩
  · obtain ⟨hstart, hparent⟩ := hclosed.parent_of_locate hlocate
    have hplace : tree.get? location ≠ some .directory := by
      rw [hnone]
      nofun
    have hlocation := (locate_ok hlocate).2.1
    rw [destination_ofParts hparts.of_append] at hlocation
    rw [origin, isAbsolute_ofParts hparts.of_append] at hstart
    have hway : location <+: (before ++ rest).foldl walk (if rooted then [] else tree.working) := by
      rcases hparts.cut with ⟨ups, hups⟩ | hnames
      · -- going up leads to what is there already
        rw [hups] at hlocation
        rw [hlocation] at hplace
        exact absurd (hclosed.directory_of_prefix hstart (prefix_foldl_walk_ups ups _)) hplace
      · rw [List.foldl_append, foldl_walk_names hnames, hlocation]
        exact List.prefix_append _ _
    refine ⟨hclosed.insert hparent hplace _, rfl, fun place hdirectory => ?_, fun place _ => ?_⟩
    · rw [get?_insert (ne_nil_of_get? hplace)]
      split
      · rfl
      · exact hdirectory
    · rw [get?_insert (ne_nil_of_get? hplace)]
      split
      · rename_i heq
        rw [heq]
        exact .inr ⟨hnone, rfl, hway⟩
      · exact .inl rfl

theorem ancestry_eq (path : String) : ancestry path =
    (List.range (cleanParts path).length).map fun n =>
      ofParts (isAbsolute path) ((cleanParts path).take (n + 1)) := rfl

/-- Making directories adds those that were missing on the way to the last one. -/
theorem makeDirectories_changes (hclosed : tree.IsClosed)
    (h : tree.makeDirectories path = .ok after) :
    after.IsClosed ∧
      Changes tree after (fun _ => False) (· <+: destination tree.working path) := by
  have hrun (counts : List Nat) : ∀ start : FileTree, start.IsClosed →
      start.working = tree.working →
      (counts.map fun n => ofParts (isAbsolute path) ((cleanParts path).take (n + 1))).foldlM
        makeDirectory start = .ok after →
      after.IsClosed ∧
        Changes start after (fun _ => False) (· <+: destination tree.working path) := by
    induction counts with
    | nil =>
      intro start hstart _ hok
      cases hok
      exact ⟨hstart, Changes.refl _ _ _⟩
    | cons n rest ih =>
      intro start hstart hworking hok
      rw [List.map_cons, List.foldlM_cons] at hok
      cases hmade : start.makeDirectory
          (ofParts (isAbsolute path) ((cleanParts path).take (n + 1))) with
      | error fault =>
        rw [hmade] at hok
        cases hok
      | ok made =>
        rw [hmade] at hok
        have hparts := isCleaned_cleanParts path
        rw [← List.take_append_drop (n + 1) (cleanParts path)] at hparts
        obtain ⟨hclosed', hstep⟩ := makeDirectory_changes hstart hparts hmade
        rw [List.take_append_drop, hworking, ← origin, ← destination_eq] at hstep
        obtain ⟨hlast, hchanges⟩ := ih made hclosed' (hstep.working.trans hworking) hok
        exact ⟨hlast, hstep.trans hchanges⟩
  rw [makeDirectories, ancestry_eq] at h
  exact hrun _ tree hclosed rfl h

/-- Writing a file changes nothing but the file. -/
theorem write_changes (hclosed : tree.IsClosed) {content : String}
    (h : tree.write path content = .ok after) :
    after.IsClosed ∧ after.get? (destination tree.working path) = some (.file content) ∧
      after.locate path = .ok (destination tree.working path) ∧
      Changes tree after (· = destination tree.working path) (fun _ => False) := by
  unfold write at h
  cases hlocate : tree.locate path with
  | error reason =>
    rw [hlocate] at h
    cases h
  | ok location =>
    rw [hlocate] at h
    dsimp only at h
    split at h
    · cases h
    · rename_i hplace
      cases h
      obtain ⟨-, hlocation, -⟩ := locate_ok hlocate
      have hget (other : Location) : (tree.insert location (.file content)).get? other =
          if other = location then some (.file content) else tree.get? other :=
        get?_insert (ne_nil_of_get? hplace) _ other
      have hchanges : Changes tree (tree.insert location (.file content)) (· = location)
          (fun _ => False) := by
        refine ⟨rfl, fun place hdirectory => ?_, fun place hother => ?_⟩
        · rw [hget, if_neg, hdirectory]
          rintro rfl
          exact hplace hdirectory
        · rw [hget, if_neg hother]
          exact .inl rfl
      rw [← hlocation]
      refine ⟨hclosed.insert (hclosed.parent_of_locate hlocate).2 hplace _, ?_,
        hchanges.locate hlocate, hchanges⟩
      rw [hget, if_pos rfl]

theorem read_of_locate {content : String} (hlocate : tree.locate path = .ok location)
    (h : tree.get? location = some (.file content)) : tree.read path = .ok content := by
  have hfind : tree.find path = .ok (location, .file content) := by
    simp only [find, hlocate, bind, Except.bind, h]
    rfl
  rw [read, hfind]

/-! ### Removing -/

/-- A cleaned path can be followed to every entry that it leads to. -/
theorem IsSound.locate_of_get? (hsound : tree.IsSound) {rooted : Bool} {ps : List String}
    (hps : IsCleaned rooted ps) (hne : ps ≠ [])
    (hentry : tree.get? (destination tree.working (ofParts rooted ps)) = some entry) :
    tree.locate (ofParts rooted ps) = .ok (destination tree.working (ofParts rooted ps)) := by
  have hsome := ofParts_ne_empty hps hne
  rw [destination_ofParts hps] at hentry ⊢
  rw [locate_eq hsome, origin, isAbsolute_ofParts hps, parts_ofParts hne hps.slash_free]
  cases rooted with
  | true => exact follow_cons.mpr ⟨rfl, hsound.closed.follow_of_get? hps rfl hentry⟩
  | false => exact hsound.closed.follow_of_get? hps hsound.working hentry

/-- If nothing failed, what a cleaned path leads to is gone with everything below it, and everything
else is as it was. -/
theorem removeAll_ok (hsound : tree.IsSound) {rooted : Bool} {ps : List String}
    (hps : IsCleaned rooted ps) (hne : ps ≠ [])
    (h : tree.removeAll (ofParts rooted ps) = (after, none)) :
    after.IsClosed ∧ after.working = tree.working ∧ ∀ place ≠ [], after.get? place =
      if destination tree.working (ofParts rooted ps) <+: place then none
      else tree.get? place := by
  unfold removeAll at h
  dsimp only at h
  cases hlocate : tree.locate (ofParts rooted ps) with
  | ok location =>
    rw [hlocate] at h
    dsimp only at h
    split at h
    · cases h
    · cases h
      rw [← (locate_ok hlocate).2.1]
      exact ⟨hsound.closed.erase location, rfl, fun place hplace => get?_erase hplace⟩
  | error reason =>
    rw [hlocate] at h
    cases reason with
    | missing =>
      cases h
      refine ⟨hsound.closed, rfl, fun place _ => ?_⟩
      split
      · rename_i hbelow
        -- an entry could be followed to, and so could what is above it
        by_contra hentry
        obtain ⟨entry, hentry⟩ := Option.ne_none_iff_exists'.mp hentry
        obtain ⟨found, hfound⟩ : ∃ found,
            tree.get? (destination tree.working (ofParts rooted ps)) = some found := by
          obtain ⟨more, rfl⟩ := hbelow
          by_cases hmore : more = []
          · rw [hmore, List.append_nil] at hentry
            exact ⟨entry, hentry⟩
          · exact ⟨_, hsound.closed.directory_of_append hmore hentry⟩
        rw [hsound.locate_of_get? hps hne hfound] at hlocate
        cases hlocate
      · rfl
    | notDirectory => cases h
    | isDirectory => cases h
    | notEmpty => cases h

/-- Whatever failed, nothing changed outside of what the path leads to. -/
theorem removeAll_outside (tree : FileTree) (h : ¬ destination tree.working path <+: place) :
    (tree.removeAll path).1.get? place = tree.get? place := by
  have hplace : place ≠ [] ∨ place = [] := ne_or_eq place []
  unfold removeAll
  dsimp only
  split
  · rename_i location hlocate
    rw [← (locate_ok hlocate).2.1] at h
    rcases hplace with hne | rfl
    · split
      · exact (get?_clear hne).trans (if_neg fun hbelow => h hbelow.1)
      · exact (get?_erase hne).trans (if_neg h)
    · split
      · rfl
      · rfl
  · rfl
  · rfl

/-- A way of steps up is emptied, and then it cannot be removed. -/
theorem removeAll_ups (hsound : tree.IsSound) (n : Nat)
    (hpath : path = ofParts false (List.replicate (n + 1) "..")) : tree.removeAll path =
      (tree.clear (destination tree.working path),
        some ⟨"unlinkat", Path.directory path ++ "/..", .notEmpty⟩) := by
  have hcleaned := isCleaned_replicate_up (n + 1)
  have hbase : base path = ".." := by
    rw [hpath]
    rw [List.replicate_succ'] at hcleaned ⊢
    exact base_ofParts (by decide) hcleaned
  have hentry : tree.get? (destination tree.working path) = some .directory := by
    rw [hpath, destination_ofParts hcleaned]
    exact hsound.closed.directory_of_prefix hsound.working (prefix_foldl_walk_ups _ _)
  have hlocate : tree.locate path = .ok (destination tree.working path) := by
    rw [hpath] at hentry ⊢
    exact hsound.locate_of_get? hcleaned (by simp) hentry
  unfold removeAll
  rw [hlocate]
  dsimp only
  rw [hbase]
  rfl

/-! ### Trees of files -/

private theorem lookup_directories (entries : List Location) (place : Location) :
    (entries.map fun name => (name, Entry.directory)).lookup place =
      if place ∈ entries then some .directory else none := by
  induction entries with
  | nil => rfl
  | cons name rest ih =>
    rw [List.map_cons, lookup_cons_eq, ih]
    by_cases h : place = name
    · simp [h]
    · simp [h]

private theorem get?_bare (working place : Location) : (bare working).get? place =
    if place <+: working then some .directory else none := by
  by_cases hnil : place = []
  · rw [hnil, get?_nil, if_pos (List.nil_prefix)]
  · have hentries : (bare working).entries =
        ((List.range working.length).map fun n => working.take (n + 1)).map
          fun name => (name, Entry.directory) := by
      rw [List.map_map]
      rfl
    have hmem : place ∈ ((List.range working.length).map fun n => working.take (n + 1)) ↔
        place <+: working := by
      constructor
      · intro h
        obtain ⟨n, -, rfl⟩ := List.mem_map.mp h
        exact List.take_prefix _ _
      · intro h
        have hlength : place.length ≠ 0 := by rwa [Ne, List.length_eq_zero_iff]
        have hle := h.length_le
        refine List.mem_map.mpr ⟨place.length - 1, List.mem_range.mpr (by omega), ?_⟩
        rw [Nat.sub_add_cancel (Nat.pos_of_ne_zero hlength)]
        exact (List.prefix_iff_eq_take.mp h).symm
    rw [get?_of_ne_nil hnil, hentries, lookup_directories]
    simp only [hmem]

theorem bare_isSound (working : Location) : (bare working).IsSound := by
  constructor
  · intro place entry h
    rw [get?_bare] at h ⊢
    split at h
    · rename_i habove
      rw [if_pos ((List.dropLast_prefix place).trans habove)]
    · cases h
  · exact (get?_bare working working).trans (if_pos List.prefix_rfl)

theorem makeDirectories_isSound (hsound : tree.IsSound)
    (h : tree.makeDirectories path = .ok after) :
    after.IsSound := by
  obtain ⟨hclosed, hchanges⟩ := makeDirectories_changes hsound.closed h
  refine ⟨hclosed, ?_⟩
  rw [hchanges.working]
  exact hchanges.directories _ hsound.working

theorem write_isSound (hsound : tree.IsSound) {content : String}
    (h : tree.write path content = .ok after) : after.IsSound := by
  obtain ⟨hclosed, -, -, hchanges⟩ := write_changes hsound.closed h
  refine ⟨hclosed, ?_⟩
  rw [hchanges.working]
  exact hchanges.directories _ hsound.working

theorem place_isSound (hsound : tree.IsSound) (path content : String) :
    (tree.place path content).IsSound := by
  unfold place
  dsimp only
  split
  · rename_i made hmade
    split at hmade
    · exact makeDirectories_isSound hsound hmade
    · cases hdirectories : tree.makeDirectories (Path.directory path) with
      | error fault =>
        rw [hdirectories] at hmade
        cases hmade
      | ok start =>
        rw [hdirectories] at hmade
        exact write_isSound (makeDirectories_isSound hsound hdirectories) hmade
  · exact hsound

/-- In a tree of files everything is in a directory. -/
theorem ofFiles_isSound (working : Location) (files : List (String × String)) :
    (ofFiles working files).IsSound := by
  have hfold : ∀ tree : FileTree, tree.IsSound →
      (files.foldl (fun tree file => tree.place file.1 file.2) tree).IsSound := by
    induction files with
    | nil => exact fun _ h => h
    | cons file rest ih => exact fun tree h => ih _ (place_isSound h file.1 file.2)
  exact hfold _ (bare_isSound working)

end ClientGen.FileTree
