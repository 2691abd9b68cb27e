import Mathlib.Data.List.TakeWhile
import ClientGen.Path
import ClientGen.Proofs.Lists
/-!
# Cleaned paths

A cleaned path has steps up first, which a path from the root has not, and names behind them.
Cleaning such a path again changes nothing. A local path takes no step up once it is cleaned, so
below a directory its parts stand behind those of the directory.
-/
namespace ClientGen.Path

/-! ### Parts -/

theorem parts_ne_nil (path : String) : parts path ≠ [] := by
  rw [parts, Ne, List.map_eq_nil_iff]
  exact List.splitOn_ne_nil _ _

theorem slash_not_mem_of_mem_parts {path part : String} (h : part ∈ parts path) :
    '/' ∉ part.toList := by
  obtain ⟨chars, hchars, rfl⟩ := List.mem_map.mp h
  rw [String.toList_ofList]
  exact not_mem_of_mem_splitOn hchars

theorem parts_append_slash (s t : String) : parts (s ++ "/" ++ t) = parts s ++ parts t := by
  have hlist : (s ++ "/" ++ t).toList = s.toList ++ '/' :: t.toList := by simp
  rw [parts, hlist, List.splitOn_append_cons_self, List.map_append, parts, parts]

theorem parts_of_slash_free {s : String} (h : '/' ∉ s.toList) : parts s = [s] := by
  rw [parts, List.splitOn_eq_singleton h, List.map_singleton, String.ofList_toList]

theorem parts_intercalate {ps : List String} (hne : ps ≠ []) (h : ∀ part ∈ ps, '/' ∉ part.toList) :
    parts (String.intercalate "/" ps) = ps := by
  induction ps with
  | nil => exact absurd rfl hne
  | cons part rest ih =>
    obtain ⟨hpart, hrest⟩ := List.forall_mem_cons.mp h
    cases rest with
    | nil => exact parts_of_slash_free hpart
    | cons next more =>
      rw [String.intercalate_cons_cons, parts_append_slash, parts_of_slash_free hpart,
        ih (List.cons_ne_nil _ _) hrest]
      rfl

theorem intercalate_concat {init : List String} (hne : init ≠ []) (name : String) :
    String.intercalate "/" (init ++ [name]) = String.intercalate "/" init ++ "/" ++ name := by
  induction init with
  | nil => exact absurd rfl hne
  | cons part rest ih =>
    cases rest with
    | nil => rfl
    | cons next more =>
      rw [List.cons_append, List.cons_append, String.intercalate_cons_cons,
        String.intercalate_cons_cons, ← List.cons_append, ih (List.cons_ne_nil _ _)]
      simp only [String.append_assoc]

/-! ### What cleaning leaves -/

/-- A part that is the name of an entry. -/
structure IsName (part : String) : Prop where
  empty : part ≠ ""
  stay : part ≠ "."
  up : part ≠ ".."
  slash : '/' ∉ part.toList

/-- Steps up, only without a root, and names behind them. -/
def IsCleaned (rooted : Bool) (ps : List String) : Prop :=
  ∃ ups names, ps = List.replicate ups ".." ++ names ∧ (∀ name ∈ names, IsName name) ∧
    (rooted = true → ups = 0)

theorem cleanStep_of_isName {rooted : Bool} {part : String} (h : IsName part)
    (done : List String) : cleanStep rooted done part = part :: done := by
  unfold cleanStep
  rw [if_neg, if_neg]
  · simpa using h.up
  · simp [h.empty, h.stay]

theorem foldl_cleanStep_names {rooted : Bool} {names : List String}
    (h : ∀ name ∈ names, IsName name) : ∀ done,
      names.foldl (cleanStep rooted) done = names.reverse ++ done := by
  induction names with
  | nil => exact fun _ => rfl
  | cons name rest ih =>
    intro done
    obtain ⟨hname, hrest⟩ := List.forall_mem_cons.mp h
    rw [List.foldl_cons, cleanStep_of_isName hname, ih hrest, List.reverse_cons, List.append_assoc]
    rfl

theorem foldl_cleanStep_ups (ups : Nat) :
    (List.replicate ups "..").foldl (cleanStep false) [] = List.replicate ups ".." := by
  induction ups with
  | zero => rfl
  | succ n ih =>
    rw [List.replicate_succ', List.foldl_append, ih, List.foldl_cons, List.foldl_nil,
      ← List.replicate_succ', List.replicate_succ]
    cases n <;> rfl

/-- One more part leaves what is cleaned cleaned. -/
theorem isCleaned_cleanStep {rooted : Bool} {done : List String} {part : String}
    (hpart : '/' ∉ part.toList) (h : IsCleaned rooted done.reverse) :
    IsCleaned rooted (cleanStep rooted done part).reverse := by
  unfold cleanStep
  split
  · exact h
  · rename_i hstay
    rw [Bool.or_eq_true, beq_iff_eq, beq_iff_eq, not_or] at hstay
    obtain ⟨ups, names, hdone, hnames, hups⟩ := h
    rw [List.reverse_eq_iff, List.reverse_append, List.reverse_replicate] at hdone
    split
    · -- a step up takes back the name before it, if there is one
      rcases List.eq_nil_or_concat names with rfl | ⟨before, last, rfl⟩
      · rw [List.reverse_nil, List.nil_append] at hdone
        cases ups with
        | zero =>
          rw [hdone]
          cases rooted with
          | true => exact ⟨0, [], rfl, List.forall_mem_nil _, fun _ => rfl⟩
          | false => exact ⟨1, [], rfl, List.forall_mem_nil _, nofun⟩
        | succ n =>
          rw [hdone, List.replicate_succ]
          refine ⟨n + 2, [], ?_, List.forall_mem_nil _, fun hrooted => absurd (hups hrooted) ?_⟩
          · simp [List.replicate_succ']
          · exact Nat.succ_ne_zero n
      · rw [List.concat_eq_append, List.forall_mem_append, List.forall_mem_singleton] at hnames
        rw [List.concat_eq_append, List.reverse_append, List.reverse_singleton] at hdone
        have hlast : (last == "..") = false := by simpa using hnames.2.up
        rw [hdone]
        simp only [List.cons_append, List.nil_append, hlast]
        exact ⟨ups, before, by simp, hnames.1, hups⟩
    · rename_i hup
      refine ⟨ups, names ++ [part], ?_, ?_, hups⟩
      · rw [List.reverse_cons, hdone]
        simp
      · rw [List.forall_mem_append, List.forall_mem_singleton]
        exact ⟨hnames, hstay.1, hstay.2, by simpa using hup, hpart⟩

theorem isCleaned_cleanParts (path : String) : IsCleaned (isAbsolute path) (cleanParts path) := by
  have hfold (all : List String) (hall : ∀ part ∈ all, '/' ∉ part.toList) : ∀ done,
      IsCleaned (isAbsolute path) done.reverse →
        IsCleaned (isAbsolute path) (all.foldl (cleanStep (isAbsolute path)) done).reverse := by
    induction all with
    | nil => exact fun _ h => h
    | cons part rest ih =>
      intro done h
      obtain ⟨hpart, hrest⟩ := List.forall_mem_cons.mp hall
      exact ih hrest _ (isCleaned_cleanStep hpart h)
  exact hfold _ (fun _ => slash_not_mem_of_mem_parts) _
    ⟨0, [], rfl, List.forall_mem_nil _, fun _ => rfl⟩

theorem isCleaned_replicate_up (n : Nat) : IsCleaned false (List.replicate n "..") :=
  ⟨n, [], (List.append_nil _).symm, List.forall_mem_nil _, nofun⟩

namespace IsCleaned

variable {rooted : Bool} {ps : List String}

theorem slash_free (h : IsCleaned rooted ps) : ∀ part ∈ ps, '/' ∉ part.toList := by
  obtain ⟨ups, names, rfl, hnames, -⟩ := h
  intro part hpart
  rcases List.mem_append.mp hpart with hup | hname
  · rw [List.eq_of_mem_replicate hup]
    decide
  · exact (hnames part hname).slash

theorem foldl_cleanStep (h : IsCleaned rooted ps) :
    (ps.foldl (cleanStep rooted) []).reverse = ps := by
  obtain ⟨ups, names, rfl, hnames, hups⟩ := h
  have hfirst : (List.replicate ups "..").foldl (cleanStep rooted) [] =
      List.replicate ups ".." := by
    cases rooted with
    | true =>
      rw [hups rfl]
      rfl
    | false => exact foldl_cleanStep_ups ups
  rw [List.foldl_append, hfirst, foldl_cleanStep_names hnames, List.reverse_append,
    List.reverse_replicate, List.reverse_reverse]

/-- Without a step up in front there are only names. -/
theorem names_of_head? (h : IsCleaned rooted ps) (hhead : ps.head? ≠ some "..") :
    ∀ name ∈ ps, IsName name := by
  obtain ⟨ups, names, rfl, hnames, -⟩ := h
  cases ups with
  | zero => simpa using hnames
  | succ n => simp [List.replicate_succ] at hhead

/-- From the root there is no step up. -/
theorem up_not_mem (h : IsCleaned true ps) : ".." ∉ ps := by
  obtain ⟨ups, names, rfl, hnames, hups⟩ := h
  rw [hups rfl, List.replicate_zero, List.nil_append]
  exact fun hup => (hnames _ hup).up rfl

theorem append_names (h : IsCleaned rooted ps) {names : List String}
    (hnames : ∀ name ∈ names, IsName name) : IsCleaned rooted (ps ++ names) := by
  obtain ⟨ups, before, rfl, hbefore, hups⟩ := h
  exact ⟨ups, before ++ names, List.append_assoc .., List.forall_mem_append.mpr ⟨hbefore, hnames⟩,
    hups⟩

theorem of_append {before after : List String} (h : IsCleaned rooted (before ++ after)) :
    IsCleaned rooted before := by
  obtain ⟨ups, names, happend, hnames, hups⟩ := h
  rcases List.append_eq_append_iff.mp happend with ⟨middle, hbefore, -⟩ | ⟨middle, hbefore, hrest⟩
  · obtain ⟨hlength, hfirst, -⟩ := List.append_eq_replicate_iff.mp hbefore.symm
    refine ⟨before.length, [], ?_, List.forall_mem_nil _, fun hrooted => ?_⟩
    · rw [List.append_nil]
      exact hfirst
    · have hzero := hups hrooted
      omega
  · rw [hrest, List.forall_mem_append] at hnames
    exact ⟨ups, middle, hbefore, hnames.1, hups⟩

/-- Where cleaned parts are cut, there are only steps up in front or only names behind. -/
theorem cut {before after : List String} (h : IsCleaned rooted (before ++ after)) :
    (∃ ups, before = List.replicate ups "..") ∨ ∀ name ∈ after, IsName name := by
  obtain ⟨ups, names, happend, hnames, -⟩ := h
  rcases List.append_eq_append_iff.mp happend with ⟨middle, hbefore, -⟩ | ⟨middle, -, hrest⟩
  · exact .inl ⟨_, (List.append_eq_replicate_iff.mp hbefore.symm).2.1⟩
  · rw [hrest, List.forall_mem_append] at hnames
    exact .inr hnames.2

end IsCleaned

/-! ### Paths of given parts -/

/-- The path of some parts, from the root or not. -/
def ofParts (rooted : Bool) (ps : List String) : String :=
  (if rooted then "/" else "") ++ String.intercalate "/" ps

section

variable {rooted : Bool} {ps : List String}

theorem ofParts_concat (hne : ps ≠ []) (part : String) :
    ofParts rooted (ps ++ [part]) = ofParts rooted ps ++ "/" ++ part := by
  rw [ofParts, ofParts, intercalate_concat hne]
  simp only [String.append_assoc]

theorem parts_ofParts (hne : ps ≠ []) (h : ∀ part ∈ ps, '/' ∉ part.toList) :
    parts (ofParts rooted ps) = if rooted then "" :: ps else ps := by
  cases rooted with
  | true =>
    have hroot := parts_append_slash "" (String.intercalate "/" ps)
    rw [parts_intercalate hne h] at hroot
    exact hroot
  | false =>
    change parts ("" ++ String.intercalate "/" ps) = ps
    rw [String.empty_append, parts_intercalate hne h]

theorem isAbsolute_ofParts (h : IsCleaned rooted ps) : isAbsolute (ofParts rooted ps) = rooted := by
  cases rooted with
  | true => simp [isAbsolute, ofParts]
  | false =>
    change isAbsolute ("" ++ String.intercalate "/" ps) = false
    rw [String.empty_append, isAbsolute, beq_eq_false_iff_ne]
    cases ps with
    | nil => decide
    | cons part rest =>
      obtain ⟨hpart, -⟩ := List.forall_mem_cons.mp h.slash_free
      have hempty : part.toList ≠ [] := by
        obtain ⟨ups, names, hps, hnames, -⟩ := h
        cases ups with
        | zero =>
          rw [List.replicate_zero, List.nil_append] at hps
          subst hps
          rw [Ne, String.toList_eq_nil_iff]
          exact (hnames part List.mem_cons_self).empty
        | succ n =>
          rw [List.replicate_succ, List.cons_append, List.cons.injEq] at hps
          rw [hps.1]
          decide
      obtain ⟨c, chars, hchars⟩ := List.exists_cons_of_ne_nil hempty
      have hc : c ≠ '/' := by
        rintro rfl
        exact hpart (hchars ▸ List.mem_cons_self)
      cases rest with
      | nil =>
        rw [String.intercalate_singleton, hchars]
        simpa using hc
      | cons next more =>
        rw [String.intercalate_cons_cons, String.toList_append, String.toList_append, hchars]
        simpa using hc

theorem cleanParts_ofParts (h : IsCleaned rooted ps) : cleanParts (ofParts rooted ps) = ps := by
  rw [cleanParts, isAbsolute_ofParts h]
  by_cases hne : ps = []
  · subst hne
    cases rooted <;> decide
  · rw [parts_ofParts hne h.slash_free]
    cases rooted with
    | true => exact h.foldl_cleanStep
    | false => exact h.foldl_cleanStep

theorem ofParts_ne_empty (h : IsCleaned rooted ps) (hne : ps ≠ []) : ofParts rooted ps ≠ "" := by
  intro hempty
  have hparts := cleanParts_ofParts h
  rw [hempty] at hparts
  exact hne (hparts.symm.trans (by decide))

end

/-! ### Cleaning twice -/

theorem clean_eq (path : String) :
    clean path = ofParts (isAbsolute path) (cleanParts path) ∨
      isAbsolute path = false ∧ cleanParts path = [] ∧ clean path = "." := by
  unfold clean ofParts
  cases hrooted : isAbsolute path with
  | true => exact .inl rfl
  | false =>
    dsimp only
    rw [if_neg Bool.false_ne_true, if_neg Bool.false_ne_true, String.empty_append]
    split
    · rename_i hempty
      refine .inr ⟨rfl, ?_, rfl⟩
      by_contra hne
      have hparts := parts_intercalate hne (isCleaned_cleanParts path).slash_free
      obtain ⟨ups, names, hps, hnames, -⟩ := isCleaned_cleanParts path
      rw [String.isEmpty_iff.mp hempty] at hparts
      have hmem : "" ∈ List.replicate ups ".." ++ names := by
        rw [← hps, ← hparts]
        decide
      rcases List.mem_append.mp hmem with hup | hname
      · exact absurd (List.eq_of_mem_replicate hup) (by decide)
      · exact (hnames _ hname).empty rfl
    · exact .inl rfl

theorem isAbsolute_clean (path : String) : isAbsolute (clean path) = isAbsolute path := by
  rcases clean_eq path with h | ⟨hrooted, -, h⟩
  · rw [h, isAbsolute_ofParts (isCleaned_cleanParts path)]
  · rw [h, hrooted]
    decide

theorem cleanParts_clean (path : String) : cleanParts (clean path) = cleanParts path := by
  rcases clean_eq path with h | ⟨-, hparts, h⟩
  · rw [h, cleanParts_ofParts (isCleaned_cleanParts path)]
  · rw [h, hparts]
    decide

/-- A path is cleaned to another one exactly if both start alike and keep the same parts. -/
theorem clean_eq_clean_iff {path other : String} :
    clean path = clean other ↔
      isAbsolute path = isAbsolute other ∧ cleanParts path = cleanParts other := by
  constructor
  · intro h
    rw [← isAbsolute_clean path, ← cleanParts_clean path, h, isAbsolute_clean, cleanParts_clean]
    exact ⟨rfl, rfl⟩
  · rintro ⟨hrooted, hparts⟩
    unfold clean
    rw [hrooted, hparts]

theorem clean_ne_empty (path : String) : clean path ≠ "" := by
  unfold clean
  dsimp only
  split
  · simp
  · split
    · decide
    · rename_i hempty
      rwa [String.isEmpty_iff] at hempty

/-! ### Below a directory -/

/-- A step up that cleaning keeps is never taken back. -/
theorem not_mem_of_cleanStep {done : List String} {part : String}
    (h : ".." ∉ cleanStep false done part) : ".." ∉ done := by
  unfold cleanStep at h
  split at h
  · exact h
  · split at h
    · cases done with
      | nil => exact List.not_mem_nil
      | cons last rest =>
        dsimp only at h
        split at h
        · exact absurd List.mem_cons_self h
        · rename_i hlast
          rw [List.mem_cons, not_or]
          exact ⟨fun heq => hlast (beq_iff_eq.mpr heq.symm), h⟩
    · rw [List.mem_cons, not_or] at h
      exact h.2

theorem cleanStep_append (rooted : Bool) {done : List String} {part : String}
    (h : ".." ∉ cleanStep false done part) (start : List String) :
    cleanStep rooted (done ++ start) part = cleanStep false done part ++ start := by
  unfold cleanStep at h ⊢
  split
  · rfl
  · rename_i hstay
    rw [if_neg hstay] at h
    split
    · rename_i hup
      rw [if_pos hup] at h
      cases done with
      | nil => exact absurd List.mem_cons_self h
      | cons last rest =>
        dsimp only [List.cons_append] at h ⊢
        split
        · rfl
        · rfl
    · rfl

/-- Parts that take no step up once they are cleaned can be cleaned on top of others. -/
theorem foldl_cleanStep_of_not_mem (rooted : Bool) (start all : List String)
    (h : ".." ∉ all.foldl (cleanStep false) []) :
    all.foldl (cleanStep rooted) start = all.foldl (cleanStep false) [] ++ start := by
  induction all using List.reverseRecOn with
  | nil => rfl
  | append_singleton before part ih =>
    rw [List.foldl_append, List.foldl_cons, List.foldl_nil] at h ⊢
    rw [List.foldl_append, List.foldl_cons, List.foldl_nil, ih (not_mem_of_cleanStep h),
      cleanStep_append rooted h]

section

variable {path : String}

theorem isAbsolute_of_isLocal (h : isLocal path = true) : isAbsolute path = false := by
  rw [isLocal, Bool.and_eq_true, Bool.and_eq_true] at h
  simpa using h.1.2

theorem ne_empty_of_isLocal (h : isLocal path = true) : path ≠ "" := by
  rw [isLocal, Bool.and_eq_true, Bool.and_eq_true] at h
  simpa using h.1.1

/-- The parts of a local path are names once it is cleaned. -/
theorem isName_of_isLocal (h : isLocal path = true) : ∀ name ∈ cleanParts path, IsName name := by
  refine (isCleaned_cleanParts path).names_of_head? ?_
  rw [isLocal, Bool.and_eq_true] at h
  simpa using h.2

theorem isAbsolute_append_slash {directory : String} (h : directory ≠ "") (rest : String) :
    isAbsolute (directory ++ "/" ++ rest) = isAbsolute directory := by
  have hlist : directory.toList ≠ [] := by rwa [Ne, String.toList_eq_nil_iff]
  obtain ⟨c, chars, hchars⟩ := List.exists_cons_of_ne_nil hlist
  simp [isAbsolute, hchars]

theorem join_eq_clean {directory : String} (hdirectory : directory ≠ "") (hpath : path ≠ "") :
    join directory path = clean (directory ++ "/" ++ path) := by
  rw [join, String.isEmpty_eq_false_iff.mpr hdirectory, String.isEmpty_eq_false_iff.mpr hpath]
  rfl

/-- A local path below a directory, cleaned: the parts of the directory and behind them its own. -/
theorem join_of_isLocal {directory : String} (hdirectory : directory ≠ "")
    (h : isLocal path = true) :
    isAbsolute (join directory path) = isAbsolute directory ∧
      cleanParts (join directory path) = cleanParts directory ++ cleanParts path := by
  have hnames := isName_of_isLocal h
  have hups : ".." ∉ (parts path).foldl (cleanStep false) [] := by
    intro hmem
    refine (hnames ".." ?_).up rfl
    rw [cleanParts, isAbsolute_of_isLocal h]
    exact List.mem_reverse.mpr hmem
  rw [join_eq_clean hdirectory (ne_empty_of_isLocal h), isAbsolute_clean, cleanParts_clean,
    isAbsolute_append_slash hdirectory]
  refine ⟨rfl, ?_⟩
  rw [cleanParts, isAbsolute_append_slash hdirectory, parts_append_slash, List.foldl_append,
    foldl_cleanStep_of_not_mem _ _ _ hups, List.reverse_append, cleanParts, cleanParts,
    isAbsolute_of_isLocal h]

theorem clean_eq_dot_iff (h : isLocal path = true) : clean path = "." ↔ cleanParts path = [] := by
  constructor
  · intro hdot
    rw [← cleanParts_clean, hdot]
    decide
  · intro hnone
    rw [clean, isAbsolute_of_isLocal h, hnone]
    decide

theorem join_eq_ofParts {directory : String} (hdirectory : directory ≠ "")
    (h : isLocal path = true) (hsome : cleanParts path ≠ []) : join directory path =
      ofParts (isAbsolute directory) (cleanParts directory ++ cleanParts path) := by
  obtain ⟨hrooted, hparts⟩ := join_of_isLocal hdirectory h
  rw [← hrooted, ← hparts]
  rcases clean_eq (directory ++ "/" ++ path) with hclean | ⟨-, hnone, -⟩
  · rw [join_eq_clean hdirectory (ne_empty_of_isLocal h), isAbsolute_clean, cleanParts_clean]
    exact hclean
  · rw [join_eq_clean hdirectory (ne_empty_of_isLocal h), cleanParts_clean, hnone] at hparts
    exact absurd (List.append_eq_nil_iff.mp hparts.symm).2 hsome

end

/-! ### The directory of a path -/

theorem bne_slash_of_mem_reverse {name : String} (h : '/' ∉ name.toList) :
    ∀ c ∈ name.toList.reverse, (c != '/') = true := by
  intro c hc
  rw [bne_iff_ne]
  rintro rfl
  exact h (List.mem_reverse.mp hc)

theorem beforeLast_of_slash_free {name : String} (h : '/' ∉ name.toList) :
    beforeLast name = "" := by
  have hdrop : name.toList.reverse.dropWhile (· != '/') = [] := by
    rw [List.dropWhile_eq_nil_iff]
    exact bne_slash_of_mem_reverse h
  rw [beforeLast, hdrop]
  rfl

theorem beforeLast_append (before : String) {name : String} (h : '/' ∉ name.toList) :
    beforeLast (before ++ "/" ++ name) = before ++ "/" := by
  have hlist : (before ++ "/" ++ name).toList.reverse =
      name.toList.reverse ++ '/' :: before.toList.reverse := by simp
  rw [beforeLast, hlist, List.dropWhile_append_of_pos (bne_slash_of_mem_reverse h),
    List.dropWhile_cons_of_neg (by decide),
    List.reverse_cons, List.reverse_reverse, String.ofList_append, String.ofList_toList]

theorem cleanParts_append_slash {before : String} (h : before ≠ "") :
    isAbsolute (before ++ "/") = isAbsolute before ∧
      cleanParts (before ++ "/") = cleanParts before := by
  have hslash : before ++ "/" = before ++ "/" ++ "" := String.append_empty.symm
  have hrooted : isAbsolute (before ++ "/") = isAbsolute before := by
    rw [hslash, isAbsolute_append_slash h]
  refine ⟨hrooted, ?_⟩
  rw [cleanParts, hrooted, hslash, parts_append_slash, List.foldl_append]
  rfl

/-- The directory of a cleaned path lacks its last name. -/
theorem directory_ofParts {rooted : Bool} {init : List String} {name : String}
    (h : IsCleaned rooted (init ++ [name])) :
    isAbsolute (directory (ofParts rooted (init ++ [name]))) = rooted ∧
      cleanParts (directory (ofParts rooted (init ++ [name]))) = init := by
  have hinit : IsCleaned rooted init := h.of_append
  have hname : '/' ∉ name.toList :=
    h.slash_free name (List.mem_append_right _ List.mem_cons_self)
  rw [directory, isAbsolute_clean, cleanParts_clean]
  by_cases hne : init = []
  · subst hne
    rw [List.nil_append, ofParts, String.intercalate_singleton]
    cases rooted with
    | true =>
      rw [if_pos rfl, ← String.empty_append (s := "/"), beforeLast_append "" hname]
      decide
    | false =>
      rw [if_neg Bool.false_ne_true, String.empty_append, beforeLast_of_slash_free hname]
      decide
  · obtain ⟨hrooted, hparts⟩ := cleanParts_append_slash (ofParts_ne_empty hinit hne)
    rw [ofParts_concat hne, beforeLast_append _ hname, hrooted, hparts]
    exact ⟨isAbsolute_ofParts hinit, cleanParts_ofParts hinit⟩

/-! ### The last part of a path -/

theorem base_append {before name : String}
    (hbefore : before = "" ∨ before.toList.getLast? = some '/')
    (hname : '/' ∉ name.toList) (hne : name ≠ "") : base (before ++ name) = name := by
  have hsome : name.toList.reverse ≠ [] := by
    rwa [Ne, List.reverse_eq_nil_iff, String.toList_eq_nil_iff]
  have hpass := bne_slash_of_mem_reverse hname
  have hrest : before.toList.reverse.takeWhile (· != '/') = [] := by
    rcases hbefore with rfl | hlast
    · rfl
    · obtain ⟨rest, hrest⟩ := List.head?_eq_some_iff.mp (List.head?_reverse.trans hlast)
      rw [hrest]
      rfl
  have hlist : (before ++ name).toList.reverse = name.toList.reverse ++ before.toList.reverse := by
    rw [String.toList_append, List.reverse_append]
  have htrimmed : (before ++ name).toList.reverse.dropWhile (· == '/') =
      name.toList.reverse ++ before.toList.reverse := by
    obtain ⟨c, chars, hchars⟩ := List.exists_cons_of_ne_nil hsome
    rw [hlist, hchars, List.cons_append, List.dropWhile_cons_of_neg]
    have hc := hpass c (hchars ▸ List.mem_cons_self)
    simpa using hc
  have hboth : (before ++ name).isEmpty = false := by
    rw [Bool.eq_false_iff, Ne, String.isEmpty_iff, String.append_eq_empty_iff]
    exact fun h => hne h.2
  unfold base
  rw [hboth, if_neg Bool.false_ne_true]
  dsimp only
  rw [htrimmed, if_neg (by simp [hsome]), List.takeWhile_append_of_pos hpass, hrest,
    List.append_nil, List.reverse_reverse, String.ofList_toList]

/-- The last part of a cleaned path is the last of its parts. -/
theorem base_ofParts {rooted : Bool} {init : List String} {part : String} (hpart : part ≠ "")
    (h : IsCleaned rooted (init ++ [part])) : base (ofParts rooted (init ++ [part])) = part := by
  have hslash : '/' ∉ part.toList :=
    h.slash_free part (List.mem_append_right _ List.mem_cons_self)
  by_cases hne : init = []
  · subst hne
    rw [List.nil_append, ofParts, String.intercalate_singleton]
    refine base_append ?_ hslash hpart
    cases rooted with
    | true => exact .inr rfl
    | false => exact .inl rfl
  · rw [ofParts_concat hne]
    refine base_append (.inr ?_) hslash hpart
    simp

end ClientGen.Path
