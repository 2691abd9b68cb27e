import ClientGen.OutputDirectory
import ClientGen.Proofs.FileTree
/-!
# What clearing a directory takes away

Spellings of the working directory and of the root of the file system are refused, and clearing
takes away nothing outside the directory. But a path of steps up is accepted. It leads to a
directory above the working directory, which is emptied before it turns out that it cannot be
removed.
-/
namespace ClientGen.OutputDirectory

open ClientGen.Render ClientGen.FileTree

variable {directory path : String} {tree : FileTree}

/-! ### Paths that lead up -/

/-- A path that leads to the directory in which it is resolved or to one above it, whichever that
directory is. -/
def LeadsUp (path : String) : Prop := ∀ working, destination working path <+: working

/-- A path leads up exactly if cleaning leaves nothing but steps up. -/
theorem leadsUp_iff : LeadsUp path ↔ ∃ n, Path.cleanParts path = List.replicate n ".." := by
  constructor
  · intro hup
    obtain ⟨ups, names, hparts, hnames, -⟩ := Path.isCleaned_cleanParts path
    have hstart : origin [] path = [] := by
      rw [origin]
      exact ite_self _
    -- from the root, the steps up lead nowhere
    have hroot := hup []
    rw [destination_eq, hstart, hparts, List.foldl_append, foldl_walk_names hnames,
      List.prefix_nil, List.append_eq_nil_iff] at hroot
    rw [hroot.2, List.append_nil] at hparts
    exact ⟨ups, hparts⟩
  · rintro ⟨n, hparts⟩ working
    rw [destination_eq, hparts]
    refine (prefix_foldl_walk_ups n _).trans ?_
    rw [origin]
    split
    · exact List.nil_prefix
    · exact List.prefix_rfl

/-- A local path leads to a place below every directory. -/
theorem destination_of_isLocal (h : Path.isLocal path = true) (working : Location) :
    destination working path = working ++ Path.cleanParts path := by
  rw [destination_eq, foldl_walk_names (Path.isName_of_isLocal h), origin,
    Path.isAbsolute_of_isLocal h]
  rfl

theorem isRefused_eq_false_iff : isRefused directory = false ↔
    directory ≠ "" ∧ Path.clean directory ≠ "." ∧ Path.clean directory ≠ "/" := by
  rw [isRefused, Bool.or_eq_false_iff, Bool.or_eq_false_iff, beq_eq_false_iff_ne,
    beq_eq_false_iff_ne, Bool.eq_false_iff, Ne, String.isEmpty_iff, and_assoc]

/-- An accepted directory has parts, and they are what its cleaned path is made of. -/
theorem cleanParts_ne_nil_of_accepted (h : isRefused directory = false) :
    Path.cleanParts directory ≠ [] ∧ Path.clean directory =
      Path.ofParts (Path.isAbsolute directory) (Path.cleanParts directory) := by
  obtain ⟨-, hdot, hroot⟩ := isRefused_eq_false_iff.mp h
  have hclean := (Path.clean_eq directory).resolve_right fun hnone => hdot hnone.2.2
  refine ⟨fun hnone => ?_, hclean⟩
  rw [hnone] at hclean
  cases hrooted : Path.isAbsolute directory with
  | true =>
    rw [hrooted] at hclean
    exact hroot hclean
  | false =>
    rw [hrooted] at hclean
    exact Path.clean_ne_empty directory hclean

/-- The accepted directories that lead up are the ways of one step up or more. -/
theorem leadsUp_iff_of_accepted (h : isRefused directory = false) : LeadsUp directory ↔
    ∃ n, Path.clean directory = Path.ofParts false (List.replicate (n + 1) "..") := by
  obtain ⟨hne, hclean⟩ := cleanParts_ne_nil_of_accepted h
  rw [leadsUp_iff]
  constructor
  · rintro ⟨ups, hparts⟩
    cases ups with
    | zero => exact absurd hparts hne
    | succ n =>
      refine ⟨n, ?_⟩
      have hcleaned := Path.isCleaned_cleanParts directory
      rw [hclean, hparts]
      cases hrooted : Path.isAbsolute directory with
      | false => rfl
      | true =>
        rw [hparts, hrooted] at hcleaned
        exact absurd (List.mem_replicate.mpr ⟨Nat.succ_ne_zero n, rfl⟩) hcleaned.up_not_mem
  · rintro ⟨n, hups⟩
    refine ⟨n + 1, ?_⟩
    rw [← Path.cleanParts_clean, hups,
      Path.cleanParts_ofParts (Path.isCleaned_replicate_up (n + 1))]

/-! ### Clearing -/

theorem write_of_accepted (h : isRefused directory = false) (tree : FileTree)
    (cancelled keep : Bool) (map : FileMap) : write tree cancelled keep directory map =
      match if keep then (tree, none) else tree.removeAll (Path.clean directory) with
      | (tree, some fault) => ⟨[], tree, some (.uncleared (Path.clean directory) fault)⟩
      | (tree, none) => writeFiles cancelled (Path.clean directory) tree map.files := by
  rw [write, h]
  rfl

/-- A directory above the working directory is emptied, and then writing stops. -/
theorem write_of_leadsUp (haccepted : isRefused directory = false) (hup : LeadsUp directory)
    (hsound : tree.IsSound) (cancelled : Bool) (map : FileMap) :
    write tree cancelled false directory map =
      ⟨[], tree.clear (destination tree.working directory), some (.uncleared (Path.clean directory)
        ⟨"unlinkat", Path.directory (Path.clean directory) ++ "/..", .notEmpty⟩)⟩ := by
  obtain ⟨n, hups⟩ := (leadsUp_iff_of_accepted haccepted).mp hup
  rw [write_of_accepted haccepted, if_neg Bool.false_ne_true, removeAll_ups hsound n hups,
    destination_clean]

/-- Of all spellings of the working directory, of directories above it and of the root of the file
system, those that are cleaned to steps up and nothing else are accepted, and no others. Clearing
such a directory takes away everything below it, with the working directory. Clearing any other one
takes away only what it leads to; a local one leads to a place below the working directory. -/
theorem only_steps_up_clear_above (haccepted : isRefused directory = false) :
    Path.clean directory ≠ "." ∧ Path.clean directory ≠ "/" ∧
      (LeadsUp directory ↔
        ∃ n, Path.clean directory = String.intercalate "/" (List.replicate (n + 1) "..")) ∧
      ∀ tree : FileTree, tree.IsSound →
        let top := destination tree.working directory
        (LeadsUp directory → ∀ cancelled map,
          let progress := write tree cancelled false directory map
          progress.written = [] ∧ progress.fault?.isSome ∧
            ∀ place, top <+: place → place ≠ top → progress.tree.get? place = none) ∧
        (Path.isLocal directory = true → tree.working <+: top ∧ top ≠ tree.working) ∧
        ∀ place, ¬ top <+: place →
          (tree.removeAll (Path.clean directory)).1.get? place = tree.get? place := by
  obtain ⟨-, hdot, hroot⟩ := isRefused_eq_false_iff.mp haccepted
  refine ⟨hdot, hroot, ?_, fun tree hsound => ⟨fun hup cancelled map => ?_, fun hlocal => ?_, ?_⟩⟩
  · rw [leadsUp_iff_of_accepted haccepted]
    simp only [Path.ofParts, Bool.false_eq_true, if_false, String.empty_append]
  · rw [write_of_leadsUp haccepted hup hsound]
    refine ⟨rfl, rfl, fun place hbelow hother => ?_⟩
    have hplace : place ≠ [] := by
      rintro rfl
      exact hother (List.prefix_nil.mp hbelow).symm
    exact (get?_clear hplace).trans (if_pos ⟨hbelow, hother.symm⟩)
  · rw [destination_of_isLocal hlocal]
    refine ⟨List.prefix_append _ _, fun hsame => ?_⟩
    exact (cleanParts_ne_nil_of_accepted haccepted).1 (List.append_right_eq_self.mp hsame)
  · intro place hout
    rw [← destination_clean] at hout
    exact removeAll_outside tree hout

/-- A roundabout way to the directory above: the working directory is cleared away with its files,
and so are the files beside it. -/
theorem only_steps_up_clear_above_roundabout :
    let tree := ofFiles ["home", "w"] [("notes", "n"), ("../other", "o")]
    let progress := write tree false false "x/../../y/.." ⟨[("a.h", "1")]⟩
    isRefused "x/../../y/.." = false ∧ LeadsUp "x/../../y/.." ∧ progress.written = [] ∧
      tree.get? ["home", "w", "notes"] = some (.file "n") ∧
      progress.tree.get? ["home", "w", "notes"] = none ∧
      progress.tree.get? ["home", "w"] = none ∧ progress.tree.get? ["home", "other"] = none := by
  intro tree progress
  have haccepted : isRefused "x/../../y/.." = false := by decide +kernel
  obtain ⟨-, -, hup, hclear⟩ := only_steps_up_clear_above haccepted
  have hleads : LeadsUp "x/../../y/.." := hup.mpr ⟨0, by decide +kernel⟩
  obtain ⟨hwritten, -, hgone⟩ := (hclear tree (ofFiles_isSound _ _)).1 hleads false _
  refine ⟨haccepted, hleads, hwritten, by decide +kernel, hgone _ ?_ ?_, hgone _ ?_ ?_,
    hgone _ ?_ ?_⟩
  all_goals decide +kernel

/-- The step up is accepted as an output directory. -/
theorem step_up_is_accepted : isRefused ".." = false ∧ Path.clean ".." = ".." ∧
    ∀ working, destination working ".." <+: working := by
  refine ⟨by decide +kernel, by decide +kernel, fun working => ?_⟩
  exact List.dropLast_prefix working

end ClientGen.OutputDirectory
