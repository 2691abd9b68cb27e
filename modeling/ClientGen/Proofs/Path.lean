import Mathlib.Data.List.Chain
import ClientGen.Path
import ClientGen.Proofs.Lists
/-!
# Paths that stay below a directory

Cleaning a path makes no part that was not there before. So a path none of whose parts is `..`
stays below the directory that it is resolved in, unless it starts at the root of the file system;
and it has no such part if no two stops stand side by side in it.
-/
namespace ClientGen.Path

/-! ### Cleaning -/

section

variable {path part : String} {done : List String} {rooted : Bool}

theorem mem_cleanStep {next : String} (hnext : next ≠ "..")
    (h : part ∈ cleanStep rooted done next) : part = next ∨ part ∈ done := by
  unfold cleanStep at h
  split at h
  · exact .inr h
  · rw [if_neg (by simpa using hnext)] at h
    exact List.mem_cons.mp h

theorem mem_foldl_cleanStep (all : List String) (hall : ".." ∉ all) :
    ∀ done, part ∈ all.foldl (cleanStep rooted) done → part ∈ all ∨ part ∈ done := by
  induction all with
  | nil => exact fun _ h => .inr h
  | cons next rest ih =>
    intro done h
    rw [List.mem_cons, not_or] at hall
    rcases ih hall.2 _ h with hrest | hstep
    · exact .inl (List.mem_cons_of_mem _ hrest)
    · rcases mem_cleanStep (Ne.symm hall.1) hstep with rfl | hdone
      · exact .inl List.mem_cons_self
      · exact .inr hdone

theorem dots_not_mem_cleanParts (h : ".." ∉ parts path) : ".." ∉ cleanParts path := by
  rw [cleanParts, List.mem_reverse]
  intro hmem
  rcases mem_foldl_cleanStep _ h _ hmem with hpart | hnone
  · exact h hpart
  · cases hnone

/-- A path without the part `..` is local unless it is empty or starts at the root. -/
theorem isLocal_eq_not_isAbsolute (hempty : path ≠ "") (h : ".." ∉ parts path) :
    isLocal path = !isAbsolute path := by
  have hfirst : (cleanParts path).head? ≠ some ".." := by
    intro hhead
    exact dots_not_mem_cleanParts h (List.mem_of_mem_head? hhead)
  have hsome : path.isEmpty = false := by
    rw [Bool.eq_false_iff, ne_eq, String.isEmpty_iff]
    exact hempty
  rw [isLocal, hsome, bne_iff_ne.mpr hfirst, Bool.not_false, Bool.true_and, Bool.and_true]

end

/-! ### Stops side by side -/

/-- No two stops stand side by side. -/
def SingleStops (chars : List Char) : Prop := chars.IsChain fun c d => ¬ (c = '.' ∧ d = '.')

instance (chars : List Char) : Decidable (SingleStops chars) :=
  inferInstanceAs (Decidable (chars.IsChain _))

theorem SingleStops.append {stem ending : List Char} (hstem : '.' ∉ stem)
    (hending : SingleStops ending) : SingleStops (stem ++ ending) := by
  have hbefore {c d : Char} (hc : c ∈ stem) : ¬ (c = '.' ∧ d = '.') := by
    rintro ⟨rfl, -⟩
    exact hstem hc
  refine List.isChain_append.mpr ⟨?_, hending, ?_⟩
  · exact (List.pairwise_of_forall_mem_list fun c hc _ _ => hbefore hc).isChain
  · intro c hc d _
    exact hbefore (List.mem_of_mem_getLast? hc)

/-- Each part stands in the path as it is. -/
theorem infix_of_mem_parts {path part : String} (h : part ∈ parts path) :
    part.toList <:+: path.toList := by
  obtain ⟨chars, hchars, rfl⟩ := List.mem_map.mp h
  have hinfix : chars <:+: ['/'].intercalate (path.toList.splitOn '/') := infix_intercalate hchars
  rw [List.intercalate_splitOn] at hinfix
  rw [String.toList_ofList]
  exact hinfix

theorem dots_not_mem_parts {path : String} (h : SingleStops path.toList) : ".." ∉ parts path := by
  intro hdots
  have hpart : SingleStops "..".toList := h.infix (infix_of_mem_parts hdots)
  exact absurd hpart (by decide)

/-- A path that ends in an extension and has no other stops is local unless it starts at the
root. -/
theorem isLocal_append {stem ending : String} (hstem : '.' ∉ stem.toList)
    (hending : SingleStops ending.toList) (hnone : ending ≠ "") :
    isLocal (stem ++ ending) = !isAbsolute (stem ++ ending) := by
  refine isLocal_eq_not_isAbsolute ?_ (dots_not_mem_parts ?_)
  · intro hempty
    exact hnone (String.append_eq_empty_iff.mp hempty).2
  · rw [String.toList_append]
    exact hending.append hstem

end ClientGen.Path
