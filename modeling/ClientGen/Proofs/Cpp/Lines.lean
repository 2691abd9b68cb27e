import ClientGen.Cpp.Declaration
import ClientGen.Proofs.Lists
/-!
# Lines of a text

A line end is what separates two lines, and a text without one belongs to the line before it. So a
text that is put together from pieces splits into the lines of its pieces.
-/
namespace ClientGen.Cpp

theorem splitLines_append_line (s t : String) :
    splitLines (s ++ "\n" ++ t) = splitLines s ++ splitLines t := by
  have hlist : (s ++ "\n" ++ t).toList = s.toList ++ '\n' :: t.toList := by simp
  unfold splitLines
  rw [hlist, List.splitOn_append_cons_self, List.map_append]

theorem splitLines_of_newline_free {s : String} (h : '\n' ∉ s.toList) : splitLines s = [s] := by
  unfold splitLines
  rw [List.splitOn_eq_singleton h, List.map_singleton, String.ofList_toList]

/-- What stands in front of a text without a line end belongs to its first line. -/
theorem splitLines_append_of_newline_free {s : String} (h : '\n' ∉ s.toList) (t : String) :
    splitLines (s ++ t) = (splitLines t).modifyHead (s ++ ·) := by
  have hchars (chars : List Char) (hfree : '\n' ∉ chars) : (chars ++ t.toList).splitOn '\n' =
      (t.toList.splitOn '\n').modifyHead (chars ++ ·) := by
    induction chars with
    | nil =>
      rw [List.nil_append]
      cases t.toList.splitOn '\n' <;> rfl
    | cons c rest ih =>
      rw [List.mem_cons, not_or] at hfree
      have hc : (c == '\n') = false := by simpa using Ne.symm hfree.1
      rw [List.cons_append, List.splitOn_cons_eq_if_modifyHead, hc, if_neg Bool.false_ne_true,
        ih hfree.2, List.modifyHead_modifyHead]
      rfl
  unfold splitLines
  rw [String.toList_append, hchars _ h]
  cases t.toList.splitOn '\n' with
  | nil => rfl
  | cons first lines => simp [String.ofList_append, String.ofList_toList]

theorem splitLines_ne_nil (s : String) : splitLines s ≠ [] := by
  unfold splitLines
  rw [Ne, List.map_eq_nil_iff]
  exact List.splitOn_ne_nil _ _

/-- No line of a text holds a line end. -/
theorem newline_not_mem_of_mem_splitLines {s line : String} (h : line ∈ splitLines s) :
    '\n' ∉ line.toList := by
  obtain ⟨piece, hpiece, rfl⟩ := List.mem_map.mp h
  rw [String.toList_ofList]
  exact not_mem_of_mem_splitOn hpiece

theorem splitLines_intercalate {lines : List String} (hne : lines ≠ [])
    (h : ∀ line ∈ lines, '\n' ∉ line.toList) :
    splitLines (String.intercalate "\n" lines) = lines := by
  have hlines : ∀ chars ∈ lines.map String.toList, '\n' ∉ chars := by
    intro chars hchars
    obtain ⟨line, hline, rfl⟩ := List.mem_map.mp hchars
    exact h line hline
  have hnewline : "\n".toList = ['\n'] := by decide
  have hid : String.ofList ∘ String.toList = id := funext fun _ => String.ofList_toList
  unfold splitLines
  rw [String.toList_intercalate, hnewline,
    List.splitOn_intercalate '\n' hlines (by simpa using hne), List.map_map, hid, List.map_id]

end ClientGen.Cpp
