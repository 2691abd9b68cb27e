import ClientGen.Proofs.Path.Cleaning
/-!
# Last parts and extensions

The extension of a path is that of its last part. A last part with more than a stop at its end is
the name of an entry, so cleaning the path keeps it.
-/
namespace ClientGen.Path

variable {path : String}

/-- What stands behind the last slash of a path. -/
def lastPart (path : String) : String :=
  String.ofList (path.toList.reverse.takeWhile (· != '/')).reverse

theorem slash_not_mem_lastPart (path : String) : '/' ∉ (lastPart path).toList := by
  rw [lastPart, String.toList_ofList, List.mem_reverse]
  intro h
  exact absurd (List.mem_takeWhile_imp h) (by decide)

theorem lastPart_of_slash_free (h : '/' ∉ path.toList) : lastPart path = path := by
  have hall : ∀ c ∈ path.toList.reverse, (c != '/') = true := fun c hc =>
    bne_slash_of_mem_reverse h c hc
  rw [lastPart, List.takeWhile_eq_self_iff.mpr hall, List.reverse_reverse, String.ofList_toList]

theorem lastPart_append_slash (before path : String) :
    lastPart (before ++ "/" ++ path) = lastPart path := by
  have hreverse : (before ++ "/" ++ path).toList.reverse =
      path.toList.reverse ++ '/' :: before.toList.reverse := by simp
  rw [lastPart, lastPart, hreverse, List.takeWhile_append]
  split
  · rename_i hall
    rw [List.takeWhile_cons_of_neg (by decide), List.append_nil,
      (List.takeWhile_prefix _).eq_of_length hall]
  · rfl

theorem exists_append_lastPart (path : String) : ∃ before, path = before ++ lastPart path ∧
    (before = "" ∨ before.toList.getLast? = some '/') := by
  refine ⟨beforeLast path, ?_, ?_⟩
  · rw [beforeLast, lastPart, ← String.ofList_append, ← List.reverse_append,
      List.takeWhile_append_dropWhile, List.reverse_reverse, String.ofList_toList]
  · rw [beforeLast, String.toList_ofList, List.getLast?_reverse]
    have hhead := List.head?_dropWhile_not (· != '/') path.toList.reverse
    cases hbefore : path.toList.reverse.dropWhile (· != '/') with
    | nil => exact .inl rfl
    | cons c more =>
      rw [hbefore] at hhead
      exact .inr (by simpa using hhead)

theorem parts_eq_concat (path : String) : ∃ init, parts path = init ++ [lastPart path] := by
  have hlast := parts_of_slash_free (slash_not_mem_lastPart path)
  obtain ⟨before, hpath, hempty | hslash⟩ := exists_append_lastPart path
  · rw [hempty, String.empty_append] at hpath
    exact ⟨[], by rw [List.nil_append, ← hlast, ← hpath]⟩
  · obtain ⟨chars, hchars⟩ := List.getLast?_eq_some_iff.mp hslash
    have hbefore : before = String.ofList chars ++ "/" := by
      rw [← String.ofList_toList (s := before), hchars, String.ofList_append]
    rw [hbefore] at hpath
    have hparts := parts_append_slash (String.ofList chars) (lastPart path)
    rw [← hpath, hlast] at hparts
    exact ⟨_, hparts⟩

theorem base_eq_lastPart (h : lastPart path ≠ "") : base path = lastPart path := by
  obtain ⟨before, hpath, hbefore⟩ := exists_append_lastPart path
  have hbase := base_append hbefore (slash_not_mem_lastPart path) h
  rwa [← hpath] at hbase

/-- The extension of a path is that of its last part. -/
theorem extension_lastPart (path : String) : extension (lastPart path) = extension path := by
  have hall := List.takeWhile_eq_self_iff.mpr
    (bne_slash_of_mem_reverse (slash_not_mem_lastPart path))
  rw [extension, extension, hall, lastPart, String.toList_ofList, List.reverse_reverse]

theorem extension_append_slash (before path : String) :
    extension (before ++ "/" ++ path) = extension path := by
  rw [← extension_lastPart, lastPart_append_slash, extension_lastPart]

theorem extension_append (stem : String) {ending : String} (hstop : '.' ∉ ending.toList)
    (hslash : '/' ∉ ending.toList) : extension (stem ++ "." ++ ending) = "." ++ ending := by
  have hreverse : (stem ++ "." ++ ending).toList.reverse =
      ending.toList.reverse ++ '.' :: stem.toList.reverse := by simp
  have hpass : ∀ c ∈ ending.toList.reverse, (c != '.') = true := by
    intro c hc
    rw [bne_iff_ne]
    rintro rfl
    exact hstop (List.mem_reverse.mp hc)
  rw [extension, hreverse, List.takeWhile_append_of_pos (bne_slash_of_mem_reverse hslash),
    List.takeWhile_cons_of_pos (by decide), if_pos (by simp),
    List.takeWhile_append_of_pos hpass, List.takeWhile_cons_of_neg (by decide), List.append_nil,
    List.reverse_reverse, String.ofList_cons, String.ofList_toList]
  rfl

theorem isName_lastPart (hempty : extension path ≠ "") (hstop : extension path ≠ ".") :
    IsName (lastPart path) := by
  rw [← extension_lastPart] at hempty hstop
  refine ⟨?_, ?_, ?_, slash_not_mem_lastPart path⟩
  · intro h
    rw [h] at hempty
    exact hempty (by decide)
  · intro h
    rw [h] at hstop
    exact hstop (by decide)
  · intro h
    rw [h] at hstop
    exact hstop (by decide)

/-- Cleaning keeps a name at the end. -/
theorem cleanParts_eq_concat (h : IsName (lastPart path)) :
    ∃ init, cleanParts path = init ++ [lastPart path] := by
  obtain ⟨init, hinit⟩ := parts_eq_concat path
  rw [cleanParts, hinit, List.foldl_append, List.foldl_cons, List.foldl_nil, cleanStep_of_isName h,
    List.reverse_cons]
  exact ⟨_, rfl⟩

theorem lastPart_clean (h : IsName (lastPart path)) : lastPart (clean path) = lastPart path := by
  obtain ⟨init, hinit⟩ := cleanParts_eq_concat h
  rcases clean_eq path with hclean | ⟨-, hnil, -⟩
  · rw [hclean, hinit]
    by_cases hempty : init = []
    · have hsingle := lastPart_append_slash "" (lastPart path)
      rw [lastPart_of_slash_free h.slash] at hsingle
      rw [hempty, List.nil_append, ofParts, String.intercalate_singleton]
      split
      · exact hsingle
      · rw [String.empty_append, lastPart_of_slash_free h.slash]
    · rw [ofParts_concat hempty, lastPart_append_slash, lastPart_of_slash_free h.slash]
  · rw [hnil] at hinit
    simp at hinit

theorem extension_clean (h : IsName (lastPart path)) : extension (clean path) = extension path := by
  rw [← extension_lastPart, lastPart_clean h, extension_lastPart]

end ClientGen.Path
