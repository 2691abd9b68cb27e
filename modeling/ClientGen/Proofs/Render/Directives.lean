import ClientGen.Proofs.Cpp.Lines
import ClientGen.Proofs.Render.IncludeBlock
/-!
# Directives at the top of a file

A generated file begins with a comment, directives and empty lines, and then the code starts. What
a file includes is read off these first lines: they are the lines of its include block and nothing
else.
-/
namespace ClientGen.Render

open ClientGen.Cpp

/-- A line that does not begin the code of a file: an empty one, one of a block comment, or a
directive. -/
def isTopLine (line : String) : Bool :=
  match line.toList with
  | [] => true
  | '#' :: _ => true
  | '/' :: '*' :: _ => true
  | ' ' :: '*' :: _ => true
  | _ => false

/-- The lines in front of the code. -/
def topLines (text : String) : List String := (splitLines text).takeWhile isTopLine

/-- The two lines that include a header. -/
def includeForms (path : String) : List String :=
  ["#include \"" ++ path ++ "\"", "#include <" ++ path ++ ">"]

/-- A file that includes a header. -/
def Includes (text path : String) : Prop := ∃ line ∈ includeForms path, line ∈ topLines text

/-- A text that begins with code. -/
def opensCode (text : String) : Bool :=
  match text.toList with
  | '/' :: '/' :: _ => true
  | c :: _ => !(['\n', '#', '/', ' '].contains c)
  | [] => false

/-- A text all of whose lines stand in front of the code. -/
def IsTop (text : String) : Prop := ∀ line ∈ splitLines text, isTopLine line = true

theorem topLines_append {s : String} (h : IsTop s) (t : String) :
    topLines (s ++ "\n" ++ t) = splitLines s ++ topLines t := by
  rw [topLines, splitLines_append_line, List.takeWhile_append_of_pos h]
  rfl

/-- The first line of a text decides whether anything stands in front of the code. -/
theorem topLines_eq_nil {start : String} (hfree : '\n' ∉ start.toList) (rest : String)
    (h : ∀ more, isTopLine (start ++ more) = false) : topLines (start ++ rest) = [] := by
  rw [topLines, splitLines_append_of_newline_free hfree]
  cases hsplit : splitLines rest with
  | nil => exact absurd hsplit (splitLines_ne_nil rest)
  | cons first lines => rw [List.modifyHead_cons, List.takeWhile_cons, h, if_neg Bool.false_ne_true]

theorem topLines_of_opensCode {text : String} (h : opensCode text = true) : topLines text = [] := by
  have hsplit (start rest : List Char) (hchars : text.toList = start ++ rest) :
      text = String.ofList start ++ String.ofList rest := by
    rw [← String.ofList_append, ← hchars, String.ofList_toList]
  unfold opensCode at h
  split at h
  · rename_i rest hchars
    rw [hsplit ['/', '/'] rest hchars]
    refine topLines_eq_nil (by decide) _ fun more => ?_
    simp [isTopLine]
  · rename_i c rest _ hchars
    have hc : c ≠ '\n' ∧ c ≠ '#' ∧ c ≠ '/' ∧ c ≠ ' ' := by simpa using h
    rw [hsplit [c] rest hchars]
    refine topLines_eq_nil (by simpa using hc.1.symm) _ fun more => ?_
    unfold isTopLine
    rw [String.toList_append, String.toList_ofList, List.singleton_append]
    split <;> simp_all
  · cases h

/-! ### Include lines -/

def isIncludeLine (line : String) : Bool := "#include ".toList.isPrefixOf line.toList

theorem isIncludeLine_of_mem_forms {line path : String} (h : line ∈ includeForms path) :
    isIncludeLine line = true := by
  rw [includeForms, List.mem_cons, List.mem_singleton] at h
  have hquote : "#include \"" = "#include " ++ "\"" := by decide
  have hbracket : "#include <" = "#include " ++ "<" := by decide
  rw [isIncludeLine, List.isPrefixOf_iff_prefix]
  rcases h with rfl | rfl
  · rw [hquote, String.append_assoc, String.append_assoc, String.toList_append]
    exact List.prefix_append _ _
  · rw [hbracket, String.append_assoc, String.append_assoc, String.toList_append]
    exact List.prefix_append _ _

/-- The line of a header includes this header and no other. -/
theorem pathLine_mem_includeForms_iff {path path' : String} :
    IncludeSet.pathLine path' ∈ includeForms path ↔ path' = path := by
  have hquote : "#include \"" = "#include " ++ "\"" := by decide
  have hbracket : "#include <" = "#include " ++ "<" := by decide
  have hne (s t : String) : "#include \"" ++ s ++ "\"" ≠ "#include <" ++ t ++ ">" := by
    rw [hquote, hbracket]
    simp only [String.append_assoc, Ne, String.append_right_inj]
    intro heq
    simpa using congrArg String.toList heq
  rw [includeForms, List.mem_cons, List.mem_singleton, IncludeSet.pathLine]
  constructor
  · split
    · rintro (heq | heq)
      · exact (String.append_right_inj _).mp ((String.append_left_inj _).mp heq)
      · exact absurd heq (hne _ _)
    · rintro (heq | heq)
      · exact absurd heq.symm (hne _ _)
      · exact (String.append_right_inj _).mp ((String.append_left_inj _).mp heq)
  · rintro rfl
    split
    · exact .inl rfl
    · exact .inr rfl

theorem newline_not_mem_pathLine {path : String} (h : '\n' ∉ path.toList) :
    '\n' ∉ (IncludeSet.pathLine path).toList := by
  unfold IncludeSet.pathLine
  split <;> simp [h]

theorem isTopLine_pathLine (path : String) : isTopLine (IncludeSet.pathLine path) = true := by
  unfold IncludeSet.pathLine
  split <;> simp [isTopLine]

theorem isTop_empty : IsTop "" := by
  intro line hline
  have hblank : splitLines "" = [""] := by decide
  rw [hblank, List.mem_singleton] at hline
  rw [hline]
  decide

/-- The lines in front of the code of a file that begins with a fixed text and an include block. -/
theorem mem_topLines_page_iff {top : String} (htop : IsTop top) {paths : List String}
    (hfree : ∀ path ∈ paths, '\n' ∉ path.toList) {code : String} (hcode : opensCode code = true)
    (line : String) :
    line ∈ topLines (top ++ includeLines paths ++ "\n\n" ++ code) ↔
      line ∈ splitLines top ∨ line = "" ∨ line ∈ paths.map IncludeSet.pathLine := by
  have hlines : "\n\n" = "\n" ++ "\n" := by decide
  have hblank : splitLines "" = [""] := by decide
  have hcode' : topLines ("" ++ "\n" ++ code) = [""] := by
    rw [topLines_append isTop_empty, topLines_of_opensCode hcode, hblank]
    rfl
  cases paths with
  | nil =>
    have htext : top ++ includeLines [] ++ "\n\n" ++ code =
        top ++ "\n" ++ ("" ++ "\n" ++ code) := by
      rw [includeLines, hlines]
      simp only [String.append_assoc, String.empty_append]
    rw [htext, topLines_append htop, hcode']
    simp
  | cons first rest =>
    let block := String.intercalate "\n" ((first :: rest).map IncludeSet.pathLine)
    have hblock : splitLines block = (first :: rest).map IncludeSet.pathLine := by
      apply splitLines_intercalate (by simp)
      intro line hline
      obtain ⟨path, hpath, rfl⟩ := List.mem_map.mp hline
      exact newline_not_mem_pathLine (hfree path hpath)
    have htop' : IsTop block := by
      intro line hline
      rw [hblock] at hline
      obtain ⟨path, -, rfl⟩ := List.mem_map.mp hline
      exact isTopLine_pathLine path
    have htext : top ++ includeLines (first :: rest) ++ "\n\n" ++ code =
        top ++ "\n" ++ ("" ++ "\n" ++ (block ++ "\n" ++ ("" ++ "\n" ++ code))) := by
      have hinclude : includeLines (first :: rest) = "\n\n" ++ block := rfl
      rw [hinclude, hlines]
      simp only [String.append_assoc, String.empty_append]
    rw [htext, topLines_append htop, topLines_append isTop_empty, topLines_append htop', hcode',
      hblank, hblock]
    grind

/-- A text that stands in front of the code and includes nothing. -/
def IsBareTop (text : String) : Prop :=
  ∀ line ∈ splitLines text, isTopLine line = true ∧ isIncludeLine line = false

theorem IsBareTop.isTop {text : String} (h : IsBareTop text) : IsTop text :=
  fun line hline => (h line hline).1

/-- What a file includes that begins with a fixed text and an include block. -/
theorem includes_page_iff {r : Renderer} (hremap : r.remap = []) {top : String}
    (htop : IsBareTop top) {set : IncludeSet} {given : List String} (hlists : set.Lists given)
    (hfree : ∀ path ∈ given, '\n' ∉ path.toList) {code : String} (hcode : opensCode code = true)
    (path : String) :
    Includes (top ++ r.includeBlock set ++ "\n\n" ++ code) path ↔ path ∈ given := by
  have hpaths : ∀ path ∈ set.paths, '\n' ∉ path.toList := by
    intro path hpath
    exact hfree path ((hlists.mem_iff path).mp hpath)
  have hlines := mem_topLines_page_iff htop.isTop hpaths hcode
  rw [← hlists.mem_iff, includeBlock_eq_includeLines hremap hlists]
  constructor
  · rintro ⟨line, hform, hline⟩
    have hinclude := isIncludeLine_of_mem_forms hform
    rcases (hlines line).mp hline with htopLine | rfl | hmem
    · rw [(htop line htopLine).2] at hinclude
      cases hinclude
    · cases hinclude
    · obtain ⟨path', hpath', rfl⟩ := List.mem_map.mp hmem
      rwa [← pathLine_mem_includeForms_iff.mp hform]
  · intro hpath
    exact ⟨IncludeSet.pathLine path, pathLine_mem_includeForms_iff.mpr rfl,
      (hlines _).mpr (.inr (.inr (List.mem_map_of_mem hpath)))⟩

/-! ### The banner -/

def bannerLines : List String :=
  ["/**", " * This code was AUTOGENERATED using idlcpp.",
   " * Please DO NOT EDIT THIS FILE. Change the IDL instead and rerun",
   " * idlcpp to update it.", " */"]

theorem splitLines_banner : splitLines banner = bannerLines := by
  have hbanner : banner = String.intercalate "\n" bannerLines := by decide +kernel
  rw [hbanner]
  exact splitLines_intercalate (by decide) (by decide +kernel)

theorem isBareTop_banner : IsBareTop banner := by
  rw [IsBareTop, splitLines_banner]
  decide +kernel

theorem isBareTop_headerTop : IsBareTop headerTop := by
  have hlines : "\n\n#pragma once" = "\n" ++ ("" ++ "\n" ++ "#pragma once") := by decide
  have hpragma : ∀ line ∈ splitLines "" ++ splitLines "#pragma once",
      isTopLine line = true ∧ isIncludeLine line = false := by decide +kernel
  rw [IsBareTop, headerTop, hlines, ← String.append_assoc, splitLines_append_line,
    splitLines_append_line, List.forall_mem_append]
  exact ⟨isBareTop_banner, hpragma⟩

end ClientGen.Render
