import Mathlib.Data.List.Forall2
import ClientGen.Proofs.Cpp.Lines
/-!
# Code and comments

A line whose first characters behind its tabs are two slashes is a comment, and the other lines of
a text are its code. Two texts have the same code if one can stand for the other anywhere. That is
kept by everything the generator builds texts with: joining them, putting them around others, and
indenting them as lines of a block.
-/
namespace ClientGen.Cpp

def isCommentLine (line : String) : Bool :=
  "//".toList.isPrefixOf (line.toList.dropWhile (· == '\t'))

/-- The lines of a text that are no comments. -/
def codeLines (text : String) : List String :=
  (splitLines text).filter fun line => !isCommentLine line

theorem codeLines_append_line (s t : String) :
    codeLines (s ++ "\n" ++ t) = codeLines s ++ codeLines t := by
  unfold codeLines
  rw [splitLines_append_line, List.filter_append]

/-- Texts that have the same code wherever they stand. -/
def SameCode (s t : String) : Prop :=
  ∀ before after, codeLines (before ++ s ++ after) = codeLines (before ++ t ++ after)

namespace SameCode

section

variable {s t u v : String}

theorem refl (s : String) : SameCode s s := fun _ _ => rfl

theorem codeLines_eq (h : SameCode s t) : codeLines s = codeLines t := by
  have hplain := h "" ""
  rwa [String.empty_append, String.append_empty, String.empty_append, String.append_empty] at hplain

theorem append (h : SameCode s t) (h' : SameCode u v) : SameCode (s ++ u) (t ++ v) := by
  intro before after
  have hfirst := h before (u ++ after)
  have hsecond := h' (before ++ t) after
  simp only [String.append_assoc] at hfirst hsecond ⊢
  exact hfirst.trans hsecond

theorem around (before after : String) (h : SameCode s t) :
    SameCode (before ++ s ++ after) (before ++ t ++ after) :=
  ((refl before).append h).append (refl after)

end

variable {texts texts' : List String}

theorem join (h : List.Forall₂ SameCode texts texts') :
    SameCode (String.join texts) (String.join texts') := by
  induction h with
  | nil => exact refl _
  | cons hfirst _ ih =>
    rw [String.join_cons, String.join_cons]
    exact hfirst.append ih

theorem intercalate (sep : String) (h : List.Forall₂ SameCode texts texts') :
    SameCode (String.intercalate sep texts) (String.intercalate sep texts') := by
  induction h with
  | nil => exact refl _
  | @cons first first' rest rest' hfirst hrest ih =>
    cases hrest with
    | nil =>
      rw [String.intercalate_singleton, String.intercalate_singleton]
      exact hfirst
    | cons =>
      rw [String.intercalate_cons_cons, String.intercalate_cons_cons]
      exact (hfirst.append (refl sep)).append ih

end SameCode

/-! ### Blocks -/

/-- A line as it stands in a block. -/
def indented (line : String) : String := if line.isEmpty then "" else "\t" ++ line

theorem isCommentLine_tab (line : String) : isCommentLine ("\t" ++ line) = isCommentLine line := by
  unfold isCommentLine
  rw [String.toList_append]
  rfl

theorem isCommentLine_indented (line : String) :
    isCommentLine (indented line) = isCommentLine line := by
  unfold indented
  split
  · rename_i hempty
    rw [String.isEmpty_iff.mp hempty]
  · exact isCommentLine_tab line

theorem bodyLine_eq (line : String) : bodyLine line = indented line ++ "\n" := by
  unfold bodyLine indented
  split <;> rfl

theorem newline_not_mem_indented {line : String} (h : '\n' ∉ line.toList) :
    '\n' ∉ (indented line).toList := by
  unfold indented
  split
  · decide
  · simpa using h

theorem splitLines_bodyLines (lines : List String) (h : ∀ line ∈ lines, '\n' ∉ line.toList)
    (after : String) :
    splitLines (String.join (lines.map bodyLine) ++ after) =
      lines.map indented ++ splitLines after := by
  induction lines with
  | nil => rw [List.map_nil, String.join_nil, String.empty_append, List.map_nil, List.nil_append]
  | cons line rest ih =>
    rw [List.forall_mem_cons] at h
    rw [List.map_cons, String.join_cons, bodyLine_eq, String.append_assoc, splitLines_append_line,
      splitLines_of_newline_free (newline_not_mem_indented h.1), ih h.2]
    rfl

/-- The code of indented lines is their indented code. -/
theorem codeLines_bodyLines (lines : List String) (h : ∀ line ∈ lines, '\n' ∉ line.toList)
    (after : String) :
    codeLines (String.join (lines.map bodyLine) ++ after) =
      (lines.filter fun line => !isCommentLine line).map indented ++ codeLines after := by
  have hcode : (fun line => !isCommentLine line) ∘ indented = fun line => !isCommentLine line := by
    funext line
    simp [isCommentLine_indented]
  unfold codeLines
  rw [splitLines_bodyLines lines h, List.filter_append, List.filter_map, hcode]

/-- Blocks of entries with the same code have the same code. -/
theorem SameCode.block (head : String) {lines lines' : List String}
    (h : lines.map codeLines = lines'.map codeLines) :
    SameCode (block head lines) (Cpp.block head lines') := by
  have hcode (lines : List String) (after : String) :
      codeLines (String.join (lines.flatMap fun l => (splitLines l).map bodyLine) ++ after) =
        (lines.map codeLines).flatten.map indented ++ codeLines after := by
    rw [← List.map_flatMap, codeLines_bodyLines, List.filter_flatMap, List.flatMap_def]
    · rfl
    · intro line hline
      obtain ⟨l, -, hline⟩ := List.mem_flatMap.mp hline
      exact newline_not_mem_of_mem_splitLines hline
  intro before after
  have hopen : "\x7b\n" = "\x7b" ++ "\n" := by decide
  have hsplit (lines : List String) : before ++ Cpp.block head lines ++ after =
      before ++ (if head.isEmpty then "" else head ++ "\n") ++ "\x7b" ++ "\n"
        ++ (String.join (lines.flatMap fun l => (splitLines l).map bodyLine)
          ++ ("\x7d" ++ after)) := by
    rw [Cpp.block, hopen]
    simp only [String.append_assoc]
  rw [hsplit, hsplit, codeLines_append_line, codeLines_append_line, hcode, hcode, h]

/-! ### Documentation -/

/-- The lines of a doc that become code: those behind its first line that are no comments by
themselves. -/
def leaked (doc : String) : List String :=
  (splitLines doc).tail.filter fun line => !isCommentLine line

/-- Whether every line of a doc stays in a comment. -/
def isContained (doc : String) : Bool := (leaked doc).isEmpty

theorem flatMap_leaked {docs : List String} (h : docs.all isContained = true) :
    docs.flatMap leaked = [] := by
  rw [List.flatMap_eq_nil_iff]
  intro doc hdoc
  exact List.isEmpty_iff.mp (List.all_eq_true.mp h doc hdoc)

/-- Behind the start of a comment, the first line of a doc is a comment, and no other. -/
theorem codeLines_comment {start : String} (hfree : '\n' ∉ start.toList)
    (hstart : ∀ line, isCommentLine (start ++ line) = true) (doc : String) :
    codeLines (start ++ doc) = leaked doc := by
  unfold codeLines leaked
  rw [splitLines_append_of_newline_free hfree]
  cases hsplit : splitLines doc with
  | nil => exact absurd hsplit (splitLines_ne_nil doc)
  | cons first rest =>
    rw [List.modifyHead_cons, List.tail_cons, List.filter_cons_of_neg]
    rw [hstart, Bool.not_true]
    exact Bool.false_ne_true

theorem isCommentLine_slashes (line : String) : isCommentLine ("// " ++ line) = true := by
  simp [isCommentLine]

theorem codeLines_docBlock (docs : List String) (after : String) :
    codeLines (docBlock docs ++ after) = docs.flatMap leaked ++ codeLines after := by
  induction docs with
  | nil => rw [docBlock, List.map_nil, String.join_nil, String.empty_append, List.flatMap_nil,
      List.nil_append]
  | cons d rest ih =>
    rw [docBlock] at ih
    rw [docBlock, List.map_cons, String.join_cons, String.append_assoc, codeLines_append_line,
      codeLines_comment (by decide) isCommentLine_slashes, ih, List.flatMap_cons,
      List.append_assoc]

/-- Documentation at the start of a line. -/
theorem SameCode.docBlock {docs : List String} (h : docs.all isContained = true) :
    SameCode ("\n" ++ docBlock docs) "\n" := by
  intro before after
  have hsplit : before ++ ("\n" ++ Cpp.docBlock docs) ++ after =
      before ++ "\n" ++ (Cpp.docBlock docs ++ after) := by simp only [String.append_assoc]
  rw [hsplit, codeLines_append_line, codeLines_append_line, codeLines_docBlock, flatMap_leaked h,
    List.nil_append]

end ClientGen.Cpp
