import Mathlib.Data.List.Forall2
import ClientGen.Proofs.Render.JoinOrder
/-!
# When a scenario passes

A scenario passes in two ways: the run fails with the error that is expected, or no error is
expected, the run succeeds and every assertion holds. Whatever is not so is listed, the assertions
that do not hold in their order.
-/
namespace ClientGen

open ClientGen.Render

theorem Text.occursIn_iff {part text : List Char} :
    Text.occursIn part text = true ↔ part <:+: text := by
  induction text with
  | nil => rw [Text.occursIn, List.isEmpty_iff, List.infix_nil]
  | cons c rest ih =>
    rw [Text.occursIn, Bool.or_eq_true, List.isPrefixOf_iff_prefix, ih, List.infix_cons_iff]

theorem Text.includes_iff {text part : String} :
    Text.includes text part = true ↔ part.toList <:+: text.toList := Text.occursIn_iff

/-! ### Assertions -/

theorem AssertionType.find?_eq_some_iff {name : String} {type : AssertionType} :
    AssertionType.find? name = some type ↔ name = type.name := by
  constructor
  · intro h
    unfold AssertionType.find? at h
    have hname := List.find?_some h
    exact (beq_iff_eq.mp hname).symm
  · rintro rfl
    cases type with
    | fileExists => rfl
    | fileAbsent => rfl
    | fileContains => rfl
    | fileLacks => rfl
    | fileCount => rfl

namespace Assertion

variable {a : Assertion} {map : FileMap}

/-- What an assertion says about files. One of another type says nothing that could hold. -/
def Holds (a : Assertion) (map : FileMap) : Prop :=
  match a.type with
  | "file_exists" => a.path ∈ map.paths
  | "file_absent" => a.path ∉ map.paths
  | "file_contains" =>
    ∃ content, map.get? a.path = some content ∧ a.text.toList <:+: content.toList
  | "file_lacks" =>
    ∃ content, map.get? a.path = some content ∧ ¬ a.text.toList <:+: content.toList
  | "file_count" => (map.paths.countP (globMatches a.path) : Int) = a.count
  | _ => False

/-- An assertion that holds is of one of the types. -/
theorem Holds.type_eq (h : a.Holds map) : ∃ type : AssertionType, a.type = type.name := by
  unfold Holds at h
  split at h
  · exact ⟨.fileExists, ‹_›⟩
  · exact ⟨.fileAbsent, ‹_›⟩
  · exact ⟨.fileContains, ‹_›⟩
  · exact ⟨.fileLacks, ‹_›⟩
  · exact ⟨.fileCount, ‹_›⟩
  · exact h.elim

/-- The check of each type finds nothing exactly if the assertion holds. -/
theorem check_eq_none_iff {type : AssertionType} (h : a.type = type.name) :
    a.check type map = none ↔ a.Holds map := by
  unfold Holds
  rw [h]
  cases type with
  | fileExists =>
    change (if map.contains a.path then none else some _) = none ↔ a.path ∈ map.paths
    rw [← map.contains_iff]
    split <;> simp_all
  | fileAbsent =>
    change (if map.contains a.path then some _ else none) = none ↔ a.path ∉ map.paths
    rw [← map.contains_iff]
    split <;> simp_all
  | fileContains =>
    change _ ↔ ∃ content, map.get? a.path = some content ∧ a.text.toList <:+: content.toList
    simp only [← Text.includes_iff, check]
    split
    · simp_all
    · split <;> simp_all
  | fileLacks =>
    change _ ↔ ∃ content, map.get? a.path = some content ∧ ¬ a.text.toList <:+: content.toList
    simp only [← Text.includes_iff, check]
    split
    · simp_all
    · split <;> simp_all
  | fileCount =>
    change _ ↔ (map.paths.countP (globMatches a.path) : Int) = a.count
    rw [List.countP_eq_length_filter]
    simp only [check]
    split <;> simp_all

theorem failure?_eq_none_iff : a.failure? map = none ↔ a.Holds map := by
  unfold failure?
  cases hfind : AssertionType.find? a.type with
  | none =>
    refine ⟨nofun, fun hholds => ?_⟩
    obtain ⟨type, htype⟩ := hholds.type_eq
    rw [AssertionType.find?_eq_some_iff.mpr htype] at hfind
    cases hfind
  | some type => exact check_eq_none_iff (AssertionType.find?_eq_some_iff.mp hfind)

instance : Decidable (a.Holds map) := decidable_of_iff _ failure?_eq_none_iff

end Assertion

/-- There is one failure for each assertion that does not hold, in their order. -/
theorem assertionFailures_forall₂ (map : FileMap) (assertions : List Assertion) :
    List.Forall₂ (fun a failure => a.failure? map = some failure)
      (assertions.filter fun a => ¬ a.Holds map) (assertionFailures map assertions) := by
  induction assertions with
  | nil => exact .nil
  | cons a rest ih =>
    cases hfailure : a.failure? map with
    | none =>
      have hholds : a.Holds map := Assertion.failure?_eq_none_iff.mp hfailure
      rw [List.filter_cons_of_neg (by simpa using hholds)]
      simp only [assertionFailures, List.filterMap_cons, hfailure]
      exact ih
    | some failure =>
      have hfails : ¬ a.Holds map := by
        rw [← Assertion.failure?_eq_none_iff, hfailure]
        nofun
      rw [List.filter_cons_of_pos (by simpa using hfails)]
      simp only [assertionFailures, List.filterMap_cons, hfailure]
      exact .cons hfailure ih

theorem assertionFailures_eq_nil_iff {map : FileMap} {assertions : List Assertion} :
    assertionFailures map assertions = [] ↔ ∀ a ∈ assertions, a.Holds map := by
  simp only [assertionFailures, List.filterMap_eq_nil_iff, Assertion.failure?_eq_none_iff]

/-! ### Errors -/

theorem Cpp.Unsupported.message_ne_empty (construct : Cpp.Unsupported) :
    construct.message ≠ "" := by
  unfold message
  split <;> simp

theorem Cpp.Error.message_ne_empty (e : Cpp.Error) : e.message ≠ "" := by
  cases e with
  | unsupported construct => exact construct.message_ne_empty
  | invalidValue value =>
    change value.message ≠ ""
    unfold InvalidValue.message
    split <;> simp
  | missingContext what => simp [message]
  | missingPda name => simp [message]
  | duplicatePath path => simp [message]
  | missingRoot => simp [message]
  | inside place cause => simp [message]

theorem Idl.LoadError.text_ne_empty (formats : Formats) (e : Idl.LoadError) :
    e.text formats ≠ "" := by
  unfold text
  dsimp only
  split
  · change "context canceled" ≠ ""
    decide
  · simp
  · split <;> simp

/-- Every error has a message, whatever is said about malformed texts. -/
theorem GenerationError.message_ne_empty (formats : Formats) (e : GenerationError) :
    e.message formats ≠ "" := by
  cases e with
  | load error => exact error.text_ne_empty formats
  | unknownFlavor name => simp [message, Flavor.unknownMessage]
  | render error => exact error.message_ne_empty

/-! ### Runs -/

namespace Scenario

variable (formats : Formats) (tree : FileTree) (s : Scenario)

theorem complaints_error_eq_nil_iff (e : GenerationError) : s.complaints formats (.error e) = [] ↔
    s.expectedError ≠ "" ∧ s.expectedError.toList <:+: (e.message formats).toList := by
  rw [← Text.includes_iff, complaints, Ne, ← String.isEmpty_iff]
  split
  · simp_all
  · split <;> simp_all

theorem complaints_ok_eq_nil_iff (map : FileMap) : s.complaints formats (.ok map) = [] ↔
    s.expectedError = "" ∧ ∀ a ∈ s.assertions, a.Holds map := by
  rw [← assertionFailures_eq_nil_iff, complaints, List.append_eq_nil_iff, List.map_eq_nil_iff,
    ← String.isEmpty_iff]
  split <;> simp_all

/-- What is complained about files: an error that was expected, and then each assertion that does
not hold. -/
theorem messages_of_ok (map : FileMap) : ∃ messages,
    (s.complaints formats (.ok map)).map (·.message) =
      (if s.expectedError = "" then [] else [Complaint.message (.noError s.expectedError)])
        ++ messages ∧
    List.Forall₂ (fun a message => ∃ failure, a.failure? map = some failure ∧
      message = failure.message) (s.assertions.filter fun a => ¬ a.Holds map) messages := by
  refine ⟨(assertionFailures map s.assertions).map (·.message), ?_, ?_⟩
  · rw [complaints, List.map_append, List.map_map]
    congr 1
    simp only [String.isEmpty_iff]
    split <;> rfl
  · rw [List.forall₂_map_right_iff]
    exact (assertionFailures_forall₂ map s.assertions).imp fun a failure h => ⟨failure, h, rfl⟩

/-- A run that is not called off comes to an outcome, which is one of those that may be in some
order of files. Each of these passes exactly if it fails with an error that is expected, or no error
is expected, it succeeds and all assertions hold. It passes exactly if nothing is complained about,
and there are files exactly if there is no message of an error. If there are files, it is complained
about an error that was expected, and then about each assertion that does not hold. -/
theorem run_passes_iff :
    (∃ o, s.run formats tree false = some o ∧ s.MayEnd formats tree o ∧
      o.files = s.generate formats.documents tree false) ∧
    ∀ o, s.MayEnd formats tree o →
      (o.passes = true ↔
        (∃ e, o.files = .error e ∧ s.expectedError ≠ "" ∧
          s.expectedError.toList <:+: (o.runError formats).toList) ∨
        ∃ map, o.files = .ok map ∧ s.expectedError = "" ∧ ∀ a ∈ s.assertions, a.Holds map) ∧
      (o.passes = true ↔ o.errors = []) ∧
      ((∃ map, o.files = .ok map) ↔ o.runError formats = "") ∧
      ∀ map, o.files = .ok map → ∃ messages,
        o.errors =
          (if s.expectedError = "" then [] else [Complaint.message (.noError s.expectedError)])
            ++ messages ∧
        List.Forall₂ (fun a message => ∃ failure, a.failure? map = some failure ∧
          message = failure.message) (s.assertions.filter fun a => ¬ a.Holds map) messages := by
  refine ⟨s.exists_run formats tree, ?_⟩
  rintro _ ⟨files, -, rfl⟩
  refine ⟨?_, ?_, ?_, ?_⟩
  · rw [Outcome.passes, List.isEmpty_iff]
    cases files with
    | error e =>
      rw [complaints_error_eq_nil_iff]
      simp [Outcome.runError]
    | ok map =>
      rw [complaints_ok_eq_nil_iff]
      simp
  · rw [Outcome.passes, Outcome.errors, List.isEmpty_iff, List.map_eq_nil_iff]
  · rw [Outcome.runError]
    cases files with
    | error e => simp [e.message_ne_empty formats]
    | ok map => simp
  · rintro map rfl
    exact s.messages_of_ok formats map

end Scenario

end ClientGen
