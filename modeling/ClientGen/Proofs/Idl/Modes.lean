import ClientGen.Idl.Document
/-!
# Strict and lenient reading

Both ways of reading a document decode it alike and look for the same problems. They differ in what
they make of problems with versions only: one refuses them, the other logs them and goes on. So a
document without problems is the same to both.
-/
namespace ClientGen.Idl

section

variable {reader : DocumentReader} {tree : FileTree} {cancelled strict : Bool}
  {path text : String} {root : RootNode} {document : Document}

theorem settleProblems_of_none (h : root.problems = []) :
    (settleProblems strict path root).result = .ok ⟨path, root, []⟩ := by
  cases strict <;> simp [settleProblems, h]

/-- A strict reader accepts a document exactly if it has no problems. -/
theorem settleProblems_strict_eq_ok_iff :
    (settleProblems true path root).result = .ok document ↔
      root.problems = [] ∧ document = ⟨path, root, []⟩ := by
  constructor
  · intro h
    have hnone : root.problems = [] := by
      cases hproblems : root.problems with
      | nil => rfl
      | cons first more =>
        simp only [settleProblems, hproblems, if_true] at h
        cases h
    rw [settleProblems_of_none hnone] at h
    exact ⟨hnone, (Except.ok.inj h).symm⟩
  · rintro ⟨hnone, rfl⟩
    exact settleProblems_of_none hnone

theorem parse_eq_ok_iff :
    (parse reader cancelled strict path text).result = .ok document ↔
      cancelled = false ∧ ∃ root, documentRoot reader path text = .ok root ∧
        (settleProblems strict path root).result = .ok document := by
  cases cancelled with
  | true => simp [parse, Loading.failed]
  | false =>
    rw [parse, if_neg Bool.false_ne_true]
    cases documentRoot reader path text with
    | error e => simp [Loading.failed]
    | ok root => simp

theorem load_eq_ok_iff :
    (load reader tree cancelled strict path).result = .ok document ↔
      ∃ text, tree.read path = .ok text ∧
        (parse reader cancelled strict path text).result = .ok document := by
  unfold load FileTree.read
  cases tree.find path with
  | error reason => cases reason <;> simp [Loading.failed]
  | ok found =>
    obtain ⟨location, entry⟩ := found
    cases entry <;> simp [Loading.failed]

/-- What is read strictly is read to the same document leniently, by whoever is not called off. -/
theorem load_lenient_of_strict (h : (load reader tree cancelled true path).result = .ok document) :
    (load reader tree false false path).result = .ok document := by
  obtain ⟨text, htext, h⟩ := load_eq_ok_iff.mp h
  obtain ⟨-, root, hroot, h⟩ := parse_eq_ok_iff.mp h
  obtain ⟨hnone, rfl⟩ := settleProblems_strict_eq_ok_iff.mp h
  exact load_eq_ok_iff.mpr ⟨text, htext, parse_eq_ok_iff.mpr
    ⟨rfl, root, hroot, settleProblems_of_none hnone⟩⟩

/-- The empty path leads nowhere. -/
theorem path_ne_empty_of_load (h : (load reader tree cancelled strict path).result = .ok document) :
    path ≠ "" := by
  rintro rfl
  obtain ⟨text, htext, -⟩ := load_eq_ok_iff.mp h
  cases htext

/-! ### What becomes of the problems -/

/-- A reading that refuses a document for some problems, all of them and in order. -/
def Loading.Refuses (loading : Loading) (problems : List Problem) : Prop :=
  ∃ first more, problems = first :: more ∧ loading.result = .error (.problems first more)

theorem Loading.Refuses.not_ok {loading : Loading} {problems : List Problem}
    (h : loading.Refuses problems) : ¬ ∃ document, loading.result = .ok document := by
  obtain ⟨first, more, -, hresult⟩ := h
  rw [hresult]
  simp

theorem settleProblems_strict_refuses (h : root.problems ≠ []) :
    (settleProblems true path root).Refuses root.problems := by
  obtain ⟨first, more, hproblems⟩ := List.exists_cons_of_ne_nil h
  refine ⟨first, more, hproblems, ?_⟩
  simp [settleProblems, hproblems]

theorem settleProblems_lenient_of_versions
    (h : ∀ problem ∈ root.problems, problem.code = .version) :
    settleProblems false path root = ⟨root.problems, .ok ⟨path, root, root.problems⟩⟩ := by
  have htolerated : root.problems.filter (·.isTolerable) = root.problems := by
    rw [List.filter_eq_self]
    intro problem hproblem
    exact beq_iff_eq.mpr (h problem hproblem)
  have hfatal : root.problems.filter (!·.isTolerable) = [] := by
    rw [List.filter_eq_nil_iff]
    intro problem hproblem
    simp [Problem.isTolerable, h problem hproblem]
  simp [settleProblems, htolerated, hfatal]

theorem settleProblems_lenient_refuses (h : ∃ problem ∈ root.problems, problem.code ≠ .version) :
    (settleProblems false path root).Refuses (root.problems.filter (·.code != .version)) := by
  obtain ⟨problem, hproblem, hcode⟩ := h
  have hmem : problem ∈ root.problems.filter (·.code != .version) :=
    List.mem_filter.mpr ⟨hproblem, bne_iff_ne.mpr hcode⟩
  obtain ⟨first, more, hfatal⟩ := List.exists_cons_of_ne_nil (List.ne_nil_of_mem hmem)
  refine ⟨first, more, hfatal, ?_⟩
  have hstops : root.problems.filter (!·.isTolerable) = first :: more := hfatal
  simp [settleProblems, hstops]

/-- Whoever reads a document, all its problems are about versions. -/
theorem settleProblems_eq_ok (h : (settleProblems strict path root).result = .ok document) :
    document.root = root ∧ ∀ problem ∈ root.problems, problem.code = .version := by
  cases strict with
  | true =>
    obtain ⟨hnone, rfl⟩ := settleProblems_strict_eq_ok_iff.mp h
    simp [hnone]
  | false =>
    have hversions : ∀ problem ∈ root.problems, problem.code = .version := by
      intro problem hproblem
      apply Decidable.byContradiction
      intro hcode
      exact (settleProblems_lenient_refuses ⟨problem, hproblem, hcode⟩).not_ok ⟨document, h⟩
    rw [settleProblems_lenient_of_versions hversions] at h
    cases h
    exact ⟨rfl, hversions⟩

theorem settleProblems_logged :
    (settleProblems strict path root).logged =
      if strict then [] else root.problems.filter (·.code == .version) := by
  rw [settleProblems]
  split <;> rfl

theorem parse_of_root (h : documentRoot reader path text = .ok root) :
    parse reader false strict path text = settleProblems strict path root := by
  simp [parse, h]

end

/-- Both ways of reading fail alike before the problems are looked for. A strict reader accepts a
document exactly if it has no problems, and refuses it for all of them otherwise. A lenient reader
accepts it exactly if all problems are about versions, logs them and hands them on as warnings, and
refuses it for the others in order otherwise. -/
theorem modes_differ_on_versions (reader : DocumentReader) (name text : String) :
    (∀ strict, parse reader true strict name text = .failed .cancelled) ∧
    (∀ e, documentRoot reader name text = .error e →
      ∀ strict, parse reader false strict name text = .failed e) ∧
    ∀ root, documentRoot reader name text = .ok root →
      let strict := parse reader false true name text
      let lenient := parse reader false false name text
      strict.logged = [] ∧
      ((∃ document, strict.result = .ok document) ↔ root.problems = []) ∧
      (root.problems = [] → strict.result = .ok ⟨name, root, []⟩) ∧
      (root.problems ≠ [] → strict.Refuses root.problems) ∧
      lenient.logged = root.problems.filter (·.code == .version) ∧
      ((∃ document, lenient.result = .ok document) ↔
        ∀ problem ∈ root.problems, problem.code = .version) ∧
      ((∀ problem ∈ root.problems, problem.code = .version) →
        lenient = ⟨root.problems, .ok ⟨name, root, root.problems⟩⟩) ∧
      ((∃ problem ∈ root.problems, problem.code ≠ .version) →
        lenient.Refuses (root.problems.filter (·.code != .version))) := by
  refine ⟨fun _ => rfl, ?_, ?_⟩
  · intro e he strict
    simp [parse, he]
  · intro root hroot
    rw [parse_of_root hroot, parse_of_root hroot]
    refine ⟨settleProblems_logged, ⟨?_, ?_⟩, settleProblems_of_none,
      settleProblems_strict_refuses, settleProblems_logged, ⟨?_, ?_⟩,
      settleProblems_lenient_of_versions, settleProblems_lenient_refuses⟩
    · rintro ⟨document, hdocument⟩
      exact (settleProblems_strict_eq_ok_iff.mp hdocument).1
    · intro hnone
      exact ⟨_, settleProblems_of_none hnone⟩
    · rintro ⟨document, hdocument⟩
      exact (settleProblems_eq_ok hdocument).2
    · intro hversions
      exact ⟨_, congrArg (·.result) (settleProblems_lenient_of_versions hversions)⟩

/-- A reader that knows for some texts how they are written as JSON. -/
def DocumentReader.knowing (spellings : List (String × String)) : DocumentReader :=
  let plain := DocumentReader.plain "malformed document"
  { plain with
    build := fun format name text =>
      match spellings.lookup text with
      | none => plain.build format name text
      | some json => plain.build .json name json }

private theorem exists_root_of_problems {reader : DocumentReader} {name text : String}
    {problems : List Problem}
    (h : (documentRoot reader name text).toOption.map (·.problems) = some problems) :
    ∃ root, documentRoot reader name text = .ok root ∧ root.problems = problems := by
  cases hroot : documentRoot reader name text with
  | error e =>
    rw [hroot] at h
    cases h
  | ok root =>
    rw [hroot] at h
    exact ⟨root, rfl, Option.some.inj h⟩

/-- A document with a loose version is read leniently only. With a bad address as well it is not
read at all: the lenient reader refuses it for the address alone. -/
theorem modes_differ_on_versions_vault :
    let json (key : String) := "\x7b\"kind\":\"rootNode\",\"version\":\"one\",\"program\":"
      ++ "\x7b\"kind\":\"programNode\",\"name\":\"vault\",\"publicKey\":\"" ++ key ++ "\"\x7d\x7d"
    let text (key : String) := "kind: \"rootNode\"\nversion: \"one\"\n"
      ++ "program: \x7bkind: \"programNode\", name: \"vault\", publicKey: \"" ++ key ++ "\"\x7d\n"
    let good := "11111111111111111111111111111111"
    let reader := DocumentReader.knowing [(text good, json good), (text "11", json "11")]
    let version := Problem.rootVersion "one" .malformed
    (∃ document, (parse reader false false "vault.cue" (text good)).result = .ok document) ∧
      (parse reader false true "vault.cue" (text good)).Refuses [version] ∧
      (parse reader false false "vault.cue" (text "11")).Refuses
        [.programKey "vault" (.wrongSize "11" 2)] := by
  intro json text good reader version
  have hfine : (documentRoot reader "vault.cue" (text good)).toOption.map (·.problems) =
      some [version] := by
    decide +kernel
  have hkey : (documentRoot reader "vault.cue" (text "11")).toOption.map (·.problems) =
      some [version, .programKey "vault" (.wrongSize "11" 2)] := by
    decide +kernel
  obtain ⟨root, hroot, hproblems⟩ := exists_root_of_problems hfine
  obtain ⟨root', hroot', hproblems'⟩ := exists_root_of_problems hkey
  obtain ⟨-, -, -, hstrict, -, hlenient, -, -⟩ :=
    (modes_differ_on_versions reader "vault.cue" (text good)).2.2 root hroot
  obtain ⟨-, -, -, -, -, -, -, hrefuses⟩ :=
    (modes_differ_on_versions reader "vault.cue" (text "11")).2.2 root' hroot'
  rw [hproblems] at hstrict hlenient
  rw [hproblems'] at hrefuses
  exact ⟨hlenient.mpr (by decide), hstrict (by decide), hrefuses (by decide)⟩

end ClientGen.Idl
