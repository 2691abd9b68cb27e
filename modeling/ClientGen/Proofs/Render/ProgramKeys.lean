import ClientGen.Proofs.Idl.Modes
import ClientGen.Proofs.Idl.ProblemCounts
import ClientGen.Proofs.Render.Contents
/-!
# Addresses of programs

A document is accepted only if every program has an address, however tolerant the reader is. So the
header that declares the addresses can be written for every accepted document.
-/
namespace ClientGen.Render

open ClientGen.Idl ClientGen.Cpp ClientGen.Encoding

section

variable {r : Renderer} {programs : List ProgramNode}

theorem isAddress_of_no_keyProblem {root : RootNode}
    (h : ∀ problem ∈ root.problems, problem.code ≠ .publicKey) :
    ∀ p ∈ root.programs, IsAddress p.publicKey := by
  intro p hp
  have hcount : root.programs.countP (¬ IsAddress ·.publicKey) = 0 :=
    root.countOf_publicKey.symm.trans (countOf_eq_zero_iff.mpr h)
  simpa using List.countP_eq_zero.mp hcount p hp

theorem publicKeyLiteral_ok {target : Target} {key : String} (h : IsAddress key) :
    ∃ l, publicKeyLiteral target key = .ok l := by
  rw [publicKeyLiteral, (checkPublicKey_eq_ok_iff key).mpr h]
  exact ⟨_, rfl⟩

theorem programKeys_ok (h : ∀ p ∈ programs, IsAddress p.publicKey) :
    ∃ keys, r.programKeys programs = .ok keys := by
  induction programs with
  | nil => exact ⟨[], rfl⟩
  | cons p rest ih =>
    obtain ⟨hkey, hrest⟩ := List.forall_mem_cons.mp h
    obtain ⟨l, hl⟩ := @publicKeyLiteral_ok r.target _ hkey
    obtain ⟨keys, hkeys⟩ := ih hrest
    rw [Renderer.programKeys, hl, hkeys]
    exact ⟨(p, l) :: keys, rfl⟩

theorem baseStep_ok_of_programKeys {keys : List (ProgramNode × Literal)}
    (h : r.programKeys programs = .ok keys) : ∃ base, (r.baseStep programs).files = .ok base := by
  rw [Renderer.baseStep]
  split
  · exact ⟨_, rfl⟩
  · rw [h]
    exact ⟨_, rfl⟩

theorem programsPage_mem_baseStep (hflavor : r.flavor ∈ Flavor.all) (hprograms : programs ≠ [])
    {keys : List (ProgramNode × Literal)} (hkeys : r.programKeys programs = .ok keys)
    {base : FileMap} (hbase : (r.baseStep programs).files = .ok base) :
    (r.publicRoot ++ r.programsHeader, r.programsPage keys) ∈ base.files := by
  obtain ⟨keys', hkeys', -, hmem⟩ := baseStep_contents hflavor hbase
  obtain rfl : keys = keys' := Except.ok.inj (hkeys.symm.trans hkeys')
  rw [hmem, Renderer.moduleContents, if_neg (by simpa using hprograms)]
  exact List.mem_append_left _ List.mem_cons_self

end

/-- The check and the writing of a literal accept the same keys, which are what base 58 writes for
one list of thirty-two bytes. So the header of the programs is written for every document that is
accepted, strictly or not. -/
theorem accepted_programs_are_written :
    (∀ key, (keyFault? key = none ↔ checkPublicKey key = .ok ()) ∧
      (checkPublicKey key = .ok () ↔
        ∃! bytes : List UInt8, bytes.length = 32 ∧ Base58.encode bytes = key)) ∧
    ∀ (reader : DocumentReader) (cancelled strict : Bool) (name text : String) (document : Document),
      (parse reader cancelled strict name text).result = .ok document → ∀ r : Renderer,
        ∃ keys base, r.programKeys (r.programsOf document.root) = .ok keys ∧
          (r.baseStep (r.programsOf document.root)).files = .ok base ∧
          (r.flavor ∈ Flavor.all → r.programsOf document.root ≠ [] →
            (r.publicRoot ++ r.programsHeader, r.programsPage keys) ∈ base.files) := by
  constructor
  · intro key
    rw [keyFault?_eq_none_iff, checkPublicKey_eq_ok_iff]
    exact ⟨Iff.rfl, Iff.rfl⟩
  · intro reader cancelled strict name text document h r
    obtain ⟨-, root, -, hsettle⟩ := parse_eq_ok_iff.mp h
    obtain ⟨rfl, hversions⟩ := settleProblems_eq_ok hsettle
    have haddress : ∀ p ∈ r.programsOf document.root, IsAddress p.publicKey := by
      intro p hp
      refine isAddress_of_no_keyProblem ?_ p (List.mem_of_mem_filter hp)
      intro problem hproblem hcode
      cases hcode.symm.trans (hversions problem hproblem)
    obtain ⟨keys, hkeys⟩ := programKeys_ok (r := r) haddress
    obtain ⟨base, hbase⟩ := baseStep_ok_of_programKeys hkeys
    exact ⟨keys, base, hkeys, hbase, fun hflavor hprograms =>
      programsPage_mem_baseStep hflavor hprograms hkeys hbase⟩

/-- A document that only a lenient reader accepts, for its version. -/
theorem accepted_programs_are_written_vault :
    let key := "11111111111111111111111111111111"
    let json := "\x7b\"kind\":\"rootNode\",\"version\":\"one\",\"program\":\x7b\"kind\":"
      ++ "\"programNode\",\"name\":\"vault\",\"publicKey\":\"" ++ key ++ "\"\x7d\x7d"
    let text := "kind: \"rootNode\"\nversion: \"one\"\nprogram: \x7bkind: \"programNode\", "
      ++ "name: \"vault\", publicKey: \"" ++ key ++ "\"\x7d\n"
    let reader := DocumentReader.knowing [(text, json)]
    let r : Renderer := ⟨⟨.unreal5, "Vault"⟩, false, false, []⟩
    checkPublicKey key = .ok () ∧
      ∃ document keys, (parse reader false false "vault.cue" text).result = .ok document ∧
        r.programKeys (r.programsOf document.root) = .ok keys := by
  intro key json text reader r
  have hkey : keyFault? key = none := by decide +kernel
  have haccepted : (parse reader false false "vault.cue" text).result.toOption.isSome = true := by
    decide +kernel
  cases hresult : (parse reader false false "vault.cue" text).result with
  | error e =>
    rw [hresult] at haccepted
    cases haccepted
  | ok document =>
    obtain ⟨keys, -, hkeys, -⟩ :=
      accepted_programs_are_written.2 reader false false "vault.cue" text document hresult r
    exact ⟨(accepted_programs_are_written.1 key).1.mp hkey, document, keys, rfl, hkeys⟩

end ClientGen.Render
