import ClientGen.Proofs.Idl.Addresses
import ClientGen.Proofs.Lists
/-!
# How many problems a document has

Every entity whose generated name an earlier one of its group has is one problem, and so is every
error whose code an earlier one has. So a group gives as many problems as it has more entities than
names, however often a name is used. Every bad address and every bad version is one problem more.
-/
namespace ClientGen.Idl

/-! ### Names of a group -/

theorem lookup_eq_none_iff_not_mem_keys {α : Type} [BEq α] [LawfulBEq α]
    (seen : List (α × String)) (key : α) : seen.lookup key = none ↔ key ∉ seen.map (·.1) := by
  rw [List.lookup_eq_none_iff, List.mem_map, not_exists]
  constructor
  · rintro h entry ⟨hmem, rfl⟩
    simpa using h entry hmem
  · intro h entry hmem
    have hne : entry.1 ≠ key := fun heq => h entry ⟨hmem, heq⟩
    simpa using hne.symm

theorem mem_keys_of_lookup {α : Type} [BEq α] [LawfulBEq α] {seen : List (α × String)} {key : α}
    {first : String} (h : seen.lookup key = some first) : key ∈ seen.map (·.1) := by
  by_contra hmem
  rw [(lookup_eq_none_iff_not_mem_keys seen key).mpr hmem] at h
  cases h

theorem length_nameProblem? (program : String) (group : NameGroup) (seen : SeenNames)
    (name : String) : (nameProblem? program group seen name).toList.length =
      if Naming.pascal name ∈ seen.map (·.1) then 1 else 0 := by
  rw [nameProblem?]
  cases hlookup : seen.lookup (Naming.pascal name) with
  | none =>
    rw [if_neg ((lookup_eq_none_iff_not_mem_keys seen _).mp hlookup)]
    rfl
  | some first =>
    rw [if_pos (mem_keys_of_lookup hlookup)]
    rfl

theorem repetitions_remember (seen : SeenNames) (name : String) (l : List String) :
    repetitions ((remember seen name).map (·.1)) l =
      repetitions (Naming.pascal name :: seen.map (·.1)) l := by
  rw [remember]
  cases hlookup : seen.lookup (Naming.pascal name) with
  | none => rfl
  | some first =>
    -- the name is not remembered again, since its generated name is there
    exact (repetitions_cons_of_mem (mem_keys_of_lookup hlookup)).symm

theorem length_nameProblems (program : String) (group : NameGroup) (names : List String) :
    ∀ seen : SeenNames, (nameProblems program group seen names).length =
      repetitions (seen.map (·.1)) (names.map Naming.pascal) := by
  induction names with
  | nil => intro seen; rfl
  | cons name rest ih =>
    intro seen
    rw [nameProblems, List.length_append, length_nameProblem?, ih, List.map_cons, repetitions,
      repetitions_remember]

theorem nameProblems_code (program : String) (group : NameGroup) (names : List String) :
    ∀ seen : SeenNames, ∀ problem ∈ nameProblems program group seen names,
      problem.code = .duplicate := by
  induction names with
  | nil =>
    intro seen problem h
    cases h
  | cons name rest ih =>
    intro seen problem h
    rcases List.mem_append.mp h with hfirst | hrest
    · obtain ⟨first, -, rfl⟩ := Option.map_eq_some_iff.mp (Option.mem_toList.mp hfirst)
      rfl
    · exact ih _ problem hrest

/-! ### Codes of errors -/

theorem length_errorProblems (program : String) (errors : List ErrorNode) :
    ∀ (seen : SeenNames) (codes : List (Int × String)),
      (errorProblems program seen codes errors).length =
        repetitions (seen.map (·.1)) (errors.map fun e => Naming.pascal e.name)
          + repetitions (codes.map (·.1)) (errors.map (·.code)) := by
  induction errors with
  | nil => intro seen codes; rfl
  | cons e rest ih =>
    intro seen codes
    rw [errorProblems, List.length_append, length_nameProblem?, List.map_cons, List.map_cons,
      repetitions, repetitions, ← repetitions_remember]
    cases hlookup : codes.lookup e.code with
    | none =>
      have hmem := (lookup_eq_none_iff_not_mem_keys codes e.code).mp hlookup
      dsimp only
      rw [ih, if_neg hmem, List.map_cons]
      dsimp only
      omega
    | some first =>
      -- a code that was seen is not put in front again
      have hmem := mem_keys_of_lookup hlookup
      dsimp only
      rw [List.length_cons, ih, if_pos hmem, repetitions_cons_of_mem hmem]
      omega

/-! ### Problems of one code -/

/-- How many problems of a list have a code. -/
def countOf (code : ErrorCode) (problems : List Problem) : Nat :=
  problems.countP (·.code == code)

section

variable {code other : ErrorCode} {problems more : List Problem}

theorem countOf_append :
    countOf code (problems ++ more) = countOf code problems + countOf code more :=
  List.countP_append

theorem countOf_eq_zero_iff :
    countOf code problems = 0 ↔ ∀ problem ∈ problems, problem.code ≠ code := by
  simp only [countOf, List.countP_eq_zero, beq_iff_eq]

theorem countOf_of_code (h : ∀ problem ∈ problems, problem.code = other) :
    countOf code problems = if other = code then problems.length else 0 := by
  rw [countOf]
  split
  · rename_i hcode
    rw [List.countP_eq_length]
    intro problem hproblem
    rw [h problem hproblem, hcode, beq_self_eq_true]
  · rename_i hcode
    apply countOf_eq_zero_iff.mpr
    intro problem hproblem hsame
    exact hcode ((h problem hproblem).symm.trans hsame)

theorem countOf_toList {α : Type} (code : ErrorCode) (fault? : Option α) {problem : α → Problem}
    (h : ∀ fault, (problem fault).code = other) :
    countOf code (fault?.map problem).toList = if other = code ∧ fault? ≠ none then 1 else 0 := by
  cases fault? with
  | none => simp [countOf]
  | some fault => simp [countOf, h, List.countP_singleton]

theorem countOf_nameProblems (program : String) (group : NameGroup) (names : List String) :
    countOf code (nameProblems program group [] names) =
      if .duplicate = code then excess (names.map Naming.pascal) else 0 := by
  rw [countOf_of_code (nameProblems_code program group names []), length_nameProblems,
    List.map_nil, repetitions_nil]

theorem errorProblems_code (program : String) (errors : List ErrorNode) :
    ∀ (seen : SeenNames) (codes : List (Int × String)),
      ∀ problem ∈ errorProblems program seen codes errors, problem.code = .duplicate := by
  induction errors with
  | nil =>
    intro seen codes problem h
    cases h
  | cons e rest ih =>
    intro seen codes problem h
    rw [errorProblems] at h
    rcases List.mem_append.mp h with hname | hcode
    · obtain ⟨first, -, rfl⟩ := Option.map_eq_some_iff.mp (Option.mem_toList.mp hname)
      rfl
    · split at hcode
      · rcases List.mem_cons.mp hcode with rfl | hrest
        · rfl
        · exact ih _ _ problem hrest
      · exact ih _ _ problem hcode

theorem countOf_errorProblems (program : String) (errors : List ErrorNode) :
    countOf code (errorProblems program [] [] errors) =
      if .duplicate = code then
        excess (errors.map fun e => Naming.pascal e.name) + excess (errors.map (·.code))
      else 0 := by
  rw [countOf_of_code (errorProblems_code program errors [] []), length_errorProblems,
    List.map_nil, List.map_nil, repetitions_nil, repetitions_nil]

end

/-! ### Programs and documents -/

/-- A version that is given and cannot be read. -/
def IsLooseVersion (version : String) : Prop :=
  version ≠ "" ∧ ∀ parsed, Version.parse version ≠ .ok parsed

theorem versionFault?_ne_none_iff (version : String) :
    versionFault? version ≠ none ↔ IsLooseVersion version := by
  rw [versionFault?, IsLooseVersion]
  by_cases hempty : version = ""
  · simp [hempty]
  · rw [if_neg (by simpa using hempty)]
    cases Version.parse version <;> simp [hempty]

instance : DecidablePred IsLooseVersion := fun version =>
  decidable_of_iff _ (versionFault?_ne_none_iff version)

/-- How often a program uses a generated name or an error code again. -/
def ProgramNode.clashes (p : ProgramNode) : Nat :=
  excess (p.accounts.map fun a => Naming.pascal a.name)
    + excess (p.definedTypes.map fun d => Naming.pascal d.name)
    + excess (p.pdas.map fun d => Naming.pascal d.name)
    + excess ((p.allInstructions false).map fun ix => Naming.pascal ix.name)
    + excess (p.errors.map fun e => Naming.pascal e.name)
    + excess (p.errors.map (·.code))

theorem ProgramNode.countOf_problems (p : ProgramNode) (code : ErrorCode) :
    countOf code p.problems =
      (if .publicKey = code ∧ ¬ IsAddress p.publicKey then 1 else 0)
        + (if .version = code ∧ IsLooseVersion p.version then 1 else 0)
        + (if .duplicate = code then p.clashes else 0) := by
  have hkey := countOf_toList code (keyFault? p.publicKey) fun fault =>
    show (Problem.programKey p.name fault).code = .publicKey from rfl
  have hversion := countOf_toList code (versionFault? p.version) fun fault =>
    show (Problem.programVersion p.name p.version fault).code = .version from rfl
  simp only [ne_eq, keyFault?_eq_none_iff] at hkey
  simp only [versionFault?_ne_none_iff] at hversion
  simp only [problems, countOf_append, hkey, hversion, countOf_nameProblems, countOf_errorProblems,
    List.map_map, clashes]
  by_cases hcode : .duplicate = code
  · simp only [if_pos hcode, Function.comp_def]
    omega
  · simp only [if_neg hcode, Nat.add_zero]

/-- How often a document uses the generated name of a program again, or a program one of its own. -/
def RootNode.clashes (root : RootNode) : Nat :=
  excess (root.programs.map fun p => Naming.pascal p.name)
    + (root.programs.map (·.clashes)).sum

/-- The versions that a document gives. -/
def RootNode.versions (root : RootNode) : List String :=
  root.version :: root.programs.map (·.version)

theorem RootNode.countOf_problems (root : RootNode) (code : ErrorCode) :
    countOf code root.problems =
      (if .version = code ∧ IsLooseVersion root.version then 1 else 0)
        + (if .duplicate = code then excess (root.programs.map fun p => Naming.pascal p.name)
          else 0)
        + (root.programs.map fun p => countOf code p.problems).sum := by
  have hversion := countOf_toList code (versionFault? root.version) fun fault =>
    show (Problem.rootVersion root.version fault).code = .version from rfl
  simp only [versionFault?_ne_none_iff] at hversion
  have hprograms : countOf code (root.programs.flatMap (·.problems)) =
      (root.programs.map fun p => countOf code p.problems).sum := List.countP_flatMap
  simp only [problems, countOf_append, hversion, countOf_nameProblems, hprograms, List.map_map,
    Function.comp_def]

theorem sum_indicator {α : Type} (p : α → Prop) [DecidablePred p] (l : List α) :
    (l.map fun a => if p a then 1 else 0).sum = l.countP (p ·) := by
  induction l with
  | nil => rfl
  | cons a rest ih =>
    rw [List.map_cons, List.sum_cons, ih, List.countP_cons, Nat.add_comm]
    simp

theorem RootNode.countOf_duplicate (root : RootNode) :
    countOf .duplicate root.problems = root.clashes := by
  simp [countOf_problems, ProgramNode.countOf_problems, clashes]

theorem RootNode.countOf_publicKey (root : RootNode) :
    countOf .publicKey root.problems = root.programs.countP (¬ IsAddress ·.publicKey) := by
  rw [← sum_indicator]
  simp [countOf_problems, ProgramNode.countOf_problems]

theorem RootNode.countOf_version (root : RootNode) :
    countOf .version root.problems = root.versions.countP (IsLooseVersion ·) := by
  rw [← sum_indicator, versions, List.map_cons, List.map_map]
  simp [countOf_problems, ProgramNode.countOf_problems, Function.comp_def]

/-! ### Documents without problems -/

/-- A program that uses every generated name once within its group, and every error code once. -/
structure ProgramNode.IsUnambiguous (p : ProgramNode) : Prop where
  accounts : (p.accounts.map fun a => Naming.pascal a.name).Nodup
  definedTypes : (p.definedTypes.map fun d => Naming.pascal d.name).Nodup
  pdas : (p.pdas.map fun d => Naming.pascal d.name).Nodup
  instructions : ((p.allInstructions false).map fun ix => Naming.pascal ix.name).Nodup
  errors : (p.errors.map fun e => Naming.pascal e.name).Nodup
  codes : (p.errors.map (·.code)).Nodup

theorem ProgramNode.clashes_eq_zero_iff (p : ProgramNode) : p.clashes = 0 ↔ p.IsUnambiguous := by
  simp only [clashes, Nat.add_eq_zero_iff, excess_eq_zero_iff]
  constructor
  · rintro ⟨⟨⟨⟨⟨haccounts, htypes⟩, hpdas⟩, hinstructions⟩, herrors⟩, hcodes⟩
    exact ⟨haccounts, htypes, hpdas, hinstructions, herrors, hcodes⟩
  · rintro ⟨haccounts, htypes, hpdas, hinstructions, herrors, hcodes⟩
    exact ⟨⟨⟨⟨⟨haccounts, htypes⟩, hpdas⟩, hinstructions⟩, herrors⟩, hcodes⟩

theorem RootNode.clashes_eq_zero_iff (root : RootNode) : root.clashes = 0 ↔
    (root.programs.map fun p => Naming.pascal p.name).Nodup ∧
      ∀ p ∈ root.programs, p.IsUnambiguous := by
  rw [clashes, Nat.add_eq_zero_iff, excess_eq_zero_iff, List.sum_eq_zero_iff_forall_eq_nat]
  simp only [List.forall_mem_map, ProgramNode.clashes_eq_zero_iff]

theorem problems_eq_nil_iff_counts {problems : List Problem} : problems = [] ↔
    countOf .duplicate problems = 0 ∧ countOf .publicKey problems = 0 ∧
      countOf .version problems = 0 := by
  constructor
  · rintro rfl
    exact ⟨rfl, rfl, rfl⟩
  · rintro ⟨hduplicate, hkey, hversion⟩
    rw [countOf_eq_zero_iff] at hduplicate hkey hversion
    rw [List.eq_nil_iff_forall_not_mem]
    intro problem hproblem
    cases problem with
    | rootVersion => exact hversion _ hproblem rfl
    | programVersion => exact hversion _ hproblem rfl
    | programKey => exact hkey _ hproblem rfl
    | sameName => exact hduplicate _ hproblem rfl
    | sameCode => exact hduplicate _ hproblem rfl

/-- The problems of a document are counted by its contents: one for every use of a generated name
or an error code after the first, one for every program without an address, and one for every
version that cannot be read. So there are none exactly if all names and codes differ and all
addresses and versions can be read. -/
theorem problems_are_counted (root : RootNode) :
    root.problems.countP (·.code == .duplicate) = root.clashes ∧
    root.problems.countP (·.code == .publicKey) =
      root.programs.countP (¬ IsAddress ·.publicKey) ∧
    root.problems.countP (·.code == .version) = root.versions.countP (IsLooseVersion ·) ∧
    (root.problems = [] ↔
      (root.programs.map fun p => Naming.pascal p.name).Nodup ∧
      (∀ p ∈ root.programs, p.IsUnambiguous ∧ IsAddress p.publicKey) ∧
      ∀ version ∈ root.versions, ¬ IsLooseVersion version) := by
  refine ⟨root.countOf_duplicate, root.countOf_publicKey, root.countOf_version, ?_⟩
  rw [problems_eq_nil_iff_counts, root.countOf_duplicate, root.countOf_publicKey,
    root.countOf_version, root.clashes_eq_zero_iff, List.countP_eq_zero, List.countP_eq_zero]
  simp only [decide_eq_true_eq, not_not]
  constructor
  · rintro ⟨⟨hprograms, hnames⟩, hkeys, hversions⟩
    exact ⟨hprograms, fun p hp => ⟨hnames p hp, hkeys p hp⟩, hversions⟩
  · rintro ⟨hprograms, hsound, hversions⟩
    exact ⟨⟨hprograms, fun p hp => (hsound p hp).1⟩, fun p hp => (hsound p hp).2, hversions⟩

end ClientGen.Idl
