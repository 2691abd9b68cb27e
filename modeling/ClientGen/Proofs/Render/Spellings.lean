import ClientGen.Proofs.Idl.ProblemCounts
import ClientGen.Proofs.Naming.Casing
import ClientGen.Render.Account
import ClientGen.Render.DefinedType
import ClientGen.Render.Errors
import ClientGen.Render.Instruction
/-!
# Names that were cased before

Files, types and constants take their names from names in `PascalCase`, and the check of a document
compares those. A name that another tool has put into one of the casings still has its old
`PascalCase`. So whatever carries it is generated as before, and two entities of a group that carry
it in two casings are reported.
-/
namespace ClientGen.Naming

/-- A name as it is given and in every casing. -/
def casings (name : String) : List String :=
  [name, pascal name, camel name, snake name, kebab name]

theorem pascal_of_mem_casings {name x : String} (h : IsAscii name.toList)
    (hx : x ∈ casings name) : pascal x = pascal name := by
  simp only [casings, List.mem_cons, List.not_mem_nil, or_false] at hx
  rcases hx with hx | hx | hx | hx | hx <;> rw [hx]
  · exact pascal_pascal h
  · exact pascal_camel h
  · exact pascal_eq_of_words h (words_snake h)
  · exact pascal_eq_of_words h (words_kebab h)

end ClientGen.Naming

namespace ClientGen.Idl

/-! ### What the check compares -/

/-- The names of a group, with the program that messages mention. -/
structure NameList where
  program : String
  group : NameGroup
  names : List String

def ProgramNode.nameLists (p : ProgramNode) : List NameList :=
  [⟨p.name, .account, p.accounts.map (·.name)⟩,
   ⟨p.name, .definedType, p.definedTypes.map (·.name)⟩,
   ⟨p.name, .pda, p.pdas.map (·.name)⟩,
   ⟨p.name, .instruction, (p.allInstructions false).map (·.name)⟩,
   ⟨p.name, .error, p.errors.map (·.name)⟩]

/-- The names of a document that must differ, group by group. -/
def RootNode.nameLists (root : RootNode) : List NameList :=
  ⟨"", .program, root.programs.map (·.name)⟩ :: root.programs.flatMap (·.nameLists)

theorem nameProblems_subset_errorProblems (program : String) (errors : List ErrorNode) :
    ∀ (seen : SeenNames) (codes : List (Int × String)),
      nameProblems program .error seen (errors.map (·.name)) ⊆
        errorProblems program seen codes errors := by
  induction errors with
  | nil => exact fun _ _ => List.Subset.refl _
  | cons e rest ih =>
    intro seen codes
    rw [List.map_cons, nameProblems, errorProblems]
    apply List.append_subset.mpr
    refine ⟨List.subset_append_left _ _, List.subset_append_of_subset_right _ ?_⟩
    cases codes.lookup e.code with
    | none => exact ih _ _
    | some first => exact List.subset_cons_of_subset _ (ih _ _)

theorem RootNode.nameProblems_subset {root : RootNode} {l : NameList} (h : l ∈ root.nameLists) :
    nameProblems l.program l.group [] l.names ⊆ root.problems := by
  rcases List.mem_cons.mp h with rfl | h
  · simp [problems]
  · obtain ⟨p, hp, hl⟩ := List.mem_flatMap.mp h
    have hproblems : p.problems ⊆ root.problems := by
      apply List.subset_append_of_subset_right
      exact fun problem hproblem => List.mem_flatMap.mpr ⟨p, hp, hproblem⟩
    refine List.Subset.trans ?_ hproblems
    intro problem hproblem
    simp only [ProgramNode.nameLists, List.mem_cons, List.not_mem_nil, or_false] at hl
    rcases hl with rfl | rfl | rfl | rfl | rfl
    · simp [ProgramNode.problems, hproblem]
    · simp [ProgramNode.problems, hproblem]
    · simp [ProgramNode.problems, hproblem]
    · simp [ProgramNode.problems, hproblem]
    · exact List.mem_append_right _ (nameProblems_subset_errorProblems _ _ _ _ hproblem)

/-! ### A name that was seen -/

/-- Every name is kept under its generated name. -/
def SeenNames.Keyed (seen : SeenNames) : Prop := ∀ entry ∈ seen, entry.1 = Naming.pascal entry.2

theorem SeenNames.Keyed.remember {seen : SeenNames} (h : seen.Keyed) (name : String) :
    SeenNames.Keyed (remember seen name) := by
  rw [Idl.remember]
  split
  · exact h
  · exact List.forall_mem_cons.mpr ⟨rfl, h⟩

theorem mem_keys_remember (seen : SeenNames) (name key : String) :
    key ∈ (remember seen name).map (·.1) ↔ key = Naming.pascal name ∨ key ∈ seen.map (·.1) := by
  rw [remember]
  split
  · rename_i hseen
    obtain ⟨first, hfirst⟩ := Option.isSome_iff_exists.mp hseen
    have hmem := mem_keys_of_lookup hfirst
    grind
  · simp

section

variable {program : String} {group : NameGroup} {x y : String}

theorem nameProblem?_of_seen {seen : SeenNames} (hkeyed : seen.Keyed)
    (hseen : Naming.pascal y ∈ seen.map (·.1)) :
    ∃ first, Naming.pascal first = Naming.pascal y ∧
      nameProblem? program group seen y = some (.sameName program group first y) := by
  cases hlookup : seen.lookup (Naming.pascal y) with
  | none => exact absurd hseen ((lookup_eq_none_iff_not_mem_keys _ _).mp hlookup)
  | some first =>
    obtain ⟨before, after, rfl, -⟩ := List.lookup_eq_some_iff.mp hlookup
    have hfirst := hkeyed (Naming.pascal y, first) (by simp)
    exact ⟨first, hfirst.symm, by rw [nameProblem?, hlookup]; rfl⟩

theorem sameName_of_seen (names : List String) : ∀ seen : SeenNames, seen.Keyed →
    Naming.pascal y ∈ seen.map (·.1) → y ∈ names →
    ∃ first, Naming.pascal first = Naming.pascal y ∧
      .sameName program group first y ∈ nameProblems program group seen names := by
  induction names with
  | nil => exact fun _ _ _ hy => absurd hy List.not_mem_nil
  | cons name rest ih =>
    intro seen hkeyed hseen hy
    rcases List.mem_cons.mp hy with rfl | hy
    · obtain ⟨first, hfirst, hproblem⟩ := nameProblem?_of_seen hkeyed hseen
      refine ⟨first, hfirst, ?_⟩
      rw [nameProblems, hproblem]
      exact List.mem_cons_self
    · obtain ⟨first, hfirst, hproblem⟩ := ih _ (hkeyed.remember name)
        ((mem_keys_remember _ _ _).mpr (.inr hseen)) hy
      exact ⟨first, hfirst, List.mem_append_right _ hproblem⟩

/-- The later of two entities with the same generated name is reported. -/
theorem sameName_of_sublist (h : Naming.pascal x = Naming.pascal y) (names : List String) :
    ∀ seen : SeenNames, seen.Keyed → [x, y].Sublist names →
      ∃ first, Naming.pascal first = Naming.pascal y ∧
        .sameName program group first y ∈ nameProblems program group seen names := by
  induction names with
  | nil => exact fun _ _ hsub => absurd hsub (by simp)
  | cons name rest ih =>
    intro seen hkeyed hsub
    have hkeyed' := hkeyed.remember name
    suffices ∃ first, Naming.pascal first = Naming.pascal y ∧
        .sameName program group first y ∈ nameProblems program group (remember seen name) rest by
      obtain ⟨first, hfirst, hproblem⟩ := this
      exact ⟨first, hfirst, List.mem_append_right _ hproblem⟩
    cases hsub with
    | cons _ hsub => exact ih _ hkeyed' hsub
    | cons_cons _ hsub =>
      have hseen := (mem_keys_remember seen x (Naming.pascal y)).mpr (.inl h.symm)
      exact sameName_of_seen rest _ hkeyed' hseen (List.singleton_sublist.mp hsub)

end

end ClientGen.Idl

namespace ClientGen.Render

open ClientGen.Idl ClientGen.Cpp ClientGen.Naming

/-- Whatever has the one name is generated as if it had the other one. -/
structure GeneratedAlike (x y : String) : Prop where
  account : ∀ (r : Renderer) (program : ProgramNode) (links : Links) (a : AccountNode),
    renderAccount r program links { a with name := x } =
      renderAccount r program links { a with name := y }
  definedType : ∀ (r : Renderer) (d : DefinedTypeNode),
    renderDefinedType r { d with name := x } = renderDefinedType r { d with name := y }
  instruction : ∀ (r : Renderer) (program : ProgramNode) (ix : InstructionNode),
    renderInstruction r program { ix with name := x } =
      renderInstruction r program { ix with name := y }
  errors : ∀ (r : Renderer) (program : ProgramNode),
    renderErrors r { program with name := x } = renderErrors r { program with name := y }
  programConstant : ∀ program : ProgramNode,
    programConstant { program with name := x } = programConstant { program with name := y }
  /-- Types that are hoisted out of a field are named after it. -/
  field : ∀ ctx : Context, ctx.field x = ctx.field y
  link : ∀ (target : Target) (ctx : Context), lower target ctx (.link x) = lower target ctx (.link y)

theorem generatedAlike_of_pascal {x y : String} (h : pascal x = pascal y) : GeneratedAlike x y where
  account r program links a := by
    simp only [renderAccount, accountSeeds, accountPage, h]
  definedType r d := by
    simp only [renderDefinedType, Target.typeHeader, h]
  instruction r program ix := by
    simp only [renderInstruction, instructionPage, h]
    rfl
  errors r program := by
    simp only [renderErrors, h]
  programConstant program := by
    simp only [Render.programConstant, h]
  field ctx := by
    simp only [Context.field, h]
  link target ctx := by
    simp only [lower, Target.typeHeader, h]

/-- A name that is cased again does not change, in any casing it generates the same, and the check
reports the later of two entities that have it in any casings. -/
theorem casings_name_one_entity {name : String} (h : IsAscii name.toList) :
    pascal (pascal name) = pascal name ∧ pascal (camel name) = pascal name ∧
    camel (pascal name) = camel name ∧ snake (snake name) = snake name ∧
    kebab (kebab name) = kebab name ∧
    ∀ x ∈ casings name, ∀ y ∈ casings name, GeneratedAlike x y ∧
      ∀ root : RootNode, ∀ l ∈ root.nameLists, [x, y].Sublist l.names →
        ∃ first, pascal first = pascal name ∧
          .sameName l.program l.group first y ∈ root.problems := by
  refine ⟨pascal_pascal h, pascal_camel h, camel_pascal h, snake_snake h, kebab_kebab h, ?_⟩
  intro x hx y hy
  have hname := pascal_of_mem_casings h hy
  have hsame : pascal x = pascal y := (pascal_of_mem_casings h hx).trans hname.symm
  refine ⟨generatedAlike_of_pascal hsame, ?_⟩
  intro root l hl hsub
  have hkeyed : SeenNames.Keyed [] := by simp [SeenNames.Keyed]
  obtain ⟨first, hfirst, hproblem⟩ := sameName_of_sublist hsame l.names [] hkeyed hsub
  exact ⟨first, hfirst.trans hname, RootNode.nameProblems_subset hl hproblem⟩

/-- Accounts that carry one name with digits and marks, as it is and in two casings. -/
theorem casings_name_one_entity_accounts :
    let name := "token's_2nd-mint/x"
    let account (name : String) : AccountNode := ⟨name, [], .struct [], none, none, false⟩
    let accounts := [account name, account (camel name), account (kebab name)]
    let root : RootNode :=
      ⟨"", "", ⟨"vault", "", "", "", [], accounts, [], [], [], [], false⟩, []⟩
    IsAscii name.toList ∧ camel name = "token's2NdMint/X" ∧ kebab name = "token's-2nd-mint/x" ∧
    pascal (kebab name) = "Token's2NdMint/X" ∧ pascal (pascal name) = "Token's2NdMint/X" ∧
    camel (pascal name) = camel name ∧ kebab (kebab name) = kebab name ∧
    GeneratedAlike (camel name) (kebab name) ∧
    ∃ first, pascal first = pascal name ∧
      .sameName "vault" .account first (kebab name) ∈ root.problems := by
  intro name account accounts root
  have hascii : IsAscii name.toList := by decide
  have hsub (a b c : String) : [b, c].Sublist ([account a, account b, account c].map (·.name)) :=
    List.sublist_cons_self a [b, c]
  have hpascal : pascal name = "Token's2NdMint/X" := by decide +kernel
  obtain ⟨hsame, -, hcamel, -, hkebab, hall⟩ := casings_name_one_entity hascii
  obtain ⟨halike, hcheck⟩ := hall (camel name) (by simp [casings]) (kebab name)
    (by simp [casings])
  refine ⟨hascii, by decide +kernel, by decide +kernel, by decide +kernel, hsame.trans hpascal,
    hcamel, hkebab, halike, ?_⟩
  apply hcheck root ⟨"vault", .account, accounts.map (·.name)⟩
  · simp [root, RootNode.nameLists, RootNode.programs, ProgramNode.nameLists]
  · exact hsub name (camel name) (kebab name)

end ClientGen.Render
