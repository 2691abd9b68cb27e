import ClientGen.Proofs.Idl.ProblemCounts
/-!
# Names that a checked document keeps apart

Where the check finds no name twice, the generated names differ from one another. Instructions are
checked with all those that group others, so their names differ in any selection of them.
-/
namespace ClientGen.Idl

mutual

theorem InstructionNode.flatten_sublist : ∀ (leavesOnly : Bool) (ix : InstructionNode),
    (ix.flatten leavesOnly).Sublist (ix.flatten false)
  | leavesOnly, ⟨name, docs, accounts, arguments, subs, isInternal⟩ => by
    have hbelow := flattenAll_sublist leavesOnly subs
    have hwhole : ¬ (false && !subs.isEmpty) = true := by simp
    rw [InstructionNode.flatten, InstructionNode.flatten, if_neg hwhole]
    split
    · exact hbelow.cons _
    · exact hbelow.cons_cons _

/-- Leaving out instructions that group others keeps the rest in order. -/
theorem flattenAll_sublist : ∀ (leavesOnly : Bool) (instructions : List InstructionNode),
    (flattenAll leavesOnly instructions).Sublist (flattenAll false instructions)
  | _, [] => List.Sublist.refl _
  | leavesOnly, ix :: rest => by
    rw [flattenAll, flattenAll]
    exact (ix.flatten_sublist leavesOnly).append (flattenAll_sublist leavesOnly rest)

end

/-- A program whose accounts, defined types and instructions generate different names within each
group. -/
structure ProgramNode.DistinctNames (p : ProgramNode) : Prop where
  accounts : (p.accounts.map fun a => Naming.pascal a.name).Nodup
  definedTypes : (p.definedTypes.map fun d => Naming.pascal d.name).Nodup
  instructions : ∀ leavesOnly,
    ((p.allInstructions leavesOnly).map fun ix => Naming.pascal ix.name).Nodup

theorem ProgramNode.IsUnambiguous.distinctNames {p : ProgramNode} (h : p.IsUnambiguous) :
    p.DistinctNames where
  accounts := h.accounts
  definedTypes := h.definedTypes
  instructions leavesOnly :=
    h.instructions.sublist ((flattenAll_sublist leavesOnly p.instructions).map _)

theorem RootNode.distinctNames_of_no_duplicate {root : RootNode}
    (h : ∀ problem ∈ root.problems, problem.code ≠ .duplicate) :
    ∀ p ∈ root.programs, p.DistinctNames := by
  intro p hp
  have hclashes : root.clashes = 0 := root.countOf_duplicate.symm.trans (countOf_eq_zero_iff.mpr h)
  exact ((root.clashes_eq_zero_iff.mp hclashes).2 p hp).distinctNames

end ClientGen.Idl
