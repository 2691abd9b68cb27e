import ClientGen.Proofs.Cpp.Failures
import ClientGen.Render.Root
/-!
# What rendering an entity fails for

The header of an entity fails for the causes that lie in its types and values. An account may
moreover live at a derived address that no program declares. No entity on its own claims a path
twice.
-/
namespace ClientGen.Render

open ClientGen.Idl ClientGen.Cpp

section

variable (r : Renderer) (p : ProgramNode) (account : String)

theorem renderSeed_failsOnly : ∀ seed : SeedNode,
    Generated.FailsOnly (renderSeed r p account seed) (Inherent (account = ""))
  | .variable name docs type => by
    rw [renderSeed]
    have htype := (@lower_failsOnly r.target
      { Context.root (account ++ Naming.pascal name) with nested := true } type).mono
      fun _ => Inherent.mono fun h => (String.append_eq_empty_iff.mp h).1
    apply (htype.inside (.seed name)).bind
    intro m _
    split
    · exact unsupported_failsOnly _
    · exact Generated.failsOnly_ok _
  | .constant type value => by
    rw [renderSeed]
    split
    · exact Generated.failsOnly_ok _
    · exact ((literal_failsOnly true _).inside .constantSeed).bind
        fun _ _ => Generated.failsOnly_ok _

theorem renderSeeds_failsOnly (seeds : List SeedNode) :
    Generated.FailsOnly (renderSeeds r p account seeds) (Inherent (account = "")) := by
  induction seeds with
  | nil => exact Generated.failsOnly_ok _
  | cons seed rest ih =>
    rw [renderSeeds]
    exact (renderSeed_failsOnly r p account seed).bind fun _ _ =>
      ih.bind fun _ _ => Generated.failsOnly_ok _

end

/-- Why an account cannot be rendered: for a cause that lies in its types and values, or because
its derived address is not declared. -/
inductive AccountFailure (links : Links) (a : AccountNode) : Error → Prop
  | inherent {e : Error} (h : Inherent (Naming.pascal a.name = "") e) : AccountFailure links a e
  | missingPda (name : String) (hname : a.pda = some name) (h : links.pda? name = none) :
    AccountFailure links a (.missingPda name)

theorem renderAccount_failsOnly (r : Renderer) (p : ProgramNode) (links : Links)
    (a : AccountNode) :
    Generated.FailsOnly (renderAccount r p links a) (AccountFailure links a) := by
  have htype : Generated.FailsOnly (lower r.target (.root (Naming.pascal a.name)) a.data)
      (AccountFailure links a) := (lower_failsOnly _ a.data).mono fun _ h => .inherent h
  have hseeds : Generated.FailsOnly (accountSeeds r p a links) (AccountFailure links a) := by
    unfold accountSeeds
    split
    · exact Generated.failsOnly_ok _
    · rename_i name hname
      split
      · rename_i hlink
        exact Generated.failsOnly_error (.missingPda name hname hlink)
      · rename_i pda _
        exact (renderSeeds_failsOnly r p _ pda.seeds).mono fun _ h => .inherent h
  exact htype.bind fun _ _ => hseeds.bind fun _ _ => Generated.failsOnly_ok _

theorem renderDefinedType_failsOnly (r : Renderer) (d : DefinedTypeNode) :
    Generated.FailsOnly (renderDefinedType r d) (Inherent (Naming.pascal d.name = "")) :=
  (@lower_failsOnly r.target (.root (Naming.pascal d.name)) d.type).bind
    fun _ _ => Generated.failsOnly_ok _

/-- The types of an instruction stand under the name of its data, which is never empty. -/
theorem data_ne_empty (name : String) : name ++ "InstructionData" ≠ "" := by
  intro h
  exact absurd (String.append_eq_empty_iff.mp h).2 (by decide)

theorem renderArguments_failsOnly (r : Renderer) (conflicts : List String) (name : String)
    (arguments : List ArgumentNode) :
    Generated.FailsOnly (renderArguments r conflicts (name ++ "InstructionData") arguments)
      (Inherent False) := by
  induction arguments with
  | nil => exact Generated.failsOnly_ok _
  | cons a rest ih =>
    have harg : Generated.FailsOnly (renderArgument r conflicts (name ++ "InstructionData") a)
        (Inherent False) := by
      rw [renderArgument]
      have htype := (@lower_failsOnly r.target { Context.root
        (name ++ "InstructionData" ++ Naming.pascal a.name) with nested := true } a.type).mono
        fun _ => Inherent.mono fun h => data_ne_empty name (String.append_eq_empty_iff.mp h).1
      apply (htype.inside (.argument a.name)).bind
      intro m _
      cases a.defaultValue.filter (·.isLiteral) with
      | none => exact Generated.failsOnly_ok _
      | some value =>
        apply ((literal_failsOnly false value).inside (.argumentDefault a.name)).bind
        intro l _
        cases a.strategy == omittedStrategy <;> exact Generated.failsOnly_ok _
    rw [renderArguments]
    exact harg.bind fun _ _ => ih.bind fun _ _ => Generated.failsOnly_ok _

theorem renderInstruction_failsOnly (r : Renderer) (p : ProgramNode) (ix : InstructionNode) :
    Generated.FailsOnly (renderInstruction r p ix) (Inherent False) := by
  apply (renderArguments_failsOnly r ix.conflicts (Naming.pascal ix.name) ix.arguments).bind
  intro arguments _
  have hdata := (@lower_failsOnly r.target { Context.root
    (Naming.pascal ix.name ++ "InstructionData") with assignable := true } (.struct ix.data)).mono
    fun _ => Inherent.mono (data_ne_empty (Naming.pascal ix.name))
  exact (hdata.inside .instructionData).bind fun _ _ => Generated.failsOnly_ok _

theorem programKeys_failsOnly (r : Renderer) (programs : List ProgramNode) :
    Generated.FailsOnly (r.programKeys programs) (Inherent False) := by
  induction programs with
  | nil => exact Generated.failsOnly_ok _
  | cons p rest ih =>
    rw [Renderer.programKeys]
    exact ((publicKeyLiteral_failsOnly p.publicKey).inside (.program p.name)).bind
      fun _ _ => ih.bind fun _ _ => Generated.failsOnly_ok _

end ClientGen.Render
