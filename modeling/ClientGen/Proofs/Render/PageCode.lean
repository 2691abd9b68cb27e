import ClientGen.Proofs.Cpp.Documentation
import ClientGen.Proofs.Lists
import ClientGen.Proofs.Render.References
/-!
# Code of the pages

Every page is put together from texts that depend on the documentation of an entity, and texts that
do not. Documentation stands in front of whole lines, at the margin or indented in a body. So where
it is contained, a page has the same code as the page of the same entity without documentation.
-/
namespace ClientGen.Render

open ClientGen.Idl ClientGen.Cpp

/-! ### Documentation in a page -/

theorem codeLines_bodyDocs (docs : List String) (after : String) : ∀ before,
    codeLines (before ++ bodyDocs docs ++ "\n" ++ after) =
      codeLines before ++ docs.flatMap leaked ++ codeLines after := by
  induction docs with
  | nil =>
    intro before
    rw [bodyDocs, List.map_nil, String.join_nil, String.append_empty, codeLines_append_line,
      List.flatMap_nil, List.append_nil]
  | cons d rest ih =>
    intro before
    have hslashes (line : String) : isCommentLine ("\t// " ++ line) = true := by
      simp [isCommentLine]
    have hline : "\n\t// " = "\n" ++ "\t// " := by decide
    have hsplit : before ++ bodyDocs (d :: rest) ++ "\n" ++ after =
        before ++ "\n" ++ ("\t// " ++ d) ++ bodyDocs rest ++ "\n" ++ after := by
      rw [bodyDocs, bodyDocs, List.map_cons, String.join_cons, hline]
      simp only [String.append_assoc]
    rw [hsplit, ih, codeLines_append_line, codeLines_comment (by decide) hslashes,
      List.flatMap_cons, List.append_assoc (codeLines before)]

theorem bodyDocs_sameCode {docs : List String} (h : docs.all isContained = true) :
    SameCode (bodyDocs docs ++ "\n") "\n" := by
  intro before after
  rw [← String.append_assoc, codeLines_bodyDocs, flatMap_leaked h, List.append_nil,
    codeLines_append_line]

/-- Documentation in front of an indented line. -/
theorem documentedLine_sameCode {docs : List String} (h : docs.all isContained = true) :
    SameCode (bodyDocs docs ++ "\n\t") (bodyDocs [] ++ "\n\t") := by
  have hline : "\n\t" = "\n" ++ "\t" := by decide
  have hnone : bodyDocs [] = "" := rfl
  have hdocs := (bodyDocs_sameCode h).append (.refl "\t")
  rw [hnone, String.empty_append, hline, ← String.append_assoc]
  exact hdocs

/-- Documentation between an empty line and a declaration. -/
theorem documented_sameCode {docs : List String} (h : docs.all isContained = true)
    {text text' : String} (htext : SameCode text text') :
    SameCode ("\n\n" ++ docBlock docs ++ text) ("\n\n" ++ docBlock [] ++ text') := by
  have hlines : "\n\n" = "\n" ++ "\n" := by decide
  have hnone : docBlock [] = "" := rfl
  have hdocs := ((SameCode.refl "\n").append (SameCode.docBlock h)).append htext
  rw [hnone, String.append_empty, hlines, String.append_assoc]
  rw [String.append_assoc] at hdocs
  exact hdocs

theorem nestedBlock_sameCode {nested nested' : List Declaration}
    (h : SameDeclarations nested nested') :
    SameCode (nestedBlock nested) (nestedBlock nested') := by
  apply SameCode.join
  rw [List.forall₂_map_left_iff, List.forall₂_map_right_iff]
  exact h.imp fun _ _ hd => (SameCode.refl "\n\n").append hd

/-- Declarations at the top of a header that differ in comments only. -/
structure TopLevel.SameCode (decl decl' : TopLevel) : Prop where
  name : decl.name = decl'.name
  text : Cpp.SameCode decl.text decl'.text
  nested : SameDeclarations decl.nested decl'.nested
  fields : decl.fields = decl'.fields
  includes : decl.includes = decl'.includes

theorem declare_sameCode (target : Target) (name : String) (type : TypeNode) {m m' : Manifest}
    (h : m.SameCode m') :
    (declare target name type m).SameCode (declare target name type.withoutDocs m') := by
  have hfields (fields : List FieldNode) : (fieldsWithoutDocs fields).map
      (fun f => Naming.pascal f.name) = fields.map fun f => Naming.pascal f.name := by
    induction fields with
    | nil => rfl
    | cons field rest ih =>
      rw [fieldsWithoutDocs, List.map_cons, List.map_cons, ih]
      cases field
      rfl
  have hfolded := @Manifest.SameCode.materialize target m m' h
  cases type with
  | struct fields =>
    exact ⟨rfl, h.type, h.nested, congrArg some (hfields fields).symm, h.includes⟩
  | enum variants size => exact ⟨rfl, h.type, h.nested, rfl, h.includes⟩
  | _ => exact ⟨rfl, hfolded.type.around _ _, h.nested, rfl, hfolded.includes⟩

namespace TopLevel.SameCode

variable {decl decl' : TopLevel}

theorem headers (h : decl.SameCode decl') : decl.headers = decl'.headers := by
  unfold TopLevel.headers
  rw [h.fields, h.includes]

theorem serializerBlock (h : decl.SameCode decl') :
    decl.serializerBlock = decl'.serializerBlock := by
  unfold TopLevel.serializerBlock
  rw [h.fields, h.name]

end TopLevel.SameCode

/-! ### Accounts and defined types -/

/-- Whether the documentation in the type of a seed stays in comments. -/
def commentedSeed : SeedNode → Bool
  | .variable _ _ type => commented type
  | .constant .. => true

/-- Seeds that differ in comments only. -/
structure Seed.SameCode (seed seed' : Seed) : Prop where
  text : seed.text = seed'.text
  parameter : Option.Rel Cpp.SameCode seed.parameter seed'.parameter
  includes : seed.includes = seed'.includes
  isProgramId : seed.isProgramId = seed'.isProgramId

section

variable (r : Renderer) (p : ProgramNode)

theorem renderSeed_sameCode (account : String) : ∀ node : SeedNode, commentedSeed node = true →
    Agree Seed.SameCode (renderSeed r p account node)
      (renderSeed r p.withoutDocs account node.withoutDocs)
  | .variable name docs type, h => by
    rw [SeedNode.withoutDocs, renderSeed, renderSeed]
    apply ((lower_sameCode _ type h).inside (.seed name)).bind
    intro m m' hm
    have hempty : m.nested.isEmpty = m'.nested.isEmpty := by
      rw [Bool.eq_iff_iff, List.isEmpty_iff_length_eq_zero, List.isEmpty_iff_length_eq_zero,
        hm.nested.length_eq]
    have hfolded := @Manifest.SameCode.materialize r.target m m' hm
    rw [hempty]
    split
    · exact .fail _
    · exact .ok ⟨rfl, .some ((hfolded.type.append (.refl _)).append (.refl _)), hfolded.includes,
        rfl⟩
  | .constant type value, _ => by
    have hvalue : seedValue type.withoutDocs value.withoutDocs =
        (seedValue type value).withoutDocs := by
      unfold seedValue
      cases value with
      | number text =>
        rw [ValueNode.withoutDocs, type.number?_withoutDocs]
        dsimp only
        split <;> rfl
      | _ => rfl
    rw [SeedNode.withoutDocs, renderSeed, renderSeed, value.isProgramId_withoutDocs, hvalue,
      literal_withoutDocs]
    split
    · exact .ok ⟨rfl, .none, rfl, rfl⟩
    · cases Generated.inside .constantSeed (literal r.target true (seedValue type value)) with
      | error e => exact .fail e
      | ok l => exact .ok ⟨rfl, .none, rfl, rfl⟩

theorem renderSeeds_sameCode (account : String) (nodes : List SeedNode)
    (h : ∀ node ∈ nodes, commentedSeed node = true) :
    Agree (List.Forall₂ Seed.SameCode) (renderSeeds r p account nodes)
      (renderSeeds r p.withoutDocs account (nodes.map (·.withoutDocs))) := by
  induction nodes with
  | nil => exact .ok .nil
  | cons node rest ih =>
    rw [List.forall_mem_cons] at h
    rw [List.map_cons, renderSeeds, renderSeeds]
    apply (renderSeed_sameCode r p account node h.1).bind
    intro seed seed' hseed
    apply (ih h.2).bind
    intro seeds seeds' hseeds
    exact .ok (.cons hseed hseeds)

end

section

variable (r : Renderer) {seeds seeds' : List Seed} (h : List.Forall₂ Seed.SameCode seeds seeds')

include h

theorem seedHeaders_sameCode (includes : IncludeSet) :
    seedHeaders r includes seeds = seedHeaders r includes seeds' := by
  have hsome {o o' : Option String} (h : Option.Rel SameCode o o') : o.isSome = o'.isSome := by
    cases h <;> rfl
  have hany {f : Seed → Bool} (hf : ∀ seed seed' : Seed, seed.SameCode seed' → f seed = f seed') :
      seeds.any f = seeds'.any f := by
    have hmap := congrArg (·.any id) (map_eq_of_forall₂ h hf)
    rwa [List.any_map, List.any_map] at hmap
  have hincludes : seeds.map (·.includes) = seeds'.map (·.includes) :=
    map_eq_of_forall₂ h fun _ _ hseed => hseed.includes
  have hempty : seeds.isEmpty = seeds'.isEmpty := by cases h <;> rfl
  unfold seedHeaders
  rw [hincludes, hany fun _ _ hseed => hsome hseed.parameter,
    hany fun _ _ hseed => hseed.isProgramId, hempty]

theorem seedBlock_sameCode (name : String) :
    SameCode (seedBlock r name seeds) (seedBlock r name seeds') := by
  have hempty : seeds.isEmpty = seeds'.isEmpty := by cases h <;> rfl
  have htexts :
      seeds.map (fun s => "\n\tSeeds." ++ r.flavor.appendCall ++ "(ToSeed(" ++ s.text ++ "));") =
        seeds'.map fun s => "\n\tSeeds." ++ r.flavor.appendCall ++ "(ToSeed(" ++ s.text ++ "));" :=
    map_eq_of_forall₂ h fun _ _ hseed => by rw [hseed.text]
  have hparameters : List.Forall₂ SameCode (seeds.filterMap (·.parameter))
      (seeds'.filterMap (·.parameter)) :=
    List.rel_filterMap (fun _ _ hseed => hseed.parameter) h
  unfold seedBlock
  rw [hempty, htexts]
  split
  · exact .refl _
  · exact (((((SameCode.intercalate ", " hparameters).around _ _).append (.refl _)).append
      (.refl _)).append (.refl _)).append (.refl _)

end

section

variable {r : Renderer} {links links' : Links}

/-- Links that find the same derived addresses up to documentation. -/
def Links.Undocumented (links links' : Links) : Prop :=
  ∀ name, links'.pda? name = (links.pda? name).map (·.withoutDocs)

theorem accountSeeds_sameCode (p : ProgramNode) {a : AccountNode}
    (hlinks : Links.Undocumented links links')
    (h : ∀ node ∈ seedNodes links a, commentedSeed node = true) :
    Agree (List.Forall₂ Seed.SameCode) (accountSeeds r p a links)
      (accountSeeds r p.withoutDocs a.withoutDocs links') := by
  unfold accountSeeds
  unfold seedNodes at h
  rw [AccountNode.withoutDocs]
  cases hname : a.pda with
  | none => exact .ok .nil
  | some name =>
    dsimp only
    rw [hlinks name]
    rw [hname, Option.bind_some] at h
    cases hpda : links.pda? name with
    | none => exact .fail _
    | some pda =>
      rw [hpda] at h
      exact renderSeeds_sameCode r p _ pda.seeds h

theorem accountPage_sameCode {a : AccountNode} (hdocs : a.docs.all isContained = true)
    {decl decl' : TopLevel} (hdecl : decl.SameCode decl') {seeds seeds' : List Seed}
    (hseeds : List.Forall₂ Seed.SameCode seeds seeds') (includes : IncludeSet) :
    SameCode (accountPage r a decl seeds includes)
      (accountPage r a.withoutDocs decl' seeds' includes) := by
  have hpage := ((((SameCode.refl (headerTop ++ r.includeBlock includes)).append
    (nestedBlock_sameCode hdecl.nested)).append (documented_sameCode hdocs hdecl.text)).append
    (.refl (decl.serializerBlock ++ sizeBlock r (Naming.pascal a.name) a.size))).append
    (seedBlock_sameCode r hseeds (Naming.pascal a.name))
  have hend := hpage.append (.refl "\n")
  unfold accountPage
  dsimp only
  simp only [String.append_assoc] at hend ⊢
  rw [← hdecl.serializerBlock]
  exact hend

/-- Whatever leaks from the documentation of a type stands in front of its declaration. -/
theorem codeLines_definedTypePage (docs : List String) (decl : TopLevel) (includes : IncludeSet) :
    codeLines (definedTypePage r docs decl includes) =
      codeLines (headerTop ++ r.includeBlock includes ++ nestedBlock decl.nested ++ "\n")
        ++ docs.flatMap leaked ++ codeLines (decl.text ++ decl.serializerBlock ++ "\n") := by
  have hlines : "\n\n" = "\n" ++ "\n" := by decide
  have hsplit : definedTypePage r docs decl includes =
      headerTop ++ r.includeBlock includes ++ nestedBlock decl.nested ++ "\n" ++ "\n"
        ++ (docBlock docs ++ (decl.text ++ decl.serializerBlock ++ "\n")) := by
    rw [definedTypePage, hlines]
    simp only [String.append_assoc]
  rw [hsplit, codeLines_append_line, codeLines_docBlock, List.append_assoc]

theorem definedTypePage_sameCode {docs : List String} (hdocs : docs.all isContained = true)
    {decl decl' : TopLevel} (hdecl : decl.SameCode decl') (includes : IncludeSet) :
    SameCode (definedTypePage r docs decl includes) (definedTypePage r [] decl' includes) := by
  have hpage := (((SameCode.refl (headerTop ++ r.includeBlock includes)).append
    (nestedBlock_sameCode hdecl.nested)).append (documented_sameCode hdocs hdecl.text)).append
    (.refl (decl.serializerBlock ++ "\n"))
  unfold definedTypePage
  rw [← hdecl.serializerBlock]
  simp only [String.append_assoc] at hpage ⊢
  exact hpage

end

/-! ### Instructions -/

/-- Arguments that differ in comments only. -/
structure Argument.SameCode (a a' : Argument) : Prop where
  field : a.field = a'.field
  parameter : a.parameter = a'.parameter
  type : Cpp.SameCode a.type a'.type
  role : a.role = a'.role
  includes : a.includes = a'.includes

section

variable (r : Renderer)

theorem renderArgument_sameCode (conflicts : List String) (data : String) {a : ArgumentNode}
    (h : commented a.type = true) :
    Agree Argument.SameCode (renderArgument r conflicts data a)
      (renderArgument r conflicts data a.withoutDocs) := by
  unfold renderArgument ArgumentNode.withoutDocs
  dsimp only
  rw [filter_isLiteral_withoutDocs]
  apply ((lower_sameCode _ a.type h).inside (.argument a.name)).bind
  intro m m' hm
  have hfolded := @Manifest.SameCode.materialize r.target m m' hm
  cases a.defaultValue.filter (·.isLiteral) with
  | none => exact .ok ⟨rfl, rfl, hfolded.type, rfl, hfolded.includes⟩
  | some value =>
    rw [valueWithoutDocs?]
    dsimp only
    rw [literal_withoutDocs, hfolded.includes]
    cases Generated.inside (.argumentDefault a.name) (literal r.target false value) with
    | error e => exact .fail e
    | ok l =>
      cases a.strategy == omittedStrategy with
      | true => exact .ok ⟨rfl, rfl, hfolded.type, rfl, rfl⟩
      | false => exact .ok ⟨rfl, rfl, hfolded.type, rfl, rfl⟩

theorem renderArguments_sameCode (conflicts : List String) (data : String)
    (arguments : List ArgumentNode) (h : ∀ a ∈ arguments, commented a.type = true) :
    Agree (List.Forall₂ Argument.SameCode) (renderArguments r conflicts data arguments)
      (renderArguments r conflicts data (arguments.map (·.withoutDocs))) := by
  induction arguments with
  | nil => exact .ok .nil
  | cons a rest ih =>
    rw [List.forall_mem_cons] at h
    rw [List.map_cons, renderArguments, renderArguments]
    apply (renderArgument_sameCode r conflicts data h.1).bind
    intro first first' hfirst
    apply (ih h.2).bind
    intro rendered rendered' hrendered
    exact .ok (.cons hfirst hrendered)

theorem accountsStruct_sameCode (name : String) {accounts : List InstructionAccountNode}
    (h : ∀ a ∈ accounts, a.docs.all isContained = true) :
    SameCode (accountsStruct r name accounts)
      (accountsStruct r name (accounts.map (·.withoutDocs))) := by
  have hmembers : List.Forall₂ SameCode
      (accounts.map fun a => bodyDocs a.docs ++ "\n\t" ++ r.flavor.accountMeta.spelling ++ " "
        ++ accountName a ++ ";")
      ((accounts.map (·.withoutDocs)).map fun a => bodyDocs a.docs ++ "\n\t"
        ++ r.flavor.accountMeta.spelling ++ " " ++ accountName a ++ ";") := by
    rw [List.map_map, List.forall₂_map_left_iff, List.forall₂_map_right_iff, List.forall₂_same]
    intro a ha
    exact ((((documentedLine_sameCode (h a ha)).append (.refl _)).append (.refl _)).append
      (.refl _)).append (.refl _)
  exact (SameCode.join hmembers).around _ _

theorem constructorParameters_sameCode (accounts : List InstructionAccountNode)
    {arguments arguments' : List Argument}
    (h : List.Forall₂ Argument.SameCode arguments arguments') :
    List.Forall₂ SameCode (constructorParameters r accounts arguments)
      (constructorParameters r (accounts.map (·.withoutDocs)) arguments') := by
  have haccounts : accountParameters r (accounts.map (·.withoutDocs)) =
      accountParameters r accounts := by
    unfold accountParameters
    rw [List.map_map]
    rfl
  have hsigners : signerParameters (accounts.map (·.withoutDocs)) = signerParameters accounts := by
    unfold signerParameters
    rw [List.filter_map, List.map_map]
    rfl
  have hrequired : List.Forall₂ SameCode (arguments.filterMap requiredParameter?)
      (arguments'.filterMap requiredParameter?) := by
    refine List.rel_filterMap ?_ h
    intro a a' ha
    unfold requiredParameter?
    rw [ha.role, ha.parameter]
    split
    · exact .some ((ha.type.append (.refl _)).append (.refl _))
    · exact .none
  have hoptional : List.Forall₂ SameCode (arguments.filterMap optionalParameter?)
      (arguments'.filterMap optionalParameter?) := by
    refine List.rel_filterMap ?_ h
    intro a a' ha
    unfold optionalParameter?
    rw [ha.role, ha.parameter]
    split
    · exact .some ((((ha.type.append (.refl _)).append (.refl _)).append (.refl _)).append
        (.refl _))
    · exact .none
  have hsame (texts : List String) : List.Forall₂ SameCode texts texts :=
    List.forall₂_same.mpr fun text _ => .refl text
  unfold constructorParameters
  rw [haccounts, hsigners]
  exact List.rel_append (List.rel_append (hsame _) hrequired) hoptional

theorem instructionClass_sameCode (p : ProgramNode) (name data : String)
    (accounts : List InstructionAccountNode) {arguments arguments' : List Argument}
    (h : List.Forall₂ Argument.SameCode arguments arguments') :
    SameCode (instructionClass r p name accounts arguments data)
      (instructionClass r p.withoutDocs name (accounts.map (·.withoutDocs)) arguments' data) := by
  have hlines : (accounts.map (·.withoutDocs)).map (accountLine r) =
      accounts.map (accountLine r) := by
    rw [List.map_map]
    rfl
  have hassignments : arguments.map assignmentLine = arguments'.map assignmentLine := by
    apply map_eq_of_forall₂ h
    intro a a' ha
    unfold assignmentLine
    rw [ha.role, ha.field, ha.parameter]
  have hconstant : programConstant p.withoutDocs = programConstant p := rfl
  have hparameters := SameCode.intercalate ", " (constructorParameters_sameCode r accounts h)
  unfold instructionClass
  dsimp only
  rw [hlines, hassignments, hconstant]
  exact (((((((((hparameters.around _ _).append (.refl _)).append (.refl _)).append
    (.refl _)).append (.refl _)).append (.refl _)).append (.refl _)).append (.refl _)).append
    (.refl _)).append (.refl _)

theorem instructionPage_sameCode (p : ProgramNode) {ix : InstructionNode}
    (hdocs : ix.docs.all isContained = true)
    (haccounts : ∀ a ∈ ix.accounts, a.docs.all isContained = true) {decl decl' : TopLevel}
    (hdecl : decl.SameCode decl') {arguments arguments' : List Argument}
    (h : List.Forall₂ Argument.SameCode arguments arguments') (includes : IncludeSet) :
    SameCode (instructionPage r p ix arguments decl includes)
      (instructionPage r p.withoutDocs ix.withoutDocs arguments' decl' includes) := by
  obtain ⟨name, docs, accounts, argumentNodes, subs, isInternal⟩ := ix
  have hclass := instructionClass_sameCode r p (Naming.pascal name) decl.name accounts h
  have hpage := (((SameCode.refl (headerTop ++ r.includeBlock includes ++ "\n\n")).append
    (accountsStruct_sameCode r (Naming.pascal name) haccounts)).append
    (nestedBlock_sameCode hdecl.nested)).append (((SameCode.refl "\n\n").append hdecl.text).append
    (.refl decl.serializerBlock))
  have hend := (hpage.append (documented_sameCode hdocs hclass)).append (.refl "\n")
  unfold instructionPage InstructionNode.withoutDocs
  dsimp only
  rw [← hdecl.serializerBlock, ← hdecl.name]
  simp only [String.append_assoc] at hend ⊢
  exact hend

end

/-! ### Errors and programs -/

section

variable (r : Renderer)

theorem errorsHeaderPage_sameCode (program : String) {errors : List ErrorNode}
    (h : ∀ e ∈ errors, e.docs.all isContained = true) :
    SameCode (errorsHeaderPage r program errors)
      (errorsHeaderPage r program (errors.map (·.withoutDocs))) := by
  have hentries : List.Forall₂ SameCode
      (errors.map fun e => bodyDocs e.docs ++ "\n\t" ++ Naming.pascal e.name ++ " = "
        ++ Text.decimalText e.code ++ ",")
      ((errors.map (·.withoutDocs)).map fun e => bodyDocs e.docs ++ "\n\t" ++ Naming.pascal e.name
        ++ " = " ++ Text.decimalText e.code ++ ",") := by
    rw [List.map_map, List.forall₂_map_left_iff, List.forall₂_map_right_iff, List.forall₂_same]
    intro e he
    exact ((((documentedLine_sameCode (h e he)).append (.refl _)).append (.refl _)).append
      (.refl _)).append (.refl _)
  exact (((SameCode.join hentries).around _ _).append (.refl _)).append (.refl _)

theorem errorsSourcePage_withoutDocs (program : String) (errors : List ErrorNode) :
    errorsSourcePage r program (errors.map (·.withoutDocs)) =
      errorsSourcePage r program errors := by
  unfold errorsSourcePage
  rw [List.map_map]
  rfl

/-- A program and its address, without documentation. -/
def keyWithoutDocs (k : ProgramNode × Literal) : ProgramNode × Literal := (k.1.withoutDocs, k.2)

theorem programKeys_withoutDocs (programs : List ProgramNode) :
    r.programKeys (programs.map (·.withoutDocs)) =
      (r.programKeys programs).map (List.map keyWithoutDocs) := by
  induction programs with
  | nil => rfl
  | cons p rest ih =>
    have hkey : Generated.inside (.program p.withoutDocs.name)
        (publicKeyLiteral r.target p.withoutDocs.publicKey) =
          Generated.inside (.program p.name) (publicKeyLiteral r.target p.publicKey) := rfl
    rw [List.map_cons, Renderer.programKeys, Renderer.programKeys, ih, hkey]
    cases Generated.inside (.program p.name) (publicKeyLiteral r.target p.publicKey) with
    | error e => rfl
    | ok key => cases r.programKeys rest <;> rfl

theorem programsPage_sameCode {keys : List (ProgramNode × Literal)}
    (h : ∀ k ∈ keys, k.1.docs.all isContained = true) :
    SameCode (r.programsPage keys) (r.programsPage (keys.map keyWithoutDocs)) := by
  have hkeys : r.keyHeaders (keys.map keyWithoutDocs) = r.keyHeaders keys := by
    unfold Renderer.keyHeaders
    rw [List.map_map]
    rfl
  have hentries : List.Forall₂ SameCode
      (keys.map fun k => "\n" ++ docBlock k.1.docs ++ r.keyText k)
      ((keys.map keyWithoutDocs).map fun k => "\n" ++ docBlock k.1.docs ++ r.keyText k) := by
    rw [List.map_map, List.forall₂_map_left_iff, List.forall₂_map_right_iff, List.forall₂_same]
    intro k hk
    exact (SameCode.docBlock (h k hk)).append (.refl (r.keyText k))
  rw [programsPage_eq, programsPage_eq, hkeys]
  exact (SameCode.join hentries).around _ _

end

end ClientGen.Render
