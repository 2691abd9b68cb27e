import ClientGen.Proofs.Cpp.Quotations
import ClientGen.Proofs.Render.References
/-!
# Quotations in generated files

Strings and addresses among the values of a document, the addresses of its programs, the messages of
its errors and the description of the module are all written as quoted texts. Each of them stands in
one line of its file, and a reader that starts where it starts finds the text that was meant.
-/
namespace ClientGen.Render

open ClientGen.Idl ClientGen.Cpp

/-! ### What is quoted -/

/-- The texts that a seed of the account with a name in the generated code quotes. -/
def SeedQuotes (account : String) : SeedNode → String → Prop
  | .constant type value, s => value.isProgramId = false ∧ s ∈ quotedTexts (seedValue type value)
  | .variable name _ type, s =>
    Visit.Quotes ⟨{ Context.root (account ++ Naming.pascal name) with nested := true }, type⟩ s

/-- The texts that the default of a parameter quotes. A preset argument has no parameter; its value
is that of a field of the data. -/
def defaultTexts (a : ArgumentNode) : List String :=
  if a.strategy == omittedStrategy then []
  else (a.defaultValue.filter (·.isLiteral)).toList.flatMap quotedTexts

/-- The templates that hold the description of the module. -/
def describes (template : Template) : Prop :=
  template = .unrealPlugin ∨ template = .standardPackage

/-- A text that the file at a path quotes when a document is rendered. -/
inductive Renderer.Quotes (r : Renderer) (root : RootNode) : String → String → Prop
  | accountData {p : ProgramNode} (hp : p ∈ r.programsOf root) {a : AccountNode}
      (ha : a ∈ r.accountsOf p) {s : String}
      (hs : Visit.Quotes ⟨.root (Naming.pascal a.name), a.data⟩ s) :
      Quotes r root (r.headerPath "Accounts" (Naming.pascal a.name)) s
  | seed {p : ProgramNode} (hp : p ∈ r.programsOf root) {a : AccountNode}
      (ha : a ∈ r.accountsOf p) {node : SeedNode} (hnode : node ∈ seedNodes root.links a)
      {s : String} (hs : SeedQuotes (Naming.pascal a.name) node s) :
      Quotes r root (r.headerPath "Accounts" (Naming.pascal a.name)) s
  | definedType {p : ProgramNode} (hp : p ∈ r.programsOf root) {d : DefinedTypeNode}
      (hd : d ∈ r.definedTypesOf p) {s : String}
      (hs : Visit.Quotes ⟨.root (Naming.pascal d.name), d.type⟩ s) :
      Quotes r root (r.headerPath "Types" (Naming.pascal d.name)) s
  | instructionData {p : ProgramNode} (hp : p ∈ r.programsOf root) {ix : InstructionNode}
      (hix : ix ∈ r.instructionsOf p) {s : String}
      (hs : Visit.Quotes ⟨dataContext ix, .struct ix.data⟩ s) :
      Quotes r root (r.headerPath "Instructions" (Naming.pascal ix.name)) s
  | argumentDefault {p : ProgramNode} (hp : p ∈ r.programsOf root) {ix : InstructionNode}
      (hix : ix ∈ r.instructionsOf p) {a : ArgumentNode} (ha : a ∈ ix.arguments) {s : String}
      (hs : s ∈ defaultTexts a) :
      Quotes r root (r.headerPath "Instructions" (Naming.pascal ix.name)) s
  | errorMessage {p : ProgramNode} (hp : p ∈ r.programsOf root) {e : ErrorNode}
      (he : e ∈ p.errors) :
      Quotes r root (r.sourcePath "Errors" (Naming.pascal p.name)) (errorText e)
  | unknownError {p : ProgramNode} (hp : p ∈ r.programsOf root) (herrors : p.errors ≠ []) :
      Quotes r root (r.sourcePath "Errors" (Naming.pascal p.name)) "Unknown error"
  | programKey {p : ProgramNode} (hp : p ∈ r.programsOf root) :
      Quotes r root (r.publicRoot ++ r.programsHeader) p.publicKey
  | description {file : ScaffoldFile} (hfile : file ∈ r.flavor.scaffold)
      (htemplate : describes file.template) (hprograms : r.programsOf root ≠ []) :
      Quotes r root (file.path r.plugin) (r.moduleDescription (r.programsOf root))

/-! ### Declarations -/

section

variable {target : Target} {part : String}

/-- What a lowered type holds is written at the top of its header. -/
theorem declare_holds {m : Manifest} (h : m.Holds part) (name : String) (type : TypeNode) :
    StandsIn part (nestedBlock (declare target name type m).nested) ∨
      StandsIn part (declare target name type m).text := by
  have hnested (hnested : ∃ d ∈ m.nested, StandsIn part d.text) :
      StandsIn part (nestedBlock m.nested) := by
    obtain ⟨d, hd, hpart⟩ := hnested
    exact (hpart.behind "\n\n").join (List.mem_map_of_mem hd)
  have halias (htype : StandsIn part m.type) :
      StandsIn part ("using " ++ target.flavor.structName name ++ " = "
        ++ (m.materialize target).type ++ ";") :=
    (htype.materialize.behind _).append _
  cases type with
  | struct => exact (h.imp_left id).symm.imp_left hnested
  | enum => exact (h.imp_left id).symm.imp_left hnested
  | _ => exact (h.imp_left halias).symm.imp_left hnested

end

/-! ### Accounts -/

section

variable {r : Renderer} {links : Links} {p : ProgramNode}

theorem renderSeeds_forall₂ {account : String} :
    ∀ {nodes : List SeedNode} {seeds : List Seed}, renderSeeds r p account nodes = .ok seeds →
      List.Forall₂ (fun node seed => renderSeed r p account node = .ok seed) nodes seeds := by
  intro nodes
  induction nodes with
  | nil =>
    intro seeds h
    cases h
    exact .nil
  | cons node rest ih =>
    intro seeds h
    obtain ⟨first, hfirst, h⟩ := Generated.bind_eq_ok_iff.mp h
    obtain ⟨more, hmore, h⟩ := Generated.bind_eq_ok_iff.mp h
    cases h
    exact .cons hfirst (ih hmore)

theorem accountSeeds_forall₂ {a : AccountNode} {seeds : List Seed}
    (h : accountSeeds r p a links = .ok seeds) :
    List.Forall₂ (fun node seed => renderSeed r p (Naming.pascal a.name) node = .ok seed)
      (seedNodes links a) seeds := by
  unfold accountSeeds at h
  unfold seedNodes
  split at h
  · rename_i hpda
    cases h
    rw [hpda]
    exact .nil
  · rename_i name hpda
    rw [hpda]
    split at h
    · cases h
    · rename_i pda hlink
      rw [Option.bind_some, hlink]
      exact renderSeeds_forall₂ h

/-- A seed quotes its texts in what is turned into bytes, or in the type of its parameter. -/
theorem renderSeed_quotes {account : String} {node : SeedNode} {seed : Seed}
    (h : renderSeed r p account node = .ok seed) {s : String} (hs : SeedQuotes account node s) :
    StandsIn (Text.quoted s) seed.text ∨
      ∃ parameter, seed.parameter = some parameter ∧ StandsIn (Text.quoted s) parameter := by
  match node, h, hs with
  | .constant type value, h, hs =>
    rw [renderSeed, hs.1, if_neg Bool.false_ne_true] at h
    obtain ⟨l, hl, h⟩ := Generated.bind_eq_ok_iff.mp h
    cases h
    exact .inl (literal_quotes (Generated.inside_eq_ok_iff.mp hl) hs.2)
  | .variable name docs type, h, hs =>
    rw [renderSeed] at h
    obtain ⟨m, hm, h⟩ := Generated.bind_eq_ok_iff.mp h
    split at h
    · cases h
    · rename_i hnested
      -- A parameter whose type has declarations is refused, so the text is in the type itself.
      have hnone : m.nested = [] := by simpa using hnested
      have hholds := lower_quotes (Generated.inside_eq_ok_iff.mp hm) hs
      rw [← Except.ok.inj h]
      rcases hholds with htype | ⟨d, hd, -⟩
      · exact .inr ⟨_, rfl, (htype.materialize.append _).append _⟩
      · rw [hnone] at hd
        cases hd

theorem seedBlock_holds {part : String} (name : String) {seeds : List Seed} {seed : Seed}
    (hmem : seed ∈ seeds) (h : StandsIn part seed.text ∨
      ∃ parameter, seed.parameter = some parameter ∧ StandsIn part parameter) :
    StandsIn part (seedBlock r name seeds) := by
  have hsome : seeds.isEmpty = false := by
    rw [List.isEmpty_eq_false_iff]
    exact List.ne_nil_of_mem hmem
  unfold seedBlock
  rw [hsome, if_neg Bool.false_ne_true]
  apply StandsIn.append
  rcases h with htext | ⟨parameter, hparameter, hpart⟩
  · apply StandsIn.behind
    exact (htext.around _ _).join (List.mem_map_of_mem hmem)
  · apply StandsIn.append
    iterate 3 apply StandsIn.append
    apply StandsIn.behind
    exact hpart.intercalate (List.mem_filterMap.mpr ⟨seed, hmem, hparameter⟩) ", "

theorem accountText_holds {part : String} {a : AccountNode} {m : Manifest} {seeds : List Seed}
    (h : m.Holds part ∨ StandsIn part (seedBlock r (Naming.pascal a.name) seeds)) :
    StandsIn part (r.accountText a m seeds) := by
  unfold Renderer.accountText accountPage
  apply StandsIn.append
  rcases h with hdata | hseeds
  · apply StandsIn.append
    iterate 2 apply StandsIn.append
    rcases @declare_holds r.target part m hdata (Naming.pascal a.name) a.data with hnested | htext
    · apply StandsIn.append
      iterate 2 apply StandsIn.append
      exact hnested.behind _
    · exact htext.behind _
  · exact hseeds.behind _

/-! ### Defined types and instructions -/

theorem definedTypeText_holds {part : String} {d : DefinedTypeNode} {m : Manifest}
    (h : m.Holds part) : StandsIn part (r.definedTypeText d m) := by
  unfold Renderer.definedTypeText definedTypePage
  iterate 2 apply StandsIn.append
  rcases @declare_holds r.target part m h (Naming.pascal d.name) d.type with hnested | htext
  · apply StandsIn.append
    iterate 2 apply StandsIn.append
    exact hnested.behind _
  · exact htext.behind _

/-- The data of an instruction, and the parameters of its constructor, stand in its header. -/
theorem instructionText_holds {part : String} {ix : InstructionNode} {arguments : List Argument}
    {m : Manifest} (h : m.Holds part ∨
      ∃ parameter ∈ arguments.filterMap optionalParameter?, StandsIn part parameter) :
    StandsIn part (r.instructionText p ix arguments m) := by
  unfold Renderer.instructionText instructionPage
  apply StandsIn.append
  rcases h with hdata | ⟨parameter, hmem, hpart⟩
  · apply StandsIn.append
    iterate 3 apply StandsIn.append
    rcases @declare_holds r.target part m hdata (Naming.pascal ix.name ++ "InstructionData")
      (.struct ix.data) with hnested | htext
    · apply StandsIn.append
      apply StandsIn.append
      exact hnested.behind _
    · exact htext.behind _
  · apply StandsIn.behind
    unfold instructionClass
    have hparameters : StandsIn part (String.intercalate ", "
        (constructorParameters r ix.accounts arguments)) :=
      hpart.intercalate (List.mem_append_right _ hmem) ", "
    iterate 10 apply StandsIn.append
    exact hparameters.behind _

theorem renderArguments_forall₂ {conflicts : List String} {data : String} :
    ∀ {nodes : List ArgumentNode} {arguments : List Argument},
      renderArguments r conflicts data nodes = .ok arguments →
        List.Forall₂ (fun a argument => renderArgument r conflicts data a = .ok argument)
          nodes arguments := by
  intro nodes
  induction nodes with
  | nil =>
    intro arguments h
    cases h
    exact .nil
  | cons a rest ih =>
    intro arguments h
    obtain ⟨first, hfirst, h⟩ := Generated.bind_eq_ok_iff.mp h
    obtain ⟨more, hmore, h⟩ := Generated.bind_eq_ok_iff.mp h
    cases h
    exact .cons hfirst (ih hmore)

/-- A default that the caller can override is quoted in the parameter. -/
theorem renderArgument_quotes {conflicts : List String} {data : String} {a : ArgumentNode}
    {argument : Argument} (h : renderArgument r conflicts data a = .ok argument) {s : String}
    (hs : s ∈ defaultTexts a) :
    ∃ parameter, optionalParameter? argument = some parameter ∧
      StandsIn (Text.quoted s) parameter := by
  unfold defaultTexts at hs
  split at hs
  · cases hs
  · rename_i hstrategy
    obtain ⟨value, hvalue, hs⟩ := List.mem_flatMap.mp hs
    rw [Option.mem_toList] at hvalue
    unfold renderArgument at h
    obtain ⟨m, -, h⟩ := Generated.bind_eq_ok_iff.mp h
    dsimp only at h
    rw [hvalue] at h
    obtain ⟨l, hl, h⟩ := Generated.bind_eq_ok_iff.mp h
    rw [if_neg hstrategy] at h
    rw [← Except.ok.inj h]
    exact ⟨_, rfl, (literal_quotes (Generated.inside_eq_ok_iff.mp hl) hs).behind _⟩

/-! ### Errors, programs and the module -/

theorem errorsSourcePage_quotes (program : String) {errors : List ErrorNode} {s : String}
    (hs : s = "Unknown error" ∨ ∃ e ∈ errors, s = errorText e) :
    StandsIn (Text.quoted s) (errorsSourcePage r program errors) := by
  have hsource (text : String) : StandsIn (Text.quoted text) (sourceText r text) :=
    (StandsIn.refl _).around _ _
  unfold errorsSourcePage
  apply StandsIn.append
  rcases hs with rfl | ⟨e, he, rfl⟩
  · exact (hsource _).behind _
  · apply StandsIn.append
    apply StandsIn.append
    apply StandsIn.behind
    exact (((hsource _).behind _).append _).join (List.mem_map_of_mem he)

theorem programsPage_quotes {programs : List ProgramNode} {keys : List (ProgramNode × Literal)}
    (h : r.programKeys programs = .ok keys) (hp : p ∈ programs) :
    StandsIn (Text.quoted p.publicKey) (r.programsPage keys) := by
  obtain ⟨k, hk, -, hkey⟩ := exists_mem_of_forall₂ (programKeys_forall₂ programs h) hp
  unfold Renderer.programsPage
  apply StandsIn.append
  apply StandsIn.behind
  exact (((publicKeyLiteral_quotes hkey).behind _).append _).join (List.mem_map_of_mem hk)

theorem page_quotes (info : ModuleInfo) {template : Template} (h : describes template) :
    StandsIn (Text.quoted info.description) (info.page template) := by
  have hline (before : String) :
      StandsIn (Text.quoted info.description)
        (before ++ Text.quoted info.description ++ "," ++ "\n") :=
    ((StandsIn.refl _).around _ _).append _
  rcases h with rfl | rfl
  · have hmem : "\t\"Description\": " ++ Text.quoted info.description ++ "," ∈ info.unrealPlugin :=
      List.mem_of_getElem? (i := 5) rfl
    exact (hline _).join (List.mem_map_of_mem hmem)
  · have hmem : "\t\"description\": " ++ Text.quoted info.description ++ "," ∈
        info.standardPackage := List.mem_of_getElem? (i := 3) rfl
    exact (hline _).join (List.mem_map_of_mem hmem)

end

/-! ### Documents -/

/-- Every text that is quoted stands in its file as it is quoted. -/
theorem Renderer.Renders.quotes {r : Renderer} {root : RootNode}
    {keys : List (ProgramNode × Literal)} {out : FileMap} (h : r.Renders root keys out)
    {path s : String} (hs : r.Quotes root path s) :
    ∃ text, (path, text) ∈ out.files ∧ StandsIn (Text.quoted s) text := by
  cases hs with
  | @accountData p hp a ha _ hs =>
    obtain ⟨m, seeds, hparts⟩ := h.account p hp a ha
    refine ⟨r.accountText a m seeds, (h.mem_iff _ _).mpr (.inr ⟨p, hp, .account ha hparts⟩), ?_⟩
    exact accountText_holds (.inl (lower_quotes hparts.data hs))
  | @seed p hp a ha node hnode _ hs =>
    obtain ⟨m, seeds, hparts⟩ := h.account p hp a ha
    obtain ⟨seed, hseed, hrendered⟩ :=
      exists_mem_of_forall₂ (accountSeeds_forall₂ hparts.seeds) hnode
    refine ⟨r.accountText a m seeds, (h.mem_iff _ _).mpr (.inr ⟨p, hp, .account ha hparts⟩), ?_⟩
    exact accountText_holds (.inr (seedBlock_holds _ hseed (renderSeed_quotes hrendered hs)))
  | @definedType p hp d hd _ hs =>
    obtain ⟨m, hm⟩ := h.definedType p hp d hd
    refine ⟨r.definedTypeText d m, (h.mem_iff _ _).mpr (.inr ⟨p, hp, .definedType hd hm⟩), ?_⟩
    exact definedTypeText_holds (lower_quotes hm hs)
  | @instructionData p hp ix hix _ hs =>
    obtain ⟨arguments, m, hparts⟩ := h.instruction p hp ix hix
    refine ⟨r.instructionText p ix arguments m,
      (h.mem_iff _ _).mpr (.inr ⟨p, hp, .instruction hix hparts⟩), ?_⟩
    exact instructionText_holds (.inl (lower_quotes hparts.data hs))
  | @argumentDefault p hp ix hix a ha _ hs =>
    obtain ⟨arguments, m, hparts⟩ := h.instruction p hp ix hix
    obtain ⟨argument, hargument, hrendered⟩ :=
      exists_mem_of_forall₂ (renderArguments_forall₂ hparts.arguments) ha
    obtain ⟨parameter, hparameter, hquotes⟩ := renderArgument_quotes hrendered hs
    have hmem : parameter ∈ arguments.filterMap optionalParameter? :=
      List.mem_filterMap.mpr ⟨argument, hargument, hparameter⟩
    refine ⟨r.instructionText p ix arguments m,
      (h.mem_iff _ _).mpr (.inr ⟨p, hp, .instruction hix hparts⟩), ?_⟩
    exact instructionText_holds (.inr ⟨parameter, hmem, hquotes⟩)
  | @errorMessage p hp e he =>
    have herrors : p.errors ≠ [] := List.ne_nil_of_mem he
    refine ⟨errorsSourcePage r (Naming.pascal p.name) p.errors,
      (h.mem_iff _ _).mpr (.inr ⟨p, hp, .errorsSource herrors⟩), ?_⟩
    exact errorsSourcePage_quotes _ (.inr ⟨e, he, rfl⟩)
  | @unknownError p hp herrors =>
    refine ⟨errorsSourcePage r (Naming.pascal p.name) p.errors,
      (h.mem_iff _ _).mpr (.inr ⟨p, hp, .errorsSource herrors⟩), ?_⟩
    exact errorsSourcePage_quotes _ (.inl rfl)
  | @programKey p hp =>
    refine ⟨r.programsPage keys, (h.mem_iff _ _).mpr (.inl ?_), programsPage_quotes h.ofKeys hp⟩
    unfold Renderer.moduleContents
    rw [if_neg (by simpa using List.ne_nil_of_mem hp)]
    exact List.mem_append_left _ List.mem_cons_self
  | @description file hfile htemplate hprograms =>
    have hpage := page_quotes (r.moduleInfo (r.programsOf root)) htemplate
    refine ⟨(r.moduleInfo (r.programsOf root)).page file.template,
      (h.mem_iff _ _).mpr (.inl ?_), hpage⟩
    unfold Renderer.moduleContents
    rw [if_neg (by simpa using hprograms)]
    exact List.mem_append_left _ (List.mem_cons_of_mem _ (List.mem_map_of_mem hfile))

/-- Quoting cannot be broken out of. A quoted text is one literal: between two quotation marks it
consists of escapes and of characters that are no controls, quotation marks or backslashes, and
reading it gives the text back, so different texts are quoted differently. Every string, address,
error message and description that a rendered document quotes stands in one line of its file as such
a literal: the reader that starts there finds the text, and then what follows the literal. -/
theorem quoted_texts_are_read_back :
    (∀ s, Text.IsLiteralOf s (Text.quoted s).toList) ∧ Function.Injective Text.quoted ∧
    ∀ (r : Renderer) (root : RootNode) (out : FileMap), r.flavor ∈ Flavor.all →
      (r.render root).files = .ok out → ∀ path s, r.Quotes root path s →
        ∃ text, (path, text) ∈ out.files ∧ ∃ line ∈ splitLines text, ∃ before after,
          line.toList = before ++ (Text.quoted s).toList ++ after ∧
            Text.readLiteral ((Text.quoted s).toList ++ after) = some (s, after) := by
  refine ⟨Text.quoted_isLiteralOf, Text.quoted_injective, ?_⟩
  intro r root out hflavor h path s hs
  obtain ⟨keys, hrenders⟩ := render_contents hflavor h
  obtain ⟨text, hfile, hquotes⟩ := hrenders.quotes hs
  obtain ⟨line, hline, before, after, heq⟩ :=
    exists_line_of_standsIn (Text.newline_not_mem_quoted s) hquotes
  exact ⟨text, hfile, line, hline, before, after, heq.symm, (Text.quoted_isLiteralOf s).read after⟩

/-- The message of an error that tries to close its literal and to go on in a line of its own. -/
theorem quoted_texts_are_read_back_message :
    let r : Renderer := ⟨⟨.stl20, "Vault"⟩, false, false, []⟩
    let message := "full\";\nabort(\"\\"
    let program : ProgramNode :=
      { name := "vault", publicKey := "11111111111111111111111111111111", version := "",
        origin := "", docs := [], accounts := [], instructions := [], definedTypes := [],
        pdas := [], errors := [⟨"full", 1, message, []⟩], isInternal := false }
    Text.quoted message = "\"full\\\";\\nabort(\\\"\\\\\"" ∧
    ∃ out text, (r.render ⟨"", "", program, []⟩).files = .ok out ∧
      (r.sourcePath "Errors" "Vault", text) ∈ out.files ∧ ∃ line ∈ splitLines text,
        ∃ before after, line.toList = before ++ (Text.quoted message).toList ++ after ∧
          Text.readLiteral ((Text.quoted message).toList ++ after) = some (message, after) := by
  intro r message program
  refine ⟨by decide, ?_⟩
  have hok : (r.render ⟨"", "", program, []⟩).files.toBool = true := by decide +kernel
  obtain ⟨out, hout⟩ := Generated.exists_ok hok
  have hflavor : r.flavor ∈ Flavor.all := List.mem_cons_self
  have hname : Naming.pascal "vault" = "Vault" := by decide +kernel
  have htext : errorText ⟨"full", 1, message, []⟩ = message := by decide
  have hprogram : program ∈ r.programsOf ⟨"", "", program, []⟩ := List.mem_singleton_self program
  have hquotes := Renderer.Quotes.errorMessage hprogram (List.mem_singleton_self _)
  rw [hname, htext] at hquotes
  obtain ⟨text, hfile, hread⟩ := quoted_texts_are_read_back.2.2 r _ out hflavor hout _ _ hquotes
  exact ⟨out, text, hout, hfile, hread⟩

end ClientGen.Render
