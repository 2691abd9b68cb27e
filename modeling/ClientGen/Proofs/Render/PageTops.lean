import ClientGen.Proofs.Render.DeclaredTypes
import ClientGen.Proofs.Render.Directives
import ClientGen.Proofs.Render.References
/-!
# Tops of the generated files

Every page of a program begins with the banner and an include block, and its code opens behind
them. The files of the module are written line by line, and what they include is fixed but for the
name of the module.
-/
namespace ClientGen.Render

open ClientGen.Idl ClientGen.Cpp

/-! ### Where the code of a page begins -/

theorem opensCode_append {s : String} (h : opensCode s = true) (t : String) :
    opensCode (s ++ t) = true := by
  unfold opensCode at h ⊢
  rw [String.toList_append]
  split at h
  · rename_i hchars
    rw [hchars]
    rfl
  · rename_i c rest _ hchars
    have hc : c ≠ '/' := by
      rintro rfl
      simp at h
    rw [hchars, List.cons_append]
    split
    · rfl
    · rename_i heq
      rw [← (List.cons.inj heq).1]
      exact h
    · rename_i heq
      cases heq
  · cases h

theorem opensCode_typeHead {name head : String} (h : head ∈ typeHeads name) :
    opensCode head = true := by
  have hthree (first second third : String) (hfirst : opensCode first = true) :
      opensCode (first ++ second ++ third) = true :=
    opensCode_append (opensCode_append hfirst second) third
  simp only [typeHeads, List.mem_cons, List.not_mem_nil, or_false] at h
  rcases h with rfl | rfl | rfl | rfl <;> exact hthree _ _ _ (by decide)

theorem opensCode_docBlock (docs : List String) {text : String} (h : opensCode text = true) :
    opensCode (docBlock docs ++ text) = true := by
  cases docs with
  | nil =>
    rw [docBlock, List.map_nil, String.join_nil, String.empty_append]
    exact h
  | cons d rest =>
    rw [docBlock, List.map_cons, String.join_cons]
    have hstart : opensCode "// " = true := by decide
    exact opensCode_append (opensCode_append (opensCode_append (opensCode_append hstart _) _) _) _

theorem nestedBlock_opensCode (nested : List Declaration) {code : String}
    (h : opensCode code = true) :
    ∃ code', opensCode code' = true ∧ nestedBlock nested ++ "\n\n" ++ code = "\n\n" ++ code' := by
  cases nested with
  | nil =>
    refine ⟨code, h, ?_⟩
    rw [nestedBlock, List.map_nil, String.join_nil, String.empty_append]
  | cons d rest =>
    obtain ⟨head, hhead, after, htext⟩ := declaration_opens d
    refine ⟨d.text ++ (nestedBlock rest ++ "\n\n" ++ code), ?_, ?_⟩
    · rw [htext, String.append_assoc]
      exact opensCode_append (opensCode_typeHead hhead) _
    · rw [nestedBlock, nestedBlock, List.map_cons, String.join_cons]
      simp only [String.append_assoc]

/-- A file that begins with a fixed text and the include block of a set, and then has code. -/
def Renderer.IsPage (r : Renderer) (top : String) (set : IncludeSet) (text : String) : Prop :=
  ∃ code, opensCode code = true ∧ text = top ++ r.includeBlock set ++ "\n\n" ++ code

section

variable {r : Renderer} {links : Links} {p : ProgramNode}

theorem isPage_of_code (top : String) (set : IncludeSet) {code : String}
    (h : opensCode code = true) :
    r.IsPage top set (top ++ (r.includeBlock set ++ ("\n\n" ++ code))) :=
  ⟨code, h, by simp only [String.append_assoc]⟩

/-- The page of an account or a defined type. -/
theorem isPage_of_declaration (set : IncludeSet) (nested : List Declaration) (docs : List String)
    {name text : String} (h : ∃ head ∈ typeHeads name, ∃ after, text = head ++ after)
    (rest : String) :
    r.IsPage headerTop set (headerTop ++ r.includeBlock set ++ nestedBlock nested ++ "\n\n"
      ++ docBlock docs ++ text ++ rest) := by
  obtain ⟨head, hhead, after, rfl⟩ := h
  have hopens := opensCode_docBlock docs
    (opensCode_append (opensCode_append (opensCode_typeHead hhead) after) rest)
  obtain ⟨code, hcode, heq⟩ := nestedBlock_opensCode nested hopens
  refine ⟨code, hcode, ?_⟩
  simp only [String.append_assoc] at heq ⊢
  rw [heq]

theorem accountText_isPage {a : AccountNode} {m : Manifest} {seeds : List Seed}
    (h : r.AccountParts links p a m seeds) :
    r.IsPage headerTop ((seedHeaders r (r.accountDecl a m).headers seeds).erase
      (r.header "Accounts" (Naming.pascal a.name))) (r.accountText a m seeds) := by
  have hopens := @declare_opens r.target (.root (Naming.pascal a.name)) a.data m rfl rfl h.data
  have hpage := @isPage_of_declaration r ((seedHeaders r (r.accountDecl a m).headers seeds).erase
    (r.header "Accounts" (Naming.pascal a.name))) (r.accountDecl a m).nested a.docs _ _ hopens
    ((r.accountDecl a m).serializerBlock ++ sizeBlock r (Naming.pascal a.name) a.size
      ++ seedBlock r (Naming.pascal a.name) seeds ++ "\n")
  rw [Renderer.accountText, accountPage]
  simp only [String.append_assoc] at hpage ⊢
  exact hpage

theorem definedTypeText_isPage {d : DefinedTypeNode} {m : Manifest}
    (h : lower r.target (.root (Naming.pascal d.name)) d.type = .ok m) :
    r.IsPage headerTop ((r.definedTypeDecl d m).headers.erase (r.target.typeHeader d.name))
      (r.definedTypeText d m) := by
  have hopens := @declare_opens r.target (.root (Naming.pascal d.name)) d.type m rfl rfl h
  have hpage := @isPage_of_declaration r
    ((r.definedTypeDecl d m).headers.erase (r.target.typeHeader d.name))
    (r.definedTypeDecl d m).nested d.docs _ _ hopens
    ((r.definedTypeDecl d m).serializerBlock ++ "\n")
  rw [Renderer.definedTypeText, definedTypePage]
  simp only [String.append_assoc] at hpage ⊢
  exact hpage

theorem instructionText_isPage (ix : InstructionNode) (arguments : List Argument) (m : Manifest) :
    r.IsPage headerTop ((r.instructionHeaders arguments m).erase
      (r.header "Instructions" (Naming.pascal ix.name))) (r.instructionText p ix arguments m) := by
  have hstart : opensCode "// Accounts.\nstruct " = true := by decide
  unfold Renderer.instructionText instructionPage accountsStruct
  simp only [String.append_assoc]
  exact isPage_of_code _ _ (opensCode_append hstart _)

theorem errorsHeaderPage_isPage (program : String) (errors : List ErrorNode) :
    r.IsPage headerTop (.ofPaths [r.flavor.errorsHeader]) (errorsHeaderPage r program errors) := by
  have hstart : opensCode "enum class " = true := by decide
  have hsplit : "\n\nenum class " = "\n\n" ++ "enum class " := by decide
  unfold errorsHeaderPage
  rw [hsplit]
  simp only [String.append_assoc]
  exact isPage_of_code _ _ (opensCode_append hstart _)

theorem errorsSourcePage_isPage (hflavor : r.flavor ∈ Flavor.all) (program : String)
    (errors : List ErrorNode) :
    r.IsPage banner (.ofPaths [r.header "Errors" program]) (errorsSourcePage r program errors) := by
  have hall : ∀ flavor ∈ Flavor.all, opensCode flavor.charPointer = true := by decide
  unfold errorsSourcePage lookupHead
  simp only [String.append_assoc]
  exact isPage_of_code _ _ (opensCode_append (hall r.flavor hflavor) _)

theorem programsPage_isPage {keys : List (ProgramNode × Literal)} (hne : keys ≠ []) :
    r.IsPage headerTop (r.keyHeaders keys) (r.programsPage keys) := by
  obtain ⟨key, rest, rfl⟩ := List.exists_cons_of_ne_nil hne
  have hstart : opensCode "inline const " = true := by decide
  have hlines : "\n\n" = "\n" ++ "\n" := by decide
  have hkey : opensCode (r.keyText key) = true := by
    unfold Renderer.keyText
    simp only [String.append_assoc]
    exact opensCode_append hstart _
  have hpage := @isPage_of_code r headerTop (r.keyHeaders (key :: rest)) _
    (opensCode_docBlock key.1.docs (opensCode_append hkey (String.join
      (rest.map fun k => "\n" ++ docBlock k.1.docs ++ r.keyText k) ++ "\n")))
  rw [programsPage_eq, List.map_cons, String.join_cons]
  rw [hlines] at hpage
  simp only [String.append_assoc] at hpage ⊢
  exact hpage

end

/-! ### Files of whole lines -/

theorem topLines_linesText {top : List String} (htop : ∀ l ∈ top, IsTop l) {code : String}
    (hcode : opensCode code = true) (rest : List String) :
    topLines (linesText (top ++ code :: rest)) = top.flatMap splitLines := by
  have hcons (l : String) (lines : List String) :
      linesText (l :: lines) = l ++ "\n" ++ linesText lines := by
    rw [linesText, linesText, List.map_cons, String.join_cons]
  induction top with
  | nil =>
    rw [List.nil_append, hcons]
    exact topLines_of_opensCode (opensCode_append (opensCode_append hcode _) _)
  | cons l top ih =>
    rw [List.forall_mem_cons] at htop
    rw [List.cons_append, hcons, topLines_append htop.1, ih htop.2, List.flatMap_cons]

/-- A line in front of the code that includes one of some headers or nothing. -/
def IsTopLineOf (paths : List String) (line : String) : Prop :=
  '\n' ∉ line.toList ∧ isTopLine line = true ∧
    (isIncludeLine line = true → line ∈ paths.map IncludeSet.pathLine)

instance (paths : List String) (line : String) : Decidable (IsTopLineOf paths line) :=
  inferInstanceAs (Decidable (_ ∧ _))

/-- A file of whole lines behind a fixed text includes what the lines in front of its code
include. -/
theorem includes_linesText {start : String} (hstart : IsBareTop start) {paths lines : List String}
    (hlines : ∀ l ∈ lines, IsTopLineOf paths l) {code : String} (hcode : opensCode code = true)
    (rest : List String) {path : String}
    (h : Includes (linesText (start :: lines ++ code :: rest)) path) : path ∈ paths := by
  have htop : ∀ l ∈ start :: lines, IsTop l := by
    rw [List.forall_mem_cons]
    refine ⟨hstart.isTop, ?_⟩
    intro l hl
    obtain ⟨hfree, htop, -⟩ := hlines l hl
    rwa [IsTop, splitLines_of_newline_free hfree, List.forall_mem_singleton]
  obtain ⟨line, hform, hline⟩ := h
  have hinclude := isIncludeLine_of_mem_forms hform
  rw [topLines_linesText htop hcode, List.flatMap_cons, List.mem_append, List.mem_flatMap] at hline
  rcases hline with hline | ⟨l, hl, hline⟩
  · rw [(hstart line hline).2] at hinclude
    cases hinclude
  · obtain ⟨hfree, -, hpaths⟩ := hlines l hl
    rw [splitLines_of_newline_free hfree, List.mem_singleton] at hline
    subst hline
    obtain ⟨path', hpath', rfl⟩ := List.mem_map.mp (hpaths hinclude)
    rwa [← pathLine_mem_includeForms_iff.mp hform]

section

variable (m : ModuleInfo)

theorem scaffold_includes_nothing {flavor : Flavor} (hflavor : flavor ∈ Flavor.all)
    {file : ScaffoldFile} (h : file ∈ flavor.scaffold) (path : String) :
    ¬ Includes (m.page file.template) path := by
  have hcode {code : String} (h : opensCode code = true) (rest : List String) :
      ¬ Includes (linesText (code :: rest)) path := by
    have hnone : topLines (linesText (code :: rest)) = [] :=
      @topLines_linesText [] (List.forall_mem_nil _) code h rest
    rintro ⟨line, -, hline⟩
    rw [hnone] at hline
    cases hline
  rw [Flavor.all, List.mem_cons, List.mem_singleton] at hflavor
  rcases hflavor with rfl | rfl
  · simp only [Flavor.stl20, List.mem_cons, List.not_mem_nil, or_false] at h
    rcases h with rfl | rfl <;> exact hcode (by decide) _
  · simp only [Flavor.unreal5, List.mem_cons, List.not_mem_nil, or_false] at h
    rcases h with rfl | rfl <;> exact hcode (by decide) _

/-- The lines between the top and the code in the header of a module, whatever it is called. -/
def preamble (template : Template) (count : Nat) : List String :=
  (ModuleInfo.pageLines ⟨"", "", .standard⟩ template).tail.take count

theorem moduleHeader_includes {flavor : Flavor} (hflavor : flavor ∈ Flavor.all) {path : String}
    (h : Includes (m.page flavor.moduleHeader) path) :
    path ∈ helperHeaders flavor.moduleHeader := by
  rw [Flavor.all, List.mem_cons, List.mem_singleton] at hflavor
  rcases hflavor with rfl | rfl
  · have hlines : ∀ l ∈ preamble .standardModuleHeader 10,
        IsTopLineOf (helperHeaders .standardModuleHeader) l := by decide +kernel
    have hcode : opensCode ("// Version of the generated " ++ m.plugin ++ " client.") = true :=
      opensCode_append (opensCode_append (by decide) _) _
    exact includes_linesText isBareTop_headerTop hlines hcode (m.standardModuleHeader.drop 12) h
  · have hlines : ∀ l ∈ preamble .unrealModuleHeader 8,
        IsTopLineOf (helperHeaders .unrealModuleHeader) l := by decide +kernel
    have hcode : opensCode ("class F" ++ m.plugin ++ "Module : public IModuleInterface") = true :=
      opensCode_append (opensCode_append (by decide) _) _
    exact includes_linesText isBareTop_headerTop hlines hcode (m.unrealModuleHeader.drop 10) h

theorem moduleSource_includes {flavor : Flavor} (hflavor : flavor ∈ Flavor.all)
    (hplugin : '\n' ∉ m.plugin.toList) {path : String}
    (h : Includes (m.page flavor.moduleSource) path) : path = m.plugin ++ ".h" := by
  have hinclude : "#include \"" ++ m.plugin ++ ".h\"" = IncludeSet.pathLine (m.plugin ++ ".h") := by
    have hlocal : isLocalPath (m.plugin ++ ".h") = true := by simp [isLocalPath]
    have hsplit : ".h\"" = ".h" ++ "\"" := by decide
    rw [IncludeSet.pathLine, if_pos hlocal, hsplit]
    simp only [String.append_assoc]
  have hpath : IsTopLineOf [m.plugin ++ ".h"] ("#include \"" ++ m.plugin ++ ".h\"") := by
    rw [hinclude]
    exact ⟨newline_not_mem_pathLine (by simp [hplugin]), isTopLine_pathLine _,
      fun _ => List.mem_singleton_self _⟩
  have hblank : IsTopLineOf [m.plugin ++ ".h"] "" :=
    ⟨by decide, rfl, fun h => absurd h (by decide)⟩
  have hdefine : IsTopLineOf [m.plugin ++ ".h"]
      ("#define LOCTEXT_NAMESPACE \"F" ++ m.plugin ++ "Module\"") := by
    simp [IsTopLineOf, hplugin, isTopLine, isIncludeLine, List.isPrefixOf]
  rw [← List.mem_singleton]
  rw [Flavor.all, List.mem_cons, List.mem_singleton] at hflavor
  rcases hflavor with rfl | rfl
  · have hcode : opensCode ("const char* " ++ m.plugin ++ "Version()") = true :=
      opensCode_append (opensCode_append (by decide) _) _
    have hlines : ∀ l ∈ ["", "#include \"" ++ m.plugin ++ ".h\"", ""],
        IsTopLineOf [m.plugin ++ ".h"] l := by
      rw [List.forall_mem_cons, List.forall_mem_cons, List.forall_mem_singleton]
      exact ⟨hblank, hpath, hblank⟩
    exact includes_linesText isBareTop_banner hlines hcode (m.standardModuleSource.drop 5) h
  · have hcode : opensCode ("void F" ++ m.plugin ++ "Module::StartupModule()") = true :=
      opensCode_append (opensCode_append (by decide) _) _
    have hlines : ∀ l ∈ ["", "#include \"" ++ m.plugin ++ ".h\"", "",
        "#define LOCTEXT_NAMESPACE \"F" ++ m.plugin ++ "Module\"", ""],
        IsTopLineOf [m.plugin ++ ".h"] l := by
      iterate 4 rw [List.forall_mem_cons]
      rw [List.forall_mem_singleton]
      exact ⟨hblank, hpath, hblank, hdefine, hblank⟩
    exact includes_linesText isBareTop_banner hlines hcode (m.unrealModuleSource.drop 7) h

end

end ClientGen.Render
