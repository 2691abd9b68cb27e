import ClientGen.Proofs.Render.PageTops
/-!
# Headers that a module includes from itself

A generated file may include headers of its own module: the one with the helpers, the one of the
programs, that of the errors it implements, and those of linked types. The first three are written
whenever they are included. A link asks for the header of a type whether or not the type is
exported, so a module is closed exactly if every link of an exported entity names a type that is.
-/
namespace ClientGen.Render

open ClientGen.Idl ClientGen.Cpp

/-! ### Headers of the module itself -/

namespace Renderer

/-- A path of a header of the module itself. -/
def Owns (r : Renderer) (path : String) : Prop :=
  path = r.plugin ++ ".h" ∨ ∃ rest, path = r.plugin ++ "/" ++ rest

/-- A module with a name of its own: no header of another module seems to belong to it. Include
paths are written as they are. -/
structure Separate (r : Renderer) : Prop where
  flavor : r.flavor ∈ Flavor.all
  plugin : '\n' ∉ r.plugin.toList
  remap : r.remap = []
  external : ∀ path ∈ externalHeaders r.flavor, ¬ r.Owns path

/-- Every header of the module that a file includes is among the files. -/
def Closed (r : Renderer) (out : FileMap) : Prop :=
  ∀ path text, (path, text) ∈ out.files → ∀ header, r.Owns header → Includes text header →
    r.publicRoot ++ header ∈ out.paths

/-- A file that includes the headers of some links, but not its own, and of its module otherwise
only the headers of the helpers and of the programs. -/
structure IncludesLinks (r : Renderer) (used : List Construct) (own text : String) : Prop where
  owned : ∀ path, r.Owns path → Includes text path →
    path = r.plugin ++ ".h" ∨ path = r.programsHeader ∨
      ∃ name, .link name ∈ used ∧ path = r.target.typeHeader name
  links : ∀ name, .link name ∈ used → r.target.typeHeader name ≠ own →
    Includes text (r.target.typeHeader name)

/-- An exported entity has a link of some name in its types and values. -/
inductive Refers (r : Renderer) (root : RootNode) (name : String) : Prop
  | account {p : ProgramNode} (hp : p ∈ r.programsOf root) {a : AccountNode}
      (ha : a ∈ r.accountsOf p) (h : .link name ∈ accountConstructs root.links a)
  | definedType {p : ProgramNode} (hp : p ∈ r.programsOf root) {d : DefinedTypeNode}
      (hd : d ∈ r.definedTypesOf p) (h : .link name ∈ constructs false false d.type)
  | instruction {p : ProgramNode} (hp : p ∈ r.programsOf root) {ix : InstructionNode}
      (hix : ix ∈ r.instructionsOf p) (h : .link name ∈ instructionConstructs ix)

/-- Fields and variants are well placed in the types of everything that is exported. -/
structure WellPlaced (r : Renderer) (root : RootNode) : Prop where
  account : ∀ p ∈ r.programsOf root, ∀ a ∈ r.accountsOf p,
    wellPlaced a.data = true ∧ ∀ node ∈ seedNodes root.links a, seedWellPlaced node = true
  definedType : ∀ p ∈ r.programsOf root, ∀ d ∈ r.definedTypesOf p, wellPlaced d.type = true
  instruction : ∀ p ∈ r.programsOf root, ∀ ix ∈ r.instructionsOf p,
    ∀ a ∈ ix.arguments, wellPlaced a.type = true

end Renderer

section

variable {r : Renderer} (hr : r.Separate)

include hr

theorem newline_not_mem_asked {used : List Construct} :
    ∀ path ∈ headersOf r.target used ++ r.baseHeaders, '\n' ∉ path.toList := by
  have hexternal : ∀ flavor ∈ Flavor.all, ∀ path ∈ externalHeaders flavor, '\n' ∉ path.toList := by
    decide +kernel
  have hplugin : '\n' ∉ r.target.plugin.toList := hr.plugin
  intro path hpath
  rcases List.mem_append.mp hpath with hpath | hbase
  · obtain ⟨c, -, hpath⟩ := List.mem_flatMap.mp hpath
    exact newline_not_mem_headers hr.flavor hr.plugin c path hpath
  · rw [Renderer.baseHeaders, List.mem_append, List.mem_cons, List.mem_singleton] at hbase
    rcases hbase with hpath | rfl | rfl
    · exact hexternal _ hr.flavor path hpath
    · simp [Target.moduleHeader, hplugin]
    · simp [Renderer.programsHeader, hr.plugin]

theorem owned_header_cases {used : List Construct} {path : String} (howned : r.Owns path)
    (h : path ∈ headersOf r.target used ++ r.baseHeaders) :
    path = r.plugin ++ ".h" ∨ path = r.programsHeader ∨
      ∃ name, .link name ∈ used ∧ path = r.target.typeHeader name := by
  have hnot : path ∉ externalHeaders r.flavor := fun hpath => hr.external path hpath howned
  rcases List.mem_append.mp h with h | hbase
  · obtain ⟨c, hc, hpath⟩ := List.mem_flatMap.mp h
    have hown : path ∉ ownHeaders r.target.flavor := by
      intro hmem
      exact hnot (List.mem_append_left _ (List.mem_append_left _ hmem))
    simp only [ownHeaders, List.mem_append, List.mem_cons, List.not_mem_nil, or_false,
      not_or] at hown
    cases c with
    | link name => exact .inr (.inr ⟨name, hc, List.mem_singleton.mp hpath⟩)
    | byteHelper => exact .inl (List.mem_singleton.mp hpath)
    | number => exact absurd hpath hown.1
    | string => exact absurd (List.mem_singleton.mp hpath) hown.2.1
    | key => exact absurd (List.mem_singleton.mp hpath) hown.2.2.1
    | sequence => exact absurd (List.mem_singleton.mp hpath) hown.2.2.2.1
    | foldedArray => exact absurd (List.mem_singleton.mp hpath) hown.2.2.2.2.1
    | optional => exact absurd (List.mem_singleton.mp hpath) hown.2.2.2.2.2.1
    | tuple => exact absurd (List.mem_singleton.mp hpath) hown.2.2.2.2.2.2
  · rw [Renderer.baseHeaders, List.mem_append, List.mem_cons, List.mem_singleton] at hbase
    rcases hbase with hpath | rfl | rfl
    · exact absurd hpath hnot
    · exact .inl rfl
    · exact .inr (.inl rfl)

theorem includesLinks_of_lists {used : List Construct} {given : List String} {set : IncludeSet}
    (hlists : set.Lists given) (hgiven : given ⊆ headersOf r.target used ++ r.baseHeaders)
    {own : String} (hlinks : ∀ name, .link name ∈ used → r.target.typeHeader name ≠ own →
      r.target.typeHeader name ∈ given)
    {text : String} (hpage : r.IsPage headerTop set text) : r.IncludesLinks used own text := by
  obtain ⟨code, hcode, rfl⟩ := hpage
  have hfree : ∀ path ∈ given, '\n' ∉ path.toList := by
    intro path hpath
    exact newline_not_mem_asked hr path (hgiven hpath)
  have hincludes := includes_page_iff hr.remap isBareTop_headerTop hlists hfree hcode
  refine ⟨?_, ?_⟩
  · intro path howned h
    exact owned_header_cases hr howned (hgiven ((hincludes path).mp h))
  · intro name hname hne
    exact (hincludes _).mpr (hlinks name hname hne)

theorem includesLinks_of_asks {used : List Construct} {set : IncludeSet} (h : r.Asks used set)
    {own text : String} (hpage : r.IsPage headerTop (set.erase own) text) :
    r.IncludesLinks used own text := by
  obtain ⟨extra, hextra, hlists⟩ := h
  refine includesLinks_of_lists hr (hlists.erase own) ?_ ?_ hpage
  · have hbehind : extra ⊆ headersOf r.target used ++ r.baseHeaders :=
      List.Subset.trans hextra (List.subset_append_right _ _)
    exact List.Subset.trans (List.filter_subset_self _)
      (List.append_subset.mpr ⟨List.subset_append_left _ _, hbehind⟩)
  · intro name hname hne
    have hheader : r.target.typeHeader name ∈ headersOf r.target used :=
      List.mem_flatMap.mpr ⟨.link name, hname, List.mem_singleton_self _⟩
    exact List.mem_filter.mpr ⟨List.mem_append_left _ hheader, bne_iff_ne.mpr hne⟩

omit hr in
theorem keyHeaders_asks {programs : List ProgramNode} {keys : List (ProgramNode × Literal)}
    (hkeys : r.programKeys programs = .ok keys) : r.Asks [] (r.keyHeaders keys) := by
  have hone : r.Asks [] (IncludeSet.ofPaths [r.flavor.publicKey.header]) := by
    refine Renderer.Asks.empty.addAll ?_
    simp [Renderer.baseHeaders, externalHeaders, ownHeaders]
  have hsets : List.Forall₂ (fun o l => r.Asks l o) (keys.map fun k => k.2.includes)
      (programs.map fun _ => []) := by
    rw [List.forall₂_map_left_iff, List.forall₂_map_right_iff]
    refine ((programKeys_forall₂ programs hkeys).imp ?_).flip
    rintro p k ⟨-, hkey⟩
    unfold publicKeyLiteral at hkey
    split at hkey
    · cases hkey
    · change r.Asks [] k.2.includes
      rw [← Except.ok.inj hkey]
      exact hone
  have hall := hone.mergeAll hsets
  rwa [List.nil_append, List.flatten_eq_nil_iff.mpr (by simp)] at hall

/-- The header of the programs includes no linked type. -/
theorem programsPage_includesLinks {programs : List ProgramNode} (hne : programs ≠ [])
    {keys : List (ProgramNode × Literal)} (hkeys : r.programKeys programs = .ok keys) :
    r.IncludesLinks [] "" (r.programsPage keys) := by
  have hsome : keys ≠ [] := by
    rintro rfl
    cases programKeys_forall₂ programs hkeys
    exact hne rfl
  obtain ⟨extra, hextra, hlists⟩ := keyHeaders_asks hkeys
  exact includesLinks_of_lists hr hlists (List.Subset.trans hextra (List.subset_append_right _ _))
    (fun _ hname => absurd hname List.not_mem_nil) (programsPage_isPage hsome)

theorem moduleContents_includes {programs : List ProgramNode} {keys : List (ProgramNode × Literal)}
    (hkeys : r.programKeys programs = .ok keys) {path text : String}
    (hfile : (path, text) ∈ r.moduleContents programs keys) {header : String}
    (howned : r.Owns header) (h : Includes text header) :
    programs ≠ [] ∧ (header = r.plugin ++ ".h" ∨ header = r.programsHeader) := by
  unfold Renderer.moduleContents at hfile
  cases hempty : programs.isEmpty with
  | true =>
    rw [hempty] at hfile
    cases hfile
  | false =>
    have hne : programs ≠ [] := List.isEmpty_eq_false_iff.mp hempty
    rw [hempty, if_neg Bool.false_ne_true, Renderer.baseFiles, List.mem_append, List.mem_cons,
      List.mem_cons, List.mem_singleton] at hfile
    refine ⟨hne, ?_⟩
    rcases hfile with (hprograms | hscaffold) | hheader | hsource
    · cases hprograms
      rcases (programsPage_includesLinks hr hne hkeys).owned header howned h with
        hheader | hheader | ⟨name, hname, -⟩
      · exact .inl hheader
      · exact .inr hheader
      · cases hname
    · obtain ⟨file, hmem, heq⟩ := List.mem_map.mp hscaffold
      cases heq
      exact absurd h (scaffold_includes_nothing _ hr.flavor hmem header)
    · cases hheader
      have hhelper := moduleHeader_includes _ hr.flavor h
      exact absurd howned (hr.external header (List.mem_append_right _ hhelper))
    · cases hsource
      exact .inl (moduleSource_includes (r.moduleInfo programs) hr.flavor hr.plugin h)

end

section

variable {r : Renderer} {root : RootNode} {keys : List (ProgramNode × Literal)} {out : FileMap}

theorem typeHeader_eq_header (r : Renderer) (name : String) :
    r.target.typeHeader name = r.header "Types" (Naming.pascal name) := by
  have hfolder : "/Types/" = "/" ++ "Types" ++ "/" := by decide
  rw [Target.typeHeader, Renderer.header, hfolder]
  simp only [String.append_assoc]
  rfl

/-- What a program writes are files of its exported entities. -/
theorem entityFile_of_writes {links : Links} {p : ProgramNode} {path text : String}
    (h : r.Writes links p path text) :
    ∃ file : EntityFile, path = file.path r ∧ file.owner.2 ∈ r.namesOf p file.owner.1 := by
  have herrors (hne : p.errors ≠ []) : Naming.pascal p.name ∈ r.namesOf p .errors := by
    rw [Renderer.namesOf, List.isEmpty_eq_false_iff.mpr hne]
    exact List.mem_singleton_self _
  cases h with
  | account ha _ => exact ⟨.header .accounts _, rfl, List.mem_map_of_mem ha⟩
  | definedType hd _ => exact ⟨.header .definedTypes _, rfl, List.mem_map_of_mem hd⟩
  | instruction hix _ => exact ⟨.header .instructions _, rfl, List.mem_map_of_mem hix⟩
  | errorsHeader hne => exact ⟨.header .errors _, rfl, herrors hne⟩
  | errorsSource hne => exact ⟨.source _, rfl, herrors hne⟩

theorem mem_paths_of_writes (h : r.Renders root keys out) {p : ProgramNode}
    (hp : p ∈ r.programsOf root) {path text : String} (hwrites : r.Writes root.links p path text) :
    path ∈ out.paths :=
  List.mem_map.mpr ⟨(path, text), (h.mem_iff path text).mpr (.inr ⟨p, hp, hwrites⟩), rfl⟩

theorem mem_modulePaths_of_mem_moduleContents {programs : List ProgramNode} {path text : String}
    (h : (path, text) ∈ r.moduleContents programs keys) : path ∈ r.modulePaths := by
  unfold Renderer.moduleContents at h
  split at h
  · cases h
  · rw [← baseFiles_paths r programs (r.programsPage keys)]
    exact List.mem_map.mpr ⟨_, h, rfl⟩

theorem modulePaths_subset_paths (h : r.Renders root keys out) (hne : r.programsOf root ≠ []) :
    r.modulePaths ⊆ out.paths := by
  intro path hpath
  rw [← baseFiles_paths r (r.programsOf root) (r.programsPage keys)] at hpath
  obtain ⟨⟨path, text⟩, hfile, rfl⟩ := List.mem_map.mp hpath
  have hmodule : (path, text) ∈ r.moduleContents (r.programsOf root) keys := by
    rwa [Renderer.moduleContents, List.isEmpty_eq_false_iff.mpr hne, if_neg Bool.false_ne_true]
  exact List.mem_map.mpr ⟨_, (h.mem_iff path text).mpr (.inl hmodule), rfl⟩

/-- A type has a header exactly if it is exported. -/
theorem typeHeader_mem_paths_iff (hflavor : r.flavor ∈ Flavor.all) (h : r.Renders root keys out)
    (name : String) :
    r.publicRoot ++ r.target.typeHeader name ∈ out.paths ↔
      Naming.pascal name ∈ r.exportedNames root .definedTypes := by
  let file := EntityFile.header .definedTypes (Naming.pascal name)
  have hpath : r.publicRoot ++ r.target.typeHeader name = file.path r := by
    rw [typeHeader_eq_header]
    rfl
  rw [hpath, Renderer.exportedNames, List.mem_flatMap]
  constructor
  · intro hmem
    obtain ⟨⟨path, text⟩, hfile, hpath⟩ := List.mem_map.mp hmem
    rcases (h.mem_iff path text).mp hfile with hmodule | ⟨p, hp, hwrites⟩
    · have hmodulePath := mem_modulePaths_of_mem_moduleContents hmodule
      rw [show path = file.path r from hpath] at hmodulePath
      exact absurd hmodulePath (file.path_not_mem_modulePaths hflavor)
    · obtain ⟨file', hfile', howner⟩ := entityFile_of_writes hwrites
      have heq : file' = file := EntityFile.path_injective r (hfile'.symm.trans hpath)
      rw [heq] at howner
      exact ⟨p, hp, howner⟩
  · rintro ⟨p, hp, hname⟩
    obtain ⟨d, hd, hname⟩ := List.mem_map.mp hname
    obtain ⟨m, hm⟩ := h.definedType p hp d hd
    have hwrites := mem_paths_of_writes h hp (.definedType hd hm)
    rw [hname] at hwrites
    exact hwrites

theorem includes_of_writes (hr : r.Separate) (hplaced : r.WellPlaced root) {p : ProgramNode}
    (hp : p ∈ r.programsOf root) {path text : String} (h : r.Writes root.links p path text)
    {header : String} (howned : r.Owns header) (hincludes : Includes text header) :
    (header = r.plugin ++ ".h" ∨ header = r.programsHeader) ∨
      (∃ name, r.Refers root name ∧ header = r.target.typeHeader name) ∨
      (p.errors ≠ [] ∧ header = r.header "Errors" (Naming.pascal p.name)) := by
  -- the headers of linked types are the only ones that depend on the entity
  have hlinks {used : List Construct} {own : String} (hpage : r.IncludesLinks used own text)
      (hrefers : ∀ name, .link name ∈ used → r.Refers root name) :
      (header = r.plugin ++ ".h" ∨ header = r.programsHeader) ∨
        ∃ name, r.Refers root name ∧ header = r.target.typeHeader name := by
    rcases hpage.owned header howned hincludes with hheader | hheader | ⟨name, hname, hheader⟩
    · exact .inl (.inl hheader)
    · exact .inl (.inr hheader)
    · exact .inr ⟨name, hrefers name hname, hheader⟩
  rw [← or_assoc]
  cases h with
  | account ha hparts =>
    obtain ⟨hdata, hseeds⟩ := hplaced.account p hp _ ha
    exact .inl (hlinks (includesLinks_of_asks hr (account_asks hdata hseeds hparts)
      (accountText_isPage hparts)) fun name hname => .account hp ha hname)
  | definedType hd hm =>
    exact .inl (hlinks (includesLinks_of_asks hr
      (declare_asks (hplaced.definedType p hp _ hd) rfl rfl hm) (definedTypeText_isPage hm))
      fun name hname => .definedType hp hd hname)
  | instruction hix hparts =>
    have hasks := instruction_asks (hplaced.instruction p hp _ hix) hparts
    exact .inl (hlinks (includesLinks_of_asks hr hasks (instructionText_isPage _ _ _))
      fun name hname => .instruction hp hix hname)
  | errorsHeader _ =>
    have hexternal : [r.flavor.errorsHeader] ⊆ headersOf r.target [] ++ r.baseHeaders := by
      simp [Renderer.baseHeaders, externalHeaders]
    have hpage : r.IncludesLinks [] "" (errorsHeaderPage r (Naming.pascal p.name) p.errors) :=
      includesLinks_of_lists hr (.ofPaths _) hexternal
        (fun _ hname => absurd hname List.not_mem_nil) (errorsHeaderPage_isPage _ _)
    exact .inl (hlinks hpage fun _ hname => absurd hname List.not_mem_nil)
  | errorsSource hne =>
    refine .inr ⟨hne, ?_⟩
    obtain ⟨code, hcode, htext⟩ := errorsSourcePage_isPage hr.flavor (Naming.pascal p.name) p.errors
    have hfree : ∀ path ∈ [r.header "Errors" (Naming.pascal p.name)], '\n' ∉ path.toList := by
      have hname := newline_not_mem_pascal p.name
      simp [Renderer.header, hr.plugin, hname]
    rw [htext, includes_page_iff hr.remap isBareTop_banner (.ofPaths _) hfree
      hcode, List.mem_singleton] at hincludes
    exact hincludes

/-- The header of a linked type is included, unless it is the header of the entity itself. -/
theorem includes_of_refers (hr : r.Separate) (hplaced : r.WellPlaced root)
    (h : r.Renders root keys out) {name : String} (hname : r.Refers root name) :
    Naming.pascal name ∈ r.exportedNames root .definedTypes ∨
      ∃ path text, (path, text) ∈ out.files ∧ Includes text (r.target.typeHeader name) := by
  have hwritten {p : ProgramNode} (hp : p ∈ r.programsOf root) {path text : String}
      (hwrites : r.Writes root.links p path text) : (path, text) ∈ out.files :=
    (h.mem_iff path text).mpr (.inr ⟨p, hp, hwrites⟩)
  -- headers of different entities have different paths
  have hfile (category : Category) (entity : String)
      (heq : r.target.typeHeader name = r.header category.folder entity) :
      EntityFile.header .definedTypes (Naming.pascal name) = .header category entity := by
    rw [typeHeader_eq_header] at heq
    exact EntityFile.path_injective r (congrArg (r.publicRoot ++ ·) heq)
  cases hname with
  | @account p hp a ha hlink =>
    obtain ⟨m, seeds, hparts⟩ := h.account p hp a ha
    obtain ⟨hdata, hseeds⟩ := hplaced.account p hp a ha
    have hpage := includesLinks_of_asks hr (account_asks hdata hseeds hparts)
      (accountText_isPage hparts)
    exact .inr ⟨_, _, hwritten hp (.account ha hparts),
      hpage.links name hlink fun heq => nomatch hfile .accounts _ heq⟩
  | @definedType p hp d hd hlink =>
    obtain ⟨m, hm⟩ := h.definedType p hp d hd
    have hpage := includesLinks_of_asks hr
      (declare_asks (hplaced.definedType p hp d hd) rfl rfl hm) (definedTypeText_isPage hm)
    by_cases heq : r.target.typeHeader name = r.target.typeHeader d.name
    · rw [typeHeader_eq_header r d.name] at heq
      have hsame := (EntityFile.header.inj (hfile .definedTypes _ heq)).2
      rw [hsame]
      exact .inl (List.mem_flatMap.mpr ⟨p, hp, List.mem_map_of_mem hd⟩)
    · exact .inr ⟨_, _, hwritten hp (.definedType hd hm), hpage.links name hlink heq⟩
  | @instruction p hp ix hix hlink =>
    obtain ⟨arguments, m, hparts⟩ := h.instruction p hp ix hix
    have hpage := includesLinks_of_asks hr
      (instruction_asks (hplaced.instruction p hp ix hix) hparts)
      (@instructionText_isPage r p ix arguments m)
    exact .inr ⟨_, _, hwritten hp (.instruction hix hparts),
      hpage.links name hlink fun heq => nomatch hfile .instructions _ heq⟩

theorem closed_iff_links_exported (hr : r.Separate) (hplaced : r.WellPlaced root)
    (h : r.Renders root keys out) :
    r.Closed out ↔
      ∀ name, r.Refers root name → Naming.pascal name ∈ r.exportedNames root .definedTypes := by
  constructor
  · intro hclosed name hname
    rcases includes_of_refers hr hplaced h hname with hexported | ⟨path, text, hfile, hincludes⟩
    · exact hexported
    · have howned : r.Owns (r.target.typeHeader name) := by
        refine .inr ⟨"Types/" ++ Naming.pascal name ++ ".h", ?_⟩
        have hfolder : "/Types/" = "/" ++ "Types/" := by decide
        rw [Target.typeHeader, hfolder]
        simp only [String.append_assoc]
        rfl
      exact (typeHeader_mem_paths_iff hr.flavor h name).mp
        (hclosed path text hfile _ howned hincludes)
  · intro hlinks path text hfile header howned hincludes
    have hmodule (hne : r.programsOf root ≠ [])
        (hheader : header = r.plugin ++ ".h" ∨ header = r.programsHeader) :
        r.publicRoot ++ header ∈ out.paths := by
      apply modulePaths_subset_paths h hne
      rcases hheader with rfl | rfl <;> simp [Renderer.modulePaths, String.append_assoc]
    rcases (h.mem_iff path text).mp hfile with hcontents | ⟨p, hp, hwrites⟩
    · obtain ⟨hne, hheader⟩ := moduleContents_includes hr h.ofKeys hcontents howned hincludes
      exact hmodule hne hheader
    · rcases includes_of_writes hr hplaced hp hwrites howned hincludes with
        hheader | ⟨name, hname, rfl⟩ | ⟨hne, rfl⟩
      · exact hmodule (List.ne_nil_of_mem hp) hheader
      · exact (typeHeader_mem_paths_iff hr.flavor h name).mpr (hlinks name hname)
      · exact mem_paths_of_writes h hp (.errorsHeader hne)

end

theorem not_owns_of_opening {r : Renderer} {path : String} (hne : r.plugin.toList ≠ [])
    (h : opening path ≠ opening r.plugin) : ¬ r.Owns path := by
  rintro (rfl | ⟨rest, rfl⟩)
  · exact h (opening_append _ hne)
  · rw [String.append_assoc] at h
    exact h (opening_append _ hne)

theorem Renderer.separate_of_renderer? {o : Options} {r : Renderer} (hr : o.renderer? = some r)
    (hremap : o.remap = []) (hexternal : ∀ path ∈ externalHeaders r.flavor, ¬ r.Owns path) :
    r.Separate := by
  obtain ⟨hplugin, hpaths⟩ := Options.renderer?_eq_some hr
  refine ⟨Options.flavor_mem_of_renderer? hr, ?_, hpaths.trans hremap, hexternal⟩
  rw [Renderer.plugin, hplugin]
  exact o.newline_not_mem_pluginName

/-- A rendered module is closed under its own include lines exactly if every link of an exported
entity, in a type or in a value, names an exported type. -/
theorem includes_closed_iff_links_exported {o : Options} {r : Renderer}
    (hr : o.renderer? = some r) (hremap : o.remap = [])
    (hexternal : ∀ path ∈ externalHeaders r.flavor, ¬ r.Owns path) {root : RootNode}
    (hplaced : r.WellPlaced root) {out : FileMap} (h : (r.render root).files = .ok out) :
    r.Closed out ↔
      ∀ name, r.Refers root name → Naming.pascal name ∈ r.exportedNames root .definedTypes := by
  obtain ⟨keys, hrenders⟩ := render_contents (Options.flavor_mem_of_renderer? hr) h
  exact closed_iff_links_exported (Renderer.separate_of_renderer? hr hremap hexternal) hplaced
    hrenders

/-- An account that links to an exported type. -/
theorem includes_closed_iff_links_exported_pair :
    let options : Options := ⟨"vault", "", false, false, []⟩
    let program : ProgramNode :=
      { name := "vault", publicKey := "11111111111111111111111111111111", version := "",
        origin := "", docs := [],
        accounts := [⟨"state", [], .link "pair", none, none, false⟩], instructions := [],
        definedTypes := [⟨"pair", [], .struct [], false⟩], pdas := [], errors := [],
        isInternal := false }
    ∃ r out, options.renderer? = some r ∧ (r.render ⟨"", "", program, []⟩).files = .ok out ∧
      r.Refers ⟨"", "", program, []⟩ "pair" ∧ r.Closed out := by
  intro options program
  let r : Renderer := ⟨⟨.unreal5, "Vault"⟩, false, false, []⟩
  have hr : options.renderer? = some r := by
    have hplugin : options.pluginName = "Vault" := by decide +kernel
    rw [Options.renderer?_of_standard rfl, hplugin]
  have hexternal : ∀ path ∈ externalHeaders r.flavor, ¬ r.Owns path := by
    have hopening : ∀ path ∈ externalHeaders r.flavor, opening path ≠ opening r.plugin := by
      decide +kernel
    exact fun path hpath => not_owns_of_opening (by decide) (hopening path hpath)
  have hplaced : r.WellPlaced ⟨"", "", program, []⟩ := by
    refine ⟨?_, ?_, ?_⟩ <;> decide +kernel
  have hok : (r.render ⟨"", "", program, []⟩).files.toBool = true := by decide +kernel
  obtain ⟨out, hout⟩ := Generated.exists_ok hok
  have hrefers : r.Refers ⟨"", "", program, []⟩ "pair" :=
    .account (List.mem_singleton_self _) (List.mem_singleton_self _) (by decide +kernel)
  refine ⟨r, out, hr, hout, hrefers, ?_⟩
  refine (includes_closed_iff_links_exported hr rfl hexternal hplaced hout).mpr ?_
  -- the only link is the one of the account
  rintro name (⟨hp, ha, hlink⟩ | ⟨hp, hd, hlink⟩ | ⟨hp, hix, -⟩)
  · cases List.mem_singleton.mp hp
    cases List.mem_singleton.mp ha
    cases List.mem_singleton.mp hlink
    exact List.mem_singleton_self _
  · cases List.mem_singleton.mp hp
    cases List.mem_singleton.mp hd
    cases hlink
  · cases List.mem_singleton.mp hp
    cases hix

/-- An account that links to a type which the document does not declare is rendered, and its header
includes a header that is not written. -/
theorem missing_type_is_included :
    let options : Options := ⟨"vault", "", false, false, []⟩
    let program : ProgramNode :=
      { name := "vault", publicKey := "11111111111111111111111111111111", version := "",
        origin := "", docs := [],
        accounts := [⟨"state", [], .link "ghost", none, none, false⟩], instructions := [],
        definedTypes := [], pdas := [], errors := [], isInternal := false }
    ∃ r out, options.renderer? = some r ∧ (r.render ⟨"", "", program, []⟩).files = .ok out ∧
      (∃ path text, (path, text) ∈ out.files ∧ Includes text "Vault/Types/Ghost.h") ∧
      "Source/Vault/Public/Vault/Types/Ghost.h" ∉ out.paths := by
  intro options program
  let r : Renderer := ⟨⟨.unreal5, "Vault"⟩, false, false, []⟩
  have hr : options.renderer? = some r := by
    have hplugin : options.pluginName = "Vault" := by decide +kernel
    rw [Options.renderer?_of_standard rfl, hplugin]
  have hexternal : ∀ path ∈ externalHeaders r.flavor, ¬ r.Owns path := by
    have hopening : ∀ path ∈ externalHeaders r.flavor, opening path ≠ opening r.plugin := by
      decide +kernel
    exact fun path hpath => not_owns_of_opening (by decide) (hopening path hpath)
  have hseparate := Renderer.separate_of_renderer? hr rfl hexternal
  have hplaced : r.WellPlaced ⟨"", "", program, []⟩ := by
    refine ⟨?_, ?_, ?_⟩ <;> decide +kernel
  have hheader : r.target.typeHeader "ghost" = "Vault/Types/Ghost.h" := by decide +kernel
  have hnone : Naming.pascal "ghost" ∉ r.exportedNames ⟨"", "", program, []⟩ .definedTypes :=
    List.not_mem_nil
  have hok : (r.render ⟨"", "", program, []⟩).files.toBool = true := by decide +kernel
  obtain ⟨out, hout⟩ := Generated.exists_ok hok
  obtain ⟨keys, hrenders⟩ := render_contents hseparate.flavor hout
  have hrefers : r.Refers ⟨"", "", program, []⟩ "ghost" :=
    .account (List.mem_singleton_self _) (List.mem_singleton_self _) (List.mem_singleton_self _)
  refine ⟨r, out, hr, hout, ?_, ?_⟩
  · rw [← hheader]
    exact (includes_of_refers hseparate hplaced hrenders hrefers).resolve_left hnone
  · intro hmem
    have hpath : r.publicRoot ++ r.target.typeHeader "ghost" ∈ out.paths := by
      rw [hheader]
      exact hmem
    exact hnone ((typeHeader_mem_paths_iff hseparate.flavor hrenders "ghost").mp hpath)

end ClientGen.Render
