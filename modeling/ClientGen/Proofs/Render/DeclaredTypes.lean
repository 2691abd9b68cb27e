import ClientGen.Proofs.Render.Contents
import ClientGen.Proofs.Render.DuplicatePaths
import ClientGen.Proofs.Render.TopLevel
/-!
# Types that the headers declare

The header of an entity declares types that are named after it: one for an account or a defined
type, three for an instruction, and an enum for the errors of a program. The check of a document
compares the names of one category only, while types of different categories may get the same name.
The names differ exactly if no account or defined type is named like another of them or like a type
of an instruction, nor like an error enum where the dialect does not mark those enums.
-/
namespace ClientGen.Render

open ClientGen.Idl ClientGen.Cpp

/-- What follows the name of an entity in the names of the types that its header declares. -/
def Category.suffixes : Category → List String
  | .accounts => [""]
  | .definedTypes => [""]
  | .instructions => ["Accounts", "InstructionData", "Instruction"]
  | .errors => ["Error"]

/-- What stands in front of the name of an entity. -/
def Category.mark (flavor : Flavor) : Category → String
  | .accounts => flavor.structMark
  | .definedTypes => flavor.structMark
  | .instructions => flavor.structMark
  | .errors => flavor.errorMark

/-- A type that the header of an entity declares at its top. -/
structure TopType where
  category : Category
  /-- The generated name of the entity. -/
  entity : String
  suffix : String
deriving DecidableEq, Repr

def TopType.name (flavor : Flavor) (t : TopType) : String :=
  t.category.mark flavor ++ t.entity ++ t.suffix

/-- Where a type is declared. -/
def TopType.path (r : Renderer) (t : TopType) : String :=
  r.headerPath t.category.folder t.entity

/-- The types that the headers of a document declare. -/
def Renderer.topTypes (r : Renderer) (root : RootNode) : List TopType :=
  Category.all.flatMap fun category => (r.exportedNames root category).flatMap fun name =>
    category.suffixes.map fun suffix => ⟨category, name, suffix⟩

section

variable {r : Renderer} {root : RootNode}

theorem mem_topTypes_iff {t : TopType} :
    t ∈ r.topTypes root ↔
      t.entity ∈ r.exportedNames root t.category ∧ t.suffix ∈ t.category.suffixes := by
  have hall (category : Category) : category ∈ Category.all := by cases category <;> decide
  simp only [Renderer.topTypes, List.mem_flatMap, List.mem_map]
  constructor
  · rintro ⟨category, -, name, hname, suffix, hsuffix, rfl⟩
    exact ⟨hname, hsuffix⟩
  · rintro ⟨hname, hsuffix⟩
    exact ⟨t.category, hall _, t.entity, hname, t.suffix, hsuffix, rfl⟩

theorem topTypes_nodup (h : ¬ r.NamesClash root) : (r.topTypes root).Nodup := by
  have hall : Category.all.Nodup := by decide
  rw [Renderer.topTypes, List.nodup_flatMap]
  refine ⟨?_, ?_⟩
  · intro category _
    have hnames : (r.exportedNames root category).Nodup := by
      by_contra hclash
      exact h ⟨category, hclash⟩
    rw [List.nodup_flatMap]
    refine ⟨?_, ?_⟩
    · intro name _
      have hsuffixes : category.suffixes.Nodup := by cases category <;> decide
      refine hsuffixes.map ?_
      intro suffix suffix' heq
      exact (TopType.mk.inj heq).2.2
    · refine hnames.imp ?_
      intro name name' hne t ht ht'
      obtain ⟨suffix, -, rfl⟩ := List.mem_map.mp ht
      obtain ⟨suffix', -, heq⟩ := List.mem_map.mp ht'
      exact hne (TopType.mk.inj heq).2.1.symm
  · refine hall.imp ?_
    intro category category' hne t ht ht'
    obtain ⟨name, -, ht⟩ := List.mem_flatMap.mp ht
    obtain ⟨name', -, ht'⟩ := List.mem_flatMap.mp ht'
    obtain ⟨suffix, -, rfl⟩ := List.mem_map.mp ht
    obtain ⟨suffix', -, heq⟩ := List.mem_map.mp ht'
    exact hne (TopType.mk.inj heq).1.symm

end

/-! ### Names that differ -/

/-- The names of accounts and defined types, of which each declares a type of its very name. -/
def Renderer.dataNames (r : Renderer) (root : RootNode) : List String :=
  r.exportedNames root .accounts ++ r.exportedNames root .definedTypes

/-- No account or defined type is named like another one or like a further type. -/
structure Renderer.TypesApart (r : Renderer) (root : RootNode) : Prop where
  data : (r.dataNames root).Nodup
  instructions : ∀ name ∈ r.exportedNames root .instructions,
    ∀ suffix ∈ ["Accounts", "InstructionData", "Instruction"], name ++ suffix ∉ r.dataNames root
  errors : r.flavor.errorMark = r.flavor.structMark →
    ∀ name ∈ r.exportedNames root .errors, name ++ "Error" ∉ r.dataNames root

section

variable {r : Renderer} {root : RootNode}

theorem TopType.category_of_mem {t : TopType} (ht : t ∈ r.topTypes root) :
    (t.suffix = "" ∧ (t.category = .accounts ∨ t.category = .definedTypes)) ∨
    (t.suffix ∈ Category.instructions.suffixes ∧ t.category = .instructions) ∨
    (t.suffix = "Error" ∧ t.category = .errors) := by
  obtain ⟨-, hsuffix⟩ := mem_topTypes_iff.mp ht
  obtain ⟨category, entity, suffix⟩ := t
  cases category with
  | accounts => exact .inl ⟨List.mem_singleton.mp hsuffix, .inl rfl⟩
  | definedTypes => exact .inl ⟨List.mem_singleton.mp hsuffix, .inr rfl⟩
  | instructions => exact .inr (.inl ⟨hsuffix, rfl⟩)
  | errors => exact .inr (.inr ⟨List.mem_singleton.mp hsuffix, rfl⟩)

/-- A type without a suffix is that of an account or a defined type, and has its very name. -/
theorem TopType.data_of_suffix {t : TopType} (ht : t ∈ r.topTypes root) (hsuffix : t.suffix = "") :
    (t.category = .accounts ∨ t.category = .definedTypes) ∧ t.entity ∈ r.dataNames root ∧
      t.name r.flavor = r.flavor.structMark ++ t.entity := by
  have hentity := (mem_topTypes_iff.mp ht).1
  rw [TopType.name, hsuffix, String.append_empty]
  rcases TopType.category_of_mem ht with ⟨-, hcategory | hcategory⟩ | ⟨hmem, -⟩ | ⟨herror, -⟩
  · rw [hcategory] at hentity ⊢
    exact ⟨.inl rfl, List.mem_append_left _ hentity, rfl⟩
  · rw [hcategory] at hentity ⊢
    exact ⟨.inr rfl, List.mem_append_right _ hentity, rfl⟩
  · rw [hsuffix] at hmem
    exact absurd hmem (by decide)
  · rw [hsuffix] at herror
    exact absurd herror (by decide)

/-- Suffixes of instructions and errors end in different letters. -/
theorem eq_of_append_suffix {s s' : String} {c c' : Category} {suffix suffix' : String}
    (hsuffix : suffix ∈ c.suffixes) (hsuffix' : suffix' ∈ c'.suffixes) (hne : suffix ≠ "")
    (hne' : suffix' ≠ "") (h : s ++ suffix = s' ++ suffix') : c = c' ∧ suffix = suffix' := by
  have hending := congrArg ending h
  rw [ending_append (by simpa using hne), ending_append (by simpa using hne')] at hending
  have hclosed : ∀ suffix ∈ c.suffixes, ∀ suffix' ∈ c'.suffixes, suffix ≠ "" → suffix' ≠ "" →
      ending suffix = ending suffix' → c = c' ∧ suffix = suffix' := by
    cases c <;> cases c' <;> decide
  exact hclosed suffix hsuffix suffix' hsuffix' hne hne' hending

/-- Either error enums are marked like structs, or no name of one kind is a name of the other. -/
theorem marks_apart (hflavor : r.flavor ∈ Flavor.all)
    (h : r.flavor.errorMark ≠ r.flavor.structMark) (s s' : String) :
    r.flavor.structMark ++ s ≠ r.flavor.errorMark ++ s' := by
  rw [Flavor.all, List.mem_cons, List.mem_singleton] at hflavor
  rcases hflavor with hflavor | hflavor
  · rw [hflavor] at h
    exact absurd rfl h
  · rw [hflavor]
    intro heq
    have hopening := congrArg opening heq
    rw [opening_append _ (by decide), opening_append _ (by decide)] at hopening
    exact absurd hopening (by decide)

/-- A type without a suffix has another name than one with a suffix. -/
theorem name_ne_of_suffix (hflavor : r.flavor ∈ Flavor.all) (hapart : r.TypesApart root)
    {t t' : TopType} (ht : t ∈ r.topTypes root) (ht' : t' ∈ r.topTypes root)
    (hsuffix : t.suffix = "") (hsuffix' : t'.suffix ≠ "") :
    t.name r.flavor ≠ t'.name r.flavor := by
  intro heq
  obtain ⟨-, hdata, hname⟩ := TopType.data_of_suffix ht hsuffix
  have hentity' := (mem_topTypes_iff.mp ht').1
  rw [hname, TopType.name, String.append_assoc] at heq
  rcases TopType.category_of_mem ht' with ⟨hempty, -⟩ | ⟨hmem', hcategory'⟩ | ⟨herror', hcategory'⟩
  · exact hsuffix' hempty
  · rw [hcategory'] at heq hentity'
    rw [Category.mark, String.append_right_inj] at heq
    rw [heq] at hdata
    exact hapart.instructions _ hentity' _ hmem' hdata
  · rw [hcategory'] at heq hentity'
    rw [herror', Category.mark] at heq
    by_cases hmarks : r.flavor.errorMark = r.flavor.structMark
    · rw [hmarks, String.append_right_inj] at heq
      rw [heq] at hdata
      exact hapart.errors hmarks _ hentity' hdata
    · exact marks_apart hflavor hmarks _ _ heq

theorem topTypes_names_nodup_iff (hflavor : r.flavor ∈ Flavor.all) (hclash : ¬ r.NamesClash root) :
    ((r.topTypes root).map (·.name r.flavor)).Nodup ↔ r.TypesApart root := by
  have hnames (category : Category) : (r.exportedNames root category).Nodup := by
    by_contra h
    exact hclash ⟨category, h⟩
  rw [List.nodup_map_iff_inj_on (topTypes_nodup hclash)]
  constructor
  · intro hinj
    -- types of different categories have different names
    have hne (t t' : TopType) (ht : t ∈ r.topTypes root) (ht' : t' ∈ r.topTypes root)
        (hcategory : t.category ≠ t'.category) : t.name r.flavor ≠ t'.name r.flavor := by
      intro heq
      exact hcategory (congrArg TopType.category (hinj t ht t' ht' heq))
    have hdata {name : String} (h : name ∈ r.dataNames root) : ∃ t ∈ r.topTypes root,
        (t.category = .accounts ∨ t.category = .definedTypes) ∧
          t.name r.flavor = r.flavor.structMark ++ name := by
      rcases List.mem_append.mp h with h | h
      · have ht : ⟨.accounts, name, ""⟩ ∈ r.topTypes root :=
          mem_topTypes_iff.mpr ⟨h, List.mem_singleton_self _⟩
        exact ⟨_, ht, .inl rfl, (TopType.data_of_suffix ht rfl).2.2⟩
      · have ht : ⟨.definedTypes, name, ""⟩ ∈ r.topTypes root :=
          mem_topTypes_iff.mpr ⟨h, List.mem_singleton_self _⟩
        exact ⟨_, ht, .inr rfl, (TopType.data_of_suffix ht rfl).2.2⟩
    refine ⟨?_, ?_, ?_⟩
    · refine List.nodup_append.mpr ⟨hnames _, hnames _, ?_⟩
      rintro name haccount _ htype rfl
      exact hne ⟨.accounts, name, ""⟩ ⟨.definedTypes, name, ""⟩
        (mem_topTypes_iff.mpr ⟨haccount, List.mem_singleton_self _⟩)
        (mem_topTypes_iff.mpr ⟨htype, List.mem_singleton_self _⟩) nofun rfl
    · intro name hname suffix hsuffix hmem
      obtain ⟨t, ht, hcategory, heq⟩ := hdata hmem
      refine hne t ⟨.instructions, name, suffix⟩ ht (mem_topTypes_iff.mpr ⟨hname, hsuffix⟩) ?_ ?_
      · rcases hcategory with hcategory | hcategory <;> rw [hcategory] <;> exact nofun
      · rw [heq, TopType.name, String.append_assoc]
        rfl
    · intro hmarks name hname hmem
      obtain ⟨t, ht, hcategory, heq⟩ := hdata hmem
      refine hne t ⟨.errors, name, "Error"⟩ ht
        (mem_topTypes_iff.mpr ⟨hname, List.mem_singleton_self _⟩) ?_ ?_
      · rcases hcategory with hcategory | hcategory <;> rw [hcategory] <;> exact nofun
      · rw [heq, TopType.name, String.append_assoc, Category.mark, hmarks]
  · intro hapart t ht t' ht' heq
    obtain ⟨hentity, hsuffix⟩ := mem_topTypes_iff.mp ht
    obtain ⟨hentity', hsuffix'⟩ := mem_topTypes_iff.mp ht'
    by_cases hempty : t.suffix = "" <;> by_cases hempty' : t'.suffix = ""
    · obtain ⟨hcategory, -, hname⟩ := TopType.data_of_suffix ht hempty
      obtain ⟨hcategory', -, hname'⟩ := TopType.data_of_suffix ht' hempty'
      rw [hname, hname', String.append_right_inj] at heq
      have hdisjoint := (List.nodup_append.mp hapart.data).2.2
      obtain ⟨category, entity, suffix⟩ := t
      obtain ⟨category', entity', suffix'⟩ := t'
      dsimp only at hempty hempty' heq hcategory hcategory' hentity hentity'
      subst hempty hempty' heq
      rcases hcategory with rfl | rfl <;> rcases hcategory' with rfl | rfl
      · rfl
      · exact absurd rfl (hdisjoint _ hentity _ hentity')
      · exact absurd rfl (hdisjoint _ hentity' _ hentity)
      · rfl
    · exact absurd heq (name_ne_of_suffix hflavor hapart ht ht' hempty hempty')
    · exact absurd heq.symm (name_ne_of_suffix hflavor hapart ht' ht hempty' hempty)
    · obtain ⟨hcategory, hsame⟩ := eq_of_append_suffix hsuffix hsuffix' hempty hempty' heq
      obtain ⟨category, entity, suffix⟩ := t
      obtain ⟨category', entity', suffix'⟩ := t'
      dsimp only at hcategory hsame
      subst hcategory hsame
      rw [TopType.name, TopType.name, String.append_left_inj, String.append_right_inj] at heq
      dsimp only at heq
      rw [heq]

end

/-! ### Where the types are declared -/

/-- How the declaration of a type begins: of a struct, a class, an enum or an alias. -/
def typeHeads (name : String) : List String :=
  ["struct " ++ name ++ "\n\x7b", "struct " ++ name ++ " : ", "enum class " ++ name ++ " : ",
    "using " ++ name ++ " = "]

/-- A text with a line that declares a type. -/
def DeclaresType (text name : String) : Prop :=
  ∃ before, ∃ head ∈ typeHeads name, ∃ after, text = before ++ "\n" ++ head ++ after

theorem declaration_opens (d : Declaration) :
    ∃ head ∈ typeHeads d.name, ∃ after, d.text = head ++ after := by
  have hhead (keyword name : String) (lines : List String) (hkeyword : keyword ≠ "") :
      ∃ after, block (keyword ++ name) lines ++ ";" = keyword ++ name ++ "\n\x7b" ++ after := by
    have hne : (keyword ++ name).isEmpty = false := by
      rw [Bool.eq_false_iff, Ne, String.isEmpty_iff, String.append_eq_empty_iff]
      exact fun h => hkeyword h.1
    refine ⟨"\n" ++ String.join (lines.flatMap fun l => (splitLines l).map bodyLine) ++ "\x7d"
      ++ ";", ?_⟩
    have hopen : "\x7b\n" = "\x7b" ++ "\n" := by decide
    have hbrace : "\n\x7b" = "\n" ++ "\x7b" := by decide
    rw [block, hne, if_neg Bool.false_ne_true, hopen, hbrace]
    simp only [String.append_assoc]
  cases d with
  | struct name members =>
    obtain ⟨after, hafter⟩ := hhead "struct " name (members.map (·.text)) (by decide)
    exact ⟨_, List.mem_cons_self, after, hafter⟩
  | enum name base enumerators =>
    obtain ⟨after, hafter⟩ :=
      hhead "enum class " (name ++ " : " ++ base) (enumerators.map (·.text)) (by decide)
    refine ⟨"enum class " ++ name ++ " : ", by simp [typeHeads, Declaration.name],
      base ++ "\n\x7b" ++ after, ?_⟩
    rw [Declaration.text]
    simp only [String.append_assoc] at hafter ⊢
    exact hafter

theorem declare_opens {target : Target} {ctx : Context} {type : TypeNode} {m : Manifest}
    (hnested : ctx.nested = false) (hinlined : ctx.inlined = false)
    (h : lower target ctx type = .ok m) :
    ∃ head ∈ typeHeads (target.flavor.structName ctx.parent), ∃ after,
      (declare target ctx.parent type m).text = head ++ after := by
  cases htop : declaredAtTop type with
  | true =>
    have hdeclared : ∃ d : Declaration, (declare target ctx.parent type m).text = d.text ∧
        d.name = target.flavor.structName ctx.parent := by
      cases type with
      | struct fields => exact (lowerStruct_declares hnested hinlined fields).of_ok m h
      | enum variants size => exact (lowerEnum_declares hnested variants size).of_ok m h
      | _ => cases htop
    obtain ⟨d, htext, hname⟩ := hdeclared
    rw [htext, ← hname]
    exact declaration_opens d
  | false =>
    refine ⟨"using " ++ target.flavor.structName ctx.parent ++ " = ", by simp [typeHeads],
      (m.materialize target).type ++ ";", ?_⟩
    rw [declare_alias target ctx.parent m htop]
    simp only [String.append_assoc]

/-- Documentation ends with a line end, so what follows it begins a line. -/
theorem docBlock_line (docs : List String) :
    ∀ s, ∃ before, s ++ "\n" ++ docBlock docs = before ++ "\n" := by
  induction docs with
  | nil =>
    intro s
    exact ⟨s, String.append_empty⟩
  | cons d rest ih =>
    intro s
    obtain ⟨before, hbefore⟩ := ih (s ++ "\n" ++ "// " ++ d)
    refine ⟨before, ?_⟩
    rw [← hbefore, docBlock, docBlock, List.map_cons, String.join_cons]
    simp only [String.append_assoc]

theorem DeclaresType.append {text name : String} (h : DeclaresType text name) (rest : String) :
    DeclaresType (text ++ rest) name := by
  obtain ⟨before, head, hhead, after, rfl⟩ := h
  exact ⟨before, head, hhead, after ++ rest, by simp only [String.append_assoc]⟩

/-- A declaration behind documentation. -/
theorem declaresType_of_docs (before : String) (docs : List String) {name text : String}
    (h : ∃ head ∈ typeHeads name, ∃ after, text = head ++ after) :
    DeclaresType (before ++ "\n\n" ++ docBlock docs ++ text) name := by
  obtain ⟨head, hhead, after, rfl⟩ := h
  obtain ⟨front, hfront⟩ := docBlock_line docs (before ++ "\n")
  have hlines : "\n\n" = "\n" ++ "\n" := by decide
  refine ⟨front, head, hhead, after, ?_⟩
  rw [← hfront, hlines]
  simp only [String.append_assoc]

section

variable {r : Renderer} {links : Links} {p : ProgramNode}

theorem accountText_declares {a : AccountNode} {m : Manifest} {seeds : List Seed}
    (h : r.AccountParts links p a m seeds) :
    DeclaresType (r.accountText a m seeds) (r.flavor.structName (Naming.pascal a.name)) := by
  have hopens := @declare_opens r.target (.root (Naming.pascal a.name)) a.data m rfl rfl h.data
  exact ((((declaresType_of_docs _ a.docs hopens).append _).append _).append _).append _

theorem definedTypeText_declares {d : DefinedTypeNode} {m : Manifest}
    (h : lower r.target (.root (Naming.pascal d.name)) d.type = .ok m) :
    DeclaresType (r.definedTypeText d m) (r.flavor.structName (Naming.pascal d.name)) := by
  have hopens := @declare_opens r.target (.root (Naming.pascal d.name)) d.type m rfl rfl h
  exact ((declaresType_of_docs _ d.docs hopens).append _).append _

/-- The header of an instruction declares all three of its types. -/
theorem instructionText_declares {ix : InstructionNode} {arguments : List Argument} {m : Manifest}
    (h : r.InstructionParts ix arguments m) :
    ∀ suffix ∈ Category.instructions.suffixes,
      DeclaresType (r.instructionText p ix arguments m)
        (r.flavor.structName (Naming.pascal ix.name ++ suffix)) := by
  have hdata := @declare_opens r.target (Renderer.dataContext ix) (.struct ix.data) m rfl rfl h.data
  intro suffix hsuffix
  simp only [Category.suffixes, List.mem_cons, List.not_mem_nil, or_false] at hsuffix
  rcases hsuffix with rfl | rfl | rfl
  · have hfirst (before : String) : DeclaresType
        (before ++ "\n\n" ++ accountsStruct r (Naming.pascal ix.name) ix.accounts)
        (r.flavor.structName (Naming.pascal ix.name ++ "Accounts")) := by
      have hline : "// Accounts.\nstruct " = "// Accounts." ++ "\n" ++ "struct " := by decide
      refine ⟨before ++ "\n\n" ++ "// Accounts.", _, List.mem_cons_self, ?_⟩
      unfold accountsStruct
      rw [hline]
      simp only [String.append_assoc]
      exact ⟨_, rfl⟩
    exact ((((((((hfirst _).append _).append _).append _).append _).append _).append _).append
      _).append _
  · have hsecond (before : String) : DeclaresType
        (before ++ "\n\n" ++ (r.instructionDecl ix m).text)
        (r.flavor.structName (Naming.pascal ix.name ++ "InstructionData")) := by
      have hplain := declaresType_of_docs before [] hdata
      rwa [docBlock, List.map_nil, String.join_nil, String.append_empty] at hplain
    exact (((((hsecond _).append _).append _).append _).append _).append _
  · have hclass : ∃ head ∈ typeHeads (r.flavor.structName (Naming.pascal ix.name ++ "Instruction")),
        ∃ after, instructionClass r p (Naming.pascal ix.name) ix.accounts arguments
          (r.instructionDecl ix m).name = head ++ after := by
      refine ⟨_, List.mem_cons_of_mem _ List.mem_cons_self, ?_⟩
      unfold instructionClass
      simp only [String.append_assoc]
      exact ⟨_, rfl⟩
    exact (declaresType_of_docs _ ix.docs hclass).append _

theorem errorsHeaderPage_declares (r : Renderer) (program : String) (errors : List ErrorNode) :
    DeclaresType (errorsHeaderPage r program errors) (errorEnum r program) := by
  have hlines : "\n\nenum class " = "\n" ++ "\n" ++ "enum class " := by decide
  refine ⟨headerTop ++ r.includeBlock (.ofPaths [r.flavor.errorsHeader]) ++ "\n",
    "enum class " ++ errorEnum r program ++ " : ", by simp [typeHeads], ?_⟩
  unfold errorsHeaderPage
  rw [hlines]
  simp only [String.append_assoc]
  exact ⟨_, rfl⟩

/-- Every type of a rendered document is declared in the header of its entity. -/
theorem Renderer.Renders.declares {root : RootNode} {keys : List (ProgramNode × Literal)}
    {out : FileMap} (h : r.Renders root keys out) {t : TopType} (ht : t ∈ r.topTypes root) :
    ∃ text, (t.path r, text) ∈ out.files ∧ DeclaresType text (t.name r.flavor) := by
  obtain ⟨hentity, hsuffix⟩ := mem_topTypes_iff.mp ht
  obtain ⟨category, entity, suffix⟩ := t
  obtain ⟨p, hp, hentity⟩ := List.mem_flatMap.mp hentity
  have hwritten {path text : String} (hwrites : r.Writes root.links p path text) :
      (path, text) ∈ out.files := (h.mem_iff path text).mpr (.inr ⟨p, hp, hwrites⟩)
  rw [TopType.name]
  cases category with
  | accounts =>
    obtain ⟨a, ha, rfl⟩ := List.mem_map.mp hentity
    obtain ⟨m, seeds, hparts⟩ := h.account p hp a ha
    rw [List.mem_singleton.mp hsuffix, String.append_empty]
    exact ⟨_, hwritten (.account ha hparts), accountText_declares hparts⟩
  | definedTypes =>
    obtain ⟨d, hd, rfl⟩ := List.mem_map.mp hentity
    obtain ⟨m, hm⟩ := h.definedType p hp d hd
    rw [List.mem_singleton.mp hsuffix, String.append_empty]
    exact ⟨_, hwritten (.definedType hd hm), definedTypeText_declares hm⟩
  | instructions =>
    obtain ⟨ix, hix, rfl⟩ := List.mem_map.mp hentity
    obtain ⟨arguments, m, hparts⟩ := h.instruction p hp ix hix
    rw [String.append_assoc]
    exact ⟨_, hwritten (.instruction hix hparts), instructionText_declares hparts suffix hsuffix⟩
  | errors =>
    have herrors : p.errors ≠ [] ∧ entity = Naming.pascal p.name := by
      cases hempty : p.errors.isEmpty with
      | true => simp [Renderer.namesOf, hempty] at hentity
      | false =>
        refine ⟨List.isEmpty_eq_false_iff.mp hempty, ?_⟩
        simpa [Renderer.namesOf, hempty] using hentity
    obtain ⟨hne, rfl⟩ := herrors
    rw [List.mem_singleton.mp hsuffix]
    exact ⟨_, hwritten (.errorsHeader hne), errorsHeaderPage_declares r _ p.errors⟩

end

/-- The headers of a rendered document declare the types of every exported entity, and the names of
these types differ exactly if no account or defined type is named like another one, like a type of
an instruction or, where error enums have no mark of their own, like one of them. -/
theorem declared_types_distinct_iff {o : Options} {r : Renderer} (hr : o.renderer? = some r)
    {root : RootNode} {out : FileMap} (h : (r.render root).files = .ok out) :
    (∀ t ∈ r.topTypes root, ∃ text,
      (t.path r, text) ∈ out.files ∧ DeclaresType text (t.name r.flavor)) ∧
    (((r.topTypes root).map (·.name r.flavor)).Nodup ↔ r.TypesApart root) := by
  have hflavor := Options.flavor_mem_of_renderer? hr
  obtain ⟨keys, hrenders⟩ := render_contents hflavor h
  refine ⟨?_, topTypes_names_nodup_iff hflavor (not_namesClash_of_render_ok hflavor h)⟩
  intro t ht
  exact hrenders.declares ht

/-- An account and an instruction declare four types of different names. -/
theorem declared_types_distinct_iff_deposit :
    let options : Options := ⟨"vault", "", false, false, []⟩
    let program : ProgramNode :=
      { name := "vault", publicKey := "11111111111111111111111111111111", version := "",
        origin := "", docs := [],
        accounts := [⟨"state", [], .struct [], none, none, false⟩],
        instructions := [⟨"deposit", [], [], [], [], false⟩], definedTypes := [], pdas := [],
        errors := [], isInternal := false }
    let names := ["FState", "FDepositAccounts", "FDepositInstructionData", "FDepositInstruction"]
    ∃ r out, options.renderer? = some r ∧ (r.render ⟨"", "", program, []⟩).files = .ok out ∧
      (r.topTypes ⟨"", "", program, []⟩).map (·.name r.flavor) = names ∧
      r.TypesApart ⟨"", "", program, []⟩ ∧
      ∀ name ∈ names, ∃ file ∈ out.files, DeclaresType file.2 name := by
  intro options program names
  let r : Renderer := ⟨⟨.unreal5, options.pluginName⟩, false, false, []⟩
  have hr : options.renderer? = some r := Options.renderer?_of_standard rfl
  have hnames : (r.topTypes ⟨"", "", program, []⟩).map (·.name r.flavor) = names := by
    decide +kernel
  have hok : (r.render ⟨"", "", program, []⟩).files.toBool = true := by decide +kernel
  obtain ⟨out, hout⟩ := Generated.exists_ok hok
  obtain ⟨hdeclared, hiff⟩ := declared_types_distinct_iff hr hout
  refine ⟨r, out, hr, hout, hnames, ?_, ?_⟩
  · apply hiff.mp
    rw [hnames]
    decide
  · intro name hname
    rw [← hnames] at hname
    obtain ⟨t, ht, rfl⟩ := List.mem_map.mp hname
    obtain ⟨text, hfile, htext⟩ := hdeclared t ht
    exact ⟨_, hfile, htext⟩

/-- An account and a defined type of one name pass the check and are rendered, and both of their
headers declare that name. -/
theorem check_admits_types_of_one_name :
    let r : Renderer := ⟨⟨.unreal5, "Vault"⟩, false, false, []⟩
    let program : ProgramNode :=
      { name := "vault", publicKey := "11111111111111111111111111111111", version := "",
        origin := "", docs := [],
        accounts := [⟨"state", [], .struct [], none, none, false⟩], instructions := [],
        definedTypes := [⟨"state", [], .struct [], false⟩], pdas := [], errors := [],
        isInternal := false }
    let root : RootNode := ⟨"", "", program, []⟩
    root.problems = [] ∧ ∃ out, (r.render root).files = .ok out ∧ ∃ account definedType,
      ("Source/Vault/Public/Vault/Accounts/State.h", account) ∈ out.files ∧
        DeclaresType account "FState" ∧
      ("Source/Vault/Public/Vault/Types/State.h", definedType) ∈ out.files ∧
        DeclaresType definedType "FState" := by
  intro r program root
  refine ⟨by decide +kernel, ?_⟩
  have hok : (r.render root).files.toBool = true := by decide +kernel
  obtain ⟨out, hout⟩ := Generated.exists_ok hok
  have hflavor : r.flavor ∈ Flavor.all := List.mem_cons_of_mem _ (List.mem_singleton_self _)
  obtain ⟨keys, hrenders⟩ := render_contents hflavor hout
  have hname : Naming.pascal "state" = "State" := by decide +kernel
  have haccount : ⟨.accounts, "State", ""⟩ ∈ r.topTypes root := by
    rw [← hname]
    exact mem_topTypes_iff.mpr ⟨List.mem_singleton_self _, List.mem_singleton_self _⟩
  have htype : ⟨.definedTypes, "State", ""⟩ ∈ r.topTypes root := by
    rw [← hname]
    exact mem_topTypes_iff.mpr ⟨List.mem_singleton_self _, List.mem_singleton_self _⟩
  obtain ⟨account, hfile, hdeclares⟩ := hrenders.declares haccount
  obtain ⟨definedType, hfile', hdeclares'⟩ := hrenders.declares htype
  exact ⟨out, hout, account, definedType, hfile, hdeclares, hfile', hdeclares'⟩

end ClientGen.Render
