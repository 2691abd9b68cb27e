import ClientGen.Proofs.Render.Independence
import ClientGen.Proofs.Render.PageCode
/-!
# Documentation of a document

What is left of the generated files without their comment lines does not depend on documentation,
as long as every line of it stays in a comment: behind the first line of a doc, a line has to be a
comment by itself. Nothing sees to that, so a doc of several lines ends up among the declarations.

A run over a document is followed side by side with the run over the document without its
documentation. The files of both have the same paths and the same code all the time.
-/
namespace ClientGen.Render

open ClientGen.Idl ClientGen.Cpp

/-! ### Files with the same code -/

/-- The paths of a map with the code of their files. -/
def FileMap.code (map : FileMap) : List (String × List String) :=
  map.files.map fun file => (file.1, codeLines file.2)

/-- Files at one path with the same code. -/
def SameFile (file file' : String × String) : Prop :=
  file.1 = file'.1 ∧ codeLines file.2 = codeLines file'.2

/-- Maps that differ in comments only. -/
def FileMap.SameCode (map map' : FileMap) : Prop := List.Forall₂ SameFile map.files map'.files

namespace FileMap.SameCode

variable {map map' : FileMap}

theorem code_eq (h : map.SameCode map') : map.code = map'.code :=
  map_eq_of_forall₂ h fun _ _ hfile => Prod.ext hfile.1 hfile.2

theorem paths_eq (h : map.SameCode map') : map.paths = map'.paths :=
  map_eq_of_forall₂ h fun _ _ hfile => hfile.1

theorem contains_eq (h : map.SameCode map') (path : String) :
    map.contains path = map'.contains path := by
  rw [Bool.eq_iff_iff, contains_iff, contains_iff, h.paths_eq]

theorem empty : FileMap.empty.SameCode .empty := .nil

theorem add (h : map.SameCode map') (path : String) {content content' : String}
    (hcontent : codeLines content = codeLines content') :
    (map.add path content).SameCode (map'.add path content') := by
  have hfile : SameFile (path, content) (path, content') := ⟨rfl, hcontent⟩
  have hinsert {files files' : List (String × String)}
      (hfiles : List.Forall₂ SameFile files files') :
      List.Forall₂ SameFile (insertFile path content files) (insertFile path content' files') := by
    induction hfiles with
    | nil => exact .cons hfile .nil
    | cons hfirst hrest ih =>
      rw [insertFile, insertFile, hfirst.1]
      split
      · exact .cons hfile hrest
      · split
        · exact .cons hfile (.cons hfirst hrest)
        · exact .cons hfirst ih
  exact hinsert h

theorem single (path : String) {content content' : String}
    (h : codeLines content = codeLines content') :
    (FileMap.empty.add path content).SameCode (FileMap.empty.add path content') :=
  empty.add path h

theorem foldl_add {files files' : List (String × String)}
    (hfiles : List.Forall₂ SameFile files files') :
    ∀ {map map' : FileMap}, map.SameCode map' →
      (files.foldl (fun map file => map.add file.1 file.2) map).SameCode
        (files'.foldl (fun map file => map.add file.1 file.2) map') := by
  induction hfiles with
  | nil =>
    intro map map' h
    exact h
  | @cons file file' rest rest' hfile _ ih =>
    intro map map' h
    have hadd := h.add file.1 hfile.2
    rw [List.foldl_cons, List.foldl_cons, ← hfile.1]
    exact ih hadd

theorem ofList {files files' : List (String × String)} (h : List.Forall₂ SameFile files files') :
    (FileMap.ofList files).SameCode (FileMap.ofList files') :=
  foldl_add h empty

theorem collect (h : map.SameCode map') {files files' : List (String × String)}
    (hfiles : List.Forall₂ SameFile files files') :
    ∀ {incoming incoming' : FileMap}, incoming.SameCode incoming' →
      Agree FileMap.SameCode ((FileMap.collect map incoming files).mapError .duplicatePath)
        ((FileMap.collect map' incoming' files').mapError .duplicatePath) := by
  induction hfiles with
  | nil =>
    intro incoming incoming' hincoming
    exact .ok hincoming
  | @cons file file' rest rest' hfile _ ih =>
    intro incoming incoming' hincoming
    have hadd := hincoming.add file.1 hfile.2
    rw [FileMap.collect, FileMap.collect, ← hfile.1, h.contains_eq, hincoming.contains_eq]
    split
    · exact .fail _
    · exact ih hadd

theorem merge {more more' : FileMap} (h : map.SameCode map') (hmore : more.SameCode more') :
    Agree FileMap.SameCode (map.merge more) (map'.merge more') := by
  have hmerge (map more : FileMap) : map.merge more =
      ((FileMap.collect map .empty more.files).mapError .duplicatePath).bind fun incoming =>
        .ok (incoming.files.foldl (fun map file => map.add file.1 file.2) map) := by
    unfold FileMap.merge mergeAll
    rw [List.flatMap_singleton]
    cases FileMap.collect map .empty more.files <;> rfl
  rw [hmerge, hmerge]
  exact (h.collect hmore .empty).bind fun _ _ hincoming => .ok (foldl_add hincoming h)

end FileMap.SameCode

/-! ### Documents with documentation in comments -/

/-- Whether the documentation of an account, of its data and of its seeds stays in comments. -/
def commentedAccount (links : Links) (a : AccountNode) : Bool :=
  a.docs.all isContained && commented a.data && (seedNodes links a).all commentedSeed

def commentedDefinedType (d : DefinedTypeNode) : Bool := d.docs.all isContained && commented d.type

/-- Whether the documentation of an instruction, of its accounts and of its arguments stays in
comments. -/
def commentedInstruction (ix : InstructionNode) : Bool :=
  ix.docs.all isContained && ix.accounts.all (·.docs.all isContained) && commentedFields ix.data

/-- Whether the documentation of everything that is rendered of a program stays in comments. -/
def Renderer.commentedProgram (r : Renderer) (links : Links) (p : ProgramNode) : Bool :=
  p.docs.all isContained && (r.accountsOf p).all (commentedAccount links)
    && (r.definedTypesOf p).all commentedDefinedType
    && (r.instructionsOf p).all commentedInstruction && p.errors.all (·.docs.all isContained)

def Renderer.commentedDocument (r : Renderer) (root : RootNode) : Bool :=
  (r.programsOf root).all (r.commentedProgram root.links)

/-! ### Entities -/

section

variable {r : Renderer} {links links' : Links}

theorem renderAccount_sameCode (p : ProgramNode) {a : AccountNode}
    (hlinks : Links.Undocumented links links') (h : commentedAccount links a = true) :
    Agree FileMap.SameCode (renderAccount r p links a)
      (renderAccount r p.withoutDocs links' a.withoutDocs) := by
  rw [commentedAccount, Bool.and_eq_true, Bool.and_eq_true] at h
  obtain ⟨⟨hdocs, hdata⟩, hseeds⟩ := h
  rw [List.all_eq_true] at hseeds
  apply (lower_sameCode _ a.data hdata).bind
  intro m m' hm
  have hdecl := declare_sameCode r.target (Naming.pascal a.name) a.data hm
  apply (accountSeeds_sameCode p hlinks hseeds).bind
  intro seeds seeds' hsame
  have hheaders := seedHeaders_sameCode r hsame
  refine .ok (.single _ ?_)
  dsimp only [AccountNode.withoutDocs]
  rw [← hdecl.headers, ← hheaders]
  exact (accountPage_sameCode hdocs hdecl hsame _).codeLines_eq

theorem renderDefinedType_sameCode {d : DefinedTypeNode} (h : commentedDefinedType d = true) :
    Agree FileMap.SameCode (renderDefinedType r d) (renderDefinedType r d.withoutDocs) := by
  rw [commentedDefinedType, Bool.and_eq_true] at h
  obtain ⟨hdocs, htype⟩ := h
  apply (lower_sameCode _ d.type htype).bind
  intro m m' hm
  have hdecl := declare_sameCode r.target (Naming.pascal d.name) d.type hm
  refine .ok (.single _ ?_)
  dsimp only [DefinedTypeNode.withoutDocs]
  rw [← hdecl.headers]
  exact (definedTypePage_sameCode hdocs hdecl _).codeLines_eq

theorem commented_of_commentedFields {arguments : List ArgumentNode}
    (h : commentedFields (arguments.map (·.field)) = true) :
    ∀ a ∈ arguments, commented a.type = true := by
  induction arguments with
  | nil =>
    intro a ha
    cases ha
  | cons first rest ih =>
    rw [List.map_cons, ArgumentNode.field, commentedFields, Bool.and_eq_true, Bool.and_eq_true] at h
    rw [List.forall_mem_cons]
    exact ⟨h.1.2, ih h.2⟩

theorem renderInstruction_sameCode (p : ProgramNode) {ix : InstructionNode}
    (h : commentedInstruction ix = true) :
    Agree FileMap.SameCode (renderInstruction r p ix)
      (renderInstruction r p.withoutDocs ix.withoutDocs) := by
  rw [commentedInstruction, Bool.and_eq_true, Bool.and_eq_true] at h
  obtain ⟨⟨hdocs, haccounts⟩, hdata⟩ := h
  rw [List.all_eq_true] at haccounts
  have hname : ix.withoutDocs.name = ix.name := by cases ix; rfl
  have harguments : ix.withoutDocs.arguments = ix.arguments.map (·.withoutDocs) := by cases ix; rfl
  have hstruct : TypeNode.struct ix.withoutDocs.data = (TypeNode.struct ix.data).withoutDocs := by
    rw [ix.data_withoutDocs, TypeNode.withoutDocs]
  unfold renderInstruction
  rw [hname, ix.conflicts_withoutDocs, harguments, hstruct]
  apply (renderArguments_sameCode r _ _ ix.arguments (commented_of_commentedFields hdata)).bind
  intro arguments arguments' hsame
  apply ((lower_sameCode _ (.struct ix.data) hdata).inside .instructionData).bind
  intro m m' hm
  have hdecl := declare_sameCode r.target (Naming.pascal ix.name ++ "InstructionData")
    (.struct ix.data) hm
  have hincludes : arguments.map (·.includes) = arguments'.map (·.includes) :=
    map_eq_of_forall₂ hsame fun _ _ ha => ha.includes
  refine .ok (.single _ ?_)
  rw [← hdecl.includes, ← hincludes]
  exact (instructionPage_sameCode r p hdocs haccounts hdecl hsame _).codeLines_eq

theorem renderErrors_sameCode {p : ProgramNode}
    (h : ∀ e ∈ p.errors, e.docs.all isContained = true) :
    (renderErrors r p).SameCode (renderErrors r p.withoutDocs) := by
  have hheader := (errorsHeaderPage_sameCode r (Naming.pascal p.name) h).codeLines_eq
  have hsource := errorsSourcePage_withoutDocs r (Naming.pascal p.name) p.errors
  exact (FileMap.SameCode.single _ hheader).add _ (congrArg codeLines hsource.symm)

end

/-! ### Programs and documents -/

section

variable {r : Renderer}

theorem Renderer.accountsOf_withoutDocs (r : Renderer) (p : ProgramNode) :
    r.accountsOf p.withoutDocs = (r.accountsOf p).map (·.withoutDocs) := by
  rw [accountsOf, accountsOf, ProgramNode.withoutDocs, List.filter_map]
  rfl

theorem Renderer.definedTypesOf_withoutDocs (r : Renderer) (p : ProgramNode) :
    r.definedTypesOf p.withoutDocs = (r.definedTypesOf p).map (·.withoutDocs) := by
  rw [definedTypesOf, definedTypesOf, ProgramNode.withoutDocs, List.filter_map]
  rfl

theorem Renderer.instructionsOf_withoutDocs (r : Renderer) (p : ProgramNode) :
    r.instructionsOf p.withoutDocs = (r.instructionsOf p).map (·.withoutDocs) := by
  have hinternal : (fun ix => r.exports ix.isInternal) ∘ InstructionNode.withoutDocs =
      fun ix : InstructionNode => r.exports ix.isInternal := by
    funext ix
    cases ix
    rfl
  rw [instructionsOf, instructionsOf, p.allInstructions_withoutDocs, List.filter_map, hinternal]

theorem Renderer.programsOf_withoutDocs (r : Renderer) (root : RootNode) :
    r.programsOf root.withoutDocs = (r.programsOf root).map (·.withoutDocs) := by
  rw [programsOf, programsOf, root.programs_withoutDocs, List.filter_map]
  rfl

theorem links_undocumented (root : RootNode) :
    Links.Undocumented root.links root.withoutDocs.links := by
  have hpdas : root.withoutDocs.pdas = root.pdas.map (·.withoutDocs) := by
    unfold RootNode.pdas
    rw [root.programs_withoutDocs, List.flatMap_map, List.map_flatMap]
    rfl
  intro name
  unfold RootNode.links Links.pda?
  rw [hpdas, List.find?_map]
  rfl

/-- Steps over a list and over the list without documentation. -/
theorem forall₂_steps_map {α : Type} {strip : α → α} {step step' : α → Step} {list : List α}
    (h : ∀ a ∈ list, Agree FileMap.SameCode (step a).files (step' (strip a)).files) :
    List.Forall₂ (fun s s' : Step => Agree FileMap.SameCode s.files s'.files)
      (list.map step) ((list.map strip).map step') := by
  rw [List.map_map, List.forall₂_map_left_iff, List.forall₂_map_right_iff]
  exact List.forall₂_same.mpr h

theorem programSteps_sameCode {links links' : Links} (hlinks : Links.Undocumented links links')
    {p : ProgramNode} (h : r.commentedProgram links p = true) :
    List.Forall₂ (fun s s' : Step => Agree FileMap.SameCode s.files s'.files)
      (r.programSteps links p) (r.programSteps links' p.withoutDocs) := by
  simp only [Renderer.commentedProgram, Bool.and_eq_true] at h
  obtain ⟨⟨⟨⟨-, haccounts⟩, htypes⟩, hinstructions⟩, herrors⟩ := h
  rw [List.all_eq_true] at haccounts htypes hinstructions herrors
  have hempty : p.withoutDocs.errors.isEmpty = p.errors.isEmpty := List.isEmpty_map
  rw [Renderer.programSteps, Renderer.programSteps, r.accountsOf_withoutDocs,
    r.definedTypesOf_withoutDocs, r.instructionsOf_withoutDocs, hempty]
  refine List.rel_append (List.rel_append (List.rel_append ?_ ?_) ?_) ?_
  · exact forall₂_steps_map fun a ha =>
      (renderAccount_sameCode p hlinks (haccounts a ha)).inside (.account a.name)
  · exact forall₂_steps_map fun d hd =>
      (renderDefinedType_sameCode (htypes d hd)).inside (.definedType d.name)
  · apply forall₂_steps_map
    intro ix hix
    have hname : ix.withoutDocs.name = ix.name := by cases ix; rfl
    rw [hname]
    exact (renderInstruction_sameCode p (hinstructions ix hix)).inside (.instruction ix.name)
  · split
    · exact .nil
    · exact .cons (.ok (renderErrors_sameCode herrors)) .nil

theorem renderProgram_sameCode {links links' : Links} (hlinks : Links.Undocumented links links')
    {p : ProgramNode} (h : r.commentedProgram links p = true) :
    Agree FileMap.SameCode (r.renderProgram links p).files
      (r.renderProgram links' p.withoutDocs).files := by
  have hinternal : p.withoutDocs.isInternal = p.isInternal := rfl
  rw [Renderer.renderProgram, Renderer.renderProgram, hinternal]
  split
  · exact runSteps_agree_of_merge FileMap.SameCode.merge (programSteps_sameCode hlinks h) _ _ .empty
  · exact .ok .empty

theorem baseFiles_withoutDocs (r : Renderer) (programs : List ProgramNode) (page : String) :
    r.baseFiles (programs.map (·.withoutDocs)) page = r.baseFiles programs page := by
  have hversion : Renderer.moduleVersion (programs.map (·.withoutDocs)) =
      Renderer.moduleVersion programs := by
    induction programs with
    | nil => rfl
    | cons p rest ih =>
      rw [List.map_cons, Renderer.moduleVersion, Renderer.moduleVersion, ih]
      rfl
  have hinfo : r.moduleInfo (programs.map (·.withoutDocs)) = r.moduleInfo programs := by
    unfold Renderer.moduleInfo Renderer.moduleDescription
    rw [hversion, List.isEmpty_map, List.map_map, List.length_map]
    rfl
  unfold Renderer.baseFiles
  rw [hinfo]

theorem baseFiles_sameCode (r : Renderer) (programs : List ProgramNode) {page page' : String}
    (h : codeLines page = codeLines page') :
    List.Forall₂ SameFile (r.baseFiles programs page) (r.baseFiles programs page') := by
  have hsame (files : List (String × String)) : List.Forall₂ SameFile files files :=
    List.forall₂_same.mpr fun _ _ => ⟨rfl, rfl⟩
  unfold Renderer.baseFiles
  exact List.rel_append (.cons ⟨rfl, h⟩ (hsame _)) (hsame _)

theorem baseStep_sameCode {programs : List ProgramNode}
    (h : ∀ p ∈ programs, p.docs.all isContained = true) :
    Agree FileMap.SameCode (r.baseStep programs).files
      (r.baseStep (programs.map (·.withoutDocs))).files := by
  unfold Renderer.baseStep
  rw [List.isEmpty_map, programKeys_withoutDocs]
  split
  · exact .ok .empty
  · cases hkeys : r.programKeys programs with
    | error e => exact .fail e
    | ok keys =>
      have hprograms : keys.map (·.1) = programs.map id :=
        map_eq_of_forall₂ (programKeys_forall₂ programs hkeys).flip fun _ _ hk => hk.1
      have hdocs : ∀ k ∈ keys, k.1.docs.all isContained = true := by
        intro k hk
        have hmem : k.1 ∈ keys.map (·.1) := List.mem_map_of_mem hk
        rw [hprograms, List.map_id] at hmem
        exact h _ hmem
      have hpage := (programsPage_sameCode r hdocs).codeLines_eq
      dsimp only [Except.map]
      rw [moduleFiles_eq_ofList, moduleFiles_eq_ofList, baseFiles_withoutDocs]
      exact .ok (.ofList (baseFiles_sameCode r programs hpage))

theorem render_sameCode {root : RootNode} (h : r.commentedDocument root = true) :
    Agree FileMap.SameCode (r.render root).files (r.render root.withoutDocs).files := by
  rw [Renderer.commentedDocument, List.all_eq_true] at h
  have hdocs : ∀ p ∈ r.programsOf root, p.docs.all isContained = true := by
    intro p hp
    have hprogram := h p hp
    simp only [Renderer.commentedProgram, Bool.and_eq_true] at hprogram
    exact hprogram.1.1.1.1
  rw [render_files, render_files, r.programsOf_withoutDocs]
  apply (baseStep_sameCode hdocs).bind
  intro map map' hmap
  apply runSteps_agree_of_merge FileMap.SameCode.merge _ _ _ hmap
  exact forall₂_steps_map fun p hp =>
    (renderProgram_sameCode (links_undocumented root) (h p hp)).inside (.program p.name)

/-- Two documents that differ in documentation only, all of it in comments, have the same code: if
one can be rendered, then so can the other, and the files are the same but for lines that are
comments. -/
theorem documentation_stays_in_comments {root root' : RootNode}
    (hsame : root.withoutDocs = root'.withoutDocs) (h : r.commentedDocument root = true)
    (h' : r.commentedDocument root' = true) {out : FileMap}
    (hout : (r.render root).files = .ok out) :
    ∃ out', (r.render root').files = .ok out' ∧ out.code = out'.code := by
  -- both runs agree with the one over the document that the two have in common
  have hplain := @render_sameCode r root h
  have hplain' := @render_sameCode r root' h'
  rw [hout, hsame] at hplain
  generalize (r.render root').files = x at hplain' ⊢
  generalize (r.render root'.withoutDocs).files = y at hplain hplain'
  cases hplain with
  | ok hcode =>
    cases hplain' with
    | ok hcode' => exact ⟨_, rfl, hcode.code_eq.trans hcode'.code_eq.symm⟩

end

/-- Docs of several lines, each a comment by itself, at an account and at a field of it. -/
theorem documentation_stays_in_comments_account :
    let r : Renderer := ⟨⟨.unreal5, "Vault"⟩, false, false, []⟩
    let document (docs : List String) : RootNode :=
      ⟨"", "",
        { name := "vault", publicKey := "11111111111111111111111111111111", version := "",
          origin := "", docs := docs,
          accounts := [⟨"state", docs, .struct [⟨"total", .number ⟨"u64", "le"⟩, docs, none, ""⟩],
            none, none, false⟩],
          instructions := [], definedTypes := [], pdas := [], errors := [], isInternal := false },
        []⟩
    ∃ out out', (r.render (document ["One", "Two\n\t// three"])).files = .ok out ∧
      (r.render (document [])).files = .ok out' ∧ out.code = out'.code := by
  intro r document
  have hok : (r.render (document ["One", "Two\n\t// three"])).files.toBool = true := by
    decide +kernel
  obtain ⟨out, hout⟩ := Generated.exists_ok hok
  obtain ⟨out', hout', hcode⟩ := @documentation_stays_in_comments r
    (document ["One", "Two\n\t// three"]) (document []) rfl (by decide +kernel)
    (by decide +kernel) out hout
  exact ⟨out, out', hout, hout', hcode⟩

/-- Files at one path in maps with the same code. -/
theorem FileMap.codeLines_eq_of_code_eq {map map' : FileMap} (hnodup : map'.paths.Nodup)
    (h : map.code = map'.code) {path text text' : String} (htext : (path, text) ∈ map.files)
    (htext' : (path, text') ∈ map'.files) : codeLines text = codeLines text' := by
  have hmem : (path, codeLines text) ∈ map'.code := by
    rw [← h]
    exact List.mem_map.mpr ⟨(path, text), htext, rfl⟩
  obtain ⟨file, hfile, hcode⟩ := List.mem_map.mp hmem
  have hpath : file.1 = path := congrArg Prod.fst hcode
  have hlines : codeLines file.2 = codeLines text := congrArg Prod.snd hcode
  rw [← hlines, List.inj_on_of_nodup_map hnodup hfile htext' hpath]

/-- A type from whose documentation a different number of lines leaks has a header with different
code. -/
theorem code_ne_of_leaked {r : Renderer} (hflavor : r.flavor ∈ Flavor.all) {root root' : RootNode}
    {out out' : FileMap} (hout : (r.render root).files = .ok out)
    (hout' : (r.render root').files = .ok out') {p p' : ProgramNode}
    (hp : p ∈ r.programsOf root) (hp' : p' ∈ r.programsOf root') {d : DefinedTypeNode}
    {docs : List String} (hd : d ∈ r.definedTypesOf p)
    (hd' : { d with docs := docs } ∈ r.definedTypesOf p')
    (hleaked : (d.docs.flatMap leaked).length ≠ (docs.flatMap leaked).length) :
    out.code ≠ out'.code := by
  obtain ⟨keys, hrenders⟩ := render_contents hflavor hout
  obtain ⟨keys', hrenders'⟩ := render_contents hflavor hout'
  obtain ⟨m, hm⟩ := hrenders.definedType p hp d hd
  have htext := (hrenders.mem_iff _ _).mpr (.inr ⟨p, hp, .definedType hd hm⟩)
  have htext' := (hrenders'.mem_iff _ _).mpr (.inr ⟨p', hp', .definedType hd' hm⟩)
  intro hcode
  have hlines := FileMap.codeLines_eq_of_code_eq (render_extends hflavor hout').nodup hcode htext
    htext'
  -- what stands around the leaked lines is the same in both headers
  have hlength := congrArg List.length hlines
  unfold Renderer.definedTypeText at hlength
  rw [codeLines_definedTypePage, codeLines_definedTypePage, List.length_append, List.length_append,
    List.length_append, List.length_append] at hlength
  exact hleaked (Nat.add_left_cancel (Nat.add_right_cancel hlength))

/-- The second line of a doc becomes a declaration. -/
theorem documentation_becomes_code :
    let r : Renderer := ⟨⟨.unreal5, "Vault"⟩, false, false, []⟩
    let state (docs : List String) : DefinedTypeNode :=
      ⟨"state", docs, .struct [⟨"total", .number ⟨"u64", "le"⟩, [], none, ""⟩], false⟩
    let document (docs : List String) : RootNode :=
      ⟨"", "",
        { name := "vault", publicKey := "11111111111111111111111111111111", version := "",
          origin := "", docs := [], accounts := [], instructions := [],
          definedTypes := [state docs], pdas := [], errors := [], isInternal := false }, []⟩
    (document ["One\nint Two;"]).withoutDocs = (document []).withoutDocs ∧
      ∃ out out', (r.render (document ["One\nint Two;"])).files = .ok out ∧
        (r.render (document [])).files = .ok out' ∧ out.code ≠ out'.code := by
  intro r state document
  have hflavor : r.flavor ∈ Flavor.all := List.mem_cons_of_mem _ (List.mem_singleton_self _)
  have hprogram (docs : List String) :
      (document docs).program ∈ r.programsOf (document docs) := List.mem_singleton_self _
  have hstate (docs : List String) :
      state docs ∈ r.definedTypesOf (document docs).program := List.mem_singleton_self _
  have hleaked : ((state ["One\nint Two;"]).docs.flatMap leaked).length ≠
      ((state []).docs.flatMap leaked).length := by decide
  have hok : (r.render (document ["One\nint Two;"])).files.toBool = true := by decide +kernel
  have hok' : (r.render (document [])).files.toBool = true := by decide +kernel
  obtain ⟨out, hout⟩ := Generated.exists_ok hok
  obtain ⟨out', hout'⟩ := Generated.exists_ok hok'
  exact ⟨rfl, out, out', hout, hout', code_ne_of_leaked hflavor hout hout' (hprogram _) (hprogram _)
    (hstate _) (hstate _) hleaked⟩

end ClientGen.Render
