import ClientGen.Proofs.Cpp.MemberOrder
import ClientGen.Proofs.Render.Contents
/-!
# The order of members in generated headers

The header of a struct names its fields twice: as the members of the declaration, and as the
arguments of the function that serialises them. Both lists are the fields of the document in their
order, so the bytes are laid out as the document says. Only documentation can put more into the
declaration: behind a line break in it, code begins.
-/
namespace ClientGen.Render

open ClientGen.Idl ClientGen.Cpp

/-- A page with the declaration of a struct, whose members are some fields in their order, and the
function that serialises these fields in this order. In front of them stand the declarations that
are hoisted out of the fields: every struct among them declares its own fields in their order, and
no struct is missing. -/
def KeepsOrder (target : Target) (ctx : Context) (docs : List String) (fields : List FieldNode)
    (page : String) : Prop :=
  let name := target.flavor.structName ctx.parent
  let visit : Visit := ⟨ctx, .struct fields⟩
  ∃ before nested members after,
    page = before ++ nestedBlock nested ++ "\n\n" ++ docBlock docs
      ++ (Declaration.struct name members).text ++ "\n\n"
      ++ serializer name (fields.map fun f => Naming.pascal f.name) ++ after ∧
    DeclaresInOrder (Declaration.struct name members).text name fields members ∧
    (∀ d ∈ nested, Hoists target visit d) ∧
    ∀ below inner, visit.Reaches ⟨below, .struct inner⟩ → below.nested = true →
      below.inlined = false → ∃ members,
        Declaration.struct (target.flavor.structName below.parent) members ∈ nested ∧
          DeclaresInOrder (Declaration.struct (target.flavor.structName below.parent) members).text
            (target.flavor.structName below.parent) inner members

theorem FileMap.files_empty_add (path text : String) :
    (FileMap.empty.add path text).files = [(path, text)] := rfl

section

variable {target : Target} {r : Renderer}

theorem declare_keepsOrder {ctx : Context} {fields : List FieldNode} {m : Manifest}
    (hnested : ctx.nested = false) (hinlined : ctx.inlined = false)
    (h : lower target ctx (.struct fields) = .ok m) (before : String) (docs : List String)
    (after : String) :
    let decl := declare target ctx.parent (.struct fields) m
    KeepsOrder target ctx docs fields
      (before ++ nestedBlock decl.nested ++ "\n\n" ++ docBlock docs ++ decl.text
        ++ decl.serializerBlock ++ after) := by
  intro decl
  obtain ⟨members, htype, hdeclares⟩ := lower_struct_declares hnested hinlined h
  rw [htype] at hdeclares
  refine ⟨before, m.nested, members, after, ?_, hdeclares, lower_hoisted ctx _ h, ?_⟩
  · have htext : decl.text =
        (Declaration.struct (target.flavor.structName ctx.parent) members).text := htype
    rw [htext]
    simp only [decl, declare, TopLevel.serializerBlock, String.append_assoc]
  · intro below inner hreaches hbelow hinner
    exact hreaches.hoists h hbelow hinner

theorem accountText_keepsOrder {a : AccountNode} {fields : List FieldNode}
    (hdata : a.data = .struct fields) {m : Manifest}
    (h : lower r.target (.root (Naming.pascal a.name)) a.data = .ok m) (seeds : List Seed) :
    KeepsOrder r.target (.root (Naming.pascal a.name)) a.docs fields (r.accountText a m seeds) := by
  rw [hdata] at h
  have hkeeps := declare_keepsOrder rfl rfl h
    (headerTop ++ r.includeBlock ((seedHeaders r (r.accountDecl a m).headers seeds).erase
      (r.header "Accounts" (Naming.pascal a.name)))) a.docs
    (sizeBlock r (Naming.pascal a.name) a.size ++ seedBlock r (Naming.pascal a.name) seeds ++ "\n")
  unfold Renderer.accountText Renderer.accountDecl accountPage at *
  rw [hdata] at *
  simp only [String.append_assoc] at hkeeps ⊢
  exact hkeeps

theorem definedTypeText_keepsOrder {d : DefinedTypeNode} {fields : List FieldNode}
    (htype : d.type = .struct fields) {m : Manifest}
    (h : lower r.target (.root (Naming.pascal d.name)) d.type = .ok m) :
    KeepsOrder r.target (.root (Naming.pascal d.name)) d.docs fields (r.definedTypeText d m) := by
  rw [htype] at h
  have hkeeps := declare_keepsOrder rfl rfl h
    (headerTop ++ r.includeBlock
      ((r.definedTypeDecl d m).headers.erase (r.target.typeHeader d.name))) d.docs "\n"
  unfold Renderer.definedTypeText Renderer.definedTypeDecl definedTypePage at *
  rw [htype] at *
  exact hkeeps

theorem instructionText_keepsOrder {p : ProgramNode} {ix : InstructionNode} {m : Manifest}
    (h : lower r.target (Renderer.dataContext ix) (.struct ix.data) = .ok m)
    (arguments : List Argument) :
    KeepsOrder r.target (Renderer.dataContext ix) [] ix.data
      (r.instructionText p ix arguments m) := by
  have hkeeps := declare_keepsOrder rfl rfl h
    (headerTop ++ r.includeBlock ((r.instructionHeaders arguments m).erase
      (r.header "Instructions" (Naming.pascal ix.name))) ++ "\n\n"
      ++ accountsStruct r (Naming.pascal ix.name) ix.accounts) []
    ("\n\n" ++ docBlock ix.docs ++ instructionClass r p (Naming.pascal ix.name) ix.accounts
      arguments (r.instructionDecl ix m).name ++ "\n")
  have hdocs : docBlock [] = "" := rfl
  unfold Renderer.instructionText Renderer.instructionDecl instructionPage at *
  simp only [hdocs, String.append_assoc, String.empty_append] at hkeeps ⊢
  exact hkeeps

end

/-- The header of an account, a defined type or an instruction whose type is a struct declares the
fields, or the arguments, in their order and serialises them in that order. The same holds for every
struct that is hoisted out of it. Nothing else is declared, unless documentation of a field has a
line of code. -/
theorem members_keep_order (r : Renderer) :
    (∀ (program : ProgramNode) (links : Links) (a : AccountNode) (fields : List FieldNode)
      (map : FileMap), a.data = .struct fields → renderAccount r program links a = .ok map →
        ∃ page, map.files = [(r.headerPath "Accounts" (Naming.pascal a.name), page)] ∧
          KeepsOrder r.target (.root (Naming.pascal a.name)) a.docs fields page) ∧
    (∀ (d : DefinedTypeNode) (fields : List FieldNode) (map : FileMap),
      d.type = .struct fields → renderDefinedType r d = .ok map →
        ∃ page, map.files = [(r.headerPath "Types" (Naming.pascal d.name), page)] ∧
          KeepsOrder r.target (.root (Naming.pascal d.name)) d.docs fields page) ∧
    ∀ (program : ProgramNode) (ix : InstructionNode) (map : FileMap),
      renderInstruction r program ix = .ok map →
        ∃ page, map.files = [(r.headerPath "Instructions" (Naming.pascal ix.name), page)] ∧
          KeepsOrder r.target (Renderer.dataContext ix) [] (ix.arguments.map (·.field)) page := by
  refine ⟨?_, ?_, ?_⟩
  · intro program links a fields map hdata h
    obtain ⟨m, seeds, hparts, rfl⟩ := renderAccount_eq_ok_iff.mp h
    refine ⟨r.accountText a m seeds, ?_, accountText_keepsOrder hdata hparts.data seeds⟩
    exact FileMap.files_empty_add _ _
  · intro d fields map htype h
    obtain ⟨m, hm, rfl⟩ := renderDefinedType_eq_ok_iff.mp h
    refine ⟨r.definedTypeText d m, ?_, definedTypeText_keepsOrder htype hm⟩
    exact FileMap.files_empty_add _ _
  · intro program ix map h
    obtain ⟨arguments, m, hparts, rfl⟩ := renderInstruction_eq_ok_iff.mp h
    refine ⟨r.instructionText program ix arguments m, ?_,
      instructionText_keepsOrder hparts.data arguments⟩
    exact FileMap.files_empty_add _ _

/-- An account with documentation, a fixed array and a struct inside. -/
theorem members_keep_order_account :
    let r : Renderer := ⟨⟨.unreal5, "Vault"⟩, false, false, []⟩
    let program : ProgramNode :=
      { name := "vault", publicKey := "", version := "", origin := "", docs := [], accounts := [],
        instructions := [], definedTypes := [], pdas := [], errors := [], isInternal := false }
    let fields : List FieldNode :=
      [⟨"total", .number ⟨"u64", "le"⟩, ["Sum of all deposits."], none, ""⟩,
       ⟨"tag", .array (.number ⟨"u8", "le"⟩) (.fixed 4), [], none, ""⟩,
       ⟨"limits", .struct [⟨"daily", .number ⟨"u64", "le"⟩, [], none, ""⟩], [], none, ""⟩]
    let names := ["Total", "Tag", "Limits"]
    ∃ map page before nested members after,
      renderAccount r program ⟨[], []⟩ ⟨"state", [], .struct fields, none, none, false⟩ = .ok map ∧
      map.files = [(r.headerPath "Accounts" (Naming.pascal "state"), page)] ∧
      page = before ++ nestedBlock nested ++ "\n\n" ++ (Declaration.struct "FState" members).text
        ++ "\n\n" ++ serializer "FState" names ++ after ∧
      members.map (·.name) = names := by
  intro r program fields names
  have hok : (renderAccount r program ⟨[], []⟩
      ⟨"state", [], .struct fields, none, none, false⟩).toBool = true := by decide +kernel
  obtain ⟨map, hmap⟩ := Generated.exists_ok hok
  obtain ⟨page, hfiles, before, nested, members, after, hpage, hdeclares, -, -⟩ :=
    (members_keep_order r).1 program ⟨[], []⟩ _ fields map rfl hmap
  have hname : r.target.flavor.structName (Context.root (Naming.pascal "state")).parent =
      "FState" := by decide +kernel
  have hnames : (fields.map fun f => Naming.pascal f.name) = names := by decide +kernel
  have hdocs : docBlock [] = "" := rfl
  rw [hname, hnames, hdocs, String.append_empty] at hpage
  exact ⟨map, page, before, nested, members, after, hmap, hfiles, hpage,
    hdeclares.names.trans hnames⟩

/-- The second line of a doc stands among the members, though there is no such field. -/
theorem documentation_declares_member :
    let r : Renderer := ⟨⟨.unreal5, "Vault"⟩, false, false, []⟩
    let fields : List FieldNode := [⟨"a", .number ⟨"u8", "le"⟩, ["One\nint Two;"], none, ""⟩]
    (fields.map fun f => Naming.pascal f.name) = ["A"] ∧
    ∃ map page, renderDefinedType r ⟨"state", [], .struct fields, false⟩ = .ok map ∧
      map.files = [(r.headerPath "Types" (Naming.pascal "state"), page)] ∧
      ["struct FState", "\x7b", "\tint Two;", "\tuint8 A;", "\x7d;", "",
        serializer "FState" ["A"], ""] <:+ codeLines page := by
  intro r fields
  have hname : (fields.map fun f => Naming.pascal f.name) = ["A"] := by decide +kernel
  refine ⟨hname, ?_⟩
  have hok : (lower r.target (.root (Naming.pascal "state")) (.struct fields)).toBool = true := by
    decide +kernel
  have hlines : ((lower r.target (.root (Naming.pascal "state")) (.struct fields)).toOption.map
      fun m => codeLines m.type) =
        some ["struct FState", "\x7b", "\tint Two;", "\tuint8 A;", "\x7d;"] := by decide +kernel
  obtain ⟨m, hm⟩ := Generated.exists_ok hok
  rw [hm] at hlines
  have hstruct : codeLines m.type =
      ["struct FState", "\x7b", "\tint Two;", "\tuint8 A;", "\x7d;"] := Option.some.inj hlines
  let d : DefinedTypeNode := ⟨"state", [], .struct fields, false⟩
  have hmap := (@renderDefinedType_eq_ok_iff r d _).mpr ⟨m, hm, rfl⟩
  refine ⟨_, r.definedTypeText d m, hmap, FileMap.files_empty_add _ _, ?_⟩
  have hdeclared : r.target.flavor.structName (Naming.pascal "state") = "FState" := by
    decide +kernel
  -- The page is cut at line ends, so that no more than the lowered type has to be computed.
  obtain ⟨before, hpage⟩ : ∃ before, r.definedTypeText d m = before ++ "\n"
      ++ (m.type ++ "\n" ++ ("" ++ "\n" ++ (serializer "FState" ["A"] ++ "\n" ++ ""))) := by
    have hbreak : "\n\n" = "\n" ++ "\n" := by decide
    have hdocs : docBlock [] = "" := rfl
    refine ⟨headerTop ++ r.includeBlock ((r.definedTypeDecl d m).headers.erase
      (r.target.typeHeader d.name)) ++ nestedBlock m.nested ++ "\n", ?_⟩
    rw [← hname, ← hdeclared]
    simp only [Renderer.definedTypeText, Renderer.definedTypeDecl, definedTypePage, declare, d,
      TopLevel.serializerBlock, hbreak, hdocs, String.append_assoc, String.empty_append,
      String.append_empty]
  have hserializer : codeLines (serializer "FState" ["A"]) = [serializer "FState" ["A"]] := by
    decide +kernel
  have hempty : codeLines "" = [""] := by decide
  rw [hpage, codeLines_append_line, codeLines_append_line, codeLines_append_line,
    codeLines_append_line, hstruct, hserializer, hempty]
  exact List.suffix_append _ _

end ClientGen.Render
