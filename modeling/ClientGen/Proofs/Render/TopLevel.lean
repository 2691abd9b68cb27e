import ClientGen.Proofs.Cpp.Faithful
import ClientGen.Proofs.Cpp.Headers
import ClientGen.Proofs.Cpp.Parts
import ClientGen.Proofs.Render.Paths
/-!
# Declarations at the top of a header

A struct or an enum is declared at the top of its header under the name of the entity. Any other
type becomes an alias. The alias is a plain spelling if nothing has to be declared for the type.
A struct or an enum inside of it, however, is written out in its place and not hoisted, since
nothing is hoisted at the top.
-/
namespace ClientGen.Cpp

open ClientGen.Idl

/-! ### Types without declarations -/

section

variable {target : Target}

mutual

/-- Where nothing is declared, a type does not depend on the place it stands at. -/
theorem lower_eq_of_not_declares : ∀ (ctx ctx' : Context) (type : TypeNode),
    ctx.size = ctx'.size → wellPlaced type = true → declares type = false →
      lower target ctx type = lower target ctx' type
  | _, _, .number _, _, _, _ => rfl
  | ctx, ctx', .amount inner _ _, hsize, hplaced, h =>
    lower_eq_of_not_declares ctx ctx' inner hsize hplaced h
  | ctx, ctx', .solAmount inner, hsize, hplaced, h =>
    lower_eq_of_not_declares ctx ctx' inner hsize hplaced h
  | ctx, ctx', .dateTime inner, hsize, hplaced, h =>
    lower_eq_of_not_declares ctx ctx' inner hsize hplaced h
  | _, _, .boolean _, _, _, _ => rfl
  | ctx, ctx', .fixedSize size inner, _, hplaced, h =>
    lower_eq_of_not_declares { ctx with size := .fixed size } { ctx' with size := .fixed size }
      inner rfl hplaced h
  | ctx, ctx', .sizePrefix length inner, _, hplaced, h => by
    rw [lower, lower]
    cases length.number? with
    | none => rfl
    | some number =>
      exact lower_eq_of_not_declares { ctx with size := .prefixed number }
        { ctx' with size := .prefixed number } inner rfl hplaced h
  | ctx, ctx', .bytes, hsize, _, _ => by rw [lower, lower, hsize]
  | ctx, ctx', .string _, hsize, _, _ => by rw [lower, lower, hsize]
  | ctx, ctx', .array inner count, _, hplaced, h => by
    rw [lower, lower, lower_eq_of_not_declares ctx.child ctx'.child inner rfl hplaced h]
  | ctx, ctx', .option inner flag _, _, hplaced, h => by
    rw [lower, lower, lower_eq_of_not_declares ctx.child ctx'.child inner rfl hplaced h]
  | ctx, ctx', .tuple items, _, hplaced, h => by
    rw [lower, lower, lowerItems_eq_of_not_declares ctx ctx' 0 .empty items hplaced h]
  | _, _, .publicKey, _, _, _ => rfl
  | _, _, .link _, _, _, _ => rfl
  | _, _, .map .., _, _, _ => rfl
  | _, _, .set .., _, _, _ => rfl

theorem lowerItems_eq_of_not_declares : ∀ (ctx ctx' : Context) (index : Nat)
    (includes : IncludeSet) (items : List TypeNode),
    wellPlacedItems items = true → declaresItem items = false →
      lowerItems target ctx index includes items = lowerItems target ctx' index includes items
  | _, _, _, _, [], _, _ => rfl
  | ctx, ctx', index, includes, item :: rest, hplaced, h => by
    rw [wellPlacedItems, Bool.and_eq_true] at hplaced
    rw [declaresItem, Bool.or_eq_false_iff] at h
    have hsize : (ctx.item index).size = (ctx'.item index).size := by
      obtain ⟨parent, hctx⟩ := ctx.item_eq index
      obtain ⟨parent', hctx'⟩ := ctx'.item_eq index
      rw [hctx, hctx']
      rfl
    rw [lowerItems, lowerItems, lower_eq_of_not_declares _ _ item hsize hplaced.1 h.1]
    simp only [fun set => lowerItems_eq_of_not_declares ctx ctx' (index + 1) set rest hplaced.2 h.2]

end

/-- Where nothing is declared, folding gives the spelling of the shape. -/
theorem materialize_type_of_not_declares {ctx : Context} {type : TypeNode} {m : Manifest}
    (hplaced : wellPlaced type = true) (hdeclares : declares type = false)
    (h : lower target ctx type = .ok m) {path : String} (hpath : path ≠ "") :
    ∃ s, shape target.flavor path ctx.size type = some s ∧
      (m.materialize target).type = s.spelling target.flavor := by
  let place : Context := ⟨path, true, false, ctx.size, false⟩
  rw [lower_eq_of_not_declares ctx place type rfl hplaced hdeclares] at h
  have htracks := @lower_tracks target place ⟨rfl, rfl, hpath⟩ type hplaced
  rw [h] at htracks
  obtain ⟨s, declared, hshape, -, hspells⟩ := htracks.of_ok
  exact ⟨s, hshape, hspells.materialize_type⟩

end

/-! ### Types with declarations -/

/-- A text in which a whole declaration is written out. -/
def Splices (text : String) : Prop :=
  ∃ (d : Declaration) (before after : String), text = before ++ d.text ++ after

theorem Declaration.splices (d : Declaration) : Splices d.text := ⟨d, "", "", by simp⟩

theorem Splices.of_standsIn {text whole : String} (h : Splices text)
    (hwhole : StandsIn text whole) : Splices whole := by
  obtain ⟨d, before, after, rfl⟩ := h
  obtain ⟨before', after', hchars⟩ := ((StandsIn.refl d.text).around before after).trans hwhole
  refine ⟨d, String.ofList before', String.ofList after', ?_⟩
  rw [← String.toList_inj, ← hchars]
  simp

theorem Splices.around {text : String} (h : Splices text) (left right : String) :
    Splices (left ++ text ++ right) :=
  h.of_standsIn ((StandsIn.refl text).around left right)

theorem Splices.intercalate {text : String} {texts : List String} (hmem : text ∈ texts)
    (h : Splices text) : Splices (String.intercalate ", " texts) :=
  h.of_standsIn ((StandsIn.refl text).intercalate hmem ", ")

section

variable {target : Target}

theorem Manifest.splices_materialize {m : Manifest} (h : Splices m.type) :
    Splices (m.materialize target).type :=
  h.of_standsIn (StandsIn.refl m.type).materialize

theorem Manifest.splices_wrap {m : Manifest} (h : Splices m.type) (outer : GenericType) :
    Splices (m.wrap target outer).type :=
  (Manifest.splices_materialize h).around _ _

theorem prefixedArray_splices {m : Manifest} (h : Splices m.type) (number : Option NumberType) :
    Generated.Ensures (prefixedArray target number m) fun out => Splices out.type := by
  unfold prefixedArray
  split
  · exact Generated.ensures_ok (Manifest.splices_wrap h _)
  · exact Generated.ensures_error _

theorem lowerArray_splices {m : Manifest} (h : Splices m.type) (count : CountNode) :
    Generated.Ensures (lowerArray target m count) fun out => Splices out.type := by
  cases count with
  | fixed size => exact Generated.ensures_ok h
  | prefixed number => exact prefixedArray_splices h number.number?
  | remainder => exact Generated.ensures_ok (Manifest.splices_wrap h _)

/-- An enum that is not hoisted is written out as one declaration. -/
theorem lowerEnum_declares {ctx : Context} (hnested : ctx.nested = false)
    (variants : List VariantNode) (size : TypeNode) :
    Generated.Ensures (lowerEnum target variants size ctx) fun m =>
      ∃ d : Declaration, m.type = d.text ∧ d.name = target.flavor.structName ctx.parent := by
  unfold lowerEnum
  refine Generated.ensures_true.bind fun _ _ => ?_
  split
  · exact Generated.ensures_error _
  · split
    · exact Generated.ensures_error _
    · split
      · exact Generated.ensures_error _
      · split
        · exact Generated.ensures_error _
        · rename_i base _
          simp only [hnested, Bool.false_eq_true, if_false]
          exact Generated.ensures_ok ⟨.enum _ base (variants.map enumeratorOf), rfl, rfl⟩

/-- A struct that is not hoisted is written out as one declaration. -/
theorem lowerStruct_declares {ctx : Context} (hnested : ctx.nested = false)
    (hinlined : ctx.inlined = false) (fields : List FieldNode) :
    Generated.Ensures (lower target ctx (.struct fields)) fun m =>
      ∃ d : Declaration, m.type = d.text ∧ d.name = target.flavor.structName ctx.parent := by
  rw [lower]
  refine Generated.ensures_true.bind fun _ _ => ?_
  refine Generated.ensures_true.bind fun lowered _ => ?_
  apply Generated.ensures_ok
  simp only [structManifest, hnested, hinlined, Bool.false_eq_true, if_false]
  exact ⟨.struct _ lowered.members, rfl, rfl⟩

mutual

/-- Where nothing is hoisted, a struct or an enum is written out in its place. -/
theorem lower_splices : ∀ (ctx : Context) (type : TypeNode), ctx.nested = false →
    ctx.inlined = false → declares type = true →
      Generated.Ensures (lower target ctx type) fun m => Splices m.type
  | ctx, .amount inner _ _, hnested, hinlined, h => lower_splices ctx inner hnested hinlined h
  | ctx, .solAmount inner, hnested, hinlined, h => lower_splices ctx inner hnested hinlined h
  | ctx, .dateTime inner, hnested, hinlined, h => lower_splices ctx inner hnested hinlined h
  | ctx, .fixedSize size inner, hnested, hinlined, h =>
    lower_splices { ctx with size := .fixed size } inner hnested hinlined h
  | ctx, .sizePrefix length inner, hnested, hinlined, h => by
    rw [lower]
    cases length.number? with
    | none => exact Generated.ensures_error _
    | some number =>
      exact lower_splices { ctx with size := .prefixed number } inner hnested hinlined h
  | ctx, .array inner count, hnested, hinlined, h => by
    rw [lower]
    apply (lower_splices ctx.child inner hnested hinlined h).bind
    intro item hitem
    exact lowerArray_splices hitem count
  | ctx, .option inner flag _, hnested, hinlined, h => by
    rw [lower]
    split
    · apply (lower_splices ctx.child inner hnested hinlined h).bind
      intro item hitem
      exact Generated.ensures_ok (Manifest.splices_wrap hitem _)
    · exact Generated.ensures_error _
  | ctx, .struct fields, hnested, hinlined, _ => by
    constructor
    intro m hm
    obtain ⟨d, htype, -⟩ := (lowerStruct_declares hnested hinlined fields).of_ok m hm
    rw [htype]
    exact d.splices
  | ctx, .enum variants size, hnested, _, _ => by
    constructor
    intro m hm
    obtain ⟨d, htype, -⟩ := (lowerEnum_declares hnested variants size).of_ok m hm
    rw [htype]
    exact d.splices
  | ctx, .tuple items, hnested, hinlined, h => by
    rw [lower]
    apply (lowerItems_splices ctx 0 .empty items hnested hinlined h).bind
    rintro ⟨types, includes, nested⟩ ⟨text, hmem, htext⟩
    exact Generated.ensures_ok ((htext.intercalate hmem).around _ _)

theorem lowerItems_splices : ∀ (ctx : Context) (index : Nat) (includes : IncludeSet)
    (items : List TypeNode), ctx.nested = false → ctx.inlined = false →
      declaresItem items = true →
        Generated.Ensures (lowerItems target ctx index includes items) fun out =>
          ∃ text ∈ out.1, Splices text
  | ctx, index, includes, item :: rest, hnested, hinlined, h => by
    rw [lowerItems]
    cases hitem : declares item with
    | true =>
      obtain ⟨parent, hctx⟩ := ctx.item_eq index
      rw [hctx]
      apply (lower_splices { ctx.child with parent := parent } item hnested hinlined hitem).bind
      intro m hm
      refine Generated.ensures_true.bind fun out _ => ?_
      exact Generated.ensures_ok ⟨_, List.mem_cons_self, Manifest.splices_materialize hm⟩
    | false =>
      rw [declaresItem, hitem, Bool.false_or] at h
      refine Generated.ensures_true.bind fun m _ => ?_
      apply (lowerItems_splices ctx (index + 1) _ rest hnested hinlined h).bind
      rintro ⟨types, includes', nested⟩ ⟨text, hmem, htext⟩
      exact Generated.ensures_ok ⟨text, List.mem_cons_of_mem _ hmem, htext⟩

end

end

end ClientGen.Cpp

namespace ClientGen.Render

open ClientGen.Idl ClientGen.Cpp

/-- Whether a type is declared at the top under the name of its entity. -/
def declaredAtTop : TypeNode → Bool
  | .struct _ => true
  | .enum _ _ => true
  | _ => false

/-- What stands for a type at the top of its header: its declaration, or an alias. The alias is the
spelling of the type exactly if nothing has to be declared for it. -/
structure TopLevel.StandsFor (target : Target) (name : String) (type : TypeNode)
    (decl : TopLevel) : Prop where
  name_eq : decl.name = target.flavor.structName name
  declaration : declaredAtTop type = true →
    ∃ d : Declaration, decl.text = d.text ∧ d.name = decl.name
  aliasing : declaredAtTop type = false →
    ∃ aliased : String, decl.text = "using " ++ decl.name ++ " = " ++ aliased ++ ";" ∧
      (declares type = false → ∀ path ≠ "", ∃ s, shape target.flavor path .none type = some s ∧
        aliased = s.spelling target.flavor) ∧
      (declares type = true → Splices aliased)

theorem declare_alias (target : Target) (name : String) {type : TypeNode} (m : Manifest)
    (h : declaredAtTop type = false) :
    (declare target name type m).text =
      "using " ++ target.flavor.structName name ++ " = " ++ (m.materialize target).type ++ ";" := by
  cases type with
  | struct fields => cases h
  | enum variants size => cases h
  | _ => rfl

theorem declare_name (target : Target) (name : String) (type : TypeNode) (m : Manifest) :
    (declare target name type m).name = target.flavor.structName name := by
  cases type <;> rfl

theorem declare_standsFor {target : Target} {name : String} {type : TypeNode} {m : Manifest}
    (hplaced : wellPlaced type = true) (h : lower target (.root name) type = .ok m) :
    (declare target name type m).StandsFor target name type := by
  have hname := declare_name target name type m
  refine ⟨hname, ?_, ?_⟩
  · intro htop
    rw [hname]
    cases type with
    | struct fields => exact (lowerStruct_declares rfl rfl fields).of_ok m h
    | enum variants size => exact (lowerEnum_declares rfl variants size).of_ok m h
    | _ => cases htop
  · intro htop
    refine ⟨(m.materialize target).type, ?_, ?_, ?_⟩
    · rw [hname]
      exact declare_alias target name m htop
    · intro hdeclares path hpath
      exact materialize_type_of_not_declares hplaced hdeclares h hpath
    · intro hdeclares
      have htype := (lower_splices (.root name) type rfl rfl hdeclares).of_ok m h
      exact Manifest.splices_materialize htype

/-- The header of an account or a defined type holds one declaration under the name of the entity,
or an alias of it. The alias is a spelling as at any other place, unless a struct or an enum stands
inside the wrappers and containers of the type: then its body is written out in the alias. -/
theorem top_level_declaration_or_alias (r : Renderer) :
    (∀ (program : ProgramNode) (links : Links) (a : AccountNode) (map : FileMap),
      wellPlaced a.data = true → renderAccount r program links a = .ok map →
        ∃ decl seeds includes, TopLevel.StandsFor r.target (Naming.pascal a.name) a.data decl ∧
          map.files = [(r.headerPath "Accounts" (Naming.pascal a.name),
            accountPage r a decl seeds includes)]) ∧
    (∀ (d : DefinedTypeNode) (map : FileMap),
      wellPlaced d.type = true → renderDefinedType r d = .ok map →
        ∃ decl includes, TopLevel.StandsFor r.target (Naming.pascal d.name) d.type decl ∧
          map.files = [(r.headerPath "Types" (Naming.pascal d.name),
            definedTypePage r d.docs decl includes)]) := by
  refine ⟨?_, ?_⟩
  · intro program links a map hplaced h
    obtain ⟨m, hm, h⟩ := Generated.bind_eq_ok_iff.mp h
    obtain ⟨seeds, -, h⟩ := Generated.bind_eq_ok_iff.mp h
    cases h
    exact ⟨_, seeds, _, declare_standsFor hplaced hm, rfl⟩
  · intro d map hplaced h
    obtain ⟨m, hm, h⟩ := Generated.bind_eq_ok_iff.mp h
    cases h
    exact ⟨_, _, declare_standsFor hplaced hm, rfl⟩

/-- A struct is declared under its name, and a tuple without structs becomes an alias. -/
theorem top_level_declaration_or_alias_pair :
    let r : Renderer := ⟨⟨.unreal5, "Vault"⟩, false, false, []⟩
    let pair : DefinedTypeNode :=
      ⟨"pair", [], .tuple [.number (.little "u8"), .link "vault"], false⟩
    let state : AccountNode := ⟨"state", [], .struct [], none, none, false⟩
    let program : ProgramNode :=
      { name := "vault", publicKey := "", version := "", origin := "", docs := [],
        accounts := [state], instructions := [], definedTypes := [pair], pdas := [],
        errors := [], isInternal := false }
    ∃ (map map' : FileMap) (decl decl' : TopLevel) (d : Declaration),
      renderDefinedType r pair = .ok map ∧ decl.text = "using FPair = TTuple<uint8, FVault>;" ∧
        renderAccount r program ⟨[], [pair]⟩ state = .ok map' ∧ decl'.text = d.text ∧
        d.name = "FState" := by
  intro r pair state program
  obtain ⟨haccount, htype⟩ := top_level_declaration_or_alias r
  have hok : (renderDefinedType r pair).toBool = true := by decide +kernel
  have hok' : (renderAccount r program ⟨[], [pair]⟩ state).toBool = true := by decide +kernel
  cases hmap : renderDefinedType r pair with
  | error e =>
    rw [hmap] at hok
    cases hok
  | ok map =>
    cases hmap' : renderAccount r program ⟨[], [pair]⟩ state with
    | error e =>
      rw [hmap'] at hok'
      cases hok'
    | ok map' =>
      obtain ⟨decl, includes, hstands, -⟩ := htype pair map rfl hmap
      obtain ⟨decl', seeds, includes', hstands', -⟩ := haccount program _ state map' rfl hmap'
      obtain ⟨aliased, htext, hspelling, -⟩ := hstands.aliasing rfl
      obtain ⟨s, hshape, hs⟩ := hspelling rfl "Pair" (by decide)
      obtain ⟨d, hd, hname⟩ := hstands'.declaration rfl
      refine ⟨map, map', decl, decl', d, rfl, ?_, rfl, hd, ?_⟩
      · cases hshape
        rw [htext, hs, hstands.name_eq]
        decide +kernel
      · rw [hname, hstands'.name_eq]
        decide +kernel

/-- The struct in a tuple, in an option or in a wrapper of fixed size is written out in the
alias. -/
theorem alias_holds_struct_body :
    let target : Target := ⟨.unreal5, "Vault"⟩
    let text (type : TypeNode) := (lower target (.root "Pair") type).toOption.map
      fun m => (declare target "Pair" type m).text
    text (.tuple [.struct []]) =
        some "using FPair = TTuple<struct FPairItem0\n\x7b\n\x7d;>;" ∧
      text (.option (.struct []) (.number (.little "u8")) false) =
        some "using FPair = TOptional<struct FPair\n\x7b\n\x7d;>;" ∧
      text (.fixedSize 1 (.struct [])) = some "using FPair = struct FPair\n\x7b\n\x7d;;" := by
  decide +kernel

end ClientGen.Render
