import ClientGen.Proofs.Cpp.Headers
import ClientGen.Proofs.Naming.Separators
import ClientGen.Proofs.Render.Paths
/-!
# Include blocks

The header of a defined type includes what its constructs need and nothing else: the fixed array of
an alias is folded, a struct is serialised, and the header never includes itself. A path holds no
line end, whatever names a description brings, so every path stands on a line of its own.
-/
namespace ClientGen.Render

open ClientGen.Idl ClientGen.Cpp

/-! ### Paths on one line -/

theorem newline_not_mem_pascal (name : String) : '\n' ∉ (Naming.pascal name).toList :=
  Naming.not_mem_pascal (by decide) name

/-- The name of a module has no separators, whether it is given or not. -/
theorem Options.not_mem_pluginName {c : Char} (hc : Naming.isSeparator c = true) (o : Options) :
    c ∉ o.pluginName.toList := by
  unfold Options.pluginName
  dsimp only
  split
  · have hstandard : standardPlugin.toList.all (fun d => !Naming.isSeparator d) = true := by
      decide +kernel
    intro hmem
    have hfree := List.all_eq_true.mp hstandard c hmem
    rw [hc] at hfree
    cases hfree
  · exact Naming.not_mem_pascal hc o.plugin

theorem Options.newline_not_mem_pluginName (o : Options) : '\n' ∉ o.pluginName.toList :=
  o.not_mem_pluginName (by decide)

theorem Options.renderer?_eq_some {o : Options} {r : Renderer} (h : o.renderer? = some r) :
    r.target.plugin = o.pluginName ∧ r.remap = o.remap := by
  unfold Options.renderer? at h
  generalize o.pluginName = plugin at h ⊢
  obtain ⟨flavor, -, rfl⟩ := Option.map_eq_some_iff.mp h
  exact ⟨rfl, rfl⟩

/-- The headers that a dialect names itself. -/
def ownHeaders (flavor : Flavor) : List String :=
  flavor.numberHeader.toList ++
    [flavor.string.header, flavor.publicKey.header, flavor.sequence.header,
     flavor.fixedArray.header, flavor.optional.header, flavor.tuple.header]

theorem newline_not_mem_ownHeaders {flavor : Flavor} (h : flavor ∈ Flavor.all) :
    ∀ path ∈ ownHeaders flavor, '\n' ∉ path.toList := by
  have hall : ∀ flavor ∈ Flavor.all, ∀ path ∈ ownHeaders flavor, '\n' ∉ path.toList := by
    decide +kernel
  exact hall flavor h

theorem newline_not_mem_headers {target : Target} (hflavor : target.flavor ∈ Flavor.all)
    (hplugin : '\n' ∉ target.plugin.toList) (c : Construct) :
    ∀ path ∈ c.headers target, '\n' ∉ path.toList := by
  have hown := newline_not_mem_ownHeaders hflavor
  intro path hpath
  cases c with
  | link name =>
    rw [Construct.headers, List.mem_singleton] at hpath
    have hname := newline_not_mem_pascal name
    simp [hpath, Target.typeHeader, hplugin, hname]
  | byteHelper =>
    rw [Construct.headers, List.mem_singleton] at hpath
    simp [hpath, Target.moduleHeader, hplugin]
  | _ =>
    apply hown
    simp only [Construct.headers, List.mem_singleton] at hpath
    simp [ownHeaders, hpath]

/-! ### The block of a defined type -/

/-- Two line ends and a line for every path, or nothing. -/
def includeLines : List String → String
  | [] => ""
  | paths => "\n\n" ++ String.intercalate "\n" (paths.map IncludeSet.pathLine)

theorem pathLine_ne_empty (path : String) : IncludeSet.pathLine path ≠ "" := by
  intro hempty
  have hlist := congrArg String.toList hempty
  unfold IncludeSet.pathLine at hlist
  split at hlist <;> simp at hlist

theorem includeBlock_eq_includeLines {r : Renderer} (hremap : r.remap = []) {set : IncludeSet}
    {given : List String} (h : set.Lists given) :
    r.includeBlock set = includeLines set.paths := by
  unfold Renderer.includeBlock
  rw [hremap, h.render_nil]
  cases set.paths with
  | nil => rfl
  | cons first rest =>
    have hfirst := pathLine_ne_empty first
    have hlines : String.intercalate "\n" ((first :: rest).map IncludeSet.pathLine) ≠ "" := by
      rw [Ne, ← String.toList_inj]
      cases rest <;> simp [hfirst]
    rw [includeLines, if_neg (by simpa using hlines)]
    simp

/-- What the header of a defined type includes on top of what its type needs. -/
def extraHeaders (flavor : Flavor) (type : TypeNode) : List String :=
  match type with
  | .struct _ => [borshHeader]
  | _ => if isFixedArray false type then [flavor.fixedArray.header] else []

theorem declare_headers {target : Target} {type : TypeNode} {m : Manifest} (name : String)
    {used : List Construct} (h : m.Needs target (isFixedArray false type) used) :
    (declare target name type m).headers.Lists
      (headersOf target used ++ extraHeaders target.flavor type) := by
  have hfolded := h.materialize.includes
  unfold declare TopLevel.headers extraHeaders
  cases type with
  | struct fields => exact h.includes.add borshHeader
  | enum variants size => simpa [isFixedArray] using h.includes
  | _ =>
    simp only [Option.isSome_none, Bool.false_eq_true, if_false]
    refine hfolded.congr fun path => ?_
    rw [headersOf_append]
    cases isFixedArray false _ <;> simp [folding, Construct.headers]

theorem newline_not_mem_extraHeaders {flavor : Flavor} (h : flavor ∈ Flavor.all) (type : TypeNode) :
    ∀ path ∈ extraHeaders flavor type, '\n' ∉ path.toList := by
  intro path hpath
  unfold extraHeaders at hpath
  split at hpath
  · rw [List.mem_singleton.mp hpath]
    decide
  · split at hpath
    · apply newline_not_mem_ownHeaders h
      simp [ownHeaders, List.mem_singleton.mp hpath]
    · cases hpath

/-- What a rendered defined type includes, beside the rest of its page. -/
theorem renderDefinedType_includes {r : Renderer} {d : DefinedTypeNode} {map : FileMap}
    (hremap : r.remap = []) (hplaced : wellPlaced d.type = true)
    (h : renderDefinedType r d = .ok map) :
    ∃ (m : Manifest) (set : IncludeSet),
      lower r.target (.root (Naming.pascal d.name)) d.type = .ok m ∧
      set.Lists ((headersOf r.target (constructs false false d.type)
        ++ extraHeaders r.flavor d.type).filter (· != r.target.typeHeader d.name)) ∧
      map.files = [(r.headerPath "Types" (Naming.pascal d.name),
        let decl := declare r.target (Naming.pascal d.name) d.type m
        headerTop ++ includeLines set.paths ++ nestedBlock decl.nested ++ "\n\n" ++ docBlock d.docs
          ++ decl.text ++ decl.serializerBlock ++ "\n")] := by
  obtain ⟨m, hm, h⟩ := Generated.bind_eq_ok_iff.mp h
  cases h
  have hneeds := (lower_needs (.root (Naming.pascal d.name)) d.type hplaced).of_ok m hm
  have hlists := (declare_headers (Naming.pascal d.name) hneeds).erase (r.target.typeHeader d.name)
  refine ⟨m, _, hm, hlists, ?_⟩
  rw [← includeBlock_eq_includeLines hremap hlists]
  rfl

/-- Only an alias has a length left to fold. -/
theorem mem_extraHeaders_iff {target : Target} {type : TypeNode} {m : Manifest}
    {used : List Construct} (h : m.Needs target (isFixedArray false type) used) (path : String) :
    path ∈ extraHeaders target.flavor type ↔
      (m.dims ≠ [] ∧ path = target.flavor.fixedArray.header) ∨
        ((∃ fields, type = .struct fields) ∧ path = borshHeader) := by
  have hdims : m.dims ≠ [] ↔ isFixedArray false type = true := by
    rw [← List.isEmpty_eq_false_iff, h.dims]
    simp
  rw [hdims]
  unfold extraHeaders
  cases type with
  | struct fields => simp [isFixedArray]
  | _ => simp

theorem mem_headersOf_iff {target : Target} {used : List Construct} {path : String} :
    path ∈ headersOf target used ↔ ∃ c ∈ used, path ∈ c.headers target :=
  List.mem_flatMap

/-- A lowered type asks for the headers of its constructs, each once and no others, and so does the
expression of a value. The header of a defined type includes these, the header of fixed arrays if
its alias folds one and serialisation if it is a struct, all but itself and each on one line. -/
theorem includes_exactly_constructs :
    (∀ (target : Target) (ctx : Context) (type : TypeNode) (m : Manifest),
      wellPlaced type = true → lower target ctx type = .ok m →
        m.includes.paths.Nodup ∧
          ∀ path, path ∈ m.includes.paths ↔
            ∃ c ∈ constructs ctx.assignable ctx.size.isFixed type, path ∈ c.headers target) ∧
    (∀ (target : Target) (value : ValueNode) (l : Literal), literal target false value = .ok l →
      ∀ path, path ∈ l.includes.paths ↔ ∃ c ∈ valueConstructs value, path ∈ c.headers target) ∧
    (∀ (o : Options) (r : Renderer) (d : DefinedTypeNode) (map : FileMap),
      o.renderer? = some r → o.remap = [] → wellPlaced d.type = true →
      renderDefinedType r d = .ok map →
        ∃ (m : Manifest) (paths : List String),
          lower r.target (.root (Naming.pascal d.name)) d.type = .ok m ∧
          paths.Nodup ∧
          (∀ path, path ∈ paths ↔ path ≠ r.target.typeHeader d.name ∧
            (path ∈ m.includes.paths ∨ (m.dims ≠ [] ∧ path = r.flavor.fixedArray.header) ∨
              ((∃ fields, d.type = .struct fields) ∧ path = borshHeader))) ∧
          (∀ path ∈ paths, '\n' ∉ path.toList) ∧
          map.files = [(r.headerPath "Types" (Naming.pascal d.name),
            let decl := declare r.target (Naming.pascal d.name) d.type m
            headerTop ++ includeLines paths ++ nestedBlock decl.nested ++ "\n\n"
              ++ docBlock d.docs ++ decl.text ++ decl.serializerBlock ++ "\n")]) := by
  refine ⟨?_, ?_, ?_⟩
  · intro target ctx type m hplaced hm
    have hneeds := (lower_needs ctx type hplaced).of_ok m hm
    refine ⟨hneeds.includes.nodup, fun path => ?_⟩
    rw [hneeds.includes.mem_iff, mem_headersOf_iff]
  · intro target value l hl path
    have hneeds := (literal_needs value).of_ok l hl
    rw [hneeds.mem_iff, mem_headersOf_iff]
  · intro o r d map hr hremap hplaced h
    have hflavor := Options.flavor_mem_of_renderer? hr
    obtain ⟨hplugin, hsame⟩ := Options.renderer?_eq_some hr
    obtain ⟨m, set, hm, hlists, hfiles⟩ :=
      renderDefinedType_includes (hsame.trans hremap) hplaced h
    have hneeds := (lower_needs (.root (Naming.pascal d.name)) d.type hplaced).of_ok m hm
    refine ⟨m, set.paths, hm, hlists.nodup, ?_, ?_, hfiles⟩
    · intro path
      rw [hlists.mem_iff, List.mem_filter, List.mem_append, bne_iff_ne, and_comm,
        hneeds.includes.mem_iff]
      exact and_congr_right' (or_congr_right (mem_extraHeaders_iff hneeds path))
    · intro path hpath
      rw [hlists.mem_iff, List.mem_filter, List.mem_append, mem_headersOf_iff] at hpath
      rcases hpath.1 with ⟨c, -, hc⟩ | hextra
      · refine newline_not_mem_headers hflavor ?_ c path hc
        rw [hplugin]
        exact o.newline_not_mem_pluginName
      · exact newline_not_mem_extraHeaders hflavor d.type path hextra

/-- An array of a type of its own: the alias is folded, and the header leaves itself out. -/
theorem includes_exactly_constructs_self :
    let options : Options := ⟨"vault", "unreal5", false, false, []⟩
    let d : DefinedTypeNode := ⟨"pair", [], .array (.link "pair") (.fixed 2), false⟩
    ∃ (r : Renderer) (map : FileMap) (m : Manifest) (paths : List String) (l : Literal),
      options.renderer? = some r ∧ renderDefinedType r d = .ok map ∧
      lower r.target (.root (Naming.pascal d.name)) d.type = .ok m ∧
      "Vault/Types/Pair.h" ∈ m.includes.paths ∧ "Vault/Types/Pair.h" ∉ paths ∧
      "Containers/StaticArray.h" ∈ paths ∧ map.files.length = 1 ∧
      literal r.target false (.present (.string "x")) = .ok l ∧
      "Misc/Optional.h" ∈ l.includes.paths := by
  intro options d
  obtain ⟨hlower, hliteral, hpage⟩ := includes_exactly_constructs
  let r : Renderer := ⟨⟨.unreal5, "Vault"⟩, false, false, []⟩
  have hr : options.renderer? = some r := by
    have hplugin : options.pluginName = "Vault" := by decide +kernel
    have hname : Text.lower "unreal5" = "unreal5" := by decide +kernel
    have hflavor : Flavor.find? options.flavorName = some .unreal5 := by
      change Flavor.all.find? (·.name == Text.lower "unreal5") = some .unreal5
      rw [hname]
      rfl
    rw [Options.renderer?, hflavor, hplugin]
    rfl
  have hheader : r.target.typeHeader "pair" = "Vault/Types/Pair.h" := by decide +kernel
  obtain ⟨m, paths, hm, -, hpaths, -, hfiles⟩ := hpage options r d _ hr rfl rfl rfl
  have hdims : m.dims = [2] := by
    cases hm
    rfl
  refine ⟨r, _, m, paths, _, hr, rfl, hm, ?_, ?_, ?_, by rw [hfiles]; rfl, rfl, ?_⟩
  · rw [(hlower r.target _ d.type m rfl hm).2]
    exact ⟨.link "pair", by decide, by simp [Construct.headers, hheader]⟩
  · intro hmem
    exact ((hpaths _).mp hmem).1 hheader.symm
  · refine (hpaths _).mpr ⟨?_, .inr (.inl ⟨by simp [hdims], rfl⟩)⟩
    change _ ≠ r.target.typeHeader "pair"
    rw [hheader]
    decide
  · rw [hliteral r.target (.present (.string "x")) _ rfl]
    exact ⟨.optional, by decide, by decide⟩

end ClientGen.Render
