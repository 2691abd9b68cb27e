import ClientGen.Proofs.Cpp.Faithful
/-!
# Order of hoisted declarations

The hoisted declarations of a type are those at its sites, one for each and in post-order. A name
that a declaration uses for a member is thus declared before it, unless it is the name of a defined
type that the member links to. Names do not tell sites apart: paths are joined without a mark, so
two sites may share one, and then a second declaration of a name can follow a use of the first.
-/
namespace ClientGen.Cpp

open ClientGen.Idl

mutual

/-- The generated names that the spelling of a shape is built from. -/
def Shape.names (flavor : Flavor) : Shape → List String
  | .link name => [flavor.structName (Naming.pascal name)]
  | .declared path => [flavor.structName path]
  | .sequence item => item.names flavor
  | .array _ item => item.names flavor
  | .optional item => item.names flavor
  | .tuple items => shapeNames flavor items
  | _ => []

/-- The generated names that the spellings of shapes are built from. -/
def shapeNames (flavor : Flavor) : List Shape → List String
  | [] => []
  | item :: rest => item.names flavor ++ shapeNames flavor rest

end

mutual

/-- The names of the defined types that a type links to. -/
def linkNames (flavor : Flavor) : TypeNode → List String
  | .link name => [flavor.structName (Naming.pascal name)]
  | .amount inner _ _ => linkNames flavor inner
  | .solAmount inner => linkNames flavor inner
  | .dateTime inner => linkNames flavor inner
  | .fixedSize _ inner => linkNames flavor inner
  | .sizePrefix _ inner => linkNames flavor inner
  | .array inner _ => linkNames flavor inner
  | .option inner _ _ => linkNames flavor inner
  | .struct fields => fieldLinkNames flavor fields
  | .tuple items => itemLinkNames flavor items
  | _ => []

/-- The names of the defined types that fields link to. -/
def fieldLinkNames (flavor : Flavor) : List FieldNode → List String
  | [] => []
  | ⟨_, type, _, _, _⟩ :: rest => linkNames flavor type ++ fieldLinkNames flavor rest

/-- The names of the defined types that items link to. -/
def itemLinkNames (flavor : Flavor) : List TypeNode → List String
  | [] => []
  | item :: rest => linkNames flavor item ++ itemLinkNames flavor rest

end

/-- The name that is declared at a site. -/
def Site.name (flavor : Flavor) (site : Site) : String := flavor.structName site.path

/-- The generated names that the members at a site use in their types. -/
def Site.uses (flavor : Flavor) (site : Site) : List String :=
  site.fields.flatMap fun field =>
    ((shape flavor (fieldPath site.path field.name) .none field.type).map (·.names flavor)).getD []

/-- Names that links or sites of a list supply. -/
def supplied (flavor : Flavor) (links : List String) (list : List Site) : List String :=
  links ++ list.map (·.name flavor)

section

variable {flavor : Flavor}

theorem supplied_append_subset_left (links links' : List String) (list list' : List Site) :
    supplied flavor links list ⊆ supplied flavor (links ++ links') (list ++ list') := by
  intro name hname
  simp only [supplied, List.mem_append, List.map_append] at hname ⊢
  rcases hname with hlink | hsite
  · simp [hlink]
  · simp [hsite]

theorem supplied_append_subset_right (links links' : List String) (list list' : List Site) :
    supplied flavor links' list' ⊆ supplied flavor (links ++ links') (list ++ list') := by
  intro name hname
  simp only [supplied, List.mem_append, List.map_append] at hname ⊢
  rcases hname with hlink | hsite
  · simp [hlink]
  · simp [hsite]

private theorem numberShape_names {number : NumberType} {s : Shape}
    (h : numberShape flavor number = some s) : s.names flavor = [] := by
  unfold numberShape at h
  split at h
  · cases h
    rfl
  · cases h

private theorem countedShape_names {number : Option NumberType} {item s : Shape}
    (h : countedShape number item = some s) : s.names flavor = item.names flavor := by
  unfold countedShape at h
  split at h
  · cases h
    rfl
  · cases h

private theorem arrayShape_names {item s : Shape} {count : CountNode}
    (h : arrayShape item count = some s) : s.names flavor = item.names flavor := by
  cases count with
  | fixed size => cases h; rfl
  | prefixed number => exact countedShape_names h
  | remainder => cases h; rfl

private theorem bytesShape_names {item s : Shape} {hint : SizeHint}
    (h : bytesShape item hint = some s) : s.names flavor = item.names flavor := by
  cases hint with
  | none => cases h; rfl
  | fixed size => cases h; rfl
  | prefixed number => exact countedShape_names h

mutual

/-- The names in a shape are those of links and of sites of the type. -/
theorem shape_names_subset (assignable : Bool) (path : String) (hint : SizeHint) :
    ∀ (type : TypeNode) {s : Shape}, shape flavor path hint type = some s →
      s.names flavor ⊆ supplied flavor (linkNames flavor type) (sites assignable path type)
  | .number number, s, h => by
    rw [numberShape_names h]
    exact List.nil_subset _
  | .amount inner _ _, s, h => shape_names_subset assignable path hint inner h
  | .solAmount inner, s, h => shape_names_subset assignable path hint inner h
  | .dateTime inner, s, h => shape_names_subset assignable path hint inner h
  | .boolean size, s, h => by
    rw [shape] at h
    split at h
    · cases h
      exact List.nil_subset _
    · cases h
  | .fixedSize size inner, s, h => shape_names_subset assignable path (.fixed size) inner h
  | .sizePrefix length inner, s, h => by
    rw [shape] at h
    split at h
    · cases h
    · rename_i number _
      exact shape_names_subset assignable path (.prefixed number) inner h
  | .bytes, s, h => by
    obtain ⟨item, hitem, hs⟩ := Option.bind_eq_some_iff.mp h
    rw [bytesShape_names hs, numberShape_names hitem]
    exact List.nil_subset _
  | .string _, s, h => by
    rw [shape] at h
    split at h
    · cases h
      exact List.nil_subset _
    · cases h
  | .array inner count, s, h => by
    obtain ⟨item, hitem, hs⟩ := Option.bind_eq_some_iff.mp h
    rw [arrayShape_names hs]
    exact shape_names_subset assignable path .none inner hitem
  | .option inner flag _, s, h => by
    rw [shape] at h
    split at h
    · obtain ⟨item, hitem, rfl⟩ := Option.map_eq_some_iff.mp h
      change item.names flavor ⊆ _
      exact shape_names_subset assignable path .none inner hitem
    · cases h
  | .struct fields, s, h => by
    cases h
    simp [Shape.names, supplied, sites, Site.name, Site.path]
  | .enum variants size, s, h => by
    rw [shape] at h
    split at h
    · cases h
      simp [Shape.names, supplied, sites, Site.name, Site.path]
    · cases h
  | .tuple items, s, h => by
    obtain ⟨shapes, hshapes, rfl⟩ := Option.map_eq_some_iff.mp h
    exact itemShapes_names_subset assignable path 0 items hshapes
  | .publicKey, s, h => by
    cases h
    exact List.nil_subset _
  | .link name, s, h => by
    cases h
    simp [Shape.names, supplied, linkNames]

theorem itemShapes_names_subset (assignable : Bool) (path : String) (index : Nat) :
    ∀ (items : List TypeNode) {shapes : List Shape},
      itemShapes flavor path index items = some shapes →
        shapeNames flavor shapes ⊆
          supplied flavor (itemLinkNames flavor items) (itemSites assignable path index items)
  | [], shapes, h => by
    cases h
    exact List.nil_subset _
  | item :: rest, shapes, h => by
    obtain ⟨first, hfirst, hrest⟩ := Option.bind_eq_some_iff.mp h
    obtain ⟨others, hothers, rfl⟩ := Option.map_eq_some_iff.mp hrest
    rw [shapeNames, itemLinkNames, itemSites]
    apply List.append_subset.mpr
    exact ⟨List.Subset.trans (shape_names_subset assignable _ .none item hfirst)
        (supplied_append_subset_left _ _ _ _),
      List.Subset.trans (itemShapes_names_subset assignable path (index + 1) rest hothers)
        (supplied_append_subset_right _ _ _ _)⟩

end

/-- The names that a struct uses are those of links and of sites below its fields. -/
theorem uses_subset_supplied (assignable : Bool) (path : String) (fields : List FieldNode) :
    (Site.struct path assignable fields).uses flavor ⊆
      supplied flavor (fieldLinkNames flavor fields) (fieldSites path fields) := by
  rw [Site.uses, Site.fields, Site.path]
  induction fields with
  | nil => exact List.nil_subset _
  | cons field rest ih =>
    obtain ⟨name, type, docs, defaultValue, strategy⟩ := field
    rw [List.flatMap_cons, fieldLinkNames, fieldSites]
    apply List.append_subset.mpr
    refine ⟨?_, List.Subset.trans ih (supplied_append_subset_right _ _ _ _)⟩
    cases hshape : shape flavor (fieldPath path name) .none type with
    | none => exact List.nil_subset _
    | some s =>
      exact List.Subset.trans (shape_names_subset false _ .none type hshape)
        (supplied_append_subset_left _ _ _ _)

/-- Sites in an order in which every used name is supplied by a link or by a site before. -/
def Ordered (flavor : Flavor) (links : List String) (list : List Site) : Prop :=
  ∀ before user after, list = before ++ user :: after →
    user.uses flavor ⊆ supplied flavor links before

theorem Ordered.mono {links links' : List String} {list : List Site} (h : Ordered flavor links list)
    (hsubset : links ⊆ links') : Ordered flavor links' list := by
  intro before user after hsplit name hname
  have hsupplied := h before user after hsplit hname
  rw [supplied, List.mem_append] at hsupplied ⊢
  exact hsupplied.imp_left (hsubset ·)

theorem Ordered.append {links links' : List String} {list list' : List Site}
    (h : Ordered flavor links list) (h' : Ordered flavor links' list') :
    Ordered flavor (links ++ links') (list ++ list') := by
  intro before user after hsplit
  -- the user stands in the second list, opens it, or stands in the first
  rcases List.append_eq_append_iff.mp hsplit with ⟨middle, rfl, hsecond⟩ | ⟨middle, hfirst, hrest⟩
  · exact List.Subset.trans (h' middle user after hsecond) (supplied_append_subset_right _ _ _ _)
  · cases middle with
    | nil =>
      rw [List.append_nil] at hfirst
      subst hfirst
      have hnext := h' [] user after hrest.symm
      exact List.Subset.trans hnext
        (by simpa using supplied_append_subset_right links links' list [])
    | cons site middle =>
      obtain ⟨rfl, rfl⟩ := List.cons_eq_cons.mp hrest
      have hfirst := h before user middle hfirst
      exact List.Subset.trans hfirst
        (by simpa using supplied_append_subset_left links links' before [])

theorem Ordered.concat {links : List String} {list : List Site} {site : Site}
    (h : Ordered flavor links list) (hsite : site.uses flavor ⊆ supplied flavor links list) :
    Ordered flavor links (list ++ [site]) := by
  intro before user after hsplit
  rcases List.append_eq_append_iff.mp hsplit with ⟨middle, rfl, hlast⟩ | ⟨middle, hlist, hrest⟩
  · cases middle with
    | nil =>
      obtain ⟨rfl, rfl⟩ := List.cons_eq_cons.mp hlast
      simpa using hsite
    | cons other middle => simp at hlast
  · cases middle with
    | nil =>
      rw [List.append_nil] at hlist
      subst hlist
      obtain ⟨rfl, rfl⟩ := List.cons_eq_cons.mp hrest
      exact hsite
    | cons other middle =>
      obtain ⟨rfl, rfl⟩ := List.cons_eq_cons.mp hrest
      exact h before user middle hlist

private theorem ordered_nil : Ordered flavor [] [] := by
  intro before user after hsplit
  simp at hsplit

mutual

/-- Every name that a struct of a type uses is that of a link or of an earlier site. -/
theorem sites_ordered (assignable : Bool) (path : String) : ∀ type : TypeNode,
    Ordered flavor (linkNames flavor type) (sites assignable path type)
  | .amount inner _ _ => sites_ordered assignable path inner
  | .solAmount inner => sites_ordered assignable path inner
  | .dateTime inner => sites_ordered assignable path inner
  | .fixedSize _ inner => sites_ordered assignable path inner
  | .sizePrefix _ inner => sites_ordered assignable path inner
  | .array inner _ => sites_ordered assignable path inner
  | .option inner _ _ => sites_ordered assignable path inner
  | .struct fields =>
    (fieldSites_ordered path fields).concat (uses_subset_supplied assignable path fields)
  | .enum _ _ => ordered_nil.concat (List.nil_subset _)
  | .tuple items => itemSites_ordered assignable path 0 items
  | .link _ => ordered_nil.mono (List.nil_subset _)
  | .number _ | .boolean _ | .bytes | .string _ | .field _ | .variant _ | .map .. | .set ..
  | .publicKey => ordered_nil

theorem fieldSites_ordered (path : String) : ∀ fields : List FieldNode,
    Ordered flavor (fieldLinkNames flavor fields) (fieldSites path fields)
  | [] => ordered_nil
  | ⟨name, type, _, _, _⟩ :: rest =>
    (sites_ordered false (fieldPath path name) type).append (fieldSites_ordered path rest)

theorem itemSites_ordered (assignable : Bool) (path : String) (index : Nat) :
    ∀ items : List TypeNode,
      Ordered flavor (itemLinkNames flavor items) (itemSites assignable path index items)
  | [] => ordered_nil
  | item :: rest =>
    (sites_ordered assignable (itemPath path index) item).append
      (itemSites_ordered assignable path (index + 1) rest)

end

/-- A name that one site alone declares, and no link has, is declared before it is used. -/
theorem Ordered.lt_of_uses {links : List String} {list : List Site} (h : Ordered flavor links list)
    {i j : Nat} {site user : Site} (hj : list[j]? = some user)
    (huses : site.name flavor ∈ user.uses flavor) (hlink : site.name flavor ∉ links)
    (honly : ∀ k other, list[k]? = some other → other.name flavor = site.name flavor → k = i) :
    i < j := by
  obtain ⟨hlength, hget⟩ := List.getElem?_eq_some_iff.mp hj
  have hsplit : list = list.take j ++ user :: list.drop (j + 1) := by
    rw [← hget, List.getElem_cons_drop, List.take_append_drop]
  have hsupplied := h (list.take j) user (list.drop (j + 1)) hsplit huses
  rw [supplied, List.mem_append, or_iff_right hlink] at hsupplied
  obtain ⟨other, hother, hname⟩ := List.mem_map.mp hsupplied
  obtain ⟨k, hk⟩ := List.mem_iff_getElem?.mp hother
  have hkj : k < j := by
    have hbound := (List.getElem?_eq_some_iff.mp hk).1
    rw [List.length_take] at hbound
    omega
  rw [List.getElem?_take_of_lt hkj] at hk
  rw [← honly k other hk hname]
  exact hkj

end

theorem map_eq_of_mapM_eq_some {α β : Type} (f : α → Option β) :
    ∀ (xs : List α) (ys : List β), xs.mapM f = some ys → xs.map f = ys.map some
  | [], ys, h => by
    cases h
    rfl
  | x :: rest, ys, h => by
    rw [mapM_cons_eq_bind_map] at h
    obtain ⟨y, hy, hrest⟩ := Option.bind_eq_some_iff.mp h
    obtain ⟨others, hothers, rfl⟩ := Option.map_eq_some_iff.mp hrest
    rw [List.map_cons, List.map_cons, hy, map_eq_of_mapM_eq_some f rest others hothers]

theorem map_name_of_map_declaration? {target : Target} :
    ∀ (list : List Site) (declared : List Declaration),
      list.map (·.declaration? target) = declared.map some →
        declared.map (·.name) = list.map (·.name target.flavor)
  | [], [], _ => rfl
  | [], _ :: _, h => by simp at h
  | _ :: _, [], h => by simp at h
  | site :: rest, decl :: others, h => by
    rw [List.map_cons, List.map_cons, List.cons_eq_cons] at h
    rw [List.map_cons, List.map_cons, Site.declaration?_name h.1,
      map_name_of_map_declaration? rest others h.2]
    rfl

/-- The declarations at the sites of a type are the hoisted ones, and the struct itself where it
stands at the top. -/
theorem lower_declarations {target : Target} {ctx : Context} {type : TypeNode} {m : Manifest}
    (hparent : ctx.parent ≠ "") (hinlined : ctx.inlined = false)
    (hmode : ctx.nested = true ∨ ∃ fields, type = .struct fields)
    (hplaced : wellPlaced type = true) (h : lower target ctx type = .ok m) :
    ∃ declared, declarations? target (sites ctx.assignable ctx.parent type) = some declared ∧
      (ctx.nested = true → m.nested = declared) ∧
      (ctx.nested = false → ∃ top, declared = m.nested ++ [top] ∧ m.type = top.text) := by
  cases hnested : ctx.nested with
  | true =>
    have htracks := @lower_tracks target ctx ⟨hnested, hinlined, hparent⟩ type hplaced
    rw [h] at htracks
    obtain ⟨s, declared, -, hdeclared, hspells⟩ := htracks.of_ok
    exact ⟨declared, hdeclared, fun _ => hspells.nested, by simp⟩
  | false =>
    -- the fields are lowered as under a hoisted struct; only the struct itself stays at the top
    obtain ⟨nodes, rfl⟩ := hmode.resolve_left (by simp [hnested])
    rw [lower, requireParent_of_ne "struct" hparent] at h
    have htracks := @lowerFieldsOver_tracks target ctx.child hparent .empty nodes hplaced
    change (lowerFieldsOver target ctx.child .empty nodes >>= fun fields =>
      .ok (structManifest target ctx fields)) = .ok m at h
    generalize lowerFieldsOver target ctx.child .empty nodes = lowered at h htracks
    cases lowered with
    | error e => cases h
    | ok fields =>
      cases h
      obtain ⟨members, below, hmembers, hbelow, rfl, rfl⟩ := htracks.of_ok
      refine ⟨fields.nested ++ [.struct (target.flavor.structName ctx.parent) fields.members],
        ?_, by simp, fun _ => ⟨.struct (target.flavor.structName ctx.parent) fields.members, ?_⟩⟩
      · change (fieldSites ctx.parent nodes).mapM (·.declaration? target) = _ at hbelow
        change nodes.mapM (member? target ctx.assignable ctx.parent) = _ at hmembers
        rw [sites, declarations?_append, declarations?_singleton, Site.declaration?, hmembers,
          declarations?, hbelow]
        rfl
      · simp [structManifest, hinlined, hnested]

/-- Where structs and enums are hoisted, the hoisted declarations are those at the sites of the
type, one for each and in post-order, under the names of their paths. At the top of a struct the
same holds of the hoisted declarations and the struct itself behind them. A name that a declaration
uses for a member is that of a linked type or of an earlier declaration; so a declaration stands
before every use of its name, provided that no other declaration and no linked type has it. -/
theorem hoisted_in_post_order (target : Target) (ctx : Context) (type : TypeNode) (m : Manifest)
    (hparent : ctx.parent ≠ "") (hinlined : ctx.inlined = false)
    (hmode : ctx.nested = true ∨ ∃ fields, type = .struct fields)
    (hplaced : wellPlaced type = true) (h : lower target ctx type = .ok m) :
    let all := sites ctx.assignable ctx.parent type
    let links := linkNames target.flavor type
    ∃ declared : List Declaration,
      all.map (·.declaration? target) = declared.map some ∧
      declared.map (·.name) = all.map (fun site => target.flavor.structName site.path) ∧
      (ctx.nested = true → m.nested = declared) ∧
      (ctx.nested = false → ∃ top, declared = m.nested ++ [top] ∧ m.type = top.text) ∧
      (∀ before user after, all = before ++ user :: after →
        ∀ name ∈ user.uses target.flavor,
          name ∈ links ∨ ∃ site ∈ before, site.name target.flavor = name) ∧
      ∀ (i j : Nat) (site user : Site), all[i]? = some site → all[j]? = some user →
        site.name target.flavor ∈ user.uses target.flavor →
        site.name target.flavor ∉ links →
        (∀ (k : Nat) (other : Site), all[k]? = some other →
          other.name target.flavor = site.name target.flavor → k = i) →
        i < j := by
  intro all links
  have hordered : Ordered target.flavor links all := sites_ordered ctx.assignable ctx.parent type
  obtain ⟨declared, hdeclared, hhoisted, htop⟩ :=
    lower_declarations hparent hinlined hmode hplaced h
  have hmap := map_eq_of_mapM_eq_some _ _ _ hdeclared
  refine ⟨declared, hmap, map_name_of_map_declaration? _ _ hmap, hhoisted, htop, ?_, ?_⟩
  · intro before user after hsplit name hname
    have hsupplied := hordered before user after hsplit hname
    rw [supplied, List.mem_append, List.mem_map] at hsupplied
    exact hsupplied
  · intro i j site user _ hj huses hlink honly
    exact hordered.lt_of_uses hj huses hlink honly

/-- The structs in a pair are declared in the order of the pair, each named after its place. -/
theorem hoisted_in_post_order_pair :
    let byte := TypeNode.number (.little "u8")
    let item (name : String) := TypeNode.struct [⟨name, byte, [], none, ""⟩]
    let holder := TypeNode.struct [⟨"pair", .tuple [item "a", item "b"], [], none, ""⟩]
    ∃ m, lower ⟨.unreal5, "Vault"⟩ (.root "Holder") holder = .ok m ∧
      m.nested.map (·.name) = ["FHolderPairItem0", "FHolderPairItem1"] := by
  intro byte item holder
  cases hlower : lower ⟨.unreal5, "Vault"⟩ (.root "Holder") holder with
  | error e =>
    have hok : (lower ⟨.unreal5, "Vault"⟩ (.root "Holder") holder).toBool = true := by
      decide +kernel
    rw [hlower] at hok
    cases hok
  | ok m =>
    refine ⟨m, rfl, ?_⟩
    obtain ⟨declared, -, hnames, -, htop, -⟩ := hoisted_in_post_order _ _ holder m (by decide) rfl
      (.inr ⟨_, rfl⟩) rfl hlower
    obtain ⟨top, rfl, -⟩ := htop rfl
    have hpaths : (sites false "Holder" holder).map (fun site => Flavor.unreal5.structName site.path)
        = ["FHolderPairItem0", "FHolderPairItem1"] ++ ["FHolder"] := by decide +kernel
    rw [List.map_append] at hnames
    exact (List.append_inj' (hnames.trans hpaths) rfl).1

private theorem not_before_use {flavor : Flavor} {list : List Site} {i j : Nat} {name : String}
    (hi : list[i]?.map (·.name flavor) = some name)
    (hj : list[j]?.map (·.uses flavor) = some [name]) (hij : j ≤ i) :
    ¬ ∀ (i j : Nat) (site user : Site), list[i]? = some site → list[j]? = some user →
      site.name flavor ∈ user.uses flavor → i < j := by
  intro hbefore
  obtain ⟨site, hsite, hname⟩ := Option.map_eq_some_iff.mp hi
  obtain ⟨user, huser, huses⟩ := Option.map_eq_some_iff.mp hj
  have hlt := hbefore i j site user hsite huser (by rw [hname, huses]; exact List.mem_singleton_self _)
  omega

/-- Two sites can have one name, and a link can have the name of a site: then a declaration may
stand behind one that uses its name. -/
theorem declared_after_use :
    let leaf (name : String) (type : TypeNode) : FieldNode := ⟨name, type, [], none, ""⟩
    let shared := TypeNode.struct
      [leaf "a" (.struct [leaf "b" (.struct [])]), leaf "aB" (.struct [])]
    let linked := TypeNode.struct
      [leaf "a" (.struct [leaf "b" (.link "pC")]), leaf "c" (.struct [])]
    (lower ⟨.unreal5, "Vault"⟩ (.root "P") shared).toOption.map (·.nested) =
        some [.struct "FPAB" [], .struct "FPA" [⟨[], "FPAB", "B", [], none⟩], .struct "FPAB" []] ∧
      (lower ⟨.unreal5, "Vault"⟩ (.root "P") linked).toOption.map (·.nested) =
        some [.struct "FPA" [⟨[], "FPC", "B", [], none⟩], .struct "FPC" []] ∧
      ∀ type ∈ [shared, linked], ¬ ∀ (i j : Nat) (site user : Site),
        (sites false "P" type)[i]? = some site → (sites false "P" type)[j]? = some user →
          site.name .unreal5 ∈ user.uses .unreal5 → i < j := by
  intro leaf shared linked
  refine ⟨by decide +kernel, by decide +kernel, ?_⟩
  intro type htype
  rw [List.mem_cons, List.mem_singleton] at htype
  rcases htype with rfl | rfl
  · have hlast : (sites false "P" shared)[2]?.map (·.name .unreal5) = some "FPAB" := by
      decide +kernel
    have huser : (sites false "P" shared)[1]?.map (·.uses .unreal5) = some ["FPAB"] := by
      decide +kernel
    exact not_before_use hlast huser (by decide)
  · have hlast : (sites false "P" linked)[1]?.map (·.name .unreal5) = some "FPC" := by
      decide +kernel
    have huser : (sites false "P" linked)[0]?.map (·.uses .unreal5) = some ["FPC"] := by
      decide +kernel
    exact not_before_use hlast huser (by decide)

end ClientGen.Cpp
