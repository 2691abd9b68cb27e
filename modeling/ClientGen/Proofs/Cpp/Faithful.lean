import ClientGen.Proofs.Cpp.Tracking
/-!
# Lowering is faithful to shapes

Where structs and enums are hoisted, a type is lowered exactly if it has a shape and every struct
and enum in it can be declared. The spelling and the array declarator are then those of the shape,
and the hoisted declarations are those at the sites of the type.
-/
namespace ClientGen.Cpp

open ClientGen.Idl

/-- A context in which structs and enums become declarations of their own. -/
structure Context.Hoists (ctx : Context) : Prop where
  nested : ctx.nested = true
  inlined : ctx.inlined = false
  parent : ctx.parent ≠ ""

section

variable {ctx : Context}

theorem Context.Hoists.child (h : ctx.Hoists) : ctx.child.Hoists := ⟨h.nested, h.inlined, h.parent⟩

theorem Context.Hoists.withSize (h : ctx.Hoists) (size : SizeHint) :
    { ctx with size := size : Context }.Hoists :=
  ⟨h.nested, h.inlined, h.parent⟩

theorem Context.field_hoists (name : String) (h : ctx.parent ≠ "") : (ctx.field name).Hoists :=
  ⟨rfl, rfl, fieldPath_ne_empty name h⟩

theorem Context.item_of_parent (index : Nat) (h : ctx.parent ≠ "") :
    ctx.item index = { ctx.child with parent := itemPath ctx.parent index } := by
  unfold Context.item
  rw [if_neg (by simpa using h)]
  rfl

theorem Context.Hoists.item (h : ctx.Hoists) (index : Nat) : (ctx.item index).Hoists := by
  rw [Context.item_of_parent index h.parent]
  exact ⟨h.nested, h.inlined, itemPath_ne_empty index h.parent⟩

theorem requireParent_of_ne (what : String) (h : ctx.parent ≠ "") :
    requireParent what ctx = .ok () := by
  unfold requireParent
  rw [if_neg (by simpa using h)]

end

section

variable {target : Target}

theorem any_isByte_iff (number : Option NumberType) :
    number.any isByte = true ↔ number = some (.little "u8") := by
  cases number with
  | none => simp
  | some number => rw [Option.any_some, isByte, beq_iff_eq, Option.some_inj]

theorem any_isArrayPrefix_iff (number : Option NumberType) :
    number.any isArrayPrefix = true ↔ ∃ count ∈ countNumbers, number = some count := by
  cases number with
  | none => simp
  | some number =>
    obtain ⟨format, endian⟩ := number
    by_cases hendian : endian = littleEndian
    · subst hendian
      simp [isArrayPrefix, countNumbers, NumberType.little]
    · simp [isArrayPrefix, countNumbers, NumberType.little, hendian]

theorem lowerNumber_tracks (number : NumberType) :
    Tracks (Manifest.Spells target.flavor) (lowerNumber target number)
      (numberShape target.flavor number) (some []) := by
  unfold lowerNumber numberShape
  by_cases hendian : number.endian = littleEndian
  · rw [if_neg (by simp [hendian])]
    cases hnumber : target.flavor.number? number.format with
    | none =>
      rw [if_neg (by simp)]
      exact .noFirst _ _
    | some spelling =>
      rw [if_pos ⟨hendian, rfl⟩]
      have hspelling : spelling = target.flavor.numberName number.format := by
        rw [Flavor.numberName, hnumber, Option.getD_some]
      exact .done _ _ _ (.plain _ hspelling rfl)
  · rw [if_pos (by simpa using hendian), if_neg (by simp [hendian])]
    exact .noFirst _ _

theorem prefixedArray_tracks {m : Manifest} {s : Shape} {declared : List Declaration}
    (number : Option NumberType) (h : m.Spells target.flavor s declared) :
    Tracks (Manifest.Spells target.flavor) (prefixedArray target number m) (countedShape number s)
      (some declared) := by
  unfold prefixedArray countedShape
  by_cases hcount : ∃ count ∈ countNumbers, number = some count
  · rw [if_pos hcount, if_pos ((any_isArrayPrefix_iff number).mpr hcount)]
    exact .done _ _ _ h.sequence
  · rw [if_neg hcount, if_neg fun hany => hcount ((any_isArrayPrefix_iff number).mp hany)]
    exact .noFirst _ _

theorem lowerArray_tracks {m : Manifest} {s : Shape} {declared : List Declaration}
    (h : m.Spells target.flavor s declared) (count : CountNode) :
    Tracks (Manifest.Spells target.flavor) (lowerArray target m count) (arrayShape s count)
      (some declared) := by
  cases count with
  | fixed size => exact .done _ _ _ (h.array size)
  | prefixed number => exact prefixedArray_tracks number.number? h
  | remainder => exact .done _ _ _ h.sequence

theorem lowerBytes_tracks (hint : SizeHint) :
    Tracks (Manifest.Spells target.flavor) (lowerBytes target hint)
      ((numberShape target.flavor (.little "u8")).bind (bytesShape · hint)) (some []) := by
  unfold lowerBytes
  apply (lowerNumber_tracks (.little "u8")).bind
  intro m s declared h
  cases hint with
  | none => exact .done _ _ _ h.sequence
  | fixed size => exact .done _ _ _ (h.array size)
  | prefixed number => exact prefixedArray_tracks (some number) h

theorem lowerString_tracks (hint : SizeHint) :
    Tracks (Manifest.Spells target.flavor) (lowerString target hint)
      (if hint = .prefixed (.little "u32") then some .string else none) (some []) := by
  cases hint with
  | none => exact .noFirst _ _
  | fixed size => exact .noFirst _ _
  | prefixed number =>
    by_cases hnumber : number = .little "u32"
    · subst hnumber
      exact .done _ _ _ (.plain _ rfl rfl)
    · rw [lowerString, if_neg (by simpa using hnumber), if_neg (by simpa using hnumber)]
      exact .noFirst _ _

theorem lowerBoolean_tracks (size : TypeNode) :
    Tracks (Manifest.Spells target.flavor) (lowerBoolean target size)
      (if size.number? = some (.little "u8") then some .bool else none) (some []) := by
  unfold lowerBoolean
  by_cases hbyte : size.number? = some (.little "u8")
  · rw [if_pos hbyte, if_pos ((any_isByte_iff _).mpr hbyte)]
    exact .done _ _ _ (.plain _ rfl rfl)
  · rw [if_neg hbyte, if_neg fun hany => hbyte ((any_isByte_iff _).mp hany)]
    exact .noFirst _ _

/-- An enum is its name, and its declaration is at the one site of it. -/
theorem lowerEnum_tracks {ctx : Context} (hctx : ctx.Hoists) (variants : List VariantNode)
    (size : TypeNode) :
    Tracks (Manifest.Spells target.flavor) (lowerEnum target variants size ctx)
      (if isScalar variants then some (.declared ctx.parent) else none)
      (declarations? target [.enum ctx.parent variants size]) := by
  rw [declarations?_singleton, Site.declaration?, enumBase?, lowerEnum,
    requireParent_of_ne "enum" hctx.parent]
  change Tracks _ (if !isScalar variants then unsupported (.dataEnum ctx.parent) else _) _ _
  by_cases hscalar : isScalar variants = true
  · rw [if_neg (by simp [hscalar]), if_pos hscalar, if_pos hscalar]
    cases size.number? with
    | none => exact .noSecond _ _
    | some number =>
      change Tracks _ (if number.endian != littleEndian then _ else _) _ _
      by_cases hendian : number.endian = littleEndian
      · rw [if_neg (by simp [hendian])]
        simp only [Option.bind_some, if_pos hendian]
        cases target.flavor.number? number.format with
        | none => exact .noSecond _ _
        | some base =>
          rw [hctx.nested]
          exact .done _ _ _ ⟨rfl, rfl, rfl⟩
      · rw [if_pos (by simpa using hendian)]
        simp only [Option.bind_some, if_neg hendian]
        exact .noSecond _ _
  · rw [if_pos (by simp [hscalar]), if_neg hscalar, if_neg hscalar]
    exact .noFirst _ _

/-- A lowered field against a member and the declarations below it. -/
def LoweredField.Holds (field : LoweredField) (member : Member) (declared : List Declaration) :
    Prop :=
  field.member = member ∧ field.nested = declared

/-- Lowered fields against members and the declarations below them. -/
def LoweredFields.Hold (fields : LoweredFields) (members : List Member)
    (declared : List Declaration) : Prop :=
  fields.members = members ∧ fields.nested = declared

/-- Lowered items of a tuple against shapes and the declarations below them. -/
def ItemsSpell (flavor : Flavor) (items : List String × IncludeSet × List Declaration)
    (shapes : List Shape) (declared : List Declaration) : Prop :=
  items.1 = spellings flavor shapes ∧ items.2.2 = declared

theorem fieldMember_tracks {m : Manifest} {s : Shape} {declared : List Declaration}
    (assignable : Bool) (field : FieldNode) (h : m.Spells target.flavor s declared) :
    Tracks LoweredField.Holds
      (fieldMember target assignable field.name field.docs
        (presetValue field.defaultValue field.strategy) m)
      (memberOf? target assignable field s) (some declared) := by
  unfold fieldMember memberOf?
  cases presetValue field.defaultValue field.strategy with
  | some value =>
    change Tracks _ (Generated.inside (.field field.name) (literal target false value) >>= _)
      ((literal target false value).toOption.map _) _
    cases literal target false value with
    | error e => exact .noFirst _ _
    | ok l =>
      refine .done _ _ _ ⟨?_, h.nested⟩
      rw [h.type, h.dims]
  | none =>
    cases assignable with
    | true =>
      refine .done _ _ _ ⟨?_, Manifest.materialize_nested.trans h.nested⟩
      simp only [if_true, h.materialize_type, Manifest.materialize_dims]
    | false =>
      refine .done _ _ _ ⟨?_, h.nested⟩
      simp only [Bool.false_eq_true, if_false, h.type, h.dims]

/-- The struct that fields make where it is hoisted: its name, and its declaration behind those
below it. -/
theorem structManifest_tracks {ctx : Context} (hctx : ctx.Hoists) (nodes : List FieldNode)
    {x : Generated LoweredFields}
    (h : Tracks LoweredFields.Hold x (nodes.mapM (member? target ctx.assignable ctx.parent))
      (declarations? target (fieldSites ctx.parent nodes))) :
    Tracks (Manifest.Spells target.flavor) (x >>= fun f => .ok (structManifest target ctx f))
      (some (.declared ctx.parent))
      (declarations? target
        (fieldSites ctx.parent nodes ++ [.struct ctx.parent ctx.assignable nodes])) := by
  rw [declarations?_append, declarations?_singleton, Site.declaration?]
  generalize nodes.mapM (member? target ctx.assignable ctx.parent) = members at h ⊢
  generalize declarations? target (fieldSites ctx.parent nodes) = below at h ⊢
  cases h with
  | done f members below h =>
    obtain ⟨rfl, rfl⟩ := h
    refine .done _ _ _ ?_
    unfold structManifest
    rw [hctx.inlined, hctx.nested]
    exact ⟨rfl, rfl, rfl⟩
  | noFirst e below => cases below <;> exact .noSecond _ _
  | noSecond e members => exact .noSecond _ _

mutual

/-- Lowering comes to the shape of a type and the declarations at its sites. -/
theorem lower_tracks {ctx : Context} (hctx : ctx.Hoists) : ∀ type : TypeNode,
    wellPlaced type = true →
      Tracks (Manifest.Spells target.flavor) (lower target ctx type)
        (shape target.flavor ctx.parent ctx.size type)
        (declarations? target (sites ctx.assignable ctx.parent type))
  | .number number, _ => lowerNumber_tracks number
  | .amount inner _ _, hplaced => lower_tracks hctx inner hplaced
  | .solAmount inner, hplaced => lower_tracks hctx inner hplaced
  | .dateTime inner, hplaced => lower_tracks hctx inner hplaced
  | .boolean size, _ => lowerBoolean_tracks size
  | .fixedSize size inner, hplaced => lower_tracks (hctx.withSize (.fixed size)) inner hplaced
  | .sizePrefix length inner, hplaced => by
    rw [lower, shape]
    cases length.number? with
    | none => exact .noFirst _ _
    | some number => exact lower_tracks (hctx.withSize (.prefixed number)) inner hplaced
  | .bytes, _ => lowerBytes_tracks ctx.size
  | .string _, _ => lowerString_tracks ctx.size
  | .array inner count, hplaced => by
    apply (lower_tracks hctx.child inner hplaced).bind
    intro m s declared h
    exact lowerArray_tracks h count
  | .option inner flag _, hplaced => by
    rw [lower, shape]
    by_cases hbyte : flag.number? = some (.little "u8")
    · rw [if_pos hbyte, if_pos ((any_isByte_iff _).mpr hbyte), Option.map_eq_bind]
      apply (lower_tracks hctx.child inner hplaced).bind
      intro m s declared h
      exact .done _ _ _ h.optional
    · rw [if_neg hbyte, if_neg fun hany => hbyte ((any_isByte_iff _).mp hany)]
      exact .noFirst _ _
  | .struct fields, hplaced => by
    rw [lower, shape, sites, requireParent_of_ne "struct" hctx.parent]
    exact structManifest_tracks hctx fields
      (lowerFieldsOver_tracks hctx.child.parent .empty fields hplaced)
  | .enum variants size, _ => lowerEnum_tracks hctx variants size
  | .tuple items, hplaced => by
    rw [lower, shape, sites, Option.map_eq_bind]
    apply (lowerItems_tracks hctx 0 .empty items hplaced).bind
    rintro ⟨types, includes, nested⟩ shapes declared ⟨htypes, hnested⟩
    refine .done _ _ _ ⟨?_, rfl, hnested⟩
    simp only [Shape.element, Shape.spelling]
    rw [← htypes]
  | .publicKey, _ => .done _ _ _ (.plain _ rfl rfl)
  | .link _, _ => .done _ _ _ (.plain _ rfl rfl)
  | .map .., _ => .noFirst _ _
  | .set .., _ => .noFirst _ _

/-- A field comes to its member and the declarations below it. -/
theorem lowerField_tracks {ctx : Context} (hparent : ctx.parent ≠ "") : ∀ field : FieldNode,
    wellPlaced field.type = true →
      Tracks LoweredField.Holds (lowerField target ctx field)
        (member? target ctx.assignable ctx.parent field)
        (declarations? target (sites false (fieldPath ctx.parent field.name) field.type))
  | ⟨name, type, docs, defaultValue, strategy⟩, hplaced => by
    rw [lowerField, requireParent_of_ne "struct field" hparent]
    have htype := lower_tracks (Context.field_hoists name hparent) type hplaced
    apply (htype.inside (.field name)).bind
    intro m s declared h
    exact fieldMember_tracks ctx.assignable ⟨name, type, docs, defaultValue, strategy⟩ h

/-- Fields come to their members and the declarations below them, in order. -/
theorem lowerFieldsOver_tracks {ctx : Context} (hparent : ctx.parent ≠ "") (includes : IncludeSet) :
    ∀ fields : List FieldNode, wellPlacedFields fields = true →
      Tracks LoweredFields.Hold (lowerFieldsOver target ctx includes fields)
        (fields.mapM (member? target ctx.assignable ctx.parent))
        (declarations? target (fieldSites ctx.parent fields))
  | [], _ => .done _ _ _ ⟨rfl, rfl⟩
  | ⟨name, type, docs, defaultValue, strategy⟩ :: rest, hplaced => by
    rw [wellPlacedFields, Bool.and_eq_true] at hplaced
    rw [lowerFieldsOver, mapM_cons_eq_bind_map, fieldSites, declarations?_append]
    have hfirst := lowerField_tracks hparent ⟨name, type, docs, defaultValue, strategy⟩ hplaced.1
    refine hfirst.both (fun first => lowerFieldsOver_tracks hparent _ rest hplaced.2) ?_
    rintro first member declared fields members declared' ⟨rfl, rfl⟩ ⟨rfl, rfl⟩
    exact ⟨rfl, rfl⟩

/-- The items of a tuple come to their shapes and the declarations below them, in order. -/
theorem lowerItems_tracks {ctx : Context} (hctx : ctx.Hoists) (index : Nat)
    (includes : IncludeSet) : ∀ items : List TypeNode, wellPlacedItems items = true →
      Tracks (ItemsSpell target.flavor) (lowerItems target ctx index includes items)
        (itemShapes target.flavor ctx.parent index items)
        (declarations? target (itemSites ctx.assignable ctx.parent index items))
  | [], _ => .done _ _ _ ⟨rfl, rfl⟩
  | item :: rest, hplaced => by
    rw [wellPlacedItems, Bool.and_eq_true] at hplaced
    rw [lowerItems, itemShapes, itemSites, declarations?_append]
    have hitem := lower_tracks (hctx.item index) item hplaced.1
    rw [Context.item_of_parent index hctx.parent] at hitem ⊢
    refine hitem.both (fun m => lowerItems_tracks hctx (index + 1) _ rest hplaced.2) ?_
    rintro m s declared ⟨types, includes', nested⟩ shapes declared' h ⟨htypes, hnested⟩
    refine ⟨?_, ?_⟩
    · rw [spellings, ← htypes, ← h.materialize_type]
    · rw [← h.nested, ← hnested, Manifest.materialize_nested]

end

theorem Site.Inside.context_hoists {site : Site} {list : List Site} (h : site.Inside list) :
    site.context.Hoists := by
  cases site <;> exact ⟨rfl, rfl, h.path⟩

/-- The node at a site is lowered exactly if it and everything below it can be declared. -/
theorem Site.Inside.lowers_iff {site : Site} {list : List Site} (h : site.Inside list) :
    (∃ m, lower target site.context site.node = .ok m) ↔
      ∀ below ∈ sites site.context.assignable site.path site.node, below.Declarable target := by
  have htracks := @lower_tracks target site.context h.context_hoists site.node h.placed
  rw [htracks.ok_iff]
  have hparent : site.context.parent = site.path := by cases site <;> rfl
  rw [hparent, declarations?_isSome_iff]
  -- a struct always has a shape, and an enum has one as soon as it can be declared
  refine ⟨fun hboth => hboth.2, fun hbelow => ⟨?_, hbelow⟩⟩
  have hself := hbelow site site.mem_sites_self
  cases site with
  | struct path assignable fields => rfl
  | enum path variants size => simp [node, shape, hself.1]

end

/-- Where structs and enums are hoisted, a type is lowered exactly if it has a shape and each of
its structs and enums is lowered in turn, which asks of each no more than a shape for every field,
a literal for every preset value and a number for every enum. The array declarator is then that of
the fixed arrays around the shape, the spelling is that of what they hold, and folding the
declarator into the spelling gives the spelling of the whole shape. -/
theorem lower_faithful (target : Target) (ctx : Context) (type : TypeNode) (hctx : ctx.Hoists)
    (hplaced : wellPlaced type = true) :
    ((∃ m, lower target ctx type = .ok m) ↔
      (shape target.flavor ctx.parent ctx.size type).isSome ∧
        ∀ site ∈ sites ctx.assignable ctx.parent type,
          ∃ m, lower target site.context site.node = .ok m) ∧
    ((∀ site ∈ sites ctx.assignable ctx.parent type,
        ∃ m, lower target site.context site.node = .ok m) ↔
      ∀ site ∈ sites ctx.assignable ctx.parent type, site.Declarable target) ∧
    ∀ m, lower target ctx type = .ok m →
      ∃ s, shape target.flavor ctx.parent ctx.size type = some s ∧
        m.suffix = dimsText s.dims ∧ m.type = s.element.spelling target.flavor ∧
        (m.materialize target).suffix = "" ∧
        (m.materialize target).type = s.spelling target.flavor := by
  have htracks := @lower_tracks target ctx hctx type hplaced
  have hinside := sites_inside ctx.assignable hctx.parent type hplaced
  have hsites : (∀ site ∈ sites ctx.assignable ctx.parent type,
      ∃ m, lower target site.context site.node = .ok m) ↔
      ∀ site ∈ sites ctx.assignable ctx.parent type, site.Declarable target := by
    constructor
    · intro hlowers site hsite
      have hbelow := (hinside site hsite).lowers_iff.mp (hlowers site hsite)
      exact hbelow site site.mem_sites_self
    · intro hdeclarable site hsite
      refine (hinside site hsite).lowers_iff.mpr ?_
      intro below hbelow
      exact hdeclarable below ((hinside site hsite).below hbelow)
  refine ⟨?_, hsites, ?_⟩
  · rw [htracks.ok_iff, declarations?_isSome_iff, hsites]
  · intro m hm
    rw [hm] at htracks
    obtain ⟨s, declared, hshape, -, hspells⟩ := htracks.of_ok
    refine ⟨s, hshape, ?_, hspells.type, ?_, hspells.materialize_type⟩
    · rw [Manifest.suffix, hspells.dims]
    · rw [Manifest.suffix, Manifest.materialize_dims]
      rfl

/-- Four pairs of a two-dimensional array and a struct: the outer length is the declarator, the
inner ones are folded, and the struct is named after its place in the pair. -/
theorem lower_faithful_array_of_pairs :
    let grid := TypeNode.array (.array (.number (.little "u8")) (.fixed 3)) (.fixed 2)
    let pairs := TypeNode.array (.tuple [grid, .struct []]) (.fixed 4)
    wellPlaced pairs = true ∧
      ∃ m, lower ⟨.unreal5, "Vault"⟩ ⟨"Vault", true, false, .none, false⟩ pairs = .ok m ∧
        m.suffix = "[4]" ∧
        m.type = "TTuple<TStaticArray<TStaticArray<uint8, 3>, 2>, FVaultItem1>" := by
  intro grid pairs
  have hfaithful := lower_faithful ⟨.unreal5, "Vault"⟩ ⟨"Vault", true, false, .none, false⟩ pairs
    ⟨rfl, rfl, by decide⟩ rfl
  have hdeclarable : ∀ site ∈ sites false "Vault" pairs,
      site.Declarable ⟨.unreal5, "Vault"⟩ := by
    intro site hsite
    rw [List.mem_singleton.mp hsite]
    intro field hfield
    cases hfield
  obtain ⟨m, hm⟩ := hfaithful.1.mpr ⟨rfl, hfaithful.2.1.mpr hdeclarable⟩
  obtain ⟨s, hshape, hsuffix, htype, -⟩ := hfaithful.2.2 m hm
  cases hshape
  exact ⟨rfl, m, hm, hsuffix.trans (by decide), htype.trans (by decide)⟩

end ClientGen.Cpp
