import ClientGen.Proofs.Cpp.Shape
/-!
# Sites of declarations

The structs and enums of a type, each with the path that leads to it, in post-order. Every site
stands for one declaration, which can be told from the shapes of the fields at that site alone.
-/
namespace ClientGen.Cpp

open ClientGen.Idl

/-- A struct or an enum and the path that leads to it. -/
inductive Site where
  | struct (path : String) (assignable : Bool) (fields : List FieldNode)
  | enum (path : String) (variants : List VariantNode) (size : TypeNode)

namespace Site

/-- The path that leads to a site. -/
def path : Site → String
  | .struct path _ _ => path
  | .enum path _ _ => path

/-- The struct or enum itself. -/
def node : Site → TypeNode
  | .struct _ _ fields => .struct fields
  | .enum _ variants size => .enum variants size

/-- The fields of a struct; an enum has none. -/
def fields : Site → List FieldNode
  | .struct _ _ fields => fields
  | .enum .. => []

/-- The context in which the node of a site is hoisted. -/
def context : Site → Context
  | .struct path assignable _ => ⟨path, true, false, .none, assignable⟩
  | .enum path _ _ => ⟨path, true, false, .none, false⟩

end Site

mutual

/-- The structs and enums of the type at a path, each behind those below it. The numbers that
tell a length or a flag hold none. -/
def sites (assignable : Bool) (path : String) : TypeNode → List Site
  | .amount inner _ _ => sites assignable path inner
  | .solAmount inner => sites assignable path inner
  | .dateTime inner => sites assignable path inner
  | .fixedSize _ inner => sites assignable path inner
  | .sizePrefix _ inner => sites assignable path inner
  | .array inner _ => sites assignable path inner
  | .option inner _ _ => sites assignable path inner
  | .struct fields => fieldSites path fields ++ [.struct path assignable fields]
  | .enum variants size => [.enum path variants size]
  | .tuple items => itemSites assignable path 0 items
  | _ => []

/-- The structs and enums below the fields of the struct at a path. -/
def fieldSites (path : String) : List FieldNode → List Site
  | [] => []
  | ⟨name, type, _, _, _⟩ :: rest => sites false (fieldPath path name) type ++ fieldSites path rest

/-- The structs and enums of the items of the tuple at a path. -/
def itemSites (assignable : Bool) (path : String) (index : Nat) : List TypeNode → List Site
  | [] => []
  | item :: rest =>
    sites assignable (itemPath path index) item ++ itemSites assignable path (index + 1) rest

end

mutual

/-- Whether a struct or an enum is declared for a type. -/
def declares : TypeNode → Bool
  | .amount inner _ _ => declares inner
  | .solAmount inner => declares inner
  | .dateTime inner => declares inner
  | .fixedSize _ inner => declares inner
  | .sizePrefix _ inner => declares inner
  | .array inner _ => declares inner
  | .option inner _ _ => declares inner
  | .struct _ => true
  | .enum _ _ => true
  | .tuple items => declaresItem items
  | _ => false

def declaresItem : List TypeNode → Bool
  | [] => false
  | item :: rest => declares item || declaresItem rest

end

mutual

theorem sites_eq_nil (assignable : Bool) (path : String) : ∀ type : TypeNode,
    declares type = false → sites assignable path type = []
  | .amount inner _ _, h => sites_eq_nil assignable path inner h
  | .solAmount inner, h => sites_eq_nil assignable path inner h
  | .dateTime inner, h => sites_eq_nil assignable path inner h
  | .fixedSize _ inner, h => sites_eq_nil assignable path inner h
  | .sizePrefix _ inner, h => sites_eq_nil assignable path inner h
  | .array inner _, h => sites_eq_nil assignable path inner h
  | .option inner _ _, h => sites_eq_nil assignable path inner h
  | .tuple items, h => itemSites_eq_nil assignable path 0 items h
  | .number _, _ | .boolean _, _ | .bytes, _ | .string _, _ | .map .., _ | .set .., _
  | .publicKey, _ | .link _, _ | .field _, _ | .variant _, _ => rfl

theorem itemSites_eq_nil (assignable : Bool) (path : String) (index : Nat) :
    ∀ items : List TypeNode, declaresItem items = false → itemSites assignable path index items = []
  | [], _ => rfl
  | item :: rest, h => by
    rw [declaresItem, Bool.or_eq_false_iff] at h
    rw [itemSites, sites_eq_nil assignable _ item h.1,
      itemSites_eq_nil assignable path (index + 1) rest h.2]
    rfl

end

/-- The member of a field whose type has a shape. A preset member starts with its value; any other
member of an assignable struct has no array declarator. -/
def memberOf? (target : Target) (assignable : Bool) (field : FieldNode) (s : Shape) :
    Option Member :=
  let name := Naming.pascal field.name
  let element := s.element.spelling target.flavor
  match presetValue field.defaultValue field.strategy with
  | some value =>
    (literal target false value).toOption.map fun l =>
      ⟨field.docs, element, name, s.dims, some l.text⟩
  | none =>
    if assignable then some ⟨field.docs, s.spelling target.flavor, name, [], none⟩
    else some ⟨field.docs, element, name, s.dims, none⟩

/-- The member of a field in the struct at a path. -/
def member? (target : Target) (assignable : Bool) (path : String) (field : FieldNode) :
    Option Member :=
  (shape target.flavor (fieldPath path field.name) .none field.type).bind
    (memberOf? target assignable field)

/-- The number that an enum is stored as. -/
def enumBase? (flavor : Flavor) (size : TypeNode) : Option String :=
  size.number?.bind fun number =>
    if number.endian = littleEndian then flavor.number? number.format else none

namespace Site

/-- The declaration at a site. -/
def declaration? (target : Target) : Site → Option Declaration
  | .struct path assignable fields =>
    (fields.mapM (member? target assignable path)).map
      (.struct (target.flavor.structName path))
  | .enum path variants size =>
    if isScalar variants then
      (enumBase? target.flavor size).map fun base =>
        .enum (target.flavor.structName path) base (variants.map enumeratorOf)
    else none

/-- What the node at a site needs to be declared, apart from what stands below it: a shape for
every field and a literal for every preset value, or a number that stores an enum without data. -/
def Declarable (target : Target) : Site → Prop
  | .struct path _ fields =>
    ∀ field ∈ fields,
      (shape target.flavor (fieldPath path field.name) .none field.type).isSome ∧
        ∀ value, presetValue field.defaultValue field.strategy = some value →
          ∃ l, literal target false value = .ok l
  | .enum _ variants size => isScalar variants = true ∧ (enumBase? target.flavor size).isSome

end Site

theorem mapM_cons_eq_bind_map {α β : Type} (f : α → Option β) (x : α) (rest : List α) :
    (x :: rest).mapM f = (f x).bind fun y => (rest.mapM f).map (y :: ·) := by
  rw [List.mapM_cons]
  cases f x <;> cases rest.mapM f <;> rfl

private theorem mapM_isSome_iff {α β : Type} (f : α → Option β) (xs : List α) :
    (xs.mapM f).isSome ↔ ∀ x ∈ xs, (f x).isSome := by
  induction xs with
  | nil => simp
  | cons x rest ih =>
    rw [mapM_cons_eq_bind_map, List.forall_mem_cons, ← ih]
    cases f x <;> simp

private theorem memberOf?_isSome_iff (target : Target) (assignable : Bool) (field : FieldNode)
    (s : Shape) :
    (memberOf? target assignable field s).isSome ↔
      ∀ value, presetValue field.defaultValue field.strategy = some value →
        ∃ l, literal target false value = .ok l := by
  unfold memberOf?
  cases presetValue field.defaultValue field.strategy with
  | none => cases assignable <;> simp
  | some value => cases hl : literal target false value <;> simp [hl, Except.toOption]

private theorem member?_isSome_iff (target : Target) (assignable : Bool) (path : String)
    (field : FieldNode) :
    (member? target assignable path field).isSome ↔
      (shape target.flavor (fieldPath path field.name) .none field.type).isSome ∧
        ∀ value, presetValue field.defaultValue field.strategy = some value →
          ∃ l, literal target false value = .ok l := by
  unfold member?
  cases shape target.flavor (fieldPath path field.name) .none field.type with
  | none => simp
  | some s => simp [memberOf?_isSome_iff]

theorem Site.declaration?_isSome_iff (target : Target) (site : Site) :
    (site.declaration? target).isSome ↔ site.Declarable target := by
  cases site with
  | struct path assignable fields =>
    simp only [declaration?, Declarable, Option.isSome_map, mapM_isSome_iff, member?_isSome_iff]
  | enum path variants size =>
    by_cases hscalar : isScalar variants = true <;> simp [declaration?, Declarable, hscalar]

/-- The declarations at sites, in order. -/
def declarations? (target : Target) (list : List Site) : Option (List Declaration) :=
  list.mapM (·.declaration? target)

theorem declarations?_isSome_iff (target : Target) (list : List Site) :
    (declarations? target list).isSome ↔ ∀ site ∈ list, site.Declarable target := by
  simp only [declarations?, mapM_isSome_iff, Site.declaration?_isSome_iff]

theorem declarations?_append (target : Target) (first second : List Site) :
    declarations? target (first ++ second) =
      (declarations? target first).bind fun before =>
        (declarations? target second).map (before ++ ·) := by
  unfold declarations?
  rw [List.mapM_append]
  cases first.mapM (·.declaration? target) <;> cases second.mapM (·.declaration? target) <;> rfl

theorem declarations?_singleton (target : Target) (site : Site) :
    declarations? target [site] = (site.declaration? target).map ([·]) := by
  unfold declarations?
  cases h : site.declaration? target <;> simp [h]

theorem Site.declaration?_name {target : Target} {site : Site} {decl : Declaration}
    (h : site.declaration? target = some decl) :
    decl.name = target.flavor.structName site.path := by
  cases site with
  | struct path assignable fields =>
    obtain ⟨members, _, rfl⟩ := Option.map_eq_some_iff.mp h
    rfl
  | enum path variants size =>
    rw [declaration?] at h
    split at h
    · obtain ⟨base, _, rfl⟩ := Option.map_eq_some_iff.mp h
      rfl
    · cases h

/-- A site that is among others together with everything below it. -/
structure Site.Inside (site : Site) (list : List Site) : Prop where
  path : site.path ≠ ""
  placed : wellPlaced site.node = true
  below : sites site.context.assignable site.path site.node ⊆ list

theorem Site.Inside.mono {site : Site} {list list' : List Site} (h : site.Inside list)
    (hsubset : list ⊆ list') : site.Inside list' :=
  ⟨h.path, h.placed, List.Subset.trans h.below hsubset⟩

mutual

/-- Everything below a site of a type is a site of that type. -/
theorem sites_inside (assignable : Bool) {path : String} (hpath : path ≠ "") :
    ∀ type : TypeNode, wellPlaced type = true →
      ∀ site ∈ sites assignable path type, site.Inside (sites assignable path type)
  | .amount inner _ _, hplaced => sites_inside assignable hpath inner hplaced
  | .solAmount inner, hplaced => sites_inside assignable hpath inner hplaced
  | .dateTime inner, hplaced => sites_inside assignable hpath inner hplaced
  | .fixedSize _ inner, hplaced => sites_inside assignable hpath inner hplaced
  | .sizePrefix _ inner, hplaced => sites_inside assignable hpath inner hplaced
  | .array inner _, hplaced => sites_inside assignable hpath inner hplaced
  | .option inner _ _, hplaced => sites_inside assignable hpath inner hplaced
  | .struct fields, hplaced => by
    intro site hsite
    rw [sites, List.mem_append, List.mem_singleton] at hsite
    rcases hsite with hsite | rfl
    · rw [sites]
      exact (fieldSites_inside hpath fields hplaced site hsite).mono (List.subset_append_left _ _)
    · exact ⟨hpath, hplaced, List.Subset.refl _⟩
  | .enum variants size, hplaced => by
    intro site hsite
    rw [sites, List.mem_singleton] at hsite
    subst hsite
    exact ⟨hpath, hplaced, List.Subset.refl _⟩
  | .tuple items, hplaced => itemSites_inside assignable hpath 0 items hplaced
  | .number _, _ | .boolean _, _ | .bytes, _ | .string _, _ | .map .., _ | .set .., _
  | .publicKey, _ | .link _, _ => by simp [sites]

theorem fieldSites_inside {path : String} (hpath : path ≠ "") :
    ∀ fields : List FieldNode, wellPlacedFields fields = true →
      ∀ site ∈ fieldSites path fields, site.Inside (fieldSites path fields)
  | [], _ => by simp [fieldSites]
  | ⟨name, type, _, _, _⟩ :: rest, hplaced => by
    rw [wellPlacedFields, Bool.and_eq_true] at hplaced
    intro site hsite
    rw [fieldSites, List.mem_append] at hsite
    rw [fieldSites]
    rcases hsite with hsite | hsite
    · exact (sites_inside false (fieldPath_ne_empty name hpath) type hplaced.1 site hsite).mono
        (List.subset_append_left _ _)
    · exact (fieldSites_inside hpath rest hplaced.2 site hsite).mono (List.subset_append_right _ _)

theorem itemSites_inside (assignable : Bool) {path : String} (hpath : path ≠ "") (index : Nat) :
    ∀ items : List TypeNode, wellPlacedItems items = true →
      ∀ site ∈ itemSites assignable path index items,
        site.Inside (itemSites assignable path index items)
  | [], _ => by simp [itemSites]
  | item :: rest, hplaced => by
    rw [wellPlacedItems, Bool.and_eq_true] at hplaced
    intro site hsite
    rw [itemSites, List.mem_append] at hsite
    rw [itemSites]
    rcases hsite with hsite | hsite
    · exact (sites_inside assignable (itemPath_ne_empty index hpath) item hplaced.1 site hsite).mono
        (List.subset_append_left _ _)
    · exact (itemSites_inside assignable hpath (index + 1) rest hplaced.2 site hsite).mono
        (List.subset_append_right _ _)

end

theorem Site.mem_sites_self (site : Site) :
    site ∈ sites site.context.assignable site.path site.node := by
  cases site <;> simp [sites, node, path, context]

end ClientGen.Cpp
