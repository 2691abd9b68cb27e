import ClientGen.Proofs.Cpp.Site
/-!
# Lowering tracks its reference

Lowering a type, a list of fields or a list of items comes to what shapes and sites tell: it fails
exactly if a shape or a declaration is missing, and otherwise the two parts of the reference are
the two parts of the outcome. Errors are not told apart here, and headers are left out.
-/
namespace ClientGen.Cpp

open ClientGen.Idl

theorem Generated.bind_eq_ok_iff {α β : Type} {x : Generated α} {f : α → Generated β} {b : β} :
    (x >>= f) = .ok b ↔ ∃ a, x = .ok a ∧ f a = .ok b := by
  cases x with
  | error e =>
    constructor
    · intro h
      cases h
    · rintro ⟨a, ha, -⟩
      cases ha
  | ok a =>
    constructor
    · intro h
      exact ⟨a, rfl, h⟩
    · rintro ⟨a', ha, h⟩
      cases ha
      exact h

theorem Generated.exists_ok {α : Type} {x : Generated α} (h : x.toBool = true) :
    ∃ a, x = .ok a := by
  cases x with
  | error e => cases h
  | ok a => exact ⟨a, rfl⟩

theorem Generated.inside_eq_ok_iff {α : Type} {place : Place} {x : Generated α} {a : α} :
    Generated.inside place x = .ok a ↔ x = .ok a := by
  cases x with
  | error e =>
    constructor
    · intro h
      cases h
    · intro h
      cases h
  | ok a => exact Iff.rfl

/-- An outcome against a reference in two parts: it is an error exactly if a part is missing. -/
inductive Tracks {α β γ : Type} (rel : α → β → γ → Prop) :
    Generated α → Option β → Option γ → Prop
  | done (a : α) (b : β) (c : γ) (h : rel a b c) : Tracks rel (.ok a) (some b) (some c)
  | noFirst (e : Error) (c : Option γ) : Tracks rel (.error e) none c
  | noSecond (e : Error) (b : Option β) : Tracks rel (.error e) b none

section

variable {α α' α'' β β' β'' γ γ' γ'' : Type} {rel : α → β → γ → Prop} {rel' : α' → β' → γ' → Prop}
  {rel'' : α'' → β'' → γ'' → Prop}

theorem Tracks.ok_iff {x : Generated α} {b : Option β} {c : Option γ} (h : Tracks rel x b c) :
    (∃ a, x = .ok a) ↔ b.isSome ∧ c.isSome := by
  cases h <;> simp

theorem Tracks.of_ok {a : α} {b : Option β} {c : Option γ} (h : Tracks rel (.ok a) b c) :
    ∃ b' c', b = some b' ∧ c = some c' ∧ rel a b' c' := by
  cases h with
  | done a b c h => exact ⟨b, c, rfl, rfl, h⟩

theorem Tracks.inside {x : Generated α} {b : Option β} {c : Option γ} (place : Place)
    (h : Tracks rel x b c) : Tracks rel (Generated.inside place x) b c := by
  cases h with
  | done a b c h => exact .done a b c h
  | noFirst e c => exact .noFirst _ c
  | noSecond e b => exact .noSecond _ b

/-- A step that looks at the first part only. -/
theorem Tracks.bind {x : Generated α} {b : Option β} {c : Option γ} {f : α → Generated α'}
    {g : β → Option β'} {rel' : α' → β' → γ → Prop} (h : Tracks rel x b c)
    (hf : ∀ a b c, rel a b c → Tracks rel' (f a) (g b) (some c)) :
    Tracks rel' (x >>= f) (b.bind g) c := by
  cases h with
  | done a b c h => exact hf a b c h
  | noFirst e c => exact .noFirst e c
  | noSecond e b => exact .noSecond e _

/-- Two outcomes one after another. -/
theorem Tracks.both {x : Generated α} {b : Option β} {c : Option γ} {y : α → Generated α'}
    {b' : Option β'} {c' : Option γ'} {f : α → α' → α''} {g : β → β' → β''} {k : γ → γ' → γ''}
    (hx : Tracks rel x b c) (hy : ∀ a, Tracks rel' (y a) b' c')
    (hf : ∀ a b c a' b' c', rel a b c → rel' a' b' c' → rel'' (f a a') (g b b') (k c c')) :
    Tracks rel'' (x >>= fun a => y a >>= fun a' => .ok (f a a'))
      (b.bind fun b => b'.map (g b)) (c.bind fun c => c'.map (k c)) := by
  cases hx with
  | done a b c h =>
    have hya := hy a
    change Tracks rel'' (y a >>= fun a' => .ok (f a a')) (b'.map (g b)) (c'.map (k c))
    generalize y a = z at hya ⊢
    cases hya with
    | done a' b' c' h' => exact .done _ _ _ (hf a b c a' b' c' h h')
    | noFirst e c' => exact .noFirst e _
    | noSecond e b' => exact .noSecond e _
  | noFirst e c => exact .noFirst e _
  | noSecond e b => exact .noSecond e _

end

/-- An item inherits all but the path from the tuple around it. -/
theorem Context.item_eq (ctx : Context) (index : Nat) :
    ∃ parent, ctx.item index = { ctx.child with parent := parent } := by
  unfold Context.item
  split
  · exact ⟨ctx.parent, rfl⟩
  · exact ⟨ctx.parent ++ "Item" ++ index.repr, rfl⟩

/-- A manifest against a shape and the hoisted declarations: the fixed arrays around the shape are
beside the spelling of what they hold. -/
structure Manifest.Spells (flavor : Flavor) (m : Manifest) (s : Shape)
    (declared : List Declaration) : Prop where
  type : m.type = s.element.spelling flavor
  dims : m.dims = s.dims
  nested : m.nested = declared

section

variable {target : Target} {m : Manifest} {s : Shape} {declared : List Declaration}

theorem Manifest.Spells.plain {type : String} (header : Option String)
    (htype : type = s.element.spelling target.flavor) (hdims : s.dims = []) :
    (Manifest.plain type header).Spells target.flavor s [] :=
  ⟨htype, hdims.symm, rfl⟩

@[simp] theorem Manifest.materialize_dims : (m.materialize target).dims = [] := by
  unfold materialize
  split
  · rename_i hempty
    exact List.isEmpty_iff.mp hempty
  · rfl

@[simp] theorem Manifest.materialize_nested : (m.materialize target).nested = m.nested := by
  unfold materialize
  split <;> rfl

/-- Folding writes the whole shape as a type. -/
theorem Manifest.Spells.materialize_type (h : m.Spells target.flavor s declared) :
    (m.materialize target).type = s.spelling target.flavor := by
  rw [Shape.spelling_eq_foldr_dims, ← h.type, ← h.dims]
  unfold Manifest.materialize
  split
  · rename_i hempty
    rw [List.isEmpty_iff.mp hempty, List.foldr_nil]
  · rfl

theorem Manifest.Spells.wrap {outer : GenericType} {s' : Shape}
    (h : m.Spells target.flavor s declared)
    (htype : s'.element.spelling target.flavor = outer.spelling.apply (s.spelling target.flavor))
    (hdims : s'.dims = []) : (m.wrap target outer).Spells target.flavor s' declared := by
  refine ⟨?_, ?_, ?_⟩
  · rw [htype, ← h.materialize_type]
    rfl
  · rw [hdims]
    exact Manifest.materialize_dims
  · rw [← h.nested]
    exact Manifest.materialize_nested

theorem Manifest.Spells.sequence (h : m.Spells target.flavor s declared) :
    (m.wrap target target.flavor.sequence).Spells target.flavor (.sequence s) declared :=
  h.wrap rfl rfl

theorem Manifest.Spells.optional (h : m.Spells target.flavor s declared) :
    (m.wrap target target.flavor.optional).Spells target.flavor (.optional s) declared :=
  h.wrap rfl rfl

theorem Manifest.Spells.array (h : m.Spells target.flavor s declared) (size : Int) :
    { m with dims := size :: m.dims : Manifest }.Spells target.flavor (.array size s) declared :=
  ⟨h.type, by rw [h.dims, Shape.dims], h.nested⟩

end

end ClientGen.Cpp
