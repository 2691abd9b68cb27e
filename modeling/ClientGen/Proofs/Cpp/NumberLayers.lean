import ClientGen.Proofs.Cpp.SizeHints
/-!
# Numbers in layers

Sizes and marks may stand around a number in any order and any number. Whoever looks for the number
passes all of them, and lowering comes down to the number as well: a number has its own width, so no
length around it matters. Only a size whose prefix is not a number shows, as an error.
-/
namespace ClientGen.Cpp

open ClientGen.Idl

/-- The layers around a type, the outermost first. -/
def layersOf : TypeNode → List Layer
  | .amount inner decimals unit => .amount decimals unit :: layersOf inner
  | .solAmount inner => .solAmount :: layersOf inner
  | .dateTime inner => .dateTime :: layersOf inner
  | .fixedSize size inner => .fixedSize size :: layersOf inner
  | .sizePrefix length inner => .sizePrefix length :: layersOf inner
  | _ => []

/-- The kind of the prefix of a size, if the prefix is not a number. -/
def Layer.unreadable? : Layer → Option TypeKind
  | .sizePrefix length => if length.number?.isNone then some length.kind else none
  | _ => none

section

variable {target : Target} {ctx : Context} {number : NumberType}

theorem eq_layers_of_number? : ∀ type : TypeNode, type.number? = some number →
    type = (layersOf type).foldr Layer.around (.number number)
  | .number _, h => congrArg TypeNode.number (Option.some.inj h)
  | .amount inner decimals unit, h =>
    congrArg (Layer.amount decimals unit).around (eq_layers_of_number? inner h)
  | .solAmount inner, h => congrArg Layer.solAmount.around (eq_layers_of_number? inner h)
  | .dateTime inner, h => congrArg Layer.dateTime.around (eq_layers_of_number? inner h)
  | .fixedSize size inner, h =>
    congrArg (Layer.fixedSize size).around (eq_layers_of_number? inner h)
  | .sizePrefix length inner, h =>
    congrArg (Layer.sizePrefix length).around (eq_layers_of_number? inner h)

theorem lower_unreadable {layer : Layer} {kind : TypeKind} (h : layer.unreadable? = some kind)
    (type : TypeNode) :
    lower target ctx (layer.around type) = unsupported (.sizePrefix kind) := by
  cases layer with
  | amount | solAmount | dateTime | fixedSize => cases h
  | sizePrefix length =>
    rw [Layer.unreadable?] at h
    cases hnumber : length.number? with
    | some number => simp [hnumber] at h
    | none =>
      simp only [hnumber, Option.isNone_none, if_true, Option.some.injEq] at h
      rw [Layer.around, lower, hnumber]
      exact congrArg (fun kind => unsupported (.sizePrefix kind)) h

/-- Whatever else a layer is, it may change the length around the type inside of it, and no more. -/
theorem lower_readable {layer : Layer} (h : layer.unreadable? = none) (target : Target)
    (ctx : Context) (type : TypeNode) :
    ∃ size, lower target ctx (layer.around type) = lower target (ctx.withSize size) type := by
  cases layer with
  | amount | solAmount | dateTime => exact ⟨ctx.size, lower_mark rfl type⟩
  | fixedSize size => exact ⟨_, lower_size rfl type⟩
  | sizePrefix length =>
    cases hnumber : length.number? with
    | some number => exact ⟨.prefixed number, lower_size (by simp [Layer.size?, hnumber]) type⟩
    | none => simp [Layer.unreadable?, hnumber] at h

theorem lower_number (ctx ctx' : Context) :
    lower target ctx (.number number) = lower target ctx' (.number number) := by
  rw [lower, lower]

/-- The outermost size without a number in front decides; if there is none, the number does. -/
theorem lower_layers_number (layers : List Layer) (ctx : Context) :
    lower target ctx (layers.foldr Layer.around (.number number)) =
      match layers.findSome? Layer.unreadable? with
      | some kind => unsupported (.sizePrefix kind)
      | none => lower target ctx (.number number) := by
  induction layers generalizing ctx with
  | nil => rfl
  | cons layer rest ih =>
    rw [List.foldr_cons, List.findSome?_cons]
    cases hlayer : layer.unreadable? with
    | some kind => exact lower_unreadable hlayer _
    | none =>
      obtain ⟨size, hsize⟩ := lower_readable hlayer target ctx
        (rest.foldr Layer.around (.number number))
      rw [hsize, ih, lower_number (ctx.withSize size) ctx]

/-- A type in which a number is found is the number in layers. It is lowered as the number is,
unless a size has something else than a number in front, which is an error. So it does not matter
which layers there are, in which order, how large they are, or what length is around them. -/
theorem nested_number_lowers_as_number (target : Target) {type : TypeNode} {number : NumberType}
    (h : type.number? = some number) :
    type = (layersOf type).foldr Layer.around (.number number) ∧
    (∀ ctx, lower target ctx type =
      match (layersOf type).findSome? Layer.unreadable? with
      | some kind => unsupported (.sizePrefix kind)
      | none => lower target ctx (.number number)) ∧
    ∀ (layers : List Layer) (ctx ctx' : Context),
      (∀ layer ∈ layersOf type, layer.unreadable? = none) →
      (∀ layer ∈ layers, layer.unreadable? = none) →
      lower target ctx type =
        lower target ctx' (layers.foldr Layer.around (.number number)) := by
  have htype := eq_layers_of_number? type h
  have hlower (ctx : Context) : lower target ctx type =
      match (layersOf type).findSome? Layer.unreadable? with
      | some kind => unsupported (.sizePrefix kind)
      | none => lower target ctx (.number number) := by
    rw [← lower_layers_number, ← htype]
  refine ⟨htype, hlower, ?_⟩
  intro layers ctx ctx' hreadable hothers
  rw [hlower, lower_layers_number, List.findSome?_eq_none_iff.mpr hreadable,
    List.findSome?_eq_none_iff.mpr hothers]
  exact lower_number ctx ctx'

/-- A time with its length in front is lowered as an amount of a fixed size; with text in front it
is not lowered at all. -/
theorem nested_number_lowers_as_number_time :
    let target : Target := ⟨.unreal5, "Vault"⟩
    let number := NumberType.little "i64"
    let time := TypeNode.sizePrefix (.number (.little "u32")) (.dateTime (.number number))
    let odd := TypeNode.fixedSize 8 (.sizePrefix (.string "utf8") (.dateTime (.number number)))
    time.number? = some number ∧ odd.number? = some number ∧
      lower target (.root "Vault") time =
        lower target (.root "") (.solAmount (.fixedSize 8 (.number number))) ∧
      lower target (.root "Vault") odd = unsupported (.sizePrefix .string) := by
  intro target number time odd
  have hnumber : time.number? = some number := rfl
  have hnumber' : odd.number? = some number := rfl
  obtain ⟨-, -, htime⟩ := nested_number_lowers_as_number target hnumber
  obtain ⟨-, hodd, -⟩ := nested_number_lowers_as_number target hnumber'
  refine ⟨hnumber, hnumber', htime [.solAmount, .fixedSize 8] _ _ ?_ ?_, hodd (.root "Vault")⟩
  · decide
  · decide

end

end ClientGen.Cpp
