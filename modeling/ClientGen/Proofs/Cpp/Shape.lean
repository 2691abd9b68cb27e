import ClientGen.Cpp.Lowering
/-!
# Shapes of types

A reference for lowering that knows neither spellings nor headers. A type has a shape, or none if
it has no counterpart. The shape holds the whole structure of the lowered type, the fixed arrays
included; only the spelling depends on the dialect. Structs and enums count as the declaration that
is named after the path to them, whatever stands in their bodies.
-/
namespace ClientGen.Cpp

open ClientGen.Idl

/-- A type of the generated code, apart from its spelling. -/
inductive Shape where
  | number (format : String)
  | bool
  | string
  | key
  /-- A defined type. -/
  | link (name : String)
  /-- The struct or enum that is declared for a path. -/
  | declared (path : String)
  | sequence (item : Shape)
  | array (size : Int) (item : Shape)
  | optional (item : Shape)
  | tuple (items : List Shape)

mutual

/-- The spelling of a shape where no name follows, so that fixed arrays are written as types. -/
def Shape.spelling (flavor : Flavor) : Shape → String
  | .number format => flavor.numberName format
  | .bool => flavor.bool
  | .string => flavor.string.spelling
  | .key => flavor.publicKey.spelling
  | .link name => flavor.structName (Naming.pascal name)
  | .declared path => flavor.structName path
  | .sequence item => flavor.sequence.spelling.apply (item.spelling flavor)
  | .array size item => flavor.arrayOf (item.spelling flavor) size
  | .optional item => flavor.optional.spelling.apply (item.spelling flavor)
  | .tuple items => flavor.tuple.spelling.apply (String.intercalate ", " (spellings flavor items))

/-- The spellings of shapes. -/
def spellings (flavor : Flavor) : List Shape → List String
  | [] => []
  | item :: rest => item.spelling flavor :: spellings flavor rest

end

/-- The lengths of the fixed arrays around a shape, outermost first. -/
def Shape.dims : Shape → List Int
  | .array size item => size :: item.dims
  | _ => []

/-- What the fixed arrays around a shape hold. -/
def Shape.element : Shape → Shape
  | .array _ item => item.element
  | shape => shape

theorem Shape.spelling_eq_foldr_dims (flavor : Flavor) : ∀ shape : Shape,
    shape.spelling flavor =
      shape.dims.foldr (fun size type => flavor.arrayOf type size)
        (shape.element.spelling flavor)
  | .array size item => by
    simp only [Shape.spelling, Shape.dims, Shape.element, List.foldr_cons]
    rw [spelling_eq_foldr_dims flavor item]
  | .number _ | .bool | .string | .key | .link _ | .declared _ | .sequence _ | .optional _
  | .tuple _ => rfl

/-- The path of a field below the struct at a path. -/
def fieldPath (path name : String) : String := path ++ Naming.pascal name

/-- The path of an item below the tuple at a path. -/
def itemPath (path : String) (index : Nat) : String := path ++ "Item" ++ index.repr

private theorem append_ne_empty {first : String} (second : String) (h : first ≠ "") :
    first ++ second ≠ "" := by
  intro happend
  have hlist := congrArg String.toList happend
  rw [String.toList_append] at hlist
  apply h
  apply String.toList_injective
  exact (List.append_eq_nil_iff.mp hlist).1

theorem fieldPath_ne_empty {path : String} (name : String) (h : path ≠ "") :
    fieldPath path name ≠ "" :=
  append_ne_empty _ h

theorem itemPath_ne_empty {path : String} (index : Nat) (h : path ≠ "") :
    itemPath path index ≠ "" :=
  append_ne_empty _ (append_ne_empty _ h)

/-- The numbers that may count the items of an array. -/
def countNumbers : List NumberType := [.little "u8", .little "u16", .little "u32", .little "u64"]

/-- The shape of a number that the dialect has. -/
def numberShape (flavor : Flavor) (number : NumberType) : Option Shape :=
  if number.endian = littleEndian ∧ (flavor.number? number.format).isSome then
    some (.number number.format)
  else none

/-- The shape of items behind their number. -/
def countedShape (number : Option NumberType) (item : Shape) : Option Shape :=
  if ∃ count ∈ countNumbers, number = some count then some (.sequence item) else none

/-- The shape of an array. -/
def arrayShape (item : Shape) : CountNode → Option Shape
  | .fixed size => some (.array size item)
  | .prefixed number => countedShape number.number? item
  | .remainder => some (.sequence item)

/-- The shape of bytes that the wrapper around them counts. -/
def bytesShape (item : Shape) : SizeHint → Option Shape
  | .none => some (.sequence item)
  | .fixed size => some (.array size item)
  | .prefixed number => countedShape (some number) item

mutual

/-- The shape of the type at a path, given the length that the wrapper around it tells. -/
def shape (flavor : Flavor) (path : String) (hint : SizeHint) : TypeNode → Option Shape
  | .number number => numberShape flavor number
  | .amount inner _ _ => shape flavor path hint inner
  | .solAmount inner => shape flavor path hint inner
  | .dateTime inner => shape flavor path hint inner
  | .boolean size => if size.number? = some (.little "u8") then some .bool else none
  | .fixedSize size inner => shape flavor path (.fixed size) inner
  | .sizePrefix length inner =>
    match length.number? with
    | none => none
    | some number => shape flavor path (.prefixed number) inner
  | .bytes => (numberShape flavor (.little "u8")).bind (bytesShape · hint)
  | .string _ => if hint = .prefixed (.little "u32") then some .string else none
  | .array inner count => (shape flavor path .none inner).bind (arrayShape · count)
  | .option inner flag _ =>
    if flag.number? = some (.little "u8") then (shape flavor path .none inner).map .optional
    else none
  | .struct _ => some (.declared path)
  | .enum variants _ => if isScalar variants then some (.declared path) else none
  | .tuple items => (itemShapes flavor path 0 items).map .tuple
  | .publicKey => some .key
  | .link name => some (.link name)
  | .field _ => none
  | .variant _ => none
  | .map .. => none
  | .set .. => none

/-- The shapes of the items of the tuple at a path, the first of which has number `index`. -/
def itemShapes (flavor : Flavor) (path : String) (index : Nat) :
    List TypeNode → Option (List Shape)
  | [] => some []
  | item :: rest =>
    (shape flavor (itemPath path index) .none item).bind fun first =>
      (itemShapes flavor path (index + 1) rest).map (first :: ·)

end

mutual

/-- Whether fields and variants stand only below their struct or enum, as far as a type is
lowered. -/
def wellPlaced : TypeNode → Bool
  | .field _ => false
  | .variant _ => false
  | .amount inner _ _ => wellPlaced inner
  | .solAmount inner => wellPlaced inner
  | .dateTime inner => wellPlaced inner
  | .fixedSize _ inner => wellPlaced inner
  | .sizePrefix _ inner => wellPlaced inner
  | .array inner _ => wellPlaced inner
  | .option inner _ _ => wellPlaced inner
  | .struct fields => wellPlacedFields fields
  | .tuple items => wellPlacedItems items
  | _ => true

/-- Whether the types of fields are well placed. -/
def wellPlacedFields : List FieldNode → Bool
  | [] => true
  | ⟨_, type, _, _, _⟩ :: rest => wellPlaced type && wellPlacedFields rest

/-- Whether the items of a tuple are well placed. -/
def wellPlacedItems : List TypeNode → Bool
  | [] => true
  | item :: rest => wellPlaced item && wellPlacedItems rest

end

end ClientGen.Cpp
