import ComponentInliner.Proofs.Fold.Strings

/-!
# Values of scalar values

An expression has a value whose strings hold no surrogate if no text that is spelled in it, and in
what its value needs, holds one. A literal can spell a surrogate by an escape sequence. Nothing else
makes one: texts without surrogates are put together to a text without surrogates.
-/

namespace ComponentInliner

open Text

namespace Value

/-- The strings in a value consist of scalar values. The names of properties do not count. -/
inductive IsScalar : Value → Prop
  | undefined : IsScalar .undefined
  | null : IsScalar .null
  | boolean (flag : Bool) : IsScalar (.boolean flag)
  | number (double : Float) : IsScalar (.number double)
  | string {text : Text} (isScalar : text.IsScalar) : IsScalar (.string text)
  | array {elements : List Value} (origin : Span)
      (areScalar : ∀ element ∈ elements, IsScalar element) : IsScalar (.array origin elements)
  | record {properties : OrderedMap Text Value} (origin : Span)
      (areScalar : ∀ entry ∈ properties.entries, IsScalar entry.2) :
      IsScalar (.record origin properties)

theorem Consists.isScalar {value : Value}
    (consists : value.Consists Text.IsScalar fun _ => True) : value.IsScalar := by
  induction consists with
  | undefined => exact .undefined
  | null => exact .null
  | boolean flag => exact .boolean flag
  | number double => exact .number double
  | string isScalar => exact .string isScalar
  | array origin _ ih => exact .array origin ih
  | record origin _ _ ih => exact .record origin ih

end Value

theorem durable_isScalar : Durable Text.IsScalar fun _ => True where
  scalar isScalar := isScalar
  separated left right :=
    isScalar_append.mpr ⟨isScalar_append.mpr ⟨left, isScalar_ofString _⟩, right⟩
  point isScalar mem := isScalar_cons.mpr ⟨isScalar _ mem, isScalar_nil⟩
  key _ := trivial

namespace Fold

/-- No text is spelled with a surrogate in an expression or in what its value needs. -/
def SpellsScalars (bindings : BindingTable) (node : Node) : Prop :=
  ∀ needed, Relation.ReflTransGen (Needs bindings) node needed →
    ∀ text ∈ needed.spelledTexts, text.IsScalar

theorem SpellsScalars.madeOf {bindings : BindingTable} {node : Node}
    (spells : SpellsScalars bindings node) :
    MadeOf bindings Text.IsScalar (fun _ => True) node where
  texts := spells
  names _ _ _ _ := trivial
  joins _ _ pieces _ areScalar point mem := by
    rcases List.mem_flatten.mp mem with ⟨piece, pieceMem, pointMem⟩
    exact areScalar piece pieceMem point pointMem

theorem DerivedWithin.isScalar {bindings : BindingTable} {height : Nat} {node : Node}
    {value : Value} (derived : DerivedWithin bindings height node value)
    (spells : SpellsScalars bindings node) : value.IsScalar :=
  (derived.consists durable_isScalar spells.madeOf).isScalar

end Fold

end ComponentInliner
