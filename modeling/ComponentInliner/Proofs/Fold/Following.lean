import ComponentInliner.Proofs.Fold.Steps

/-!
# Runs that go side by side

Two foldings of one expression may start from different memos. As long as everything that is asked
for on the way has a value in the first run, the second one asks for the same. A `Pairing` says
what is to be shown of two runs that go side by side; the handlers keep to every pairing, so that
one proof serves all of them. Nothing is said of runs in which a value is missing.
-/

namespace ComponentInliner.Fold

/-- An action never finds a value. -/
def Vain {Result : Type} (action : FoldM (Option Result)) : Prop :=
  ∀ before value after, ¬Runs action before (some value) after

theorem vain_pure {Result : Type} : Vain (pure (none : Option Result)) :=
  fun _ _ _ ran => nomatch (Runs.pure_iff.mp ran).1

theorem Vain.bind {Result Next : Type} {action : FoldM Result}
    {next : Result → FoldM (Option Next)} (vain : ∀ result, Vain (next result)) :
    Vain (action >>= next) := by
  intro before value after ran
  rcases Runs.bind_iff.mp ran with ⟨middle, between, -, rest⟩
  exact vain middle between value after rest

/-- What is shown of an action that goes along while another one takes a memo to another. -/
structure Pairing where
  pairs : {Result : Type} → FoldMemo → FoldM Result → Result → FoldMemo → Prop
  idle : ∀ {Result : Type} {memo : FoldMemo} {result : Result}, pairs memo (pure result) result memo
  chain : ∀ {Result Next : Type} {before between after : FoldMemo} {action : FoldM Result}
    {next : Result → FoldM Next} {middle : Result} {result : Next},
    pairs before action middle between → pairs between (next middle) result after →
    pairs before (action >>= next) result after

/-- Whenever an action finds a value, another one goes along. -/
def Pairing.Keeps (pairing : Pairing) {Result : Type} (action along : FoldM (Option Result)) :
    Prop :=
  ∀ before value after, Runs action before (some value) after →
    pairing.pairs before along (some value) after

namespace Pairing.Keeps

variable {pairing : Pairing} {Result Next : Type}

theorem pure {result : Option Result} : pairing.Keeps (pure result) (pure result) := by
  intro before value after ran
  rcases Runs.pure_iff.mp ran with ⟨rfl, rfl⟩
  exact pairing.idle

theorem of_vain {action along : FoldM (Option Result)} (vain : Vain action) :
    pairing.Keeps action along :=
  fun before value after ran => absurd ran (vain before value after)

theorem bind {action along : FoldM (Option Result)}
    {next nextAlong : Option Result → FoldM (Option Next)} (first : pairing.Keeps action along)
    (rest : ∀ value, pairing.Keeps (next (some value)) (nextAlong (some value)))
    (vain : Vain (next none)) : pairing.Keeps (action >>= next) (along >>= nextAlong) := by
  intro before value after ran
  rcases Runs.bind_iff.mp ran with ⟨_ | middle, between, onFirst, onRest⟩
  · exact absurd onRest (vain between value after)
  · exact pairing.chain (first _ _ _ onFirst) (rest _ _ _ _ onRest)

theorem settle {outcome : Except ValueFault Value} :
    pairing.Keeps (settle outcome) (settle outcome) := by
  rcases outcome with fault | value
  · cases fault with
    | indexTooLong => exact fun _ _ _ ran => absurd ran Runs.not_throw
    | _ => exact pure
  · exact pure

end Pairing.Keeps

section Handlers

variable {pairing : Pairing} {self along : Node → FoldM (Option Value)}
  (parts : ∀ child, pairing.Keeps (self child) (along child))

include parts

theorem foldElements_keeps (elements : List (Option Node)) :
    pairing.Keeps (foldElements self elements) (foldElements along elements) := by
  induction elements with
  | nil => exact .pure
  | cons element rest ih =>
      cases element with
      | none => exact .bind ih (fun _ => .pure) vain_pure
      | some node =>
          refine .bind (parts _) (fun value => ?_) vain_pure
          simp only [Option.bind_some]
          cases elementValues? node value with
          | none => exact .pure
          | some values => exact .bind ih (fun _ => .pure) vain_pure

theorem foldTemplate_keeps (text : Text) (substitutions : List (Node × Text)) :
    pairing.Keeps (foldTemplate self text substitutions)
      (foldTemplate along text substitutions) := by
  induction substitutions generalizing text with
  | nil => exact .pure
  | cons substitution rest ih => exact .bind (parts _) (fun _ => ih _) vain_pure

theorem foldKey_keeps (key : Node) (isComputed : Bool) :
    pairing.Keeps (foldKey self key isComputed) (foldKey along key isComputed) := by
  cases isComputed with
  | true => exact .bind (parts key) (fun _ => .pure) vain_pure
  | false => exact .bind .pure (fun _ => .pure) vain_pure

theorem foldProperties_keeps (before : OrderedMap Text Value) (properties : List Property) :
    pairing.Keeps (foldProperties self before properties)
      (foldProperties along before properties) := by
  induction properties generalizing before with
  | nil => exact .pure
  | cons property rest ih =>
      cases property with
      | pair span key isComputed node =>
          refine .bind (foldKey_keeps parts key isComputed) (fun name => ?_) vain_pure
          exact .bind (parts node) (fun value => ih _) vain_pure
      | shorthand span name => exact .bind (parts _) (fun value => ih _) vain_pure
      | spread span argument =>
          refine .bind (parts argument) (fun value => ?_) vain_pure
          cases value with
          | record origin added => exact ih _
          | _ => exact .pure
      | method => exact .pure

theorem foldMember_keeps (owner property : Node) (isComputed : Bool) :
    pairing.Keeps (foldMember self owner property isComputed)
      (foldMember along owner property isComputed) := by
  refine .bind (parts owner) (fun target => ?_) vain_pure
  by_cases isNullish : target.isNullish = true
  · simp only [isNullish, if_true]
    exact .pure
  · simp only [isNullish]
    cases isComputed with
    | true => exact .bind (parts property) (fun key => .settle) vain_pure
    | false => exact .bind .pure (fun key => .settle) vain_pure

theorem foldCall_keeps (bindings : BindingTable) (span : Span) (callee : Node)
    (arguments : List Node) :
    pairing.Keeps (foldCall self bindings span callee arguments)
      (foldCall along bindings span callee arguments) := by
  unfold foldCall
  cases calledFunction? bindings callee with
  | none => exact .pure
  | some function => exact .bind (foldElements_keeps parts _) (fun values => .settle) vain_pure

variable (operands : ∀ left, pairing.Keeps (foldLeft self left) (foldLeft along left))

include operands

/-- The handlers keep to a pairing if the folding of parts and of left operands does. -/
theorem foldWith_keeps {bindings : BindingTable} {name nameAlong : Text → FoldM (Option Value)}
    (node : Node) (unnamed : ∀ span text, node ≠ .identifier span text) :
    pairing.Keeps (foldWith self bindings name node)
      (foldWith along bindings nameAlong node) := by
  cases node with
  | identifier span text => exact absurd rfl (unnamed span text)
  | template span head substitutions =>
      exact .bind (foldTemplate_keeps parts head substitutions) (fun _ => .pure) vain_pure
  | array span elements =>
      exact .bind (foldElements_keeps parts elements) (fun _ => .pure) vain_pure
  | object span properties =>
      exact .bind (foldProperties_keeps parts .empty properties) (fun _ => .pure) vain_pure
  | unary span operator argument =>
      by_cases isDelete : operator = .delete
      · simp only [foldWith, isDelete, if_true]
        exact .pure
      · simp only [foldWith, isDelete, if_false]
        exact .bind (parts argument) (fun _ => .pure) vain_pure
  | binary span operator left right =>
      cases constant : hasConstants operator with
      | true =>
          simp only [foldWith, constant, if_true]
          refine .bind (operands left) (fun value => ?_) (Vain.bind fun _ => vain_pure)
          exact .bind (parts right) (fun _ => .pure) vain_pure
      | false =>
          simp only [foldWith, constant]
          exact .pure
  | logical span operator left right =>
      refine .bind (operands left) (fun value => ?_) vain_pure
      by_cases decides : operator.decidedBy value = true
      · simp only [decides, if_true]
        exact .pure
      · simp only [decides]
        exact parts right
  | conditional span test consequent alternate =>
      exact .bind (parts test) (fun condition => parts _) vain_pure
  | member span owner property isComputed isOptional =>
      cases isOptional with
      | true => exact .pure
      | false => exact foldMember_keeps parts owner property isComputed
  | call span callee arguments isOptional =>
      cases isOptional with
      | true => exact .pure
      | false => exact foldCall_keeps parts bindings span callee arguments
  | literal | spread | arrow | function | unsupported => exact .pure

end Handlers

end ComponentInliner.Fold
