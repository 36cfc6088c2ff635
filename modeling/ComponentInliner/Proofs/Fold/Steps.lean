import ComponentInliner.Proofs.Fold.Run

/-!
# Runs of the folder

What folding does in a run that comes to an end, as equivalences: for each step that a handler
makes, for the operators that are folded ahead of a chain, for a name and for an expression.
-/

namespace ComponentInliner.Fold

/-- A name stands for an expression. -/
structure Resolves (bindings : BindingTable) (name : Text) (definition : Node) : Prop where
  ordinary : name ≠ "undefined"
  found : bindings.get? name = some (.expression definition)

/-- An action comes to a result and leaves a memo behind. -/
def Runs {Result : Type} (action : FoldM Result) (before : FoldMemo) (result : Result)
    (after : FoldMemo) : Prop :=
  action.run.run before = (.ok result, after)

namespace Runs

variable {Result Next : Type} {before after : FoldMemo}

theorem pure_iff {given result : Result} :
    Runs (pure given) before result after ↔ given = result ∧ before = after := by
  change ((Except.ok given, before) : Except ValueFault Result × FoldMemo) = _ ↔ _
  simp

theorem idle {result : Result} : Runs (pure result) before result before :=
  pure_iff.mpr ⟨rfl, rfl⟩

theorem bind_iff {action : FoldM Result} {next : Result → FoldM Next} {result : Next} :
    Runs (action >>= next) before result after ↔
      ∃ middle between, Runs action before middle between ∧
        Runs (next middle) between result after := by
  simp only [Runs, ExceptT.run_bind, StateT.run_bind]
  rcases action.run.run before with ⟨_ | middle, between⟩
  · constructor
    · rintro ⟨⟩
    · rintro ⟨_, _, ⟨⟩, _⟩
  · constructor
    · exact fun ran => ⟨middle, between, rfl, ran⟩
    · rintro ⟨_, _, ⟨⟩, ran⟩
      exact ran

theorem andThen {action : FoldM Result} {next : Result → FoldM Next} {between : FoldMemo}
    {middle : Result} {result : Next} (first : Runs action before middle between)
    (rest : Runs (next middle) between result after) :
    Runs (action >>= next) before result after :=
  bind_iff.mpr ⟨middle, between, first, rest⟩

theorem get_iff {memo : FoldMemo} :
    Runs get before memo after ↔ before = memo ∧ before = after := by
  change ((Except.ok before, before) : Except ValueFault FoldMemo × FoldMemo) = _ ↔ _
  simp

theorem looks : Runs get before before before :=
  get_iff.mpr ⟨rfl, rfl⟩

theorem modify_iff {change : FoldMemo → FoldMemo} {result : PUnit} :
    Runs (modify change) before result after ↔ change before = after := by
  change ((Except.ok (), change before) : Except ValueFault PUnit × FoldMemo) = _ ↔ _
  simp

theorem changes {change : FoldMemo → FoldMemo} :
    Runs (modify change) before () (change before) :=
  modify_iff.mpr rfl

theorem not_throw {fault : ValueFault} {result : Result} :
    ¬Runs (throw fault) before result after :=
  fun ran => nomatch ran

end Runs

theorem comesTo_iff {Result : Type} {action : FoldM Result} {memo : FoldMemo} {result : Result} :
    (action.run.run memo).1 = .ok result ↔ ∃ after, Runs action memo result after := by
  constructor
  · exact fun same => ⟨_, Prod.ext same rfl⟩
  · rintro ⟨after, ran⟩
    exact congrArg Prod.fst ran

section Steps

variable {self : Node → FoldM (Option Value)}

/-- Expressions are folded one after another, each to a value. -/
inductive AllFound (self : Node → FoldM (Option Value)) : FoldMemo → List Node → FoldMemo → Prop
  | nil {memo : FoldMemo} : AllFound self memo [] memo
  | cons {before between after : FoldMemo} {node : Node} {value : Value} {rest : List Node}
      (first : Runs (self node) before (some value) between)
      (following : AllFound self between rest after) : AllFound self before (node :: rest) after

theorem AllFound.runs {before after : FoldMemo} {nodes : List Node}
    (found : AllFound self before nodes after) : Runs (foldEach self nodes) before () after := by
  induction found with
  | nil => exact Runs.idle
  | cons first _ ih => exact Runs.andThen first ih

theorem AllFound.append_iff {before after : FoldMemo} {first second : List Node} :
    AllFound self before (first ++ second) after ↔
      ∃ between, AllFound self before first between ∧ AllFound self between second after := by
  induction first generalizing before with
  | nil =>
      constructor
      · exact fun found => ⟨before, .nil, found⟩
      · rintro ⟨between, ⟨⟩, found⟩
        exact found
  | cons node rest ih =>
      constructor
      · rintro (_ | ⟨onNode, following⟩)
        rcases ih.mp following with ⟨between, onRest, onSecond⟩
        exact ⟨between, .cons onNode onRest, onSecond⟩
      · rintro ⟨between, _ | ⟨onNode, onRest⟩, onSecond⟩
        exact .cons onNode (ih.mpr ⟨between, onRest, onSecond⟩)

theorem foldEach_append_eq (self : Node → FoldM (Option Value)) (first second : List Node) :
    foldEach self (first ++ second) = foldEach self first >>= fun _ => foldEach self second := by
  induction first with
  | nil => simp [foldEach]
  | cons node rest ih => simp [foldEach, ih]

theorem foldEach_append {before after : FoldMemo} {first second : List Node} :
    Runs (foldEach self (first ++ second)) before () after ↔
      ∃ between, Runs (foldEach self first) before () between ∧
        Runs (foldEach self second) between () after := by
  rw [foldEach_append_eq, Runs.bind_iff]
  constructor
  · rintro ⟨_, between, onFirst, onSecond⟩
    exact ⟨between, onFirst, onSecond⟩
  · rintro ⟨between, onFirst, onSecond⟩
    exact ⟨(), between, onFirst, onSecond⟩

theorem foldEach_single {before after : FoldMemo} {node : Node} :
    Runs (foldEach self [node]) before () after ↔
      ∃ result, Runs (self node) before result after := by
  constructor
  · intro ran
    rcases Runs.bind_iff.mp ran with ⟨result, middle, onNode, following⟩
    cases (Runs.pure_iff.mp following).2
    exact ⟨result, onNode⟩
  · rintro ⟨result, onNode⟩
    exact Runs.andThen onNode Runs.idle

theorem foldLeft_iff {before after : FoldMemo} {left : Node} {result : Option Value} :
    Runs (foldLeft self left) before result after ↔
      ∃ between, Runs (foldEach self (pendingOperators before.nodes.contains [] left)) before ()
        between ∧ Runs (self left) between result after := by
  constructor
  · intro ran
    rcases Runs.bind_iff.mp ran with ⟨memo, same, onGet, ran⟩
    rcases Runs.get_iff.mp onGet with ⟨rfl, rfl⟩
    rcases Runs.bind_iff.mp ran with ⟨_, between, onEach, onLeft⟩
    exact ⟨between, onEach, onLeft⟩
  · rintro ⟨between, onEach, onLeft⟩
    exact Runs.andThen Runs.looks (Runs.andThen onEach onLeft)

end Steps

section Operands

/-- The left operand of an operator. -/
def leftOperand? : Node → Option Node
  | .binary _ _ left _ | .logical _ _ left _ => some left
  | _ => none

variable {node left : Node} {isKnown : Node → Bool}

theorem leftOperand?_eq_none
    (noBinary : ∀ span operator left right, node = .binary span operator left right → False)
    (noLogical : ∀ span operator left right, node = .logical span operator left right → False) :
    leftOperand? node = none := by
  cases node with
  | binary => exact absurd rfl (noBinary _ _ _ _)
  | logical => exact absurd rfl (noLogical _ _ _ _)
  | _ => rfl

theorem pendingOperators_append (outer : List Node) :
    pendingOperators isKnown outer node = pendingOperators isKnown [] node ++ outer := by
  fun_induction chainOperators node generalizing outer with
  | case1 span operator left right ih | case2 span operator left right ih =>
      unfold pendingOperators
      split
      · rfl
      · rw [ih, ih [_], List.append_assoc]
        rfl
  | case3 node noBinary noLogical =>
      rw [pendingOperators, pendingOperators]
      · rfl
      all_goals assumption

theorem pendingOperators_known (known : isKnown node = true) :
    pendingOperators isKnown [] node = [] := by
  unfold pendingOperators
  split <;> simp_all

theorem pendingOperators_unknown (operand : leftOperand? node = some left)
    (unknown : isKnown node = false) :
    pendingOperators isKnown [] node = pendingOperators isKnown [] left ++ [node] := by
  rw [← pendingOperators_append]
  cases node with
  | binary | logical =>
      cases operand
      simp [pendingOperators, unknown]
  | _ => cases operand

theorem pendingOperators_other (operand : leftOperand? node = none) :
    pendingOperators isKnown [] node = [] := by
  cases node with
  | binary | logical => cases operand
  | _ => rfl

end Operands

section Limits

variable {bindings : BindingTable} {limit : Nat} {resolving : List Text} {node left : Node}
  {before after : FoldMemo} {result : Option Value}

theorem fold_known_iff (known : before.nodes.get? node = some result) {other : Option Value} :
    Runs (fold bindings (limit + 1) resolving node) before other after ↔
      result = other ∧ before = after := by
  unfold fold
  rw [Runs.bind_iff]
  constructor
  · rintro ⟨memo, same, onGet, ran⟩
    rcases Runs.get_iff.mp onGet with ⟨rfl, rfl⟩
    simp only [known] at ran
    exact Runs.pure_iff.mp ran
  · intro same
    refine ⟨before, before, Runs.looks, ?_⟩
    simp only [known]
    exact Runs.pure_iff.mpr same

theorem fold_unknown_iff (unknown : before.nodes.get? node = none) :
    Runs (fold bindings (limit + 1) resolving node) before result after ↔
      ∃ between, Runs (foldWith (fold bindings limit resolving) bindings
          (foldName (fold bindings limit) bindings resolving) node) before result between ∧
        after = { between with nodes := between.nodes.insert node result } := by
  unfold fold
  rw [Runs.bind_iff]
  constructor
  · rintro ⟨memo, same, onGet, ran⟩
    rcases Runs.get_iff.mp onGet with ⟨rfl, rfl⟩
    simp only [unknown] at ran
    rcases Runs.bind_iff.mp ran with ⟨found, between, onNode, ran⟩
    rcases Runs.bind_iff.mp ran with ⟨_, changed, onModify, ran⟩
    rcases Runs.pure_iff.mp ran with ⟨rfl, rfl⟩
    exact ⟨between, onNode, (Runs.modify_iff.mp onModify).symm⟩
  · rintro ⟨between, onNode, rfl⟩
    refine ⟨before, before, Runs.looks, ?_⟩
    simp only [unknown]
    exact Runs.andThen onNode (Runs.andThen Runs.changes Runs.idle)

/-- What a run finds out is known afterwards. -/
theorem known_of_runs (ran : Runs (fold bindings (limit + 1) resolving node) before result after) :
    after.nodes.get? node = some result := by
  cases known : before.nodes.get? node with
  | some found =>
      rcases (fold_known_iff known).mp ran with ⟨rfl, rfl⟩
      exact known
  | none =>
      rcases (fold_unknown_iff known).mp ran with ⟨between, -, rfl⟩
      rw [OrderedMap.get?_insert, if_pos rfl]

/-- An operator has no value for a folder to which its left operand is known to have none. -/
theorem missing_of_leftOperand (operand : leftOperand? node = some left)
    (unknown : before.nodes.get? node = none) (missing : before.nodes.get? left = some none)
    (ran : Runs (fold bindings (limit + 1) resolving node) before result after) :
    result = none := by
  have valueless {outcome : Option Value} {between : FoldMemo}
      (onLeft : Runs (foldLeft (fold bindings limit resolving) left) before outcome between) :
      outcome = none := by
    rcases foldLeft_iff.mp onLeft with ⟨middle, onEach, onLeft⟩
    have isKnown : before.nodes.contains left = true := by simp [OrderedMap.contains, missing]
    rw [pendingOperators_known isKnown] at onEach
    cases (Runs.pure_iff.mp onEach).2
    cases limit with
    | zero => exact (Runs.pure_iff.mp onLeft).1.symm
    | succ limit => exact ((fold_known_iff missing).mp onLeft).1.symm
  rcases (fold_unknown_iff unknown).mp ran with ⟨between, ran, -⟩
  cases node with
  | binary span operator operandLeft right =>
      cases operand
      simp only [foldWith] at ran
      split at ran
      · rcases Runs.bind_iff.mp ran with ⟨outcome, middle, onLeft, ran⟩
        cases valueless onLeft
        rcases Runs.bind_iff.mp ran with ⟨_, _, -, ran⟩
        exact (Runs.pure_iff.mp ran).1.symm
      · exact (Runs.pure_iff.mp ran).1.symm
  | logical span operator operandLeft right =>
      cases operand
      rcases Runs.bind_iff.mp ran with ⟨outcome, middle, onLeft, ran⟩
      cases valueless onLeft
      exact (Runs.pure_iff.mp ran).1.symm
  | _ => cases operand

end Limits

section Names

variable {bindings : BindingTable} {selfWith : List Text → Node → FoldM (Option Value)}
  {resolving : List Text} {name : Text} {value : Value} {before after : FoldMemo}

/-- How a name finds its value. -/
inductive NameFound (selfWith : List Text → Node → FoldM (Option Value)) (bindings : BindingTable)
    (resolving : List Text) (name : Text) (before : FoldMemo) (value : Value) : FoldMemo → Prop
  | undefined (named : name = "undefined") (valued : value = .undefined) :
      NameFound selfWith bindings resolving name before value before
  | known (ordinary : name ≠ "undefined") (known : before.names.get? name = some (some value)) :
      NameFound selfWith bindings resolving name before value before
  | global (ordinary : name ≠ "undefined") (unknown : before.names.get? name = none)
      (fresh : name ∉ resolving) (missing : bindings.get? name = none)
      (constant : globalConstant? name = some value) :
      NameFound selfWith bindings resolving name before value before
  | definition {definition : Node} {between : FoldMemo}
      (resolves : Resolves bindings name definition)
      (unknown : before.names.get? name = none) (fresh : name ∉ resolving)
      (ran : Runs (selfWith (name :: resolving) definition) before (some value) between) :
      NameFound selfWith bindings resolving name before value
        { between with names := between.names.insert name (some value) }

theorem foldName_iff :
    Runs (foldName selfWith bindings resolving name) before (some value) after ↔
      NameFound selfWith bindings resolving name before value after := by
  unfold foldName
  by_cases isUndefined : name = "undefined"
  · simp only [isUndefined, if_true]
    constructor
    · intro ran
      rcases Runs.pure_iff.mp ran with ⟨⟨⟩, rfl⟩
      exact .undefined rfl rfl
    · rintro (⟨-, rfl⟩ | ordinary | ordinary | ⟨⟨ordinary, -⟩⟩)
      · exact Runs.idle
      all_goals exact absurd rfl ordinary
  · simp only [isUndefined, if_false]
    rw [Runs.bind_iff]
    constructor
    · rintro ⟨memo, same, onGet, ran⟩
      rcases Runs.get_iff.mp onGet with ⟨rfl, rfl⟩
      cases unknown : before.names.get? name with
      | some known =>
          simp only [unknown] at ran
          rcases Runs.pure_iff.mp ran with ⟨rfl, rfl⟩
          exact .known isUndefined unknown
      | none =>
          simp only [unknown] at ran
          by_cases isResolving : name ∈ resolving
          · simp only [List.contains_iff_mem.mpr isResolving, if_true] at ran
            cases (Runs.pure_iff.mp ran).1
          · have notResolving : resolving.contains name = false := by simpa using isResolving
            simp only [notResolving, Bool.false_eq_true, if_false] at ran
            cases found : bindings.get? name with
            | none =>
                simp only [found] at ran
                rcases Runs.pure_iff.mp ran with ⟨constant, rfl⟩
                exact .global isUndefined unknown isResolving found constant
            | some definition =>
                simp only [found] at ran
                rcases Runs.bind_iff.mp ran with ⟨result, between, onDefinition, ran⟩
                rcases Runs.bind_iff.mp ran with ⟨_, changed, onModify, ran⟩
                rcases Runs.pure_iff.mp ran with ⟨rfl, rfl⟩
                cases Runs.modify_iff.mp onModify
                cases definition with
                | expression node =>
                    exact .definition ⟨isUndefined, found⟩ unknown isResolving onDefinition
                | function | classLike => cases (Runs.pure_iff.mp onDefinition).1
    · intro found
      refine ⟨before, before, Runs.looks, ?_⟩
      cases found with
      | undefined named => exact absurd named isUndefined
      | known _ known =>
          simp only [known]
          exact Runs.idle
      | global _ unknown fresh missing constant =>
          have notResolving : resolving.contains name = false := by simpa using fresh
          simp only [unknown, notResolving, missing, constant, Bool.false_eq_true, if_false]
          exact Runs.idle
      | definition resolves unknown fresh ran =>
          have notResolving : resolving.contains name = false := by simpa using fresh
          simp only [unknown, notResolving, resolves.found, Bool.false_eq_true, if_false]
          exact Runs.andThen ran (Runs.andThen Runs.changes Runs.idle)

end Names

end ComponentInliner.Fold
