import ComponentInliner.Proofs.Fold.Exactness
import ComponentInliner.Proofs.Fold.Knowledge

/-!
# Chains of operators

The operators along the left operands of an expression form a chain, which may be as long as one
likes. They are folded from the inside, and each one finds what is to its left known already; so a
chain nests by two more than what its operands nest, whatever its length (`nestsWithin_chain`).

How deep folding nests is told by what it does `beyond` a limit: a run that never gets there goes
the same way whatever is done there.
-/

namespace ComponentInliner.Fold

/-- Folds an expression as `fold` does, up to a limit on nesting, beyond which something else is
done. -/
def foldAbove (beyond : List Text → Node → FoldM (Option Value)) (bindings : BindingTable) :
    (limit : Nat) → (resolving : List Text) → Node → FoldM (Option Value)
  | 0, resolving, node => beyond resolving node
  | limit + 1, resolving, node => do
      match (← get).nodes.get? node with
      | some known => return known
      | none => do
          let value ← foldWith (foldAbove beyond bindings limit resolving) bindings
            (foldName (foldAbove beyond bindings limit) bindings resolving) node
          modify fun memo => { memo with nodes := memo.nodes.insert node value }
          return value

theorem foldAbove_nothing (bindings : BindingTable) (limit : Nat) :
    foldAbove (fun _ _ => return none) bindings limit = fold bindings limit := by
  induction limit with
  | zero => rfl
  | succ limit ih =>
      funext resolving node
      rw [foldAbove, ih]
      rfl

theorem foldAbove_foldAbove (beyond : List Text → Node → FoldM (Option Value))
    (bindings : BindingTable) (limit more : Nat) :
    foldAbove (foldAbove beyond bindings more) bindings limit =
      foldAbove beyond bindings (limit + more) := by
  induction limit with
  | zero => simp [foldAbove]
  | succ limit ih =>
      funext resolving node
      simp only [Nat.succ_add, foldAbove, ih]

/-- Folding an expression with what is known nests at most to a given depth. -/
def NestsWithin (bindings : BindingTable) (resolving : List Text) (depth : Nat) (memo : FoldMemo)
    (node : Node) : Prop :=
  ∀ beyond, (foldAbove beyond bindings depth resolving node).run.run memo =
    (fold bindings depth resolving node).run.run memo

/-- An action goes the same way whatever is done beyond a limit. -/
def Steady {Result : Type} (action : (List Text → Node → FoldM (Option Value)) → FoldM Result)
    (before : FoldMemo) : Prop :=
  ∀ beyond, (action beyond).run.run before = (action fun _ _ => return none).run.run before

namespace Steady

variable {Result Next : Type} {before : FoldMemo}

theorem same {action : FoldM Result} : Steady (fun _ => action) before :=
  fun _ => rfl

theorem bind {action : (List Text → Node → FoldM (Option Value)) → FoldM Result}
    {next : (List Text → Node → FoldM (Option Value)) → Result → FoldM Next}
    (first : Steady action before)
    (rest : ∀ result after, Runs (action fun _ _ => return none) before result after →
      Steady (fun beyond => next beyond result) after) :
    Steady (fun beyond => action beyond >>= next beyond) before := by
  intro beyond
  have onFirst := first beyond
  simp only [ExceptT.run_bind, StateT.run_bind, onFirst]
  rcases ran : (action fun _ _ => return none).run.run before with ⟨_ | result, after⟩
  · rfl
  · exact rest result after ran beyond

end Steady

section Depths

variable {bindings : BindingTable} {resolving : List Text} {depth : Nat} {memo : FoldMemo}
  {node : Node}

theorem nestsWithin_iff_steady : NestsWithin bindings resolving depth memo node ↔
    Steady (fun beyond => foldAbove beyond bindings depth resolving node) memo := by
  simp only [NestsWithin, Steady, foldAbove_nothing]

theorem NestsWithin.fold_add (nests : NestsWithin bindings resolving depth memo node) (more : Nat) :
    (fold bindings (depth + more) resolving node).run.run memo =
      (fold bindings depth resolving node).run.run memo := by
  rw [← foldAbove_nothing, ← foldAbove_foldAbove, nests]

theorem NestsWithin.add (nests : NestsWithin bindings resolving depth memo node) (more : Nat) :
    NestsWithin bindings resolving (depth + more) memo node := by
  intro beyond
  rw [← foldAbove_foldAbove, nests, nests.fold_add]

theorem NestsWithin.pos (nests : NestsWithin bindings resolving depth memo node) : 0 < depth := by
  cases depth with
  | zero =>
      have throws := nests fun _ _ => throw .notArrayLike
      cases throws
  | succ depth => exact Nat.succ_pos depth

theorem nestsWithin_of_known {result : Option Value} (known : memo.nodes.get? node = some result) :
    NestsWithin bindings resolving (depth + 1) memo node := by
  rw [nestsWithin_iff_steady]
  apply Steady.bind Steady.same
  intro looked after ran
  rcases Runs.get_iff.mp ran with ⟨rfl, rfl⟩
  simp only [known]
  exact Steady.same

/-- It is the folding of the parts that nests. -/
theorem nestsWithin_succ
    (parts : Steady (fun beyond => foldWith (foldAbove beyond bindings depth resolving) bindings
      (foldName (foldAbove beyond bindings depth) bindings resolving) node) memo) :
    NestsWithin bindings resolving (depth + 1) memo node := by
  rw [nestsWithin_iff_steady]
  apply Steady.bind Steady.same
  intro looked after ran
  rcases Runs.get_iff.mp ran with ⟨rfl, rfl⟩
  split
  · exact Steady.same
  · exact Steady.bind parts fun _ _ _ => Steady.same

theorem nestsWithin_literal {span : Span} {literal : Literal} {raw : Text} :
    NestsWithin bindings resolving 1 memo (.literal span literal raw) :=
  nestsWithin_succ Steady.same

end Depths

/-- An operator of a chain with its right operand. -/
inductive Link where
  | binary (operator : BinaryOperator) (right : Node)
  | logical (operator : LogicalOperator) (right : Node)

namespace Link

def right : Link → Node
  | .binary _ right | .logical _ right => right

/-- An expression that continues with an operator. -/
def onto (span : Span) (left : Node) : Link → Node
  | .binary operator right => .binary span operator left right
  | .logical operator right => .logical span operator left right

/-- The value of an operator from the value of all that is to its left. -/
def combine (value : Node → Option Value) (left : Option Value) : Link → Option Value
  | .binary operator right => do operator.result? (← left) (← value right)
  | .logical operator right => do
      let leftValue ← left
      if operator.decidedBy leftValue then some leftValue else value right

end Link

/-- The operators of a chain with their right operands, the innermost first. -/
def links : Node → List Link
  | .binary _ operator left right => links left ++ [.binary operator right]
  | .logical _ operator left right => links left ++ [.logical operator right]
  | _ => []

/-- What a chain begins with. -/
def firstOperand : Node → Node
  | .binary _ _ left _ | .logical _ _ left _ => firstOperand left
  | node => node

/-- The operands of a chain. -/
def chainOperands (node : Node) : List Node :=
  firstOperand node :: (links node).map Link.right

section Chains

variable {span : Span} {left node : Node} {link : Link}

@[simp] theorem leftOperand?_onto : leftOperand? (link.onto span left) = some left := by
  cases link <;> rfl

@[simp] theorem links_onto : links (link.onto span left) = links left ++ [link] := by
  cases link <;> rfl

@[simp] theorem firstOperand_onto : firstOperand (link.onto span left) = firstOperand left := by
  cases link <;> rfl

@[simp] theorem chainOperators_onto :
    chainOperators (link.onto span left) = link.onto span left :: chainOperators left := by
  cases link <;> rfl

@[simp] theorem chainOperands_onto :
    chainOperands (link.onto span left) = chainOperands left ++ [link.right] := by
  simp [chainOperands]

theorem chainOperands_other (leaf : leftOperand? node = none) : chainOperands node = [node] := by
  cases node with
  | binary | logical => cases leaf
  | _ => rfl

/-- Every expression is a chain: an operand alone, or a chain that continues with an operator. -/
theorem chain_induction {motive : Node → Prop}
    (operand : ∀ node, leftOperand? node = none → motive node)
    (operator : ∀ span left link, motive left → motive (Link.onto span left link)) (node : Node) :
    motive node := by
  fun_induction chainOperators node with
  | case1 span op left right ih => exact operator span left (.binary op right) ih
  | case2 span op left right ih => exact operator span left (.logical op right) ih
  | case3 node noBinary noLogical => exact operand node (leftOperand?_eq_none noBinary noLogical)

end Chains

/-- What a folder may know once it has folded some parts of an expression, one after another. -/
inductive After (bindings : BindingTable) (limit : Nat) (resolving : List Text)
    (parts : Node → Prop) (before : FoldMemo) : FoldMemo → Prop
  | start : After bindings limit resolving parts before before
  | next {memo after : FoldMemo} {part : Node} {result : Option Value}
      (reached : After bindings limit resolving parts before memo) (isPart : parts part)
      (ran : Runs (fold bindings limit resolving part) memo result after) :
      After bindings limit resolving parts before after

/-- An operator or an operand of a chain. -/
def ChainPart (node part : Node) : Prop :=
  part ∈ chainOperators node ∨ part ∈ chainOperands node

section Turns

variable {bindings : BindingTable} {resolving : List Text} {depth : Nat} {before memo : FoldMemo}
  {node left : Node} {span : Span} {link : Link} {parts : Node → Prop}

theorem After.fold (more : Nat) {limit : Nat} {after : FoldMemo} {result : Option Value}
    (reached : After bindings (limit + more) resolving parts before memo) (isPart : parts node)
    (nests : NestsWithin bindings resolving limit memo node)
    (ran : Runs (Fold.fold bindings limit resolving node) memo result after) :
    After bindings (limit + more) resolving parts before after := by
  apply reached.next isPart
  exact (nests.fold_add more).trans ran

/-- An operator nests one deeper than its operands. -/
theorem nestsWithin_onto
    (onLeft : Steady (fun beyond => foldLeft (foldAbove beyond bindings depth resolving) left) memo)
    (onRight : ∀ result after, Runs (foldLeft (fold bindings depth resolving) left) memo result after →
      NestsWithin bindings resolving depth after link.right) :
    NestsWithin bindings resolving (depth + 1) memo (link.onto span left) := by
  rw [← foldAbove_nothing] at onRight
  apply nestsWithin_succ
  cases link with
  | binary operator right =>
      simp only [Link.onto, foldWith]
      split
      · apply Steady.bind onLeft
        intro result after ran
        apply Steady.bind (nestsWithin_iff_steady.mp (onRight result after ran))
        intro _ _ _
        exact Steady.same
      · exact Steady.same
  | logical operator right =>
      apply Steady.bind onLeft
      intro result after ran
      cases result with
      | none => exact Steady.same
      | some value =>
          by_cases decides : operator.decidedBy value = true
          · simp only [decides, if_true]
            exact Steady.same
          · simp only [decides, Bool.false_eq_true, if_false]
            exact nestsWithin_iff_steady.mp (onRight _ after ran)

/-- The operands of a chain nest within a depth, whatever parts of an expression have been folded
before them. -/
structure Shallow (bindings : BindingTable) (resolving : List Text) (depth : Nat)
    (parts : Node → Prop) (before : FoldMemo) (node : Node) : Prop where
  isPart : ∀ part, ChainPart node part → parts part
  nests : ∀ memo, After bindings (depth + 2) resolving parts before memo →
    ∀ operand ∈ chainOperands node, NestsWithin bindings resolving depth memo operand

theorem Shallow.inner
    (shallow : Shallow bindings resolving depth parts before (link.onto span left)) :
    Shallow bindings resolving depth parts before left := by
  constructor
  · intro part isPart
    apply shallow.isPart
    rcases isPart with isOperator | isOperand
    · exact .inl (by simp [isOperator])
    · exact .inr (by simp [isOperand])
  · intro memo reached operand isOperand
    exact shallow.nests memo reached operand (by simp [isOperand])

theorem Shallow.outer
    (shallow : Shallow bindings resolving depth parts before (link.onto span left))
    (reached : After bindings (depth + 2) resolving parts before memo) :
    NestsWithin bindings resolving depth memo link.right :=
  shallow.nests memo reached _ (by simp)

/-- A left operand is at hand: it is known, or it begins its chain. -/
def AtHand (left : Node) (memo : FoldMemo) : Prop :=
  leftOperand? left = none ∨ ∃ result, memo.nodes.get? left = some result

theorem pendingOperators_atHand (atHand : AtHand left memo) :
    pendingOperators memo.nodes.contains [] left = [] := by
  rcases atHand with leaf | ⟨result, known⟩
  · exact pendingOperators_other leaf
  · exact pendingOperators_known (by simp [OrderedMap.contains, known])

/-- A left operand that is at hand is folded without folding other operators ahead. -/
theorem left_atHand (more : Nat) (shallow : Shallow bindings resolving depth parts before left)
    (reached : After bindings (depth + 2) resolving parts before memo) (atHand : AtHand left memo) :
    NestsWithin bindings resolving (depth + more) memo left ∧
      ∀ result after, Runs (fold bindings (depth + more) resolving left) memo result after →
        After bindings (depth + 2) resolving parts before after := by
  rcases atHand with leaf | ⟨found, known⟩
  · have isOperand : left ∈ chainOperands left := by simp [chainOperands_other leaf]
    have nests := shallow.nests memo reached left isOperand
    refine ⟨nests.add more, fun result after ran => ?_⟩
    apply reached.fold 2 (shallow.isPart left (.inr isOperand)) nests
    exact (nests.fold_add more).symm.trans ran
  · have nests := shallow.nests memo reached _ (List.mem_cons_self ..)
    rcases Nat.exists_eq_succ_of_ne_zero nests.pos.ne' with ⟨less, rfl⟩
    rw [Nat.succ_add]
    refine ⟨nestsWithin_of_known known, fun result after ran => ?_⟩
    rcases (fold_known_iff known).mp ran with ⟨-, rfl⟩
    exact reached

/-- An operator whose left operand is at hand nests one deeper than the operands of its chain. -/
theorem level_nestsWithin
    (shallow : Shallow bindings resolving depth parts before (link.onto span left))
    (reached : After bindings (depth + 2) resolving parts before memo) (atHand : AtHand left memo) :
    NestsWithin bindings resolving (depth + 1) memo (link.onto span left) := by
  have onLeft := left_atHand 0 shallow.inner reached atHand
  apply nestsWithin_onto
  · apply Steady.bind Steady.same
    intro looked after ran
    rcases Runs.get_iff.mp ran with ⟨rfl, rfl⟩
    simp only [pendingOperators_atHand atHand]
    apply Steady.bind Steady.same
    intro _ _ ran
    cases (Runs.pure_iff.mp ran).2
    exact nestsWithin_iff_steady.mp onLeft.1
  · intro result after ran
    rcases foldLeft_iff.mp ran with ⟨between, onEach, ran⟩
    rw [pendingOperators_atHand atHand] at onEach
    cases (Runs.pure_iff.mp onEach).2
    exact shallow.outer (onLeft.2 result after ran)

/-- Folding the pending operators of a chain nests one deeper than its operands, and then the chain
is at hand. -/
theorem pending_nestsWithin (shallow : Shallow bindings resolving depth parts before node)
    (reached : After bindings (depth + 2) resolving parts before memo) :
    Steady (fun beyond => foldEach (foldAbove beyond bindings (depth + 1) resolving)
        (pendingOperators memo.nodes.contains [] node)) memo ∧
      ∀ after, Runs (foldEach (fold bindings (depth + 1) resolving)
          (pendingOperators memo.nodes.contains [] node)) memo () after →
        After bindings (depth + 2) resolving parts before after ∧ AtHand node after := by
  induction node using chain_induction with
  | operand node leaf =>
      rw [pendingOperators_other leaf]
      refine ⟨Steady.same, fun after ran => ?_⟩
      cases (Runs.pure_iff.mp ran).2
      exact ⟨reached, .inl leaf⟩
  | operator span left link ih =>
      cases known : memo.nodes.contains (link.onto span left) with
      | true =>
          rw [pendingOperators_known known]
          refine ⟨Steady.same, fun after ran => ?_⟩
          cases (Runs.pure_iff.mp ran).2
          exact ⟨reached, .inr (Option.isSome_iff_exists.mp known)⟩
      | false =>
          rw [pendingOperators_unknown leftOperand?_onto known]
          rcases ih shallow.inner with ⟨steady, onLeft⟩
          constructor
          · simp only [foldEach_append_eq]
            apply Steady.bind steady
            intro _ between ran
            rw [foldAbove_nothing] at ran
            rcases onLeft between ran with ⟨reached, atHand⟩
            have nests := level_nestsWithin shallow reached atHand
            exact Steady.bind (nestsWithin_iff_steady.mp nests) fun _ _ _ => Steady.same
          · intro after ran
            rcases foldEach_append.mp ran with ⟨between, ran, onLevel⟩
            rcases onLeft between ran with ⟨reached, atHand⟩
            rcases foldEach_single.mp onLevel with ⟨result, onLevel⟩
            have nests := level_nestsWithin shallow reached atHand
            have isPart : parts (link.onto span left) := shallow.isPart _ (.inl (by simp))
            exact ⟨reached.fold 1 isPart nests onLevel, .inr ⟨result, known_of_runs onLevel⟩⟩

theorem Shallow.nestsWithin (shallow : Shallow bindings resolving depth parts before node) :
    NestsWithin bindings resolving (depth + 2) before node := by
  induction node using chain_induction with
  | operand node leaf =>
      have isOperand : node ∈ chainOperands node := by simp [chainOperands_other leaf]
      exact (shallow.nests before .start node isOperand).add 2
  | operator span left link =>
      rcases pending_nestsWithin shallow.inner .start with ⟨steady, onPending⟩
      apply nestsWithin_onto
      · apply Steady.bind Steady.same
        intro looked after ran
        rcases Runs.get_iff.mp ran with ⟨rfl, rfl⟩
        apply Steady.bind steady
        intro _ between ran
        rw [foldAbove_nothing] at ran
        rcases onPending between ran with ⟨reached, atHand⟩
        exact nestsWithin_iff_steady.mp (left_atHand 1 shallow.inner reached atHand).1
      · intro result after ran
        rcases foldLeft_iff.mp ran with ⟨between, onEach, ran⟩
        rcases onPending between onEach with ⟨reached, atHand⟩
        exact (shallow.outer ((left_atHand 1 shallow.inner reached atHand).2 result after ran)).add 1

end Turns

section Values

variable {bindings : BindingTable} {node : Node}

/-- What a chain stands for is put together from the left. -/
theorem denotes_chain {operandValue : Node → Option Value}
    (values : ∀ operand ∈ chainOperands node, ∀ value,
      operandValue operand = some value ↔ Denotes bindings operand value) (value : Value) :
    (links node).foldl (Link.combine operandValue) (operandValue (firstOperand node)) = some value ↔
      Denotes bindings node value := by
  induction node using chain_induction generalizing value with
  | operand node leaf =>
      have same : links node = [] ∧ firstOperand node = node := by
        cases node with
        | binary | logical => cases leaf
        | _ => exact ⟨rfl, rfl⟩
      rw [same.1, same.2]
      exact values node (by simp [chainOperands_other leaf]) value
  | operator span left link ih =>
      have onLeft := ih fun operand isOperand => values operand (by simp [isOperand])
      have onRight := values link.right (by simp)
      simp only [links_onto, firstOperand_onto, List.foldl_concat]
      generalize (links left).foldl (Link.combine operandValue) (operandValue (firstOperand left)) =
        leftValue at onLeft
      cases link with
      | binary operator right =>
          constructor
          · intro combined
            rcases Option.bind_eq_some_iff.mp combined with ⟨leftConstant, rfl, onRest⟩
            rcases Option.bind_eq_some_iff.mp onRest with ⟨rightConstant, found, computed⟩
            have constant : hasConstants operator = true := by
              cases operator <;> first | rfl | cases computed
            exact Denotes.of_rule (.binary constant ((onLeft _).mp rfl) ((onRight _).mp found)
              computed)
          · intro denotes
            cases denotes_iff_rule.mp denotes with
            | binary constant denotesLeft denotesRight computed =>
                simp only [Link.right] at onRight
                simp [Link.combine, (onLeft _).mpr denotesLeft, (onRight _).mpr denotesRight, computed]
      | logical operator right =>
          constructor
          · intro combined
            rcases Option.bind_eq_some_iff.mp combined with ⟨leftConstant, rfl, onRest⟩
            have denotesLeft := (onLeft _).mp rfl
            by_cases decides : operator.decidedBy leftConstant = true
            · rw [if_pos decides] at onRest
              cases onRest
              exact Denotes.of_rule (.decided denotesLeft decides)
            · rw [if_neg decides] at onRest
              exact Denotes.of_rule (.undecided denotesLeft (by simpa using decides)
                ((onRight _).mp onRest))
          · intro denotes
            cases denotes_iff_rule.mp denotes with
            | decided denotesLeft decides =>
                simp [Link.combine, (onLeft _).mpr denotesLeft, decides]
            | undecided denotesLeft continues denotesRight =>
                simp only [Link.right] at onRight
                simp [Link.combine, (onLeft _).mpr denotesLeft, continues,
                  (onRight _).mpr denotesRight]

/-- What a run finds out that never gets to its limit is what the expression stands for. -/
theorem NestsWithin.finds {resolving : List Text} {depth more : Nat} {before after : FoldMemo}
    {result : Option Value} (nests : NestsWithin bindings resolving depth before node)
    (knows : (Watched.nothing bindings).Knows True resolving before)
    (held : Held bindings resolving node)
    (ran : Runs (fold bindings (depth + more) resolving node) before result after) (value : Value) :
    result = some value ↔ Denotes bindings node value := by
  let room := node.nesting + definitionNesting resolving bindings
  have folds : ((Watched.nothing bindings).terms True (fun _ => True) resolving).Folds
      (fold bindings (depth + room) resolving) node :=
    Watched.fold_folds (fun _ _ _ _ => trivial) (depth + room) (fun _ => Nat.le_add_left ..)
      (fun _ => held) trivial trivial
  have same : Runs (fold bindings (depth + room) resolving node) before result after := by
    unfold Runs
    rw [nests.fold_add, ← nests.fold_add more]
    exact ran
  have tells := (Contract.Meets.runs folds knows same).2.1
  exact ⟨tells.sound value, tells.complete trivial value⟩

end Values

/--
Folding a chain of operators, however many there are, nests by two more than what folding its
operands nests when their turn comes, whatever is known before. If what is known is right, the
outcome is put together from the operands by one operator after another from the left, and a logical
operator leaves alone what is to its right where the value so far decides.
-/
theorem nestsWithin_chain {bindings : BindingTable} {resolving : List Text} {depth : Nat}
    {before : FoldMemo} {node : Node}
    (shallow : ∀ memo, After bindings (depth + 2) resolving (ChainPart node) before memo →
      ∀ operand ∈ chainOperands node, NestsWithin bindings resolving depth memo operand) :
    NestsWithin bindings resolving (depth + 2) before node ∧
      ((Watched.nothing bindings).Knows True resolving before → Held bindings resolving node →
        ∀ operandValue : Node → Option Value,
        (∀ operand ∈ chainOperands node, ∀ value,
          operandValue operand = some value ↔ Denotes bindings operand value) →
        ∀ limit result after, depth + 2 ≤ limit →
          Runs (fold bindings limit resolving node) before result after →
          result = (links node).foldl (Link.combine operandValue)
            (operandValue (firstOperand node))) := by
  have nests := Shallow.nestsWithin ⟨fun _ => id, shallow⟩
  refine ⟨nests, ?_⟩
  intro knows held operandValue values limit result after fits ran
  rcases Nat.exists_eq_add_of_le fits with ⟨more, rfl⟩
  apply Option.ext
  intro value
  rw [nests.finds knows held ran, denotes_chain values]

/-- The value of an operand that is spelled out. -/
def spelledValue? : Node → Option Value
  | .literal _ literal _ => literalValue? literal
  | _ => none

theorem spelledValue?_eq_some_iff {bindings : BindingTable} {span : Span} {literal : Literal}
    {raw : Text} {value : Value} : spelledValue? (.literal span literal raw) = some value ↔
      Denotes bindings (.literal span literal raw) value := by
  constructor
  · exact fun written => Denotes.of_rule (.literal written)
  · intro denotes
    cases denotes_iff_rule.mp denotes with
    | literal written => exact written

/-- A sum is the left operand of a disjunction, which is that of a conjunction; the operand of the
disjunction is not needed. -/
theorem nestsWithin_chain_of_texts :
    let text (start : Nat) (content : Text) : Node :=
      .literal ⟨start, start + 3⟩ (.string content) ("'" ++ content ++ "'")
    let node : Node := .logical ⟨0, 24⟩ .and
      (.logical ⟨0, 17⟩ .or (.binary ⟨0, 10⟩ .add (text 0 "a") (text 7 "b")) (text 14 "c"))
      (text 21 "d")
    (∀ memo, After .empty 3 [] (ChainPart node) .empty memo →
        ∀ operand ∈ chainOperands node, NestsWithin .empty [] 1 memo operand) ∧
      NestsWithin .empty [] 3 .empty node ∧
      ∀ limit result after, 3 ≤ limit → Runs (fold .empty limit [] node) .empty result after →
        result = some (.string "d") := by
  intro text node
  have isText : ∀ operand ∈ chainOperands node, ∃ span content raw,
      operand = .literal span (.string content) raw := by
    intro operand isOperand
    simp only [node, text, chainOperands, firstOperand, links, List.map_cons, List.map_nil,
      Link.right, List.nil_append, List.cons_append, List.mem_cons, List.not_mem_nil, or_false]
      at isOperand
    rcases isOperand with rfl | rfl | rfl | rfl <;> exact ⟨_, _, _, rfl⟩
  have shallow : ∀ memo, After .empty 3 [] (ChainPart node) .empty memo →
      ∀ operand ∈ chainOperands node, NestsWithin .empty [] 1 memo operand := by
    intro memo _ operand isOperand
    rcases isText operand isOperand with ⟨span, content, raw, rfl⟩
    exact nestsWithin_literal
  have values : ∀ operand ∈ chainOperands node, ∀ value,
      spelledValue? operand = some value ↔ Denotes .empty operand value := by
    intro operand isOperand value
    rcases isText operand isOperand with ⟨span, content, raw, rfl⟩
    exact spelledValue?_eq_some_iff
  have onChain := nestsWithin_chain shallow
  refine ⟨shallow, onChain.1, fun limit result after fits ran => ?_⟩
  exact onChain.2 Watched.knows_empty nofun spelledValue? values limit result after fits ran

end ComponentInliner.Fold
