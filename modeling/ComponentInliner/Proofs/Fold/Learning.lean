import ComponentInliner.Proofs.Fold.Following
import ComponentInliner.Proofs.Fold.Knowledge

/-!
# Knowing more never hurts

A bound on nesting makes it matter what a folder knows: an expression that nests too deep is folded
nevertheless if enough of it is known. So what is known may not be left out of account, but it is
only ever of use. If an expression is folded to a value by a folder that knows something for sure,
then so it is by one that knows more.
-/

namespace ComponentInliner.Fold

open FoldMemo

section Learning

variable {bindings : BindingTable}

/-- What folding an expression to a value leaves behind. -/
structure Learned (bindings : BindingTable) (before : FoldMemo) (node : Node) (value : Value)
    (after : FoldMemo) : Prop where
  sure : Sure bindings after
  below : before.Below after
  known : after.nodes.get? node = some (some value)

theorem Learned.denotes {before after : FoldMemo} {node : Node} {value : Value}
    (learned : Learned bindings before node value after) : Denotes bindings node value := by
  rcases learned.sure.denotes node _ learned.known with ⟨own, ⟨⟩, denotes⟩
  exact denotes

/-- Folding expressions to values leads from sure knowledge to more of it. -/
def Learns (bindings : BindingTable) (self : Node → FoldM (Option Value)) : Prop :=
  ∀ node before value after, Runs (self node) before (some value) after → Sure bindings before →
    Learned bindings before node value after

/-- An operator that has a value needs its left operand. -/
theorem needs_leftOperand {value : Value} (denotes : Denotes bindings node value)
    (operand : leftOperand? node = some left) : Needs bindings node left := by
  cases node with
  | binary =>
      cases operand
      cases denotes_iff_rule.mp denotes with
      | binary constant => exact .binaryLeft constant
  | logical =>
      cases operand
      exact .logicalLeft
  | _ => cases operand

theorem chainOperators_reached {node child : Node} {value : Value}
    (denotes : Denotes bindings node value) (ahead : child ∈ chainOperators node) :
    Relation.ReflTransGen (Demands bindings) node child := by
  fun_induction chainOperators node generalizing value with
  | case1 span operator left right ih | case2 span operator left right ih =>
      rcases List.mem_cons.mp ahead with rfl | inner
      · exact .refl
      · have demands := Demands.needed (needs_leftOperand denotes rfl)
        rcases denotes.of_demands demands with ⟨own, denotesLeft⟩
        exact .head demands (ih denotesLeft inner)
  | case3 => cases ahead

variable {self : Node → FoldM (Option Value)} {left : Node} {value : Value}
  {before after : FoldMemo} {limit : Nat} {resolving : List Text}

theorem AllFound.learned {nodes : List Node} (learns : Learns bindings self)
    (found : AllFound self before nodes after) (sure : Sure bindings before) :
    Sure bindings after ∧ before.Below after := by
  induction found with
  | nil => exact ⟨sure, .refl _⟩
  | cons first _ ih =>
      have learned := learns _ _ _ _ first sure
      have onRest := ih learned.sure
      exact ⟨onRest.1, learned.below.trans onRest.2⟩

/-- Operators that are folded ahead lead to nothing but what the chain demands. -/
theorem holds_of_pending {region : Region bindings} (denotes : Denotes bindings left value)
    (inside : region.nodes left) (holds : region.Holds before) (sure : Sure bindings before)
    (ran : Runs (foldEach (fold bindings limit resolving)
      (pendingOperators before.nodes.contains [] left)) before () after) : region.Holds after := by
  have folds : (region.terms resolving).Meets (foldEach (fold bindings limit resolving)
      (pendingOperators before.nodes.contains [] left)) fun _ => True := by
    apply foldEach_meets
    intro child pending
    apply region.fold_folds
    rcases mem_pendingOperators pending with impossible | ahead
    · cases impossible
    · have reaches := chainOperators_reached denotes ahead
      clear pending ahead
      induction reaches with
      | refl => exact inside
      | tail _ demands ih => exact region.demanded ih demands
  exact Region.holds_of_known (folds.runs (Region.known_of_holds sure holds) ran).1

/-- All operators of a chain that are folded ahead find their values, or the last one finds none. -/
def PendingFound (self : Node → FoldM (Option Value)) (before : FoldMemo) (left : Node)
    (after : FoldMemo) : Prop :=
  AllFound self before (pendingOperators before.nodes.contains [] left) after ∨
    after.nodes.get? left = some none

theorem PendingFound.of_leftOperand {inner : Node} (operand : leftOperand? left = some inner)
    (denotes : Denotes bindings left value) (sure : Sure bindings before)
    (innerFound : ∀ own between, Denotes bindings inner own →
      Runs (foldEach (fold bindings (limit + 1) resolving)
        (pendingOperators before.nodes.contains [] inner)) before () between →
      PendingFound (fold bindings (limit + 1) resolving) before inner between)
    (ran : Runs (foldEach (fold bindings (limit + 1) resolving)
      (pendingOperators before.nodes.contains [] left)) before () after) :
    PendingFound (fold bindings (limit + 1) resolving) before left after := by
  unfold PendingFound
  cases isKnown : before.nodes.contains left with
  | true =>
      rw [pendingOperators_known isKnown] at ran ⊢
      cases (Runs.pure_iff.mp ran).2
      exact .inl .nil
  | false =>
      rw [pendingOperators_unknown operand isKnown] at ran ⊢
      have demands := Demands.needed (needs_leftOperand denotes operand)
      rcases denotes.of_demands demands with ⟨own, denotesInner⟩
      rcases foldEach_append.mp ran with ⟨between, onInner, onLeft⟩
      rcases foldEach_single.mp onLeft with ⟨result, onLeft⟩
      rcases innerFound own between denotesInner onInner with found | missing
      · cases result with
        | some value => exact .inl (AllFound.append_iff.mpr ⟨between, found, .cons onLeft .nil⟩)
        | none => exact .inr (known_of_runs onLeft)
      · -- What the inner operators demand does not lead back to the operator.
        have unknown : between.nodes.get? left = none := by
          have holds : (Region.beside sure inner).Holds between :=
            holds_of_pending denotesInner (.inr .refl) (Region.beside_holds (.refl _)) sure onInner
          by_contra known
          rcases holds.nodes left (Option.ne_none_iff_exists'.mp known) with known | reaches
          · rcases known with ⟨_, known⟩
            simp [OrderedMap.contains, known] at isKnown
          · exact not_denotes_of_demands_itself (.head' demands reaches) value denotes
        cases missing_of_leftOperand operand unknown missing onLeft
        exact .inr (known_of_runs onLeft)

theorem pending_found (denotes : Denotes bindings left value) (sure : Sure bindings before)
    (ran : Runs (foldEach (fold bindings (limit + 1) resolving)
      (pendingOperators before.nodes.contains [] left)) before () after) :
    PendingFound (fold bindings (limit + 1) resolving) before left after := by
  fun_induction chainOperators left generalizing value after with
  | case1 span operator left right ih | case2 span operator left right ih =>
      exact .of_leftOperand rfl denotes sure (fun own between => ih) ran
  | case3 left noBinary noLogical =>
      have operand := leftOperand?_eq_none noBinary noLogical
      unfold PendingFound
      rw [pendingOperators_other operand] at ran ⊢
      cases (Runs.pure_iff.mp ran).2
      exact .inl .nil

/-- If a left operand finds its value, then so do all operators that are folded ahead of it. -/
theorem foldLeft_found (sure : Sure bindings before)
    (ran : Runs (foldLeft (fold bindings (limit + 1) resolving) left) before (some value) after) :
    Denotes bindings left value ∧ ∃ between, AllFound (fold bindings (limit + 1) resolving) before
        (pendingOperators before.nodes.contains [] left) between ∧
      Runs (fold bindings (limit + 1) resolving left) between (some value) after := by
  have folds (node : Node) : ((Region.all bindings).terms resolving).Folds
      (fold bindings (limit + 1) resolving) node := Region.fold_folds _ _ _ trivial
  have denotes : Denotes bindings left value :=
    ((foldLeft_meets (fun child _ => folds child) (folds left)).runs
      (Region.known_of_holds sure ⟨fun _ _ => trivial, fun _ _ => trivial⟩) ran).2.1.sound value rfl
  rcases foldLeft_iff.mp ran with ⟨between, onEach, onLeft⟩
  refine ⟨denotes, between, ?_, onLeft⟩
  rcases pending_found denotes sure onEach with found | missing
  · exact found
  · cases ((fold_known_iff missing).mp onLeft).1

theorem foldLeft_learned (learns : Learns bindings (fold bindings limit resolving))
    (sure : Sure bindings before)
    (ran : Runs (foldLeft (fold bindings limit resolving) left) before (some value) after) :
    Learned bindings before left value after := by
  cases limit with
  | zero =>
      rcases foldLeft_iff.mp ran with ⟨between, -, onLeft⟩
      cases (Runs.pure_iff.mp onLeft).1
  | succ limit =>
      rcases foldLeft_found sure ran with ⟨-, between, found, onLeft⟩
      have onEach := found.learned learns sure
      have learned := learns _ _ _ _ onLeft onEach.1
      exact ⟨learned.sure, onEach.2.trans learned.below, learned.known⟩

end Learning

section Lookup

variable {bindings : BindingTable} {memo before after : FoldMemo} {node child : Node}
  {value : Value} {limit : Nat} {resolving : List Text}

/-- The outcome of an expression is looked up, and what is not known breaks folding off. -/
def lookUp (memo : FoldMemo) (node : Node) : FoldM (Option Value) :=
  match memo.nodes.get? node with
  | some result => pure result
  | none => throw .indexTooLong

theorem lookUp_runs (known : memo.nodes.get? node = some (some value)) :
    Runs (lookUp memo node) before (some value) before := by
  simp only [lookUp, known]
  exact Runs.idle

/-- While an action leads to more sure knowledge, it can be followed by looking up what it comes
to know. -/
def lookingUp (bindings : BindingTable) (final : FoldMemo) : Pairing where
  pairs before along result after := Sure bindings before → Sure bindings after ∧
    before.Below after ∧ (Sure bindings final → after.Below final → Runs along final result final)
  idle sure := ⟨sure, .refl _, fun _ _ => Runs.idle⟩
  chain first second sure := by
    rcases first sure with ⟨sureBetween, below, alongFirst⟩
    rcases second sureBetween with ⟨sureAfter, belowAfter, alongSecond⟩
    refine ⟨sureAfter, below.trans belowAfter, fun sureFinal isBelow => ?_⟩
    exact Runs.andThen (alongFirst sureFinal (belowAfter.trans isBelow))
      (alongSecond sureFinal isBelow)

theorem Learned.value_of_below (learned : Learned bindings before node value after)
    (sure : Sure bindings memo) (below : after.Below memo) :
    memo.nodes.get? node = some (some value) :=
  sure.value (below.nodes node ⟨_, learned.known⟩) learned.denotes

theorem foldWith_lookingUp (learns : Learns bindings (fold bindings limit resolving))
    {name : Text → FoldM (Option Value)} (final : FoldMemo)
    (unnamed : ∀ span text, node ≠ .identifier span text) :
    (lookingUp bindings final).Keeps (foldWith (fold bindings limit resolving) bindings name node)
      (foldWith (lookUp final) bindings name node) := by
  apply foldWith_keeps _ _ node unnamed
  · intro child before value after ran sure
    have learned := learns _ _ _ _ ran sure
    refine ⟨learned.sure, learned.below, fun sureFinal below => ?_⟩
    exact lookUp_runs (learned.value_of_below sureFinal below)
  · intro left before value after ran sure
    have learned := foldLeft_learned learns sure ran
    refine ⟨learned.sure, learned.below, fun sureFinal below => ?_⟩
    have known := learned.value_of_below sureFinal below
    have isKnown : final.nodes.contains left = true := by simp [OrderedMap.contains, known]
    refine foldLeft_iff.mpr ⟨final, ?_, lookUp_runs known⟩
    rw [pendingOperators_known isKnown]
    exact Runs.idle

/-- An expression that is folded by looking up its parts has the value that is found, and all that
it demands was looked up. -/
theorem lookedUp (sure : Sure bindings memo) {name : Text → FoldM (Option Value)}
    (unnamed : ∀ span text, node ≠ .identifier span text)
    (ran : Runs (foldWith (lookUp memo) bindings name node) memo (some value) memo) :
    Denotes bindings node value ∧ ∀ child, Demands bindings node child → memo.Knows child := by
  let contract : Contract := ⟨bindings, True, fun _ => True, fun _ => True, memo.Knows⟩
  have folds (child : Node) : contract.Folds (lookUp memo) child := by
    unfold Contract.Folds lookUp
    cases known : memo.nodes.get? child with
    | none => exact Contract.Meets.throw fun _ _ => trivial
    | some result =>
        rcases sure.denotes child result known with ⟨own, rfl, denotes⟩
        exact Contract.Meets.pure ⟨Contract.tells_value denotes, fun _ => ⟨_, known⟩⟩
  have folded : contract.Folded node (some value) :=
    ((foldWith_meets node unnamed (fun child _ => folds child) fun _ _ _ => trivial).runs
      trivial ran).2
  have denotes : Denotes bindings node value := folded.tells.holding
  refine ⟨denotes, fun child demands => ?_⟩
  have needed (part : Node) (needs : Needs bindings node part) : memo.Knows part :=
    folded.needed trivial part needs
  have ofChain (left : Node) (operand : leftOperand? node = some left)
      (ahead : child ∈ chainOperators left) : memo.Knows child := by
    have needs := needs_leftOperand denotes operand
    rcases denotes.of_demands (.needed needs) with ⟨own, denotesLeft⟩
    exact sure.reaches (needed left needs) (chainOperators_reached denotesLeft ahead)
  cases demands with
  | needed needs => exact needed child needs
  | aheadBinary constant ahead => exact ofChain _ rfl ahead
  | aheadLogical ahead => exact ofChain _ rfl ahead

/-- The rest of a folding, after the handler: the value is kept. -/
theorem Learned.of_insertNode (sure : Sure bindings after) (below : before.Below after)
    (denotes : Denotes bindings node value)
    (demanded : ∀ child, Demands bindings node child → after.Knows child)
    (named : ∀ span name definition, node = .identifier span name →
      Resolves bindings name definition → after.KnowsName name) :
    Learned bindings before node value
      { after with nodes := after.nodes.insert node (some value) } where
  sure := sure.insertNode denotes demanded named
  below := below.trans below_insertNode
  known := by rw [OrderedMap.get?_insert, if_pos rfl]

end Lookup

section Names

variable {bindings : BindingTable} {selfWith : List Text → Node → FoldM (Option Value)}
  {resolving : List Text} {name : Text} {value : Value} {before after : FoldMemo}

/-- What a name leads to is known once it has found its value. -/
theorem NameFound.learned {span : Span}
    (learns : ∀ resolving, Learns bindings (selfWith resolving)) (sure : Sure bindings before)
    (found : NameFound selfWith bindings resolving name before value after) :
    Learned bindings before (.identifier span name) value
      { after with nodes := after.nodes.insert (.identifier span name) (some value) } := by
  have ofRule {value : Value}
      (rule : Rule (Denotes bindings) bindings (.identifier span name) value)
      (noDefinition : ∀ definition, ¬Resolves bindings name definition) :
      Learned bindings before (.identifier span name) value
        { before with nodes := before.nodes.insert (.identifier span name) (some value) } := by
    refine .of_insertNode sure (.refl _) (Denotes.of_rule rule) ?_ ?_
    · intro child demands
      cases demands with
      | needed needs =>
          cases needs with
          | definition ordinary found => exact absurd ⟨ordinary, found⟩ (noDefinition child)
    · rintro _ _ definition ⟨⟩ resolves
      exact absurd resolves (noDefinition definition)
  have ofDefinition {definition : Node} {after : FoldMemo} (sureAfter : Sure bindings after)
      (below : before.Below after) (resolves : Resolves bindings name definition)
      (known : after.nodes.get? definition = some (some value)) (named : after.KnowsName name) :
      Learned bindings before (.identifier span name) value
        { after with nodes := after.nodes.insert (.identifier span name) (some value) } := by
    rcases sureAfter.denotes definition _ known with ⟨own, ⟨⟩, denotes⟩
    refine .of_insertNode sureAfter below
      (Denotes.of_rule (.definition resolves.ordinary resolves.found denotes)) ?_ ?_
    · intro child demands
      cases demands with
      | needed needs =>
          cases needs with
          | definition _ found =>
              cases resolves.found.symm.trans found
              exact ⟨_, known⟩
    · rintro _ _ _ ⟨⟩ -
      exact named
  cases found with
  | undefined named valued =>
      subst named valued
      exact ofRule .undefined fun _ resolves => resolves.ordinary rfl
  | known ordinary known =>
      rcases sure.defined name _ known with ⟨definition, resolves, knownDefinition⟩
      exact ofDefinition sure (.refl _) resolves knownDefinition ⟨_, known⟩
  | global ordinary unknown fresh missing constant =>
      exact ofRule (.global ordinary missing constant) fun _ resolves =>
        nomatch missing.symm.trans resolves.found
  | definition resolves unknown fresh ran =>
      have learned := learns _ _ _ _ _ ran sure
      exact ofDefinition (learned.sure.insertName resolves learned.known)
        (learned.below.trans below_insertName) resolves learned.known
        (knowsName_insertName.mpr (.inl rfl))

end Names

/-- Whatever is folded to a value on sure knowledge leaves sure knowledge behind. -/
theorem fold_learns (bindings : BindingTable) (limit : Nat) (resolving : List Text) :
    Learns bindings (fold bindings limit resolving) := by
  induction limit generalizing resolving with
  | zero =>
      intro node before value after ran
      cases (Runs.pure_iff.mp ran).1
  | succ limit ih =>
      intro node before value after ran sure
      cases known : before.nodes.get? node with
      | some result =>
          rcases (fold_known_iff known).mp ran with ⟨rfl, rfl⟩
          exact ⟨sure, .refl _, known⟩
      | none =>
          rcases (fold_unknown_iff known).mp ran with ⟨between, onNode, rfl⟩
          by_cases isName : ∃ span name, node = .identifier span name
          · rcases isName with ⟨span, name, rfl⟩
            exact (foldName_iff.mp onNode).learned ih sure
          · have unnamed : ∀ span name, node ≠ .identifier span name :=
              fun span name same => isName ⟨span, name, same⟩
            rcases foldWith_lookingUp (ih resolving) between unnamed _ _ _ onNode sure with
              ⟨sureBetween, below, along⟩
            rcases lookedUp sureBetween unnamed (along sureBetween (.refl _)) with
              ⟨denotes, demanded⟩
            exact .of_insertNode sureBetween below denotes demanded
              fun span name _ same => absurd same (unnamed span name)

section Exceeding

variable {bindings : BindingTable} {limit larger : Nat} {resolving : List Text} {node left : Node}
  {value : Value} {before after more : FoldMemo}

/-- While an action leads to more sure knowledge, it can also be run by one who knows more. -/
def exceeding (bindings : BindingTable) : Pairing where
  pairs before along result after := ∀ more, Sure bindings before → Sure bindings more →
    before.Below more → Sure bindings after ∧ ∃ beyond, Runs along more result beyond ∧
      Sure bindings beyond ∧ after.Below beyond
  idle more sure sureMore below := ⟨sure, more, Runs.idle, sureMore, below⟩
  chain first second more sure sureMore below := by
    rcases first more sure sureMore below with ⟨sureBetween, middle, alongFirst, sureMiddle, below⟩
    rcases second middle sureBetween sureMiddle below with
      ⟨sureAfter, beyond, alongSecond, sureBeyond, below⟩
    exact ⟨sureAfter, beyond, Runs.andThen alongFirst alongSecond, sureBeyond,
      below⟩

/-- What is folded of what is known to another one stays below what is known to that one. -/
theorem below_of_fold (sure : Sure bindings before) (sureMore : Sure bindings more)
    (below : before.Below more) (known : more.Knows node)
    (ran : Runs (fold bindings limit resolving node) before (some value) after) :
    after.Below more := by
  let region : Region bindings := .beside sureMore node
  have knows : (region.terms resolving).known before :=
    Region.known_of_holds sure (Region.beside_holds below)
  have ranInside := (region.fold_folds limit resolving (.inr .refl)).runs knows ran
  exact Region.below_of_known known (Region.holds_of_known ranInside.1)

/-- Handling an expression adds nothing to what is known to one who knows the expression. -/
theorem below_of_foldWith (unnamed : ∀ span text, node ≠ .identifier span text)
    {name : Text → FoldM (Option Value)} (sure : Sure bindings before)
    (sureMore : Sure bindings more) (below : before.Below more) (known : more.Knows node)
    (ran : Runs (foldWith (fold bindings limit resolving) bindings name node) before (some value)
      after) : after.Below more ∧ Denotes bindings node value := by
  let region : Region bindings := .beside sureMore node
  have knows : (region.terms resolving).known before :=
    Region.known_of_holds sure (Region.beside_holds below)
  have handled : (region.terms resolving).Meets
      (foldWith (fold bindings limit resolving) bindings name node)
      ((region.terms resolving).Folded node) :=
    foldWith_meets node unnamed
      (fun child demands => region.fold_folds limit resolving (.inr (.single demands)))
      fun breaks memo known => ⟨⟨node, trivial, breaks⟩, resolving, known⟩
  have ranInside := handled.runs knows ran
  exact ⟨Region.below_of_known known (Region.holds_of_known ranInside.1), ranInside.2.tells.holding⟩

theorem contains_of_knows {memo : FoldMemo} (known : memo.Knows node) :
    memo.nodes.contains node = true := by
  rcases known with ⟨result, known⟩
  simp [OrderedMap.contains, known]

theorem knows_of_contains {memo : FoldMemo} (isKnown : memo.nodes.contains node = true) :
    memo.Knows node :=
  Option.isSome_iff_exists.mp isKnown

/-- Operators ahead of a left operand can also be folded by one who knows more. -/
def PendingExceeded (bindings : BindingTable) (larger : Nat) (resolving : List Text) (left : Node)
    (more after : FoldMemo) : Prop :=
  ∃ beyond, Runs (foldEach (fold bindings larger resolving)
      (pendingOperators more.nodes.contains [] left)) more () beyond ∧
    Sure bindings beyond ∧ after.Below beyond

theorem PendingExceeded.of_leftOperand {inner : Node} (operand : leftOperand? left = some inner)
    (keeps : ∀ child, (exceeding bindings).Keeps (fold bindings limit resolving child)
      (fold bindings larger resolving child))
    (denotes : Denotes bindings left value) (sure : Sure bindings before)
    (sureMore : Sure bindings more) (below : before.Below more)
    (innerExceeded : ∀ own between, Denotes bindings inner own →
      AllFound (fold bindings limit resolving) before
        (pendingOperators before.nodes.contains [] inner) between →
      PendingExceeded bindings larger resolving inner more between)
    (found : AllFound (fold bindings limit resolving) before
      (pendingOperators before.nodes.contains [] left) after) :
    PendingExceeded bindings larger resolving left more after := by
  have learns := fold_learns bindings limit resolving
  unfold PendingExceeded
  cases isKnownMore : more.nodes.contains left with
  | true =>
      rw [pendingOperators_known isKnownMore]
      refine ⟨more, Runs.idle, sureMore, ?_⟩
      let region : Region bindings := .beside sureMore left
      have holds : region.Holds after :=
        holds_of_pending denotes (.inr .refl) (Region.beside_holds below) sure found.runs
      exact Region.below_of_known (knows_of_contains isKnownMore) holds
  | false =>
      have isKnown : before.nodes.contains left = false := by
        by_contra known
        have knownMore := below.nodes left (knows_of_contains (by simpa using known))
        cases isKnownMore.symm.trans (contains_of_knows knownMore)
      rw [pendingOperators_unknown operand isKnown] at found
      rw [pendingOperators_unknown operand isKnownMore]
      rcases denotes.of_demands (.needed (needs_leftOperand denotes operand)) with
        ⟨own, denotesInner⟩
      rcases AllFound.append_iff.mp found with ⟨between, onInner, onLeft⟩
      rcases innerExceeded own between denotesInner onInner with
        ⟨middle, alongInner, sureMiddle, belowMiddle⟩
      cases onLeft with
      | cons ran following =>
          cases following
          have sureBetween := (onInner.learned learns sure).1
          rcases keeps left _ _ _ ran middle sureBetween sureMiddle belowMiddle with
            ⟨-, beyond, alongLeft, sureBeyond, belowBeyond⟩
          refine ⟨beyond, ?_, sureBeyond, belowBeyond⟩
          exact foldEach_append.mpr ⟨middle, alongInner, foldEach_single.mpr ⟨_, alongLeft⟩⟩

theorem pending_exceeded
    (keeps : ∀ child, (exceeding bindings).Keeps (fold bindings limit resolving child)
      (fold bindings larger resolving child))
    (denotes : Denotes bindings left value) (sure : Sure bindings before)
    (sureMore : Sure bindings more) (below : before.Below more)
    (found : AllFound (fold bindings limit resolving) before
      (pendingOperators before.nodes.contains [] left) after) :
    PendingExceeded bindings larger resolving left more after := by
  fun_induction chainOperators left generalizing value after with
  | case1 span operator left right ih | case2 span operator left right ih =>
      exact .of_leftOperand rfl keeps denotes sure sureMore below (fun own between => ih) found
  | case3 left noBinary noLogical =>
      have operand := leftOperand?_eq_none noBinary noLogical
      unfold PendingExceeded
      rw [pendingOperators_other operand] at found ⊢
      cases found
      exact ⟨more, Runs.idle, sureMore, below⟩

theorem foldLeft_exceeded
    (keeps : ∀ child, (exceeding bindings).Keeps (fold bindings limit resolving child)
      (fold bindings larger resolving child)) (left : Node) :
    (exceeding bindings).Keeps (foldLeft (fold bindings limit resolving) left)
      (foldLeft (fold bindings larger resolving) left) := by
  intro before value after ran more sure sureMore below
  cases limit with
  | zero =>
      rcases foldLeft_iff.mp ran with ⟨between, -, onLeft⟩
      cases (Runs.pure_iff.mp onLeft).1
  | succ limit =>
      rcases foldLeft_found sure ran with ⟨denotes, between, found, onLeft⟩
      rcases pending_exceeded keeps denotes sure sureMore below found with
        ⟨middle, alongEach, sureMiddle, belowMiddle⟩
      have sureBetween := (found.learned (fold_learns bindings _ _) sure).1
      rcases keeps left _ _ _ onLeft middle sureBetween sureMiddle belowMiddle with
        ⟨sureAfter, beyond, alongLeft, sureBeyond, belowBeyond⟩
      exact ⟨sureAfter, beyond, foldLeft_iff.mpr ⟨middle, alongEach, alongLeft⟩, sureBeyond,
        belowBeyond⟩

/-- A name finds its value also for one who knows more. -/
theorem NameFound.exceeded {name : Text}
    (keeps : ∀ resolving child, (exceeding bindings).Keeps (fold bindings limit resolving child)
      (fold bindings larger resolving child))
    (sure : Sure bindings before) (sureMore : Sure bindings more) (below : before.Below more)
    (found : NameFound (fold bindings limit) bindings resolving name before value after) :
    ∃ beyond, NameFound (fold bindings larger) bindings resolving name more value beyond ∧
      after.Below beyond := by
  cases found with
  | undefined named valued => exact ⟨more, .undefined named valued, below⟩
  | known ordinary known =>
      rcases below.names name ⟨_, known⟩ with ⟨result, knownMore⟩
      cases sure.names_agree sureMore known knownMore
      exact ⟨more, .known ordinary knownMore, below⟩
  | global ordinary unknown fresh missing constant =>
      refine ⟨more, .global ordinary ?_ fresh missing constant, below⟩
      by_contra known
      rcases Option.ne_none_iff_exists'.mp known with ⟨result, known⟩
      rcases sureMore.defined name result known with ⟨definition, resolves, -⟩
      cases missing.symm.trans resolves.found
  | definition resolves unknown fresh ran =>
      have learned := fold_learns bindings _ _ _ _ _ _ ran sure
      cases knownMore : more.names.get? name with
      | some result =>
          rcases sureMore.defined name result knownMore with ⟨definition, resolves', known⟩
          cases resolves.found.symm.trans resolves'.found
          cases known.symm.trans (sureMore.value ⟨_, known⟩ learned.denotes)
          refine ⟨more, .known resolves.ordinary knownMore, ?_⟩
          have belowMore := below_of_fold sure sureMore below ⟨_, known⟩ ran
          refine ⟨belowMore.nodes, fun other knownAfter => ?_⟩
          rcases knowsName_insertName.mp knownAfter with rfl | knownAfter
          · exact ⟨_, knownMore⟩
          · exact belowMore.names other knownAfter
      | none =>
          rcases keeps _ _ _ _ _ ran more sure sureMore below with
            ⟨-, beyond, along, -, belowBeyond⟩
          exact ⟨_, .definition resolves knownMore fresh along, belowBeyond.insertName⟩

/-- Knowing more never hurts: what is folded to a value is folded to the same value by one who knows
more and may nest deeper. -/
theorem fold_exceeded (bindings : BindingTable) (deep : limit ≤ larger) (resolving : List Text)
    (node : Node) : (exceeding bindings).Keeps (fold bindings limit resolving node)
      (fold bindings larger resolving node) := by
  induction limit generalizing larger resolving node with
  | zero => exact .of_vain vain_pure
  | succ limit ih =>
      obtain ⟨larger, rfl⟩ := Nat.exists_eq_succ_of_ne_zero (Nat.ne_zero_of_lt deep)
      have keeps (resolving : List Text) (node : Node) : (exceeding bindings).Keeps
          (fold bindings limit resolving node) (fold bindings larger resolving node) :=
        ih (Nat.le_of_succ_le_succ deep) resolving node
      intro before value after ran more sure sureMore below
      have learned := fold_learns bindings _ _ _ _ _ _ ran sure
      refine ⟨learned.sure, ?_⟩
      cases knownMore : more.nodes.get? node with
      | some result =>
          have same := sureMore.value ⟨result, knownMore⟩ learned.denotes
          exact ⟨more, (fold_known_iff same).mpr ⟨rfl, rfl⟩, sureMore,
            below_of_fold sure sureMore below ⟨result, knownMore⟩ ran⟩
      | none =>
          have unknown : before.nodes.get? node = none := by
            by_contra known
            rcases below.nodes node (Option.ne_none_iff_exists'.mp known) with ⟨_, knownMore'⟩
            cases knownMore.symm.trans knownMore'
          rcases (fold_unknown_iff unknown).mp ran with ⟨between, onNode, rfl⟩
          have along : ∃ beyond, Runs (foldWith (fold bindings larger resolving) bindings
              (foldName (fold bindings larger) bindings resolving) node) more (some value) beyond ∧
              between.Below beyond := by
            by_cases isName : ∃ span name, node = .identifier span name
            · rcases isName with ⟨span, name, rfl⟩
              rcases (foldName_iff.mp onNode).exceeded keeps sure sureMore below with
                ⟨beyond, found, below⟩
              exact ⟨beyond, foldName_iff.mpr found, below⟩
            · have unnamed : ∀ span name, node ≠ .identifier span name :=
                fun span name same => isName ⟨span, name, same⟩
              rcases foldWith_keeps (keeps resolving) (foldLeft_exceeded (keeps resolving)) node
                unnamed _ _ _ onNode more sure sureMore below with ⟨-, beyond, along, -, below⟩
              exact ⟨beyond, along, below⟩
          rcases along with ⟨beyond, alongNode, below⟩
          have ranMore := (fold_unknown_iff knownMore).mpr ⟨beyond, alongNode, rfl⟩
          exact ⟨_, ranMore, (fold_learns bindings _ _ _ _ _ _ ranMore sureMore).sure,
            below.insertNode⟩

/-- What the parts of an expression make of it is also found by one who knows more and may nest
deeper, whether or not the expression itself was known before. -/
theorem foldWith_exceeded (unnamed : ∀ span text, node ≠ .identifier span text)
    {name : Text → FoldM (Option Value)} (deep : limit ≤ larger) (sure : Sure bindings before)
    (sureMore : Sure bindings more) (below : before.Below more)
    (ran : Runs (foldWith (fold bindings limit resolving) bindings name node) before (some value)
      after) :
    ∃ beyond, Runs (fold bindings (larger + 1) resolving node) more (some value) beyond ∧
      Sure bindings beyond ∧ after.Below beyond := by
  cases known : more.nodes.get? node with
  | some result =>
      rcases below_of_foldWith unnamed sure sureMore below ⟨result, known⟩ ran with
        ⟨belowMore, denotes⟩
      have same := sureMore.value ⟨result, known⟩ denotes
      exact ⟨more, (fold_known_iff same).mpr ⟨rfl, rfl⟩, sureMore, belowMore⟩
  | none =>
      have keeps (child : Node) : (exceeding bindings).Keeps (fold bindings limit resolving child)
          (fold bindings larger resolving child) := fold_exceeded bindings deep resolving child
      rcases foldWith_keeps keeps (foldLeft_exceeded keeps) node unnamed _ _ _ ran more sure
        sureMore below with ⟨-, beyond, along, -, belowBeyond⟩
      have ranMore := (fold_unknown_iff known).mpr ⟨beyond, along, rfl⟩
      exact ⟨_, ranMore, (fold_learns bindings _ _ _ _ _ _ ranMore sureMore).sure,
        belowBeyond.trans below_insertNode⟩

end Exceeding

end ComponentInliner.Fold
