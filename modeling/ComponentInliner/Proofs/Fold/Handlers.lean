import ComponentInliner.Proofs.Fold.Contract

/-!
# Folding one expression

How `foldWith` folds an expression if `self` folds what the expression demands on the terms of a
contract: one lemma for each handler, put together in `foldWith_meets`. Nothing is assumed about
what the contract says of the memo and of settled expressions, so that different properties of a
run share the handlers.
-/

namespace ComponentInliner

/-- No folded function reads an index. -/
theorem ConstantCall.result_ne_indexTooLong (call : ConstantCall) (origin : Span)
    (arguments : List Value) : call.result origin arguments ≠ .error .indexTooLong := by
  cases call with
  | arrayFrom =>
      simp only [result]
      split <;> simp
  | _ => simp [result]

namespace Fold

theorem toOption_eq_some {Fault Result : Type} {outcome : Except Fault Result} {result : Result} :
    outcome.toOption = some result ↔ outcome = .ok result := by
  cases outcome <;> simp [Except.toOption]

section Handlers

variable {contract : Contract} {self : Node → FoldM (Option Value)}

theorem foldElements_meets (elements : List (Option Node))
    (folded : ∀ child, ElementsDemand contract.Has elements child → contract.Folds self child) :
    contract.Meets (foldElements self elements) fun result =>
      Tells contract.enough (ElementsHave contract.Has elements) result ∧ (contract.enough →
        ∀ child, ElementsDemand contract.Has elements child → contract.settled child) := by
  induction elements with
  | nil =>
      refine Contract.Meets.pure ⟨.some .nil ?_, fun _ child demanded => nomatch demanded⟩
      rintro values ⟨⟩
      rfl
  | cons element rest ih =>
      cases element with
      | none =>
          have passed : ElementsHave contract.Has [none] [.undefined] := .hole .nil
          apply Contract.Meets.bind (ih fun child demanded => folded child (.later passed demanded))
          rintro following ⟨onRest, settledRest⟩
          refine Contract.Meets.pure ⟨onRest.map fun values => ⟨?_, ?_⟩, ?_⟩
          · rintro ⟨others, derived, rfl⟩
            exact .hole derived
          · rintro (_ | derived)
            exact ⟨_, derived, rfl⟩
          · intro enough child demanded
            cases demanded with
            | later _ demanded => exact settledRest enough child demanded
      | some node =>
          apply Contract.Meets.bind (folded _ .first)
          rintro operand ⟨onOperand, settledOperand⟩
          cases expanded : operand.bind (elementValues? node) with
          | none =>
              have stuck (enough : contract.enough) (following : List (Option Node))
                  (values : List Value) :
                  ¬ElementsHave contract.Has (some node :: following) values := by
                rintro (_ | _ | ⟨own, adds, -⟩)
                simp [onOperand.complete enough _ own, adds] at expanded
              refine Contract.Meets.pure ⟨.none fun enough => stuck enough rest, ?_⟩
              intro enough child demanded
              cases demanded with
              | first => exact settledOperand enough
              | later passed => exact absurd passed (stuck enough _ _)
          | some added =>
              rcases Option.bind_eq_some_iff.mp expanded with ⟨value, rfl, adds⟩
              have own := onOperand.holding
              have passed : ElementsHave contract.Has [some node] (added ++ []) :=
                .element own adds .nil
              refine Contract.Meets.bind
                (ih fun child demanded => folded child (.later passed demanded)) ?_
              rintro following ⟨onRest, settledRest⟩
              refine Contract.Meets.pure ⟨onRest.map fun values => ⟨?_, ?_⟩, ?_⟩
              · rintro ⟨others, derived, rfl⟩
                exact .element own adds derived
              · rintro (_ | _ | ⟨own', adds', derived⟩)
                cases own.unique own'
                cases adds.symm.trans adds'
                exact ⟨_, derived, rfl⟩
              · intro enough child demanded
                cases demanded with
                | first => exact settledOperand enough
                | later _ demanded => exact settledRest enough child demanded

theorem foldTemplate_meets (text : Text) (parts : List (Node × Text))
    (folded : ∀ child, TemplateDemands contract.Has parts child → contract.Folds self child) :
    contract.Meets (foldTemplate self text parts) fun result =>
      Tells contract.enough (TemplateHas contract.Has text parts) result ∧ (contract.enough →
        ∀ child, TemplateDemands contract.Has parts child → contract.settled child) := by
  induction parts generalizing text with
  | nil =>
      refine Contract.Meets.pure ⟨.some .nil ?_, fun _ child demanded => nomatch demanded⟩
      rintro whole ⟨⟩
      rfl
  | cons part rest ih =>
      rcases part with ⟨node, following⟩
      apply Contract.Meets.bind (folded node .first)
      rintro (_ | value) ⟨onNode, settledNode⟩
      · refine Contract.Meets.pure ⟨.none ?_, ?_⟩
        · rintro enough whole (_ | ⟨own, -⟩)
          exact onNode.missing enough _ own
        · intro enough child demanded
          cases demanded with
          | first => exact settledNode enough
          | later own => exact absurd own (onNode.missing enough _)
      · have own := onNode.holding
        refine Contract.Meets.weaken
          (ih _ fun child demanded => folded child (.later own demanded)) ?_
        rintro result ⟨onRest, settledRest⟩
        refine ⟨onRest.congr fun whole => ⟨?_, ?_⟩, ?_⟩
        · exact .part own
        · rintro (_ | ⟨own', next⟩)
          cases own.unique own'
          exact next
        · intro enough child demanded
          cases demanded with
          | first => exact settledNode enough
          | later _ next => exact settledRest enough child next

theorem foldKey_meets (key : Node) (isComputed : Bool)
    (folded : isComputed = true → contract.Folds self key) :
    contract.Meets (foldKey self key isComputed) fun result =>
      Tells contract.enough (KeyHas contract.Has key isComputed) result ∧
        (contract.enough → isComputed = true → contract.settled key) := by
  cases isComputed with
  | false =>
      have spells : Tells contract.enough (fun value => writtenKey? key = some value)
          (writtenKey? key) :=
        ⟨fun _ spelled => spelled, fun _ _ spelled => spelled⟩
      apply Contract.Meets.bind (Contract.Meets.pure rfl)
      rintro written rfl
      refine Contract.Meets.pure ⟨spells.bind fun name => ⟨?_, ?_⟩, nofun⟩
      · rintro ⟨value, spelled, converted⟩
        exact .written spelled (toOption_eq_some.mp converted)
      · rintro (_ | ⟨spelled, converted⟩)
        exact ⟨_, spelled, toOption_eq_some.mpr converted⟩
  | true =>
      apply Contract.Meets.bind (folded rfl)
      rintro value ⟨onKey, settledKey⟩
      refine Contract.Meets.pure
        ⟨onKey.bind fun name => ⟨?_, ?_⟩, fun enough _ => settledKey enough⟩
      · rintro ⟨value, own, converted⟩
        exact .computed own (toOption_eq_some.mp converted)
      · rintro (⟨own, converted⟩ | _)
        exact ⟨_, own, toOption_eq_some.mpr converted⟩

/-- One property of an object literal, added to those before it. -/
def foldProperty (self : Node → FoldM (Option Value)) (before : OrderedMap Text Value) :
    Property → FoldM (Option (OrderedMap Text Value))
  | .pair _ key isComputed node => do
      match ← foldKey self key isComputed with
      | some name => return (← self node).map (before.insert name)
      | none => return none
  | .shorthand span name => do return (← self (.identifier span name)).map (before.insert name)
  | .spread _ argument => do
      match ← self argument with
      | some (.record _ added) => return some (before.insertAll added)
      | _ => return none
  | .method _ _ => return none

theorem foldProperties_cons (before : OrderedMap Text Value) (property : Property)
    (rest : List Property) :
    foldProperties self before (property :: rest) = (do
      match ← foldProperty self before property with
      | some middle => foldProperties self middle rest
      | none => return none) := by
  cases property with
  | pair span key isComputed node =>
      simp only [foldProperties, foldProperty, bind_assoc]
      congr 1
      funext name
      cases name with
      | none => simp
      | some name =>
          simp only [bind_assoc, pure_bind]
          congr 1
          funext value
          cases value <;> rfl
  | shorthand span name =>
      simp only [foldProperties, foldProperty, bind_assoc, pure_bind]
      congr 1
      funext value
      cases value <;> rfl
  | spread span argument =>
      simp only [foldProperties, foldProperty, bind_assoc]
      congr 1
      funext operand
      split <;> simp
  | method span kind => simp [foldProperties, foldProperty]

theorem foldProperty_meets (before : OrderedMap Text Value) (property : Property)
    (folded : ∀ child, PropertiesDemand contract.Has [property] child → contract.Folds self child) :
    contract.Meets (foldProperty self before property) fun result =>
      Tells contract.enough (PropertiesHave contract.Has before [property]) result ∧
        (contract.enough → ∀ child, PropertiesDemand contract.Has [property] child →
          contract.settled child) := by
  cases property with
  | pair span key isComputed node =>
      have keyFolds : isComputed = true → contract.Folds self key := by
        rintro rfl
        exact folded key .key
      apply Contract.Meets.bind (foldKey_meets key isComputed keyFolds)
      rintro (_ | name) ⟨onKey, settledKey⟩
      · refine Contract.Meets.pure ⟨.none ?_, ?_⟩
        · rintro enough after (_ | ⟨keyed, -⟩)
          exact onKey.missing enough _ keyed
        · intro enough child demanded
          cases demanded with
          | key => exact settledKey enough rfl
          | value keyed => exact absurd keyed (onKey.missing enough _)
          | later _ impossible => cases impossible
      · have keyed := onKey.holding
        apply Contract.Meets.bind (folded node (.value keyed))
        rintro value ⟨onNode, settledNode⟩
        refine Contract.Meets.pure ⟨onNode.map fun after => ⟨?_, ?_⟩, ?_⟩
        · rintro ⟨value, own, rfl⟩
          exact .pair keyed own .nil
        · rintro (_ | ⟨keyed', own, done⟩)
          cases done
          cases keyed.unique contract.has_unique keyed'
          exact ⟨_, own, rfl⟩
        · intro enough child demanded
          cases demanded with
          | key => exact settledKey enough rfl
          | value => exact settledNode enough
          | later _ impossible => cases impossible
  | shorthand span name =>
      apply Contract.Meets.bind (folded _ .shorthand)
      rintro value ⟨onName, settledName⟩
      refine Contract.Meets.pure ⟨onName.map fun after => ⟨?_, ?_⟩, ?_⟩
      · rintro ⟨value, own, rfl⟩
        exact .shorthand own .nil
      · rintro (_ | _ | ⟨own, done⟩)
        cases done
        exact ⟨_, own, rfl⟩
      · intro enough child demanded
        cases demanded with
        | shorthand => exact settledName enough
        | later _ impossible => cases impossible
  | spread span argument =>
      apply Contract.Meets.bind (folded _ .spread)
      rintro operand ⟨onArgument, settledArgument⟩
      have settled (enough : contract.enough) (child : Node)
          (demanded : PropertiesDemand contract.Has [.spread span argument] child) :
          contract.settled child := by
        cases demanded with
        | spread => exact settledArgument enough
        | later _ impossible => cases impossible
      split
      · next origin added =>
          have own := onArgument.holding
          refine Contract.Meets.pure ⟨.some (.spread own .nil) ?_, settled⟩
          rintro after (_ | _ | _ | ⟨own', done⟩)
          cases done
          cases own.unique own'
          rfl
      · next noRecord =>
          refine Contract.Meets.pure ⟨.none ?_, settled⟩
          rintro enough after (_ | _ | _ | own)
          exact noRecord _ _ (onArgument.complete enough _ own)
  | method span kind =>
      refine Contract.Meets.pure ⟨.none ?_, ?_⟩
      · intro _ after derived
        cases derived
      · intro _ child demanded
        cases demanded with
        | later _ impossible => cases impossible

theorem foldProperties_meets (before : OrderedMap Text Value) (properties : List Property)
    (folded : ∀ child, PropertiesDemand contract.Has properties child → contract.Folds self child) :
    contract.Meets (foldProperties self before properties) fun result =>
      Tells contract.enough (PropertiesHave contract.Has before properties) result ∧
        (contract.enough → ∀ child, PropertiesDemand contract.Has properties child →
          contract.settled child) := by
  induction properties generalizing before with
  | nil =>
      refine Contract.Meets.pure ⟨.some .nil ?_, fun _ child demanded => nomatch demanded⟩
      rintro after ⟨⟩
      rfl
  | cons property rest ih =>
      rw [foldProperties_cons]
      apply Contract.Meets.bind (foldProperty_meets before property fun child demanded =>
        folded child (PropertiesDemand.cons_iff.mpr (.inl demanded)))
      rintro (_ | middle) ⟨onFirst, settledFirst⟩
      · refine Contract.Meets.pure ⟨.none ?_, ?_⟩
        · intro enough after derived
          rcases PropertiesHave.cons_iff.mp derived with ⟨middle, passed, -⟩
          exact onFirst.missing enough _ passed
        · intro enough child demanded
          rcases PropertiesDemand.cons_iff.mp demanded with demanded | ⟨_, _, passed, -⟩
          · exact settledFirst enough child demanded
          · rcases passed.elsewhere before with ⟨middle, passed⟩
            exact absurd passed (onFirst.missing enough _)
      · have passed := onFirst.holding
        apply Contract.Meets.weaken
          (ih middle fun child demanded => folded child (.later passed demanded))
        rintro result ⟨onRest, settledRest⟩
        refine ⟨onRest.congr fun after => ⟨?_, ?_⟩, ?_⟩
        · exact fun following => PropertiesHave.cons_iff.mpr ⟨middle, passed, following⟩
        · intro derived
          rcases PropertiesHave.cons_iff.mp derived with ⟨middle', passed', following⟩
          cases passed.unique contract.has_unique passed'
          exact following
        · intro enough child demanded
          rcases PropertiesDemand.cons_iff.mp demanded with demanded | ⟨_, _, -, following⟩
          · exact settledFirst enough child demanded
          · exact settledRest enough child following

theorem settle_meets {outcome : Except ValueFault Value} {post : Option Value → Prop}
    (succeeds : ∀ value, outcome = .ok value → post (some value))
    (fails : (∀ value, outcome ≠ .ok value) → outcome ≠ .error .indexTooLong → post none)
    (breaks : outcome = .error .indexTooLong → ∀ memo, contract.known memo → contract.broken memo) :
    contract.Meets (settle outcome) post := by
  rcases outcome with fault | value
  · by_cases tooLong : fault = .indexTooLong
    · subst tooLong
      exact Contract.Meets.throw (breaks rfl)
    · have failed : post none := fails (by simp) (by simpa using tooLong)
      cases fault with
      | indexTooLong => exact absurd rfl tooLong
      | _ => exact Contract.Meets.pure failed
  · exact Contract.Meets.pure (succeeds value rfl)

theorem foldEach_meets (nodes : List Node)
    (folded : ∀ node ∈ nodes, contract.Folds self node) :
    contract.Meets (foldEach self nodes) fun _ => True := by
  induction nodes with
  | nil => exact Contract.Meets.pure trivial
  | cons node rest ih =>
      apply Contract.Meets.bind (folded node (List.mem_cons_self ..))
      intro _ _
      exact ih fun other mem => folded other (List.mem_cons_of_mem _ mem)

theorem mem_pendingOperators {isKnown : Node → Bool} {outer : List Node} {node child : Node}
    (pending : child ∈ pendingOperators isKnown outer node) :
    child ∈ outer ∨ child ∈ chainOperators node := by
  fun_induction pendingOperators isKnown outer node with
  | case1 outer span operator left right _ => exact .inl pending
  | case2 outer span operator left right _ ih =>
      rcases ih pending with isOuter | isInner
      · rcases List.mem_cons.mp isOuter with rfl | isOuter
        · exact .inr (List.mem_cons_self ..)
        · exact .inl isOuter
      · exact .inr (List.mem_cons_of_mem _ isInner)
  | case3 outer span operator left right _ => exact .inl pending
  | case4 outer span operator left right _ ih =>
      rcases ih pending with isOuter | isInner
      · rcases List.mem_cons.mp isOuter with rfl | isOuter
        · exact .inr (List.mem_cons_self ..)
        · exact .inl isOuter
      · exact .inr (List.mem_cons_of_mem _ isInner)
  | case5 outer node _ _ => exact .inl pending

theorem foldLeft_meets {left : Node}
    (ahead : ∀ child ∈ chainOperators left, contract.Folds self child)
    (folded : contract.Folds self left) :
    contract.Folds (foldLeft self) left := by
  apply Contract.Meets.bind Contract.Meets.get
  intro memo _
  have pendingFold : ∀ child ∈ pendingOperators memo.nodes.contains [] left,
      contract.Folds self child := by
    intro child pending
    rcases mem_pendingOperators pending with impossible | mem
    · cases impossible
    · exact ahead child mem
  exact Contract.Meets.bind (foldEach_meets _ pendingFold) fun _ _ => folded

theorem foldSelector_meets (property : Node) (isComputed : Bool)
    (folded : isComputed = true → contract.Folds self property) :
    contract.Meets (if isComputed then self property else pure (writtenName? property))
      fun result => Tells contract.enough (SelectorHas contract.Has property isComputed) result ∧
        (contract.enough → isComputed = true → contract.settled property) := by
  cases isComputed with
  | false =>
      refine Contract.Meets.pure ⟨⟨fun key => .written, fun _ key => ?_⟩, nofun⟩
      rintro (_ | spelled)
      exact spelled
  | true =>
      apply Contract.Meets.weaken (folded rfl)
      rintro result ⟨onProperty, settledProperty⟩
      refine ⟨onProperty.congr fun key => ⟨.computed, ?_⟩, fun enough _ => settledProperty enough⟩
      rintro (own | _)
      exact own

theorem foldBinary_meets {span : Span} {operator : BinaryOperator} {left right : Node}
    (constant : hasConstants operator = true)
    (ahead : ∀ child ∈ chainOperators left, contract.Folds self child)
    (foldedLeft : contract.Folds self left) (foldedRight : contract.Folds self right) :
    contract.Meets (foldBinary self operator left right)
      (contract.Folded (.binary span operator left right)) := by
  apply Contract.Meets.bind (foldLeft_meets ahead foldedLeft)
  rintro leftValue ⟨onLeft, settledLeft⟩
  apply Contract.Meets.bind foldedRight
  rintro rightValue ⟨onRight, settledRight⟩
  refine Contract.Meets.pure ⟨⟨?_, ?_⟩, ?_, fun _ => nofun⟩
  · intro value found
    rcases Option.bind_eq_some_iff.mp found with ⟨leftConstant, rfl, onRest⟩
    rcases Option.bind_eq_some_iff.mp onRest with ⟨rightConstant, rfl, computed⟩
    exact Denotes.of_rule (.binary constant onLeft.holding onRight.holding computed)
  · intro enough value denotes
    cases denotes_iff_rule.mp denotes with
    | binary _ denotesLeft denotesRight computed =>
        rw [onLeft.complete enough _ denotesLeft, onRight.complete enough _ denotesRight]
        exact computed
  · intro enough child needs
    cases needs with
    | binaryLeft => exact settledLeft enough
    | binaryRight => exact settledRight enough

theorem foldLogical_meets {span : Span} {operator : LogicalOperator} {left right : Node}
    (ahead : ∀ child ∈ chainOperators left, contract.Folds self child)
    (foldedLeft : contract.Folds self left)
    (foldedRight : ∀ value, contract.Has left value → operator.decidedBy value = false →
      contract.Folds self right) :
    contract.Meets (foldLogical self operator left right)
      (contract.Folded (.logical span operator left right)) := by
  apply Contract.Meets.bind (foldLeft_meets ahead foldedLeft)
  rintro (_ | leftValue) ⟨onLeft, settledLeft⟩
  · refine Contract.Meets.pure
      ⟨.none fun enough value denotes => ?_, fun enough child needs => ?_, fun _ => nofun⟩
    · cases denotes_iff_rule.mp denotes with
      | decided denotesLeft | undecided denotesLeft => exact onLeft.missing enough _ denotesLeft
    · cases needs with
      | logicalLeft => exact settledLeft enough
      | logicalRight denotesLeft => exact absurd denotesLeft (onLeft.missing enough _)
  have denotesLeft := onLeft.holding
  cases decides : operator.decidedBy leftValue with
  | true =>
      simp only [decides, if_true]
      refine Contract.Meets.pure
        ⟨Contract.tells_value (Denotes.of_rule (.decided denotesLeft decides)),
          fun enough child needs => ?_, fun _ => nofun⟩
      cases needs with
      | logicalLeft => exact settledLeft enough
      | logicalRight denotesLeft' continues =>
          cases denotesLeft.unique denotesLeft'
          cases decides.symm.trans continues
  | false =>
      simp only [decides, Bool.false_eq_true, if_false]
      apply Contract.Meets.weaken (foldedRight leftValue denotesLeft decides)
      rintro result ⟨onRight, settledRight⟩
      refine ⟨onRight.congr fun value => ⟨?_, ?_⟩, fun enough child needs => ?_, fun _ => nofun⟩
      · exact fun denotesRight => Denotes.of_rule (.undecided denotesLeft decides denotesRight)
      · intro denotes
        cases denotes_iff_rule.mp denotes with
        | decided denotesLeft' decided =>
            cases denotesLeft.unique denotesLeft'
            cases decides.symm.trans decided
        | undecided _ _ denotesRight => exact denotesRight
      · cases needs with
        | logicalLeft => exact settledLeft enough
        | logicalRight => exact settledRight enough

theorem foldMember_meets {span : Span} {owner property : Node} {isComputed : Bool}
    (foldedOwner : contract.Folds self owner)
    (foldedSelector : ∀ target, isComputed = true → contract.Has owner target →
      target.isNullish = false → contract.Folds self property)
    (breaks : Breaks contract.bindings (.member span owner property isComputed false) →
      ∀ memo, contract.known memo → contract.broken memo) :
    contract.Meets (foldMember self owner property isComputed)
      (contract.Folded (.member span owner property isComputed false)) := by
  apply Contract.Meets.bind foldedOwner
  rintro (_ | target) ⟨onOwner, settledOwner⟩
  · refine Contract.Meets.pure
      ⟨.none fun enough value denotes => ?_, fun enough child needs => ?_, fun enough => ?_⟩
    · cases denotes_iff_rule.mp denotes with
      | member denotesOwner => exact onOwner.missing enough _ denotesOwner
    · cases needs with
      | owner => exact settledOwner enough
      | selector denotesOwner => exact absurd denotesOwner (onOwner.missing enough _)
    · rintro ⟨denotesOwner⟩
      exact onOwner.missing enough _ denotesOwner
  have denotesOwner := onOwner.holding
  cases nullish : target.isNullish with
  | true =>
      simp only [nullish, if_true]
      -- Nothing is read from `null` and `undefined`.
      have unreal (other : Value) (again : contract.Has owner other) : other.isNullish ≠ false := by
        intro real
        rw [again.unique denotesOwner, nullish] at real
        cases real
      refine Contract.Meets.pure
        ⟨.none fun _ value denotes => ?_, fun enough child needs => ?_, fun _ => ?_⟩
      · cases denotes_iff_rule.mp denotes with
        | member again real => exact unreal _ again real
      · cases needs with
        | owner => exact settledOwner enough
        | selector again real => exact absurd real (unreal _ again)
      · rintro ⟨again, real⟩
        exact unreal _ again real
  | false =>
      simp only [nullish, Bool.false_eq_true, if_false]
      refine Contract.Meets.bind (foldSelector_meets property isComputed fun computed =>
        foldedSelector target computed denotesOwner nullish) ?_
      rintro selected ⟨onSelector, settledSelector⟩
      have needed (enough : contract.enough) (child : Node)
          (needs : Needs contract.bindings (.member span owner property isComputed false) child) :
          contract.settled child := by
        cases needs with
        | owner => exact settledOwner enough
        | selector => exact settledSelector enough rfl
      cases selected with
      | none =>
          refine Contract.Meets.pure
            ⟨.none fun enough value denotes => ?_, needed, fun enough => ?_⟩
          · cases denotes_iff_rule.mp denotes with
            | member _ _ selects => exact onSelector.missing enough _ selects
          · rintro ⟨-, -, selects⟩
            exact onSelector.missing enough _ selects
      | some key =>
          have selects := onSelector.holding
          have unbroken (readable : target.getProperty key ≠ .error .indexTooLong) :
              ¬Breaks contract.bindings (.member span owner property isComputed false) := by
            rintro ⟨again, -, selectsAgain, broken⟩
            rw [again.unique denotesOwner,
              selectsAgain.unique contract.has_unique selects] at broken
            exact readable broken
          refine settle_meets ?_ ?_ ?_
          · intro value read
            refine
              ⟨Contract.tells_value (Denotes.of_rule (.member denotesOwner nullish selects read)),
                needed, fun _ => unbroken ?_⟩
            simp [read]
          · intro failed readable
            refine ⟨.none fun _ value denotes => ?_, needed, fun _ => unbroken readable⟩
            cases denotes_iff_rule.mp denotes with
            | member again _ selectsAgain read =>
                rw [again.unique denotesOwner,
                  selectsAgain.unique contract.has_unique selects] at read
                exact failed _ read
          · exact fun read => breaks (.member denotesOwner nullish selects read)

theorem foldCall_meets {span : Span} {callee : Node} {arguments : List Node}
    (folded : ∀ function child, calledFunction? contract.bindings callee = some function →
      ElementsDemand contract.Has (arguments.map some) child → contract.Folds self child) :
    contract.Meets (foldCall self contract.bindings span callee arguments)
      (contract.Folded (.call span callee arguments false)) := by
  unfold foldCall
  cases named : calledFunction? contract.bindings callee with
  | none =>
      refine Contract.Meets.pure
        ⟨.none fun _ value denotes => ?_, fun _ child needs => ?_, fun _ => nofun⟩
      · cases denotes_iff_rule.mp denotes with
        | call named' => cases named.symm.trans named'
      · cases needs with
        | argument named' => cases named.symm.trans named'
  | some function =>
      apply Contract.Meets.bind (foldElements_meets _ fun child => folded function child named)
      rintro given ⟨onArguments, settledArguments⟩
      have needed (enough : contract.enough) (child : Node)
          (needs : Needs contract.bindings (.call span callee arguments false) child) :
          contract.settled child := by
        cases needs with
        | argument _ demanded => exact settledArguments enough child demanded
      cases given with
      | none =>
          refine Contract.Meets.pure ⟨.none fun enough value denotes => ?_, needed, fun _ => nofun⟩
          cases denotes_iff_rule.mp denotes with
          | call _ given => exact onArguments.missing enough _ given
      | some values =>
          have given := onArguments.holding
          refine settle_meets ?_ ?_ ?_
          · intro value computed
            exact ⟨Contract.tells_value (Denotes.of_rule (.call named given computed)), needed,
              fun _ => nofun⟩
          · intro failed _
            refine ⟨.none fun _ value denotes => ?_, needed, fun _ => nofun⟩
            cases denotes_iff_rule.mp denotes with
            | call named' again computed =>
                cases named.symm.trans named'
                rw [again.unique contract.has_unique given] at computed
                exact failed _ computed
          · exact fun tooLong => absurd tooLong (function.result_ne_indexTooLong span values)

/-- An expression whose value is made of what its parts fold to. -/
theorem meets_of_parts {Part : Type} {action : FoldM (Option Part)} {has : Part → Prop}
    {demanded : Node → Prop} {make : Part → Value} {node : Node}
    (folds : contract.Meets action fun result => Tells contract.enough has result ∧
      (contract.enough → ∀ child, demanded child → contract.settled child))
    (derives : ∀ value, (∃ part, has part ∧ make part = value) ↔
      Rule contract.Has contract.bindings node value)
    (needs : ∀ child, Needs contract.bindings node child → demanded child)
    (unbroken : ¬Breaks contract.bindings node) :
    contract.Meets (do return (← action).map make) (contract.Folded node) := by
  apply Contract.Meets.bind folds
  rintro result ⟨onParts, settledParts⟩
  refine Contract.Meets.pure ⟨onParts.map fun value => ?_, ?_, fun _ => unbroken⟩
  · exact (derives value).trans denotes_iff_rule.symm
  · exact fun enough child needed => settledParts enough child (needs child needed)

section Parts

variable {name : Text → FoldM (Option Value)} {span : Span}

theorem foldUnary_meets {operator : UnaryOperator} {argument : Node}
    (folded : operator ≠ .delete → contract.Folds self argument) :
    contract.Meets (foldWith self contract.bindings name (.unary span operator argument))
      (contract.Folded (.unary span operator argument)) := by
  by_cases isDelete : operator = .delete
  · subst isDelete
    refine Contract.Meets.pure (Contract.Folded.of_leaf (fun value => ⟨?_, nofun⟩) ?_ nofun)
    · intro derived
      cases derived with
      | unary constant => exact absurd rfl constant
    · intro child needs
      cases needs with
      | operand constant => exact constant rfl
  · simp only [foldWith, isDelete, if_false]
    apply Contract.Meets.bind (folded isDelete)
    rintro operand ⟨onArgument, settledArgument⟩
    refine Contract.Meets.pure ⟨onArgument.bind fun value => ⟨?_, ?_⟩, ?_, fun _ => nofun⟩
    · rintro ⟨constant, own, computed⟩
      exact Denotes.of_rule (.unary isDelete own computed)
    · intro denotes
      cases denotes_iff_rule.mp denotes with
      | unary _ own computed => exact ⟨_, own, computed⟩
    · intro enough child needs
      cases needs with
      | operand => exact settledArgument enough

theorem foldInconstant_meets {operator : BinaryOperator} {left right : Node}
    (inconstant : hasConstants operator = false) :
    contract.Meets (foldWith self contract.bindings name (.binary span operator left right))
      (contract.Folded (.binary span operator left right)) := by
  simp only [foldWith, inconstant, Bool.false_eq_true, if_false]
  refine Contract.Meets.pure (Contract.Folded.of_leaf (fun value => ⟨?_, nofun⟩) ?_ nofun)
  · intro derived
    cases derived with
    | binary isConstant => cases inconstant.symm.trans isConstant
  · intro child needs
    cases needs with
    | binaryLeft isConstant | binaryRight isConstant =>
        cases inconstant.symm.trans isConstant

theorem foldConditional_meets {test consequent alternate : Node}
    (foldedTest : contract.Folds self test)
    (foldedBranch : ∀ condition, contract.Has test condition →
      contract.Folds self (if condition.truthy then consequent else alternate)) :
    contract.Meets
      (foldWith self contract.bindings name (.conditional span test consequent alternate))
      (contract.Folded (.conditional span test consequent alternate)) := by
  apply Contract.Meets.bind foldedTest
  rintro (_ | condition) ⟨onTest, settledTest⟩
  · refine Contract.Meets.pure
      ⟨.none fun enough value denotes => ?_, fun enough child needs => ?_, fun _ => nofun⟩
    · cases denotes_iff_rule.mp denotes with
      | conditional own => exact onTest.missing enough _ own
    · cases needs with
      | test => exact settledTest enough
      | branch own => exact absurd own (onTest.missing enough _)
  · have denotesTest := onTest.holding
    apply Contract.Meets.weaken (foldedBranch condition denotesTest)
    rintro result ⟨onBranch, settledBranch⟩
    refine ⟨onBranch.congr fun value => ⟨?_, ?_⟩, fun enough child needs => ?_, fun _ => nofun⟩
    · exact fun own => Denotes.of_rule (.conditional denotesTest own)
    · intro denotes
      cases denotes_iff_rule.mp denotes with
      | conditional again own =>
          cases denotesTest.unique again
          exact own
    · cases needs with
      | test => exact settledTest enough
      | branch again =>
          cases denotesTest.unique again
          exact settledBranch enough

end Parts

/-- The handlers fold an expression other than a name rightly if what it demands is folded
rightly. -/
theorem foldWith_meets {name : Text → FoldM (Option Value)} (node : Node)
    (unnamed : ∀ span text, node ≠ .identifier span text)
    (folded : ∀ child, Demands contract.bindings node child → contract.Folds self child)
    (breaks : Breaks contract.bindings node → ∀ memo, contract.known memo → contract.broken memo) :
    contract.Meets (foldWith self contract.bindings name node) (contract.Folded node) := by
  cases node with
  | identifier span text => exact absurd rfl (unnamed span text)
  | literal span literal raw =>
      refine Contract.Meets.pure (Contract.Folded.of_leaf (fun value => ⟨?_, .literal⟩) nofun nofun)
      rintro ⟨written⟩
      exact written
  | template span head parts =>
      have parted := foldTemplate_meets head parts fun child demanded =>
        folded child (.needed (.substitution demanded))
      refine meets_of_parts parted (fun value => ⟨?_, ?_⟩) ?_ nofun
      · rintro ⟨text, filled, rfl⟩
        exact .template filled
      · intro derived
        cases derived with
        | template filled => exact ⟨_, filled, rfl⟩
      · intro child needs
        cases needs with
        | substitution demanded => exact demanded
  | array span elements =>
      have listed := foldElements_meets elements fun child demanded =>
        folded child (.needed (.element demanded))
      refine meets_of_parts listed (fun value => ⟨?_, ?_⟩) ?_ nofun
      · rintro ⟨values, filled, rfl⟩
        exact .array filled
      · intro derived
        cases derived with
        | array filled => exact ⟨_, filled, rfl⟩
      · intro child needs
        cases needs with
        | element demanded => exact demanded
  | object span properties =>
      have listed := foldProperties_meets .empty properties fun child demanded =>
        folded child (.needed (.property demanded))
      refine meets_of_parts listed (fun value => ⟨?_, ?_⟩) ?_ nofun
      · rintro ⟨result, filled, rfl⟩
        exact .object filled
      · intro derived
        cases derived with
        | object filled => exact ⟨_, filled, rfl⟩
      · intro child needs
        cases needs with
        | property demanded => exact demanded
  | unary span operator argument =>
      exact foldUnary_meets fun constant => folded argument (.needed (.operand constant))
  | binary span operator left right =>
      cases constant : hasConstants operator with
      | true =>
          simp only [foldWith, constant, if_true]
          exact foldBinary_meets constant
            (fun child ahead => folded child (.aheadBinary constant ahead))
            (folded left (.needed (.binaryLeft constant)))
            (folded right (.needed (.binaryRight constant)))
      | false => exact foldInconstant_meets constant
  | logical span operator left right =>
      exact foldLogical_meets
        (fun child ahead => folded child (.aheadLogical ahead))
        (folded left (.needed .logicalLeft))
        (fun value onLeft continues => folded right (.needed (.logicalRight onLeft continues)))
  | conditional span test consequent alternate =>
      exact foldConditional_meets (folded test (.needed .test))
        (fun condition onTest => folded _ (.needed (.branch onTest)))
  | member span owner property isComputed isOptional =>
      cases isOptional with
      | true =>
          exact Contract.Meets.pure
            (Contract.Folded.of_leaf (fun value => ⟨nofun, nofun⟩) nofun nofun)
      | false =>
          refine foldMember_meets (folded owner (.needed .owner)) ?_ breaks
          rintro target rfl onOwner real
          exact folded property (.needed (.selector onOwner real))
  | call span callee arguments isOptional =>
      cases isOptional with
      | true =>
          exact Contract.Meets.pure
            (Contract.Folded.of_leaf (fun value => ⟨nofun, nofun⟩) nofun nofun)
      | false =>
          apply foldCall_meets
          intro function child named demanded
          exact folded child (.needed (.argument named demanded))
  | spread | arrow | function | unsupported =>
      exact Contract.Meets.pure (Contract.Folded.of_leaf (fun value => ⟨nofun, nofun⟩) nofun nofun)

end Handlers

end Fold

end ComponentInliner
