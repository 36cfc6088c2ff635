import ComponentInliner.Proofs.Fold.Handlers
import ComponentInliner.Proofs.Fold.Nesting

/-!
# Folding with a memo

What a folder knows is right at every moment, also while names are being resolved. Two facts carry
this through a run. An expression that is folded while a name is being resolved is demanded by the
definition of that name; so where the name is met again it demands itself and has no value, and to
say so is right whoever asks next. And what is demanded nests less deep than what demands it, up to
the definition of a name, which is left out of the bound once it is being resolved.

The run is followed through once, for everything that is `Watched` about expressions besides their
values.
-/

namespace ComponentInliner.Fold

/-- Something about expressions that follows from the same about all that they need. While some
names are being resolved, it may wait for their definitions. Also the expressions and names of which
anything is known are watched. -/
structure Watched (bindings : BindingTable) where
  /-- An expression is one of those of which something may be known. -/
  kept : Node → Prop
  /-- A name is one of those of which something may be known. -/
  keptName : Text → Prop
  keeps : ∀ {node child}, kept node → Demands bindings node child → kept child
  keepsName : ∀ {span name definition}, kept (.identifier span name) → name ≠ "undefined" →
    bindings.get? name = some definition → keptName name
  /-- It is known about an expression but for what waits for names. -/
  settled : List Text → Node → Prop
  /-- It waits for a name that is being resolved. -/
  waits : ∀ {resolving name span}, name ∈ resolving → settled resolving (.identifier span name)
  /-- It is known about an expression that does not break folding off if it is about its parts. -/
  combines : ∀ {resolving node}, (∀ child, Needs bindings node child → settled resolving child) →
    ¬Breaks bindings node → settled resolving node
  /-- To resolve one more name is to wait for more. -/
  enters : ∀ {resolving name node}, settled resolving node → settled (name :: resolving) node
  /-- Once it is known about the definition of a name, there is no more waiting for the name. -/
  leaves : ∀ {resolving name node},
    (∀ definition, bindings.get? name = some (.expression definition) →
      settled (name :: resolving) definition) →
    settled (name :: resolving) node → settled resolving node

variable {bindings : BindingTable} {enough : Prop}

/-- What is found out about an expression is right. -/
structure Watched.Right (watched : Watched bindings) (enough : Prop) (resolving : List Text)
    (node : Node) (result : Option Value) : Prop where
  tells : Tells enough (Denotes bindings node) result
  settled : enough → watched.settled resolving node

/-- All that a folder knows while some names are being resolved is right. -/
structure Watched.Knows (watched : Watched bindings) (enough : Prop) (resolving : List Text)
    (memo : FoldMemo) : Prop where
  nodes : ∀ node result, memo.nodes.get? node = some result →
    watched.Right enough resolving node result
  names : ∀ name result, memo.names.get? name = some result →
    ∀ span, watched.Right enough resolving (.identifier span name) result
  kept : ∀ node result, memo.nodes.get? node = some result → watched.kept node
  keptName : ∀ name result, memo.names.get? name = some result → watched.keptName name

/-- The terms on which expressions among those `reached` are folded while some names are being
resolved. -/
def Watched.terms (watched : Watched bindings) (enough : Prop) (reached : Node → Prop)
    (resolving : List Text) : Contract where
  bindings := bindings
  enough := enough
  known := watched.Knows enough resolving
  broken memo := (∃ bad, reached bad ∧ Breaks bindings bad) ∧
    ∃ resolving, watched.Knows enough resolving memo
  settled := watched.settled resolving

/-- The definition of every name that is being resolved demands the expression. -/
def Held (bindings : BindingTable) (resolving : List Text) (node : Node) : Prop :=
  ∀ name ∈ resolving, name ≠ "undefined" ∧ ∃ definition,
    bindings.get? name = some (.expression definition) ∧
      Relation.ReflTransGen (Demands bindings) definition node

theorem Held.step {resolving : List Text} {node child : Node} (held : Held bindings resolving node)
    (demands : Demands bindings node child) : Held bindings resolving child := by
  intro name mem
  rcases held name mem with ⟨ordinary, definition, found, reaches⟩
  exact ⟨ordinary, definition, found, reaches.tail demands⟩

theorem Held.enter {resolving : List Text} {span : Span} {name : Text} {definition : Node}
    (held : Held bindings resolving (.identifier span name)) (ordinary : name ≠ "undefined")
    (found : bindings.get? name = some (.expression definition)) :
    Held bindings (name :: resolving) definition := by
  intro other mem
  rcases List.mem_cons.mp mem with rfl | mem
  · exact ⟨ordinary, definition, found, .refl⟩
  · exact held.step (.needed (.definition ordinary found)) other mem

/-- A name that is met while it is being resolved demands itself. -/
theorem Held.cycle {resolving : List Text} {span : Span} {name : Text}
    (held : Held bindings resolving (.identifier span name)) (mem : name ∈ resolving) :
    Relation.TransGen (Demands bindings) (.identifier span name) (.identifier span name) := by
  rcases held name mem with ⟨ordinary, definition, found, reaches⟩
  exact .head' (.needed (.definition ordinary found)) reaches

namespace Watched

variable {watched : Watched bindings} {reached : Node → Prop} {resolving : List Text}

theorem knows_empty : watched.Knows enough resolving .empty :=
  ⟨nofun, nofun, nofun, nofun⟩

theorem Knows.insertNode {memo : FoldMemo} {node : Node} {result : Option Value}
    (knows : watched.Knows enough resolving memo) (isKept : watched.kept node)
    (right : watched.Right enough resolving node result) :
    watched.Knows enough resolving { memo with nodes := memo.nodes.insert node result } := by
  have onEntry : ∀ other found, (memo.nodes.insert node result).get? other = some found →
      watched.Right enough resolving other found ∧ watched.kept other := by
    intro other found known
    rw [OrderedMap.get?_insert] at known
    split at known
    · next same =>
        cases known
        exact ⟨same ▸ right, same ▸ isKept⟩
    · exact ⟨knows.nodes other found known, knows.kept other found known⟩
  exact ⟨fun other found known => (onEntry other found known).1, knows.names,
    fun other found known => (onEntry other found known).2, knows.keptName⟩

theorem Knows.insertName {memo : FoldMemo} {name : Text} {result : Option Value}
    (knows : watched.Knows enough resolving memo) (isKept : watched.keptName name)
    (right : ∀ span, watched.Right enough resolving (.identifier span name) result) :
    watched.Knows enough resolving { memo with names := memo.names.insert name result } := by
  have onEntry : ∀ other found, (memo.names.insert name result).get? other = some found →
      (∀ span, watched.Right enough resolving (.identifier span other) found) ∧
        watched.keptName other := by
    intro other found known
    rw [OrderedMap.get?_insert] at known
    split at known
    · next same =>
        cases known
        exact ⟨same ▸ right, same ▸ isKept⟩
    · exact ⟨knows.names other found known, knows.keptName other found known⟩
  exact ⟨knows.nodes, fun other found known => (onEntry other found known).1, knows.kept,
    fun other found known => (onEntry other found known).2⟩

theorem Knows.enter {memo : FoldMemo} {name : Text} (knows : watched.Knows enough resolving memo) :
    watched.Knows enough (name :: resolving) memo where
  nodes node result known :=
    ⟨(knows.nodes node result known).tells,
      fun isEnough => watched.enters ((knows.nodes node result known).settled isEnough)⟩
  names other result known span :=
    ⟨(knows.names other result known span).tells,
      fun isEnough => watched.enters ((knows.names other result known span).settled isEnough)⟩
  kept := knows.kept
  keptName := knows.keptName

theorem Knows.leave {memo : FoldMemo} {name : Text}
    (knows : watched.Knows enough (name :: resolving) memo)
    (defined : enough → ∀ definition, bindings.get? name = some (.expression definition) →
      watched.settled (name :: resolving) definition) :
    watched.Knows enough resolving memo where
  nodes node result known :=
    ⟨(knows.nodes node result known).tells, fun isEnough =>
      watched.leaves (defined isEnough) ((knows.nodes node result known).settled isEnough)⟩
  names other result known span :=
    ⟨(knows.names other result known span).tells, fun isEnough =>
      watched.leaves (defined isEnough) ((knows.names other result known span).settled isEnough)⟩
  kept := knows.kept
  keptName := knows.keptName

section Names

variable {span : Span} {name : Text}

theorem right_undefined (span : Span) :
    watched.Right enough resolving (.identifier span "undefined") (some .undefined) := by
  refine ⟨.some (Denotes.of_rule .undefined) ?_, fun _ => watched.combines ?_ nofun⟩
  · exact fun other again => again.unique (Denotes.of_rule .undefined)
  · intro child needs
    cases needs with
    | definition ordinary => exact absurd rfl ordinary

theorem right_resolving (held : enough → Held bindings resolving (.identifier span name))
    (mem : name ∈ resolving) :
    watched.Right enough resolving (.identifier span name) none :=
  ⟨.none fun isEnough => not_denotes_of_demands_itself ((held isEnough).cycle mem),
    fun _ => watched.waits mem⟩

theorem right_global (ordinary : name ≠ "undefined") (missing : bindings.get? name = none) :
    watched.Right enough resolving (.identifier span name) (globalConstant? name) := by
  refine ⟨⟨fun value known => Denotes.of_rule (.global ordinary missing known), ?_⟩,
    fun _ => watched.combines ?_ nofun⟩
  · intro _ value denotes
    cases denotes_iff_rule.mp denotes with
    | undefined => exact absurd rfl ordinary
    | definition _ found => cases missing.symm.trans found
    | global _ _ known => exact known
  · intro child needs
    cases needs with
    | definition _ found => cases missing.symm.trans found

/-- A name stands for the value of its definition. -/
theorem right_definition {definition : Node} {result : Option Value} (ordinary : name ≠ "undefined")
    (found : bindings.get? name = some (.expression definition))
    (right : watched.Right enough resolving definition result) :
    watched.Right enough resolving (.identifier span name) result := by
  refine ⟨right.tells.congr fun value => ⟨?_, ?_⟩, fun isEnough => watched.combines ?_ nofun⟩
  · exact fun denotes => Denotes.of_rule (.definition ordinary found denotes)
  · intro denotes
    cases denotes_iff_rule.mp denotes with
    | undefined => exact absurd rfl ordinary
    | definition _ found' own =>
        cases found.symm.trans found'
        exact own
    | global _ missing => cases found.symm.trans missing
  · intro child needs
    cases needs with
    | definition _ found' =>
        cases found.symm.trans found'
        exact right.settled isEnough

/-- A function or a class has no constant value. -/
theorem right_valueless {definition : Definition} (ordinary : name ≠ "undefined")
    (found : bindings.get? name = some definition)
    (valueless : ∀ node, definition ≠ .expression node) :
    watched.Right enough resolving (.identifier span name) none := by
  refine ⟨.none fun _ value denotes => ?_, fun _ => watched.combines ?_ nofun⟩
  · cases denotes_iff_rule.mp denotes with
    | undefined => exact ordinary rfl
    | definition _ found' => exact valueless _ (Option.some.inj (found.symm.trans found'))
    | global _ missing => cases found.symm.trans missing
  · intro child needs
    cases needs with
    | definition _ found' =>
        exact absurd (Option.some.inj (found.symm.trans found')) (valueless _)

/-- The definition of a name is folded while the name is being resolved. What is found out on the
way stays right when that is over. -/
theorem foldDefinition_meets {definition : Definition} {self : Node → FoldM (Option Value)}
    (ordinary : name ≠ "undefined") (found : bindings.get? name = some definition)
    (folded : ∀ node, definition = .expression node →
      (watched.terms enough reached (name :: resolving)).Folds self node) :
    (watched.terms enough reached resolving).Meets (foldDefinition self definition) fun result =>
      ∀ span, watched.Right enough resolving (.identifier span name) result := by
  cases definition with
  | expression node =>
      refine Contract.Meets.change (folded node rfl) (fun memo knows => knows.enter) ?_ ?_
      · rintro memo result knows ⟨tells, settled⟩
        have defined (isEnough : enough) (definition : Node)
            (found' : bindings.get? name = some (.expression definition)) :
            watched.settled (name :: resolving) definition := by
          cases found.symm.trans found'
          exact settled isEnough
        refine ⟨knows.leave defined, fun span => right_definition ordinary found ⟨tells, ?_⟩⟩
        exact fun isEnough => watched.leaves (defined isEnough) (settled isEnough)
      · exact fun memo stopped => stopped
  | function head | classLike head =>
      exact Contract.Meets.pure fun span => right_valueless ordinary found nofun

theorem foldName_folds {selfWith : List Text → Node → FoldM (Option Value)}
    (held : enough → Held bindings resolving (.identifier span name))
    (isKept : watched.kept (.identifier span name))
    (folded : ∀ node, name ≠ "undefined" → name ∉ resolving →
      bindings.get? name = some (.expression node) →
      (watched.terms enough reached (name :: resolving)).Folds (selfWith (name :: resolving))
        node) :
    (watched.terms enough reached resolving).Meets (foldName selfWith bindings resolving name)
      (watched.Right enough resolving (.identifier span name)) := by
  unfold foldName
  by_cases isUndefined : name = "undefined"
  · subst isUndefined
    exact Contract.Meets.pure (right_undefined span)
  · simp only [isUndefined, if_false]
    apply Contract.Meets.bind Contract.Meets.get
    intro memo knows
    split
    · next known isKnown => exact Contract.Meets.pure (knows.names name known isKnown span)
    · by_cases isResolving : name ∈ resolving
      · simp only [List.contains_iff_mem.mpr isResolving, if_true]
        exact Contract.Meets.pure (right_resolving held isResolving)
      · have notResolving : resolving.contains name = false := by simpa using isResolving
        simp only [notResolving, Bool.false_eq_true, if_false]
        split
        · next missing => exact Contract.Meets.pure (right_global isUndefined missing)
        · next definition found =>
            refine Contract.Meets.bind (foldDefinition_meets isUndefined found ?_) ?_
            · rintro node rfl
              exact folded node isUndefined isResolving found
            · intro result right
              refine Contract.Meets.bind
                (Contract.Meets.modify fun memo knows => knows.insertName
                  (watched.keepsName isKept isUndefined found) right) fun _ _ => ?_
              exact Contract.Meets.pure (right span)

end Names

/-- Every expression is folded rightly, whatever names are being resolved. -/
theorem fold_folds
    (closed : ∀ node child, reached node → Demands bindings node child → reached child)
    (limit : Nat) {resolving : List Text} {node : Node}
    (fits : enough → node.nesting + definitionNesting resolving bindings ≤ limit)
    (held : enough → Held bindings resolving node) (isReached : reached node)
    (isKept : watched.kept node) :
    (watched.terms enough reached resolving).Folds (fold bindings limit resolving) node := by
  induction limit generalizing resolving node with
  | zero =>
      have tooDeep : ¬enough := by
        intro isEnough
        have := fits isEnough
        have := node.nesting_pos
        omega
      exact Contract.Meets.pure
        ⟨.none fun isEnough => absurd isEnough tooDeep, fun isEnough => absurd isEnough tooDeep⟩
  | succ limit ih =>
      apply Contract.Meets.bind Contract.Meets.get
      intro memo knows
      split
      · next known isKnown =>
          have right := knows.nodes node known isKnown
          exact Contract.Meets.pure ⟨right.tells, right.settled⟩
      · have handled : (watched.terms enough reached resolving).Meets
            (foldWith (fold bindings limit resolving) bindings
              (foldName (fold bindings limit) bindings resolving) node)
            (watched.Right enough resolving node) := by
          by_cases isName : ∃ span name, node = .identifier span name
          · rcases isName with ⟨span, name, rfl⟩
            apply foldName_folds held isKept
            intro definition ordinary fresh found
            have demands : Demands bindings (.identifier span name) definition :=
              .needed (.definition ordinary found)
            refine ih (fun isEnough => ?_) (fun isEnough => (held isEnough).enter ordinary found)
              (closed _ _ isReached demands) (watched.keeps isKept demands)
            have fitsName := fits isEnough
            have shrinks := definitionNesting_cons fresh found
            simp only [Node.nesting, Definition.nesting] at fitsName shrinks
            omega
          · have unnamed : ∀ span name, node ≠ .identifier span name :=
              fun span name same => isName ⟨span, name, same⟩
            refine Contract.Meets.weaken (foldWith_meets node unnamed ?_ ?_) ?_
            · intro child demands
              refine ih (fun isEnough => ?_) (fun isEnough => (held isEnough).step demands)
                (closed _ _ isReached demands) (watched.keeps isKept demands)
              have fitsNode := fits isEnough
              have shrinks := demands.nesting_lt unnamed
              omega
            · exact fun breaks memo knows => ⟨⟨node, isReached, breaks⟩, resolving, knows⟩
            · intro result folded
              exact ⟨folded.tells, fun isEnough =>
                watched.combines (folded.needed isEnough) (folded.unbroken isEnough)⟩
        apply Contract.Meets.bind handled
        intro result right
        refine Contract.Meets.bind
          (Contract.Meets.modify fun memo knows => knows.insertNode isKept right) fun _ _ => ?_
        exact Contract.Meets.pure ⟨right.tells, right.settled⟩

end Watched

end ComponentInliner.Fold
