import ComponentInliner.Proofs.Fold.Semantics

/-!
# What folding is held to

A `Contract` says what the memo of a folder is to satisfy before and after an action and when the
action is cut short, and what is to be settled about an expression once it is folded. It also says
whether folding may nest deep enough; only then a missing value means that there is none.
`Contract.Meets` is the triple for one action, with the rules for putting actions together.
-/

namespace ComponentInliner.Fold

/-- The terms on which expressions are folded. -/
structure Contract where
  bindings : BindingTable
  /-- Whether folding may nest as deep as the expressions do. -/
  enough : Prop
  /-- What holds of the memo between actions. -/
  known : FoldMemo → Prop
  /-- What holds of the memo when an action is cut short. -/
  broken : FoldMemo → Prop
  /-- What is settled about an expression once it is folded. -/
  settled : Node → Prop

/-- An action keeps what is known, and its result satisfies a postcondition, unless the action is
cut short by an index with too many digits. -/
def Contract.Meets (contract : Contract) {Result : Type} (action : FoldM Result)
    (post : Result → Prop) : Prop :=
  ∀ memo, contract.known memo →
    match action.run.run memo with
    | (.ok result, after) => contract.known after ∧ post result
    | (.error fault, after) => contract.broken after ∧ fault = .indexTooLong

namespace Contract.Meets

variable {contract inner : Contract} {Result Next : Type}

theorem pure {result : Result} {post : Result → Prop} (holds : post result) :
    contract.Meets (pure result) post :=
  fun _ known => ⟨known, holds⟩

theorem bind {action : FoldM Result} {next : Result → FoldM Next} {mid : Result → Prop}
    {post : Next → Prop} (first : contract.Meets action mid)
    (second : ∀ result, mid result → contract.Meets (next result) post) :
    contract.Meets (action >>= next) post := by
  intro memo known
  have fromFirst := first memo known
  simp only [ExceptT.run_bind, StateT.run_bind]
  rcases ran : action.run.run memo with ⟨_ | result, after⟩
  · rw [ran] at fromFirst
    exact fromFirst
  · rw [ran] at fromFirst
    exact second result fromFirst.2 after fromFirst.1

theorem weaken {action : FoldM Result} {post weaker : Result → Prop}
    (meets : contract.Meets action post) (implies : ∀ result, post result → weaker result) :
    contract.Meets action weaker := by
  intro memo known
  have ran := meets memo known
  split at ran <;> simp_all

theorem get : contract.Meets get contract.known :=
  fun _ known => ⟨known, known⟩

theorem modify {change : FoldMemo → FoldMemo}
    (keeps : ∀ memo, contract.known memo → contract.known (change memo)) :
    contract.Meets (modify change) fun _ => True :=
  fun memo known => ⟨keeps memo known, trivial⟩

theorem throw {post : Result → Prop}
    (breaks : ∀ memo, contract.known memo → contract.broken memo) :
    contract.Meets (throw .indexTooLong) post :=
  fun memo known => ⟨breaks memo known, rfl⟩

/-- An action may run on other terms if these can be entered and left. -/
theorem change {action : FoldM Result} {mid post : Result → Prop} (meets : inner.Meets action mid)
    (enter : ∀ memo, contract.known memo → inner.known memo)
    (leave : ∀ memo result, inner.known memo → mid result → contract.known memo ∧ post result)
    (stop : ∀ memo, inner.broken memo → contract.broken memo) :
    contract.Meets action post := by
  intro memo known
  have ran := meets memo (enter memo known)
  split at ran
  · exact leave _ _ ran.1 ran.2
  · exact ⟨stop _ ran.1, ran.2⟩

end Contract.Meets

/-- A result is one that there is to be; if it is missing and there was enough room to look for
one, there is none. -/
structure Tells (enough : Prop) {Result : Type} (holds : Result → Prop) (result : Option Result) :
    Prop where
  sound : ∀ value, result = some value → holds value
  complete : enough → ∀ value, holds value → result = some value

namespace Tells

variable {enough : Prop} {Result Next : Type} {holds more : Result → Prop} {leads : Next → Prop}
  {value : Result} {result : Option Result}

theorem none (missing : enough → ∀ value, ¬holds value) : Tells enough holds none :=
  ⟨nofun, fun isEnough value holding => absurd holding (missing isEnough value)⟩

theorem some (holding : holds value) (only : ∀ other, holds other → other = value) :
    Tells enough holds (some value) := by
  constructor
  · rintro other ⟨⟩
    exact holding
  · intro _ other again
    rw [only other again]

theorem holding (tells : Tells enough holds (.some value)) : holds value :=
  tells.sound value rfl

theorem missing (tells : Tells enough holds .none) (isEnough : enough) (value : Result) :
    ¬holds value :=
  fun holding => nomatch tells.complete isEnough value holding

theorem congr (tells : Tells enough holds result) (same : ∀ value, holds value ↔ more value) :
    Tells enough more result :=
  ⟨fun value found => (same value).mp (tells.sound value found),
    fun isEnough value holding => tells.complete isEnough value ((same value).mpr holding)⟩

theorem bind {next : Result → Option Next} (tells : Tells enough holds result)
    (same : ∀ value, (∃ before, holds before ∧ next before = .some value) ↔ leads value) :
    Tells enough leads (result.bind next) := by
  constructor
  · intro value found
    rcases Option.bind_eq_some_iff.mp found with ⟨before, found, follows⟩
    exact (same value).mp ⟨before, tells.sound before found, follows⟩
  · intro isEnough value leading
    rcases (same value).mpr leading with ⟨before, holding, follows⟩
    exact Option.bind_eq_some_iff.mpr ⟨before, tells.complete isEnough before holding, follows⟩

theorem map {next : Result → Next} (tells : Tells enough holds result)
    (same : ∀ value, (∃ before, holds before ∧ next before = value) ↔ leads value) :
    Tells enough leads (result.map next) := by
  rw [Option.map_eq_bind]
  exact tells.bind (by simpa using same)

end Tells

/-- An expression breaks folding off: it reads an index with too many digits. -/
inductive Breaks (bindings : BindingTable) : Node → Prop
  | member {span : Span} {owner property : Node} {isComputed : Bool} {target key : Value}
      (onOwner : Denotes bindings owner target) (real : target.isNullish = false)
      (selected : SelectorHas (Denotes bindings) property isComputed key)
      (read : target.getProperty key = .error .indexTooLong) :
      Breaks bindings (.member span owner property isComputed false)

namespace Contract

/-- An expression has a value over the bindings. -/
abbrev Has (contract : Contract) : Node → Value → Prop :=
  Denotes contract.bindings

/-- An action folds an expression as agreed. -/
def Folds (contract : Contract) (self : Node → FoldM (Option Value)) (node : Node) : Prop :=
  contract.Meets (self node) fun result =>
    Tells contract.enough (contract.Has node) result ∧ (contract.enough → contract.settled node)

/-- What folding the parts of an expression brings about: the right result, all that it needs
settled, and certainty that it does not break folding off. -/
structure Folded (contract : Contract) (node : Node) (result : Option Value) : Prop where
  tells : Tells contract.enough (contract.Has node) result
  needed : contract.enough → ∀ child, Needs contract.bindings node child → contract.settled child
  unbroken : contract.enough → ¬Breaks contract.bindings node

theorem has_unique (contract : Contract) (node : Node) (value other : Value)
    (has : contract.Has node value) (again : contract.Has node other) : value = other :=
  has.unique again

variable {contract : Contract} {node : Node}

theorem tells_value {value : Value} (denotes : contract.Has node value) :
    Tells contract.enough (contract.Has node) (some value) :=
  .some denotes fun _ again => again.unique denotes

/-- An expression that is folded without looking at any other one. -/
theorem Folded.of_leaf {result : Option Value}
    (derives : ∀ value, Rule contract.Has contract.bindings node value ↔ result = some value)
    (leaf : ∀ child, ¬Needs contract.bindings node child)
    (unbroken : ¬Breaks contract.bindings node) : contract.Folded node result where
  tells := {
    sound := fun value found => denotes_iff_rule.mpr ((derives value).mpr found)
    complete := fun _ value denotes => (derives value).mp (denotes_iff_rule.mp denotes) }
  needed := fun _ child needs => absurd needs (leaf child)
  unbroken := fun _ => unbroken

end Contract

end ComponentInliner.Fold
