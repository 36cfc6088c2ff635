import ComponentInliner.Proofs.Fold.Run

/-!
# When folding is cut short

Folding is cut short by a read at an index with too many digits and by nothing else. If an
expression needs such a read, at whatever distance, folding it is cut short: a run that ends has
looked at all that the expression needs. Where the run passes over a name that is being resolved,
it has not seen what the name stands for; that is made up for when the name is resolved.
-/

namespace ComponentInliner.Fold

/-- An expression needs another one, which is not held back by a name that is being resolved. -/
def Follows (bindings : BindingTable) (resolving : List Text) (node child : Node) : Prop :=
  Needs bindings node child ∧ ∀ span name, node = .identifier span name → name ∉ resolving

/-- No expression breaks folding off among those that an expression needs, at whatever distance, as
far as they are not held back by names that are being resolved. -/
def Unbroken (bindings : BindingTable) (resolving : List Text) (node : Node) : Prop :=
  ∀ bad, Relation.ReflTransGen (Follows bindings resolving) node bad → ¬Breaks bindings bad

namespace Unbroken

variable {bindings : BindingTable} {resolving : List Text} {name : Text} {node : Node}

theorem of_resolving {span : Span} (isResolving : name ∈ resolving) :
    Unbroken bindings resolving (.identifier span name) := by
  intro bad reaches
  rcases Relation.ReflTransGen.cases_head reaches with rfl | ⟨child, follows, -⟩
  · exact nofun
  · exact absurd isResolving (follows.2 span name rfl)

theorem of_needs (parts : ∀ child, Needs bindings node child → Unbroken bindings resolving child)
    (whole : ¬Breaks bindings node) : Unbroken bindings resolving node := by
  intro bad reaches
  rcases Relation.ReflTransGen.cases_head reaches with rfl | ⟨child, follows, rest⟩
  · exact whole
  · exact parts child follows.1 bad rest

theorem enter (unbroken : Unbroken bindings resolving node) :
    Unbroken bindings (name :: resolving) node := by
  intro bad reaches
  have weaker : ∀ before after, Follows bindings (name :: resolving) before after →
      Follows bindings resolving before after := fun before after follows =>
    ⟨follows.1, fun span other same mem => follows.2 span other same (List.mem_cons_of_mem _ mem)⟩
  exact unbroken bad (Relation.ReflTransGen.mono weaker _ _ reaches)

/-- What is needed is found without passing through a name, or from the definition of the name on
after it was passed through for the last time. -/
theorem leave
    (defined : ∀ definition, bindings.get? name = some (.expression definition) →
      Unbroken bindings (name :: resolving) definition)
    (unbroken : Unbroken bindings (name :: resolving) node) : Unbroken bindings resolving node := by
  have split : ∀ reached, Relation.ReflTransGen (Follows bindings resolving) node reached →
      Relation.ReflTransGen (Follows bindings (name :: resolving)) node reached ∨
        ∃ definition, bindings.get? name = some (.expression definition) ∧
          Relation.ReflTransGen (Follows bindings (name :: resolving)) definition reached := by
    intro reached reaches
    induction reaches with
    | refl => exact .inl .refl
    | @tail before after _ follows ih =>
        by_cases isName : ∃ span, before = .identifier span name
        · rcases isName with ⟨span, rfl⟩
          cases follows.1 with
          | definition _ found => exact .inr ⟨after, found, .refl⟩
        · have stillFollows : Follows bindings (name :: resolving) before after := by
            refine ⟨follows.1, fun span other same mem => ?_⟩
            rcases List.mem_cons.mp mem with rfl | mem
            · exact isName ⟨span, same⟩
            · exact follows.2 span other same mem
          rcases ih with fromNode | ⟨definition, found, fromDefinition⟩
          · exact .inl (fromNode.tail stillFollows)
          · exact .inr ⟨definition, found, fromDefinition.tail stillFollows⟩
  intro bad reaches
  rcases split bad reaches with fromNode | ⟨definition, found, fromDefinition⟩
  · exact unbroken bad fromNode
  · exact defined definition found bad fromDefinition

/-- With no name held back, nothing that an expression needs breaks folding off. -/
theorem not_breaks (unbroken : Unbroken bindings [] node) {bad : Node}
    (needs : Relation.ReflTransGen (Needs bindings) node bad) : ¬Breaks bindings bad :=
  unbroken bad (Relation.ReflTransGen.mono
    (fun _ _ needed => ⟨needed, fun _ _ _ mem => nomatch mem⟩) _ _ needs)

end Unbroken

/-- Whether something that is needed breaks folding off. -/
def Watched.breaking (bindings : BindingTable) : Watched bindings where
  kept _ := True
  keptName _ := True
  keeps _ _ := trivial
  keepsName _ _ _ := trivial
  settled := Unbroken bindings
  waits := Unbroken.of_resolving
  combines := Unbroken.of_needs
  enters := Unbroken.enter
  leaves := Unbroken.leave

/-- An expression that has a value does not break folding off. -/
theorem Denotes.unbroken {bindings : BindingTable} {node bad : Node} {value : Value}
    (denotes : Denotes bindings node value)
    (reaches : Relation.ReflTransGen (Demands bindings) node bad) : ¬Breaks bindings bad := by
  induction reaches using Relation.ReflTransGen.head_induction_on generalizing value with
  | refl =>
      rintro ⟨onOwner, real, selected, read⟩
      cases denotes_iff_rule.mp denotes with
      | member onOwner' _ selected' read' =>
          cases onOwner.unique onOwner'
          have sameKey := selected.unique (fun _ _ _ own again => own.unique again) selected'
          cases sameKey
          cases read.symm.trans read'
  | head demands _ ih =>
      rcases denotes.of_demands demands with ⟨own, denotesChild⟩
      exact ih denotesChild

end ComponentInliner.Fold
