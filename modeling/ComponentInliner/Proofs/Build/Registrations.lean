import ComponentInliner.Proofs.Build.History
import Mathlib.Data.List.Induction

/-!
# What a session tells of its history

The components that are registered at the end are those that the last effective operation on a
module found. They stand in the order in which their registrations began: a module that is analyzed
again keeps its place, and one that loses its component and gets one again begins anew. The declared
names follow the components in every step.
-/

namespace ComponentInliner

/-- The components that a sequence of effects leaves registered. -/
def Registration.ofEffects (effects : List Effect) : Registration :=
  effects.foldl Registration.takeEffect .empty

/-- An effect is the last one on its module. -/
def LastEffect (effects : List Effect) (effect : Effect) : Prop :=
  ∃ before after, effects = before ++ effect :: after ∧
    ∀ later ∈ after, later.moduleId ≠ effect.moduleId

/-- The registration of a module that effects leave behind began with the effect at a position. From
then on the module kept its component, and before it had none. -/
def BeginsAt (effects : List Effect) (moduleId : Text) (position : Nat) : Prop :=
  ∃ before component after, effects = before ++ ⟨moduleId, some component⟩ :: after ∧
    before.length = position ∧ ⟨moduleId, none⟩ ∉ after ∧
    ∀ earlier, ¬LastEffect before ⟨moduleId, some earlier⟩

section Effects

variable {effects : List Effect} {effect : Effect} {moduleId : Text} {position : Nat}

theorem not_lastEffect_nil : ¬LastEffect [] effect := by
  rintro ⟨before, after, split, -⟩
  simp at split

theorem lastEffect_concat {other : Effect} :
    LastEffect (effects ++ [effect]) other ↔
      if other.moduleId = effect.moduleId then other = effect else LastEffect effects other := by
  constructor
  · rintro ⟨before, after, split, noLater⟩
    rcases List.eq_nil_or_concat after with rfl | ⟨inner, final, rfl⟩
    · have same := List.append_inj_right' split rfl
      cases same
      simp
    · rw [List.concat_eq_append, ← List.cons_append, ← List.append_assoc] at split
      have same := List.append_inj_right' split rfl
      have shorter := List.append_inj_left' split rfl
      cases same
      have different : other.moduleId ≠ effect.moduleId := fun same =>
        noLater effect (by simp) same.symm
      rw [if_neg different]
      exact ⟨before, inner, shorter, fun later mem => noLater later (by simp [mem])⟩
  · intro last
    split at last
    · next => exact ⟨effects, [], by rw [last], nofun⟩
    · next different =>
        rcases last with ⟨before, after, rfl, noLater⟩
        refine ⟨before, after ++ [effect], by simp, fun later mem => ?_⟩
        rcases List.mem_append.mp mem with mem | mem
        · exact noLater later mem
        · rw [List.mem_singleton.mp mem]
          exact Ne.symm different

theorem BeginsAt.lt (begins : BeginsAt effects moduleId position) : position < effects.length := by
  rcases begins with ⟨before, component, after, rfl, rfl, -⟩
  simp

theorem BeginsAt.registered (begins : BeginsAt effects moduleId position) :
    ∃ component, LastEffect effects ⟨moduleId, some component⟩ := by
  rcases begins with ⟨before, component, after, rfl, -, kept, -⟩
  induction after using List.reverseRecOn with
  | nil => exact ⟨component, before, [], rfl, nofun⟩
  | append_singleton inner final ih =>
      rw [List.mem_append, not_or, List.mem_singleton] at kept
      rw [← List.cons_append, ← List.append_assoc]
      by_cases same : final.moduleId = moduleId
      · rcases final with ⟨_, _ | component'⟩
        · exact absurd (by rw [← same]) kept.2
        · exact ⟨component', lastEffect_concat.mpr (by rw [if_pos same.symm, ← same])⟩
      · rcases ih kept.1 with ⟨component', last⟩
        exact ⟨component', lastEffect_concat.mpr (by simpa [Ne.symm same] using last)⟩

/-- A registration that holds after one more effect began before it, or begins with it. -/
theorem beginsAt_concat (begins : BeginsAt (effects ++ [effect]) moduleId position) :
    BeginsAt effects moduleId position ∨
      position = effects.length ∧ effect.moduleId = moduleId ∧
        ∀ earlier, ¬LastEffect effects ⟨moduleId, some earlier⟩ := by
  rcases begins with ⟨before, component, after, split, isPosition, kept, none⟩
  rcases List.eq_nil_or_concat after with rfl | ⟨inner, final, rfl⟩
  · have shorter := List.append_inj_left' split rfl
    cases List.append_inj_right' split rfl
    exact .inr ⟨by rw [shorter, isPosition], rfl, shorter ▸ none⟩
  · rw [List.concat_eq_append, ← List.cons_append, ← List.append_assoc] at split
    have shorter := List.append_inj_left' split rfl
    have keptBefore : ⟨moduleId, Option.none⟩ ∉ inner := fun mem => kept (by simp [mem])
    exact .inl ⟨before, component, inner, shorter, isPosition, keptBefore, none⟩

/-- A registration goes on if it is not ended. -/
theorem BeginsAt.concat (begins : BeginsAt effects moduleId position)
    (goesOn : effect ≠ ⟨moduleId, none⟩) : BeginsAt (effects ++ [effect]) moduleId position := by
  rcases begins with ⟨before, component, after, rfl, isPosition, kept, none⟩
  refine ⟨before, component, after ++ [effect], by simp, isPosition, ?_, none⟩
  simpa [kept] using Ne.symm goesOn

theorem beginsAt_length {component : ComponentRecord}
    (unregistered : ∀ earlier, ¬LastEffect effects ⟨moduleId, some earlier⟩) :
    BeginsAt (effects ++ [⟨moduleId, some component⟩]) moduleId effects.length :=
  ⟨effects, component, [], rfl, rfl, List.not_mem_nil, unregistered⟩

end Effects

namespace Registration

variable {effects : List Effect} {moduleId : Text}

theorem ofEffects_concat (effects : List Effect) (effect : Effect) :
    ofEffects (effects ++ [effect]) = (ofEffects effects).takeEffect effect := by
  simp [ofEffects]

theorem get?_takeEffect (registration : Registration) (effect : Effect) (moduleId : Text) :
    (registration.takeEffect effect).get? moduleId =
      if moduleId = effect.moduleId then effect.component? else registration.get? moduleId := by
  rcases effect with ⟨changed, _ | component⟩
  · exact OrderedMap.get?_erase registration.toOrderedMap changed moduleId
  · exact OrderedMap.get?_insert registration.toOrderedMap changed moduleId component

theorem keys_takeEffect (registration : Registration) (effect : Effect) :
    (registration.takeEffect effect).keys =
      if effect.component?.isNone then registration.keys.filter (· ≠ effect.moduleId)
      else if effect.moduleId ∈ registration.keys then registration.keys
      else registration.keys ++ [effect.moduleId] := by
  rcases effect with ⟨changed, _ | component⟩
  · exact OrderedMap.keys_erase registration.toOrderedMap changed
  · have inserted := OrderedMap.keys_insert registration.toOrderedMap changed component
    rw [if_neg (by simp)]
    split
    · next present => exact inserted.trans (if_pos present)
    · next absent => exact inserted.trans (if_neg absent)

/-- A module is registered with the component of the last effect on it. -/
theorem get?_ofEffects {component : ComponentRecord} :
    (ofEffects effects).get? moduleId = some component ↔
      LastEffect effects ⟨moduleId, some component⟩ := by
  induction effects using List.reverseRecOn with
  | nil => exact iff_of_false nofun not_lastEffect_nil
  | append_singleton effects effect ih =>
      rw [ofEffects_concat, get?_takeEffect, lastEffect_concat]
      by_cases same : moduleId = effect.moduleId
      · rcases effect with ⟨other, component?⟩
        simp only [same, if_true]
        simp [eq_comm]
      · simp only [same, if_false]
        exact ih

theorem mem_keys_ofEffects :
    moduleId ∈ (ofEffects effects).keys ↔
      ∃ component, LastEffect effects ⟨moduleId, some component⟩ := by
  rw [← not_iff_not, ← OrderedMap.get?_eq_none_iff, Option.eq_none_iff_forall_ne_some, not_exists]
  simp only [ne_eq, get?_ofEffects]

end Registration

/-- Some registered modules stand in the order in which their registrations began. -/
structure InOrder (effects : List Effect) (moduleIds : List Text) : Prop where
  registered : ∀ moduleId ∈ moduleIds, ∃ component, LastEffect effects ⟨moduleId, some component⟩
  begins : ∀ moduleId ∈ moduleIds, ∃ position, BeginsAt effects moduleId position
  ordered : moduleIds.Pairwise fun earlier later => ∀ first second,
    BeginsAt effects earlier first → BeginsAt effects later second → first < second

namespace InOrder

variable {effects : List Effect} {effect : Effect} {moduleId : Text} {moduleIds : List Text}

theorem sublist {fewer : List Text} (inOrder : InOrder effects moduleIds)
    (isSublist : fewer.Sublist moduleIds) : InOrder effects fewer where
  registered moduleId mem := inOrder.registered moduleId (isSublist.subset mem)
  begins moduleId mem := inOrder.begins moduleId (isSublist.subset mem)
  ordered := inOrder.ordered.sublist isSublist

/-- An effect that ends none of the registrations does not change when they began. -/
theorem goOn (inOrder : InOrder effects moduleIds)
    (goesOn : ∀ moduleId ∈ moduleIds, effect ≠ ⟨moduleId, none⟩) :
    InOrder (effects ++ [effect]) moduleIds := by
  have began (moduleId : Text) (mem : moduleId ∈ moduleIds) (position : Nat)
      (begins : BeginsAt (effects ++ [effect]) moduleId position) :
      BeginsAt effects moduleId position := by
    rcases beginsAt_concat begins with before | ⟨-, -, unregistered⟩
    · exact before
    · rcases inOrder.registered moduleId mem with ⟨component, last⟩
      exact absurd last (unregistered component)
  constructor
  · intro moduleId mem
    rcases inOrder.registered moduleId mem with ⟨component, last⟩
    by_cases same : moduleId = effect.moduleId
    · rcases effect with ⟨_, _ | component⟩
      · exact absurd rfl (same ▸ goesOn moduleId mem)
      · exact ⟨component, lastEffect_concat.mpr (by simp [same])⟩
    · exact ⟨component, lastEffect_concat.mpr (by simpa [same] using last)⟩
  · intro moduleId mem
    rcases inOrder.begins moduleId mem with ⟨position, begins⟩
    exact ⟨position, begins.concat (goesOn moduleId mem)⟩
  · refine inOrder.ordered.imp_of_mem fun {earlier later} memEarlier memLater before => ?_
    intro first second beginsFirst beginsSecond
    exact before first second (began earlier memEarlier first beginsFirst)
      (began later memLater second beginsSecond)

/-- A registration that begins with the last effect comes after all others. -/
theorem begin {component : ComponentRecord} (inOrder : InOrder effects moduleIds)
    (different : moduleId ∉ moduleIds)
    (unregistered : ∀ earlier, ¬LastEffect effects ⟨moduleId, some earlier⟩) :
    InOrder (effects ++ [⟨moduleId, some component⟩]) (moduleIds ++ [moduleId]) := by
  have goesOn : InOrder (effects ++ [⟨moduleId, some component⟩]) moduleIds :=
    inOrder.goOn fun other _ same => nomatch (Effect.mk.inj same).2
  constructor
  · intro other mem
    rcases List.mem_append.mp mem with mem | mem
    · exact goesOn.registered other mem
    · rw [List.mem_singleton.mp mem]
      exact ⟨component, lastEffect_concat.mpr (by simp)⟩
  · intro other mem
    rcases List.mem_append.mp mem with mem | mem
    · exact goesOn.begins other mem
    · rw [List.mem_singleton.mp mem]
      exact ⟨effects.length, beginsAt_length unregistered⟩
  · refine List.pairwise_append.mpr ⟨goesOn.ordered, List.pairwise_singleton .., ?_⟩
    intro earlier memEarlier later memLater first second beginsFirst beginsSecond
    rw [List.mem_singleton.mp memLater] at beginsSecond
    have isLast : second = effects.length := by
      rcases beginsAt_concat beginsSecond with before | ⟨isLast, -⟩
      · rcases before.registered with ⟨other, last⟩
        exact absurd last (unregistered other)
      · exact isLast
    rcases beginsAt_concat beginsFirst with before | ⟨-, same, -⟩
    · rw [isLast]
      exact before.lt
    · exact absurd memEarlier (same ▸ different)

end InOrder

namespace Registration

variable {effects : List Effect} {moduleId : Text}

theorem ofEffects_inOrder (effects : List Effect) :
    InOrder effects (ofEffects effects).keys := by
  induction effects using List.reverseRecOn with
  | nil => exact ⟨nofun, nofun, .nil⟩
  | append_singleton effects effect ih =>
      rw [ofEffects_concat, keys_takeEffect]
      rcases effect with ⟨moduleId, _ | component⟩
      · refine (ih.sublist List.filter_sublist).goOn fun other mem same => ?_
        simp [(Effect.mk.inj same).1] at mem
      · simp only [Option.isNone_some, Bool.false_eq_true, if_false]
        split
        · exact ih.goOn fun other _ same => nomatch (Effect.mk.inj same).2
        · next absent =>
            refine ih.begin absent fun earlier last => absent ?_
            exact mem_keys_ofEffects.mpr ⟨earlier, last⟩

end Registration

namespace Registration

theorem components_afterAll (root : Text) (operations : List Operation) :
    ((Compiler.start root).afterAll operations).session.components =
      ofEffects (operations.filterMap fun operation => operation.change.effect?) := by
  rw [BuildState.session_afterAll]
  induction operations using List.reverseRecOn with
  | nil => rfl
  | append_singleton earlier operation ih =>
      rw [List.foldl_append, List.foldl_cons, List.foldl_nil, List.filterMap_append,
        Change.components_applyTo, ih]
      cases found : operation.change.effect? with
      | none => simp [found]
      | some effect =>
          have only : [operation].filterMap (fun operation => operation.change.effect?) =
              [effect] := by
            simp [found]
          rw [only, ofEffects_concat]
          rfl

end Registration

namespace Session

/-- Every registered component has declared the dependencies of its metadata, and nothing else is
declared. -/
def Declares (session : Session) : Prop :=
  session.declared = session.components.mapEntries fun _ component =>
    component.metadata.dependencies

namespace Declares

variable {session : Session}

theorem recordEffect (declares : session.Declares) (effect : Effect) :
    (session.recordEffect effect).Declares := by
  rcases effect with ⟨moduleId, _ | component⟩
  · exact (congrArg (OrderedMap.erase · moduleId) declares).trans
      (OrderedMap.mapEntries_erase session.components.distinct moduleId).symm
  · exact (congrArg (OrderedMap.insert · moduleId _) declares).trans
      (OrderedMap.mapEntries_insert session.components.distinct moduleId component).symm

theorem applyTo (declares : session.Declares) (change : Change) :
    (change.applyTo session).Declares := by
  rcases change with ⟨_ | effect, warnings⟩
  · exact declares
  · exact declares.recordEffect effect

theorem afterAll (root : Text) (operations : List Operation) :
    ((Compiler.start root).afterAll operations).session.Declares := by
  rw [BuildState.session_afterAll]
  induction operations using List.reverseRecOn with
  | nil => rfl
  | append_singleton earlier operation ih =>
      rw [List.foldl_append, List.foldl_cons, List.foldl_nil]
      exact ih.applyTo operation.change

end Declares

/-- What a new session holds after any operations on it. A module has the component of the last
effective operation on it, the modules stand in the order in which their registrations began, and
what is declared follows the components. A module that the filter rejects changes nothing, and a
module id means the same as its normal form. -/
theorem tells_history (root : Text) (operations : List Operation) :
    let session := ((Compiler.start root).afterAll operations).session
    let effects := operations.filterMap fun operation => operation.change.effect?
    (∀ moduleId component, session.components.get? moduleId = some component ↔
      LastEffect effects ⟨moduleId, some component⟩) ∧
    (∀ moduleId ∈ session.components.keys, ∃ position, BeginsAt effects moduleId position) ∧
    (session.components.keys.Pairwise fun earlier later => ∀ first second,
      BeginsAt effects earlier first → BeginsAt effects later second → first < second) ∧
    session.declared.entries = session.components.entries.map (fun (moduleId, component) =>
      (moduleId, component.metadata.dependencies)) ∧
    (∀ (compiler : Compiler) source givenId state,
      compiler.filter.accepts (ModuleId.normalize givenId) = false →
        Compiler.Updates (compiler.transform source givenId) state none state.session) ∧
    ∀ (compiler : Compiler) source givenId,
      compiler.transform source (ModuleId.normalize givenId) =
        compiler.transform source givenId := by
  intro session effects
  have components : session.components = Registration.ofEffects effects :=
    Registration.components_afterAll root operations
  have inOrder := Registration.ofEffects_inOrder effects
  have declares : session.Declares := Declares.afterAll root operations
  refine ⟨?_, ?_, ?_, ?_, ?_, ?_⟩
  · intro moduleId component
    rw [components]
    exact Registration.get?_ofEffects
  · rw [components]
    exact inOrder.begins
  · rw [components]
    exact inOrder.ordered
  · exact congrArg OrderedMap.entries declares
  · intro compiler source givenId state rejected
    exact Compiler.transform_skipped rejected state
  · exact Compiler.transform_normalize

end Session

end ComponentInliner
