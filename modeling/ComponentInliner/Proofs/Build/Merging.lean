import ComponentInliner.Build.Workspace
import ComponentInliner.Proofs.Build.Registrations

/-!
# Merging sessions

Parallel workers each build with a session of their own. If no module is in the hands of two of
them, the sessions put together hold what a single session holds at the end of all the work
(`merge_ofShare`). For registered components this is a fact about effects: those on modules that
the others do not touch may take place in a map of their own, which is added at the end
(`Registration.ofEffects_append`). What is declared follows the components on both sides.

Merging does not depend on how sessions are grouped. This holds for all sessions, also where a
component has lost its declared names, since a session hands on the names of the metadata then.
-/

namespace ComponentInliner

/-- The module that an operation is about. -/
def Operation.moduleId : Operation → Text
  | .transform _ _ givenId => ModuleId.normalize givenId
  | .record moduleId _ => moduleId
  | .remove moduleId => moduleId

theorem Operation.moduleId_of_effect {operation : Operation} {effect : Effect}
    (found : operation.change.effect? = some effect) : effect.moduleId = operation.moduleId := by
  cases operation with
  | transform compiler source givenId =>
      by_cases accepted : compiler.filter.accepts (ModuleId.normalize givenId) = true
      · cases analyzed : Component.analyze source with
        | error fault => simp [change, accepted, analyzed] at found
        | ok analysis =>
            simp only [change, accepted, analyzed, if_true, Option.some.injEq] at found
            rw [← found]
            rfl
      · simp [change, accepted] at found
  | record moduleId analysis =>
      cases found
      rfl
  | remove moduleId =>
      cases found
      rfl

namespace Registration

variable {base own last : Registration}

theorem toOrderedMap_inj (same : base.toOrderedMap = own.toOrderedMap) : base = own := by
  cases base
  cases own
  cases same
  rfl

theorem insertAll_assoc :
    (base.insertAll own).insertAll last = base.insertAll (own.insertAll last) :=
  toOrderedMap_inj (OrderedMap.insertAll_assoc base.distinct own.distinct last.distinct)

/-- An effect on a module that the first map does not have may take place in the second map before
the maps are put together. -/
theorem insertAll_takeEffect {effect : Effect} (absent : effect.moduleId ∉ base.keys) :
    base.insertAll (own.takeEffect effect) = (base.insertAll own).takeEffect effect := by
  apply toOrderedMap_inj
  rcases effect with ⟨moduleId, _ | component⟩
  · exact OrderedMap.insertAll_erase base.distinct own.distinct absent
  · exact OrderedMap.insertAll_insert base.distinct own.distinct moduleId component

theorem ofEffects_append {effects later : List Effect}
    (others : ∀ effect ∈ later, effect.moduleId ∉ (ofEffects effects).keys) :
    ofEffects (effects ++ later) = (ofEffects effects).insertAll (ofEffects later) := by
  induction later using List.reverseRecOn with
  | nil =>
      rw [List.append_nil]
      rfl
  | append_singleton between effect ih =>
      have absent := others effect (by simp)
      have step := ih fun other mem => others other (by simp [mem])
      rw [← List.append_assoc, ofEffects_concat, ofEffects_concat, insertAll_takeEffect absent,
        step]

end Registration

namespace Session

/-- Two sessions have found the same. Their roots may differ. -/
structure Agrees (first second : Session) : Prop where
  components : first.components = second.components
  declared : first.declared = second.declared
  warnings : first.warnings = second.warnings

/-- The names that a session hands on when it is merged: one list for each component. -/
def handedOn (session : Session) : OrderedMap Text (List Text) :=
  session.components.mapEntries session.declaredBy

section Absorb

variable {session other last : Session}

theorem declared_absorb :
    (session.absorb other).declared = session.declared.insertAll other.handedOn :=
  rfl

theorem distinct_handedOn : session.handedOn.Distinct :=
  session.components.distinct.mapEntries

theorem Agrees.rfl : Agrees session session :=
  ⟨.refl _, .refl _, .refl _⟩

theorem Agrees.symm (agrees : Agrees session other) : Agrees other session :=
  ⟨agrees.components.symm, agrees.declared.symm, agrees.warnings.symm⟩

theorem Agrees.trans (first : Agrees session other) (second : Agrees other last) :
    Agrees session last :=
  ⟨first.components.trans second.components, first.declared.trans second.declared,
    first.warnings.trans second.warnings⟩

theorem Agrees.absorb (agrees : Agrees session other) (added : Session) :
    Agrees (session.absorb added) (other.absorb added) := by
  rcases agrees with ⟨components, declared, warnings⟩
  constructor
  · exact congrArg (Registration.insertAll · added.components) components
  · exact congrArg (OrderedMap.insertAll · added.handedOn) declared
  · exact congrArg (· ++ added.warnings) warnings

theorem Agrees.absorbAll (agrees : Agrees session other) (sessions : List Session) :
    Agrees (sessions.foldl Session.absorb session) (sessions.foldl Session.absorb other) := by
  induction sessions generalizing session other with
  | nil => exact agrees
  | cons added rest ih => exact ih (agrees.absorb added)

/-- What an absorbed session hands on comes last. -/
theorem handedOn_absorb :
    (session.absorb other).handedOn = session.handedOn.insertAll other.handedOn := by
  apply distinct_handedOn.ext
  · have components := @OrderedMap.keys_insertAll _ _ _ session.components.toOrderedMap _
      other.components.distinct
    have handed (session : Session) : session.handedOn.keys = session.components.keys :=
      OrderedMap.keys_mapEntries
    rw [OrderedMap.keys_insertAll distinct_handedOn, handed, handed, handed]
    exact components
  · intro moduleId
    have declared : (session.absorb other).declared.get? moduleId =
        (other.handedOn.get? moduleId).or (session.declared.get? moduleId) :=
      OrderedMap.get?_insertAll distinct_handedOn moduleId
    have components : (session.absorb other).components.get? moduleId =
        (other.components.get? moduleId).or (session.components.get? moduleId) :=
      OrderedMap.get?_insertAll other.components.distinct moduleId
    have handed (session : Session) : session.handedOn.get? moduleId =
        (session.components.get? moduleId).map (session.declaredBy moduleId) :=
      OrderedMap.get?_mapEntries moduleId
    rw [OrderedMap.get?_insertAll distinct_handedOn, handed (session.absorb other), components]
    rw [handed other] at declared ⊢
    cases found : other.components.get? moduleId with
    | none =>
        rw [found] at declared
        rw [handed session]
        simp only [Option.none_or, Option.map_none]
        refine Option.map_congr fun component _ => ?_
        rw [declaredBy, declared]
        rfl
    | some component =>
        rw [found] at declared
        simp only [Option.some_or, Option.map_some]
        rw [declaredBy, declared]
        rfl

theorem absorb_assoc (distinct : session.declared.Distinct) :
    Agrees ((session.absorb other).absorb last) (session.absorb (other.absorb last)) := by
  constructor
  · exact Registration.insertAll_assoc
  · rw [declared_absorb, declared_absorb, declared_absorb, handedOn_absorb]
    exact OrderedMap.insertAll_assoc distinct distinct_handedOn distinct_handedOn
  · exact List.append_assoc ..

theorem distinct_absorbAll (distinct : session.declared.Distinct) (sessions : List Session) :
    (sessions.foldl absorb session).declared.Distinct := by
  induction sessions generalizing session with
  | nil => exact distinct
  | cons added rest ih => exact ih (distinct.insertAll added.handedOn)

theorem absorb_absorbAll (distinct : session.declared.Distinct) (root : Text)
    (group : List Session) :
    Agrees (session.absorb (group.foldl absorb (begin root))) (group.foldl absorb session) := by
  induction group using List.reverseRecOn with
  | nil => exact ⟨.refl _, .refl _, List.append_nil _⟩
  | append_singleton earlier added ih =>
      rw [List.foldl_append, List.foldl_append]
      exact (absorb_assoc distinct).symm.trans (ih.absorb added)

end Absorb

section Merge

theorem merge_agrees (root? : Option Text) (root : Text) (sessions : List Session) :
    Agrees (merge root? sessions) (sessions.foldl absorb (begin root)) := by
  have begun : Agrees (begin (root?.getD ((sessions.head?.map Session.root).getD [])))
      (begin root) :=
    ⟨.refl _, .refl _, .refl _⟩
  exact begun.absorbAll sessions

/-- Sessions may be merged in groups. -/
theorem merge_group (outerRoot? groupRoot? root? : Option Text)
    (before group after : List Session) :
    Agrees (merge outerRoot? (before ++ merge groupRoot? group :: after))
      (merge root? (before ++ group ++ after)) := by
  have grouped : Agrees (merge outerRoot? (before ++ merge groupRoot? group :: after))
      (after.foldl absorb ((before.foldl absorb (begin [])).absorb (merge groupRoot? group))) := by
    have agrees := merge_agrees outerRoot? [] (before ++ merge groupRoot? group :: after)
    rwa [List.foldl_append, List.foldl_cons] at agrees
  have flat : Agrees (merge root? (before ++ group ++ after))
      (after.foldl absorb (group.foldl absorb (before.foldl absorb (begin [])))) := by
    have agrees := merge_agrees root? [] (before ++ group ++ after)
    rwa [List.foldl_append, List.foldl_append] at agrees
  have distinct : (before.foldl absorb (begin [])).declared.Distinct :=
    distinct_absorbAll OrderedMap.distinct_empty before
  exact grouped.trans (((absorb_absorbAll distinct _ group).absorbAll after).trans flat.symm)

end Merge

namespace Declares

variable {session other : Session}

theorem handedOn_eq (declares : session.Declares) : session.handedOn = session.declared := by
  apply distinct_handedOn.ext
  · rw [declares]
    exact OrderedMap.keys_mapEntries.trans OrderedMap.keys_mapEntries.symm
  · intro moduleId
    have handed : session.handedOn.get? moduleId =
        (session.components.get? moduleId).map (session.declaredBy moduleId) :=
      OrderedMap.get?_mapEntries moduleId
    have declared : session.declared.get? moduleId =
        (session.components.get? moduleId).map fun component =>
          component.metadata.dependencies := by
      rw [declares]
      exact OrderedMap.get?_mapEntries moduleId
    rw [handed, declared]
    refine Option.map_congr fun component found => ?_
    rw [declaredBy, declared, Option.mem_def.mp found]
    rfl

theorem absorb (declares : session.Declares) (otherDeclares : other.Declares) :
    (session.absorb other).Declares := by
  rw [Declares, declared_absorb, otherDeclares.handedOn_eq, otherDeclares, declares]
  exact (OrderedMap.mapEntries_insertAll session.components.distinct
    other.components.distinct).symm

theorem agrees (declares : session.Declares) (otherDeclares : other.Declares)
    (components : session.components = other.components)
    (warnings : session.warnings = other.warnings) : Agrees session other where
  components := components
  declared := by rw [declares, otherDeclares, components]
  warnings := warnings

end Declares

/-- A session of its own for a share of the work. -/
def ofShare (root : Text) (operations : List Operation) : Session :=
  ((Compiler.start root).afterAll operations).session

theorem warnings_ofShare (root : Text) (operations : List Operation) :
    (ofShare root operations).warnings =
      operations.flatMap fun operation => operation.change.warnings := by
  rw [ofShare, BuildState.session_afterAll]
  induction operations using List.reverseRecOn with
  | nil => rfl
  | append_singleton earlier operation ih =>
      rw [List.foldl_append, List.foldl_cons, List.foldl_nil, Change.warnings_applyTo, ih,
        List.flatMap_append, List.flatMap_singleton]

theorem components_ofShare (root : Text) (operations : List Operation) :
    (ofShare root operations).components =
      .ofEffects (operations.filterMap fun operation => operation.change.effect?) :=
  Registration.components_afterAll root operations

/-- Work on modules that nothing before has touched may be done apart. -/
theorem ofShare_append {operations later : List Operation} (root laterRoot : Text)
    (apart : ∀ first ∈ operations, ∀ second ∈ later, first.moduleId ≠ second.moduleId) :
    Agrees ((ofShare root operations).absorb (ofShare laterRoot later))
      (ofShare root (operations ++ later)) := by
  have declares (root : Text) (operations : List Operation) : (ofShare root operations).Declares :=
    Declares.afterAll root operations
  apply ((declares root operations).absorb (declares laterRoot later)).agrees (declares _ _)
  · have others : ∀ effect ∈ later.filterMap fun operation => operation.change.effect?,
        effect.moduleId ∉ (Registration.ofEffects
          (operations.filterMap fun operation => operation.change.effect?)).keys := by
      intro effect mem registered
      rcases List.mem_filterMap.mp mem with ⟨second, memLater, isEffect⟩
      rcases Registration.mem_keys_ofEffects.mp registered with ⟨component, before, after, split, -⟩
      have memEffects : (⟨effect.moduleId, some component⟩ : Effect) ∈
          operations.filterMap fun operation => operation.change.effect? := by
        rw [split]
        simp
      rcases List.mem_filterMap.mp memEffects with ⟨first, memFirst, isFirst⟩
      apply apart first memFirst second memLater
      rw [← Operation.moduleId_of_effect isFirst, ← Operation.moduleId_of_effect isEffect]
    have whole := Registration.ofEffects_append others
    rw [← List.filterMap_append] at whole
    rw [components_ofShare, whole, ← components_ofShare root, ← components_ofShare laterRoot]
    rfl
  · have absorbed : ((ofShare root operations).absorb (ofShare laterRoot later)).warnings =
        (ofShare root operations).warnings ++ (ofShare laterRoot later).warnings := rfl
    rw [absorbed, warnings_ofShare, warnings_ofShare, warnings_ofShare, List.flatMap_append]

/-- Shares of the work that are done apart and put together come to the same as all the work in one
session. -/
theorem merge_ofShare {shares : List (Text × List Operation)} (root : Text) (root? : Option Text)
    (apart : shares.Pairwise fun earlier later =>
      ∀ first ∈ earlier.2, ∀ second ∈ later.2, first.moduleId ≠ second.moduleId) :
    Agrees (merge root? (shares.map fun share => ofShare share.1 share.2))
      (ofShare root (shares.flatMap Prod.snd)) := by
  refine (merge_agrees root? root _).trans ?_
  induction shares using List.reverseRecOn with
  | nil => exact .rfl
  | append_singleton earlier share ih =>
      rcases List.pairwise_append.mp apart with ⟨earlierApart, -, apartFromShare⟩
      rw [List.map_append, List.map_singleton, List.foldl_append, List.foldl_cons, List.foldl_nil,
        List.flatMap_append, List.flatMap_singleton]
      refine ((ih earlierApart).absorb _).trans (ofShare_append root share.1 ?_)
      intro first memFirst second memSecond
      rcases List.mem_flatMap.mp memFirst with ⟨other, memEarlier, memOther⟩
      exact apartFromShare other memEarlier share (List.mem_singleton.mpr rfl) first memOther
        second memSecond

end Session

namespace Workspace

variable {workspace : Workspace} {merged : Session}

theorem change_run (change : Session → Session) :
    (Workspace.change workspace.length change).run (workspace ++ [merged]) =
      ((), workspace ++ [change merged]) := by
  have modified : (workspace ++ [merged]).modify workspace.length change =
      workspace ++ [change merged] := by
    induction workspace with
    | nil => rfl
    | cons first rest ih => simpa using ih
  exact congrArg (Prod.mk ()) modified

theorem adopt_run (merged : Session) (names : Text → ComponentRecord → List Text)
    (entries : List (Text × ComponentRecord)) :
    (entries.forM fun (moduleId, component) =>
        Workspace.change workspace.length fun merged =>
          merged.adopt moduleId component (names moduleId component)).run (workspace ++ [merged]) =
      ((), workspace ++ [entries.foldl (fun merged entry =>
        merged.adopt entry.1 entry.2 (names entry.1 entry.2)) merged]) := by
  induction entries generalizing merged with
  | nil => rfl
  | cons entry rest ih =>
      rw [List.forM_eq_forM, List.forM_cons, StateT.run_bind, change_run]
      exact ih _

/-- Adopting components one after the other adds them to the components and their names to what is
declared. -/
theorem foldl_adopt (names : Text → ComponentRecord → List Text)
    (entries : List (Text × ComponentRecord)) :
    entries.foldl (fun merged entry => merged.adopt entry.1 entry.2 (names entry.1 entry.2))
        merged =
      { merged with
        components := ⟨entries.foldl (fun map entry => map.insert entry.1 entry.2)
          merged.components.toOrderedMap, merged.components.distinct.insertEntries entries⟩,
        declared := (entries.map fun entry => (entry.1, names entry.1 entry.2)).foldl
          (fun map entry => map.insert entry.1 entry.2) merged.declared } := by
  induction entries generalizing merged with
  | nil => rfl
  | cons entry rest ih =>
      rw [List.foldl_cons, ih]
      rfl

theorem absorb_run {source : Nat} {session : Session}
    (found : workspace[source]? = some session) :
    (absorb workspace.length source).run (workspace ++ [merged]) =
      ((), workspace ++ [merged.absorb session]) := by
  have inBounds : source < workspace.length := (List.getElem?_eq_some_iff.mp found).1
  have stillFound : (workspace ++ [merged])[source]? = some session := by
    rw [List.getElem?_append_left inBounds, found]
  unfold absorb
  rw [StateT.run_bind]
  simp only [StateT.run_get, pure_bind, stillFound]
  rw [StateT.run_bind, adopt_run merged session.declaredBy, foldl_adopt]
  exact change_run _

theorem absorbAll_run (merged : Session) {sources : List Nat}
    (present : ∀ source ∈ sources, source < workspace.length) :
    (sources.forM (absorb workspace.length)).run (workspace ++ [merged]) =
      ((), workspace ++ [(sources.filterMap (workspace[·]?)).foldl Session.absorb merged]) := by
  induction sources generalizing merged with
  | nil => rfl
  | cons source rest ih =>
      have inBounds := present source List.mem_cons_self
      have found := List.getElem?_eq_getElem inBounds
      have later := ih (merged.absorb workspace[source]) fun other mem =>
        present other (List.mem_cons_of_mem source mem)
      rw [List.forM_eq_forM, List.forM_cons, StateT.run_bind, absorb_run found,
        List.filterMap_cons_some found]
      exact later

/-- Merging leaves every session as it is and keeps what they make together at a new place. -/
theorem merge_run (root? : Option Text) {sources : List Nat}
    (present : ∀ source ∈ sources, source < workspace.length) :
    (merge root? sources).run workspace =
      (workspace.length,
        workspace ++ [Session.merge root? (sources.filterMap (workspace[·]?))]) := by
  have firstRoot : ((sources.head?.bind (workspace[·]?)).map Session.root).getD [] =
      ((sources.filterMap (workspace[·]?)).head?.map Session.root).getD [] := by
    cases sources with
    | nil => rfl
    | cons source rest =>
        have found := List.getElem?_eq_getElem (present source List.mem_cons_self)
        rw [List.filterMap_cons_some found, List.head?_cons, Option.bind_some, found,
          List.head?_cons]
  unfold merge Session.merge
  rw [← firstRoot]
  have run := absorbAll_run (Session.begin (root?.getD
    (((sources.head?.bind (workspace[·]?)).map Session.root).getD []))) present
  have kept (session : Session) :
      (keep session).run workspace = (workspace.length, workspace ++ [session]) := rfl
  simp only [StateT.run_bind, StateT.run_get, pure_bind]
  rw [kept]
  exact congrArg (fun ran => (workspace.length, ran.2)) run

end Workspace

namespace Session

/-- Merging stands for building in one session. Shares of the work that have no module in common may
be done apart, the order in which sessions are grouped does not matter, and the sessions that are
merged stay as they are at their places. -/
theorem merge_as_one :
    (∀ (shares : List (Text × List Operation)) root root?,
      (shares.Pairwise fun earlier later =>
        ∀ first ∈ earlier.2, ∀ second ∈ later.2, first.moduleId ≠ second.moduleId) →
      Agrees (merge root? (shares.map fun share => ofShare share.1 share.2))
        (ofShare root (shares.flatMap Prod.snd))) ∧
    (∀ root? leftRoot? otherRoot? rightRoot? first second third,
      Agrees (merge root? [merge leftRoot? [first, second], third])
        (merge otherRoot? [first, merge rightRoot? [second, third]])) ∧
    (∀ root? otherRoot? groupRoot? before group after,
      Agrees (merge root? (before ++ merge groupRoot? group :: after))
        (merge otherRoot? (before ++ group ++ after))) ∧
    ∀ (workspace : Workspace) root? sources, (∀ source ∈ sources, source < workspace.length) →
      (Workspace.merge root? sources).run workspace =
        (workspace.length, workspace ++ [merge root? (sources.filterMap (workspace[·]?))]) := by
  refine ⟨?_, ?_, ?_, ?_⟩
  · intro shares root root? apart
    exact merge_ofShare root root? apart
  · intro root? leftRoot? otherRoot? rightRoot? first second third
    have left := merge_group root? leftRoot? none [] [first, second] [third]
    have right := merge_group otherRoot? rightRoot? none [first] [second, third] []
    exact left.trans right.symm
  · intro root? otherRoot? groupRoot? before group after
    exact merge_group root? groupRoot? otherRoot? before group after
  · intro workspace root? sources present
    exact Workspace.merge_run root? present

/-- Two workers, one of which takes a component back and finds it again. -/
theorem merge_as_one_of_two :
    let found (name : Text) : Analysis :=
      ⟨some ⟨⟨name, none, ["x-a"], [], []⟩, [], [], []⟩, [], true⟩
    let first := [Operation.record "b.js" (found "x-b"), .record "a.js" (found "x-a"),
      .remove "b.js", .record "b.js" (found "x-c")]
    let second := [Operation.record "c.js" (found "x-d")]
    let merged := merge none [ofShare [] first, ofShare [] second]
    Agrees merged (ofShare [] (first ++ second)) ∧
      merged.components.keys = [("a.js" : Text), "b.js", "c.js"] ∧
      (Workspace.merge none [0, 1]).run [ofShare [] first, ofShare [] second] =
        (2, [ofShare [] first, ofShare [] second, merged]) := by
  intro found first second merged
  refine ⟨?_, by decide, ?_⟩
  · exact merge_as_one.1 [([], first), ([], second)] [] none (by simp; decide)
  · exact merge_as_one.2.2.2 [ofShare [] first, ofShare [] second] none [0, 1] (by simp)

end Session

end ComponentInliner
