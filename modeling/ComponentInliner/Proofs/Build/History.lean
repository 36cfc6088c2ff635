import ComponentInliner.Build.Compiler
import ComponentInliner.Proofs.OrderedMap
import Mathlib.Data.List.TakeWhile

/-!
# The operations of a host

A host changes a session by three operations: it has a module transformed, it records an analysis of
its own, or it removes a module. Some of them end early or do nothing. But what an operation does to
the session depends on the operation alone (`Operation.change`), and a sequence of operations leaves
the session that their changes make, one after the other (`BuildState.session_afterAll`).
-/

namespace ComponentInliner

inductive Operation where
  | transform (compiler : Compiler) (source givenId : Text)
  | record (moduleId : Text) (analysis : Analysis)
  | remove (moduleId : Text)

/-- What an operation finds out about a module: its component, or that it has none. -/
structure Effect where
  moduleId : Text
  component? : Option ComponentRecord

/-- What an operation changes in a session. -/
structure Change where
  effect? : Option Effect
  warnings : List Text

/-- What an effect does to the registered components. -/
def Registration.takeEffect (registration : Registration) (effect : Effect) : Registration :=
  match effect.component? with
  | some component => registration.insert effect.moduleId component
  | none => registration.erase effect.moduleId

def Session.recordEffect (session : Session) (effect : Effect) : Session :=
  session.record effect.moduleId effect.component?

def Change.applyTo (change : Change) (session : Session) : Session :=
  let recorded := change.effect?.elim session session.recordEffect
  { recorded with warnings := recorded.warnings ++ change.warnings }

/-- The warnings that an analysis of a module gives. -/
def Compiler.warningsAbout (compiler : Compiler) (moduleId : Text) (analysis : Analysis) :
    List Text :=
  if compiler.options.reportsIssues && !analysis.issues.isEmpty && analysis.looksLikeComponent then
    [Component.issueReport moduleId (analysis.issues.map fun issue => issue.message)]
  else
    []

namespace Operation

def run : Operation → BuildM Unit
  | .transform compiler source givenId => do
      let _ ← compiler.transform source givenId
  | .record moduleId analysis => Compiler.recordComponent moduleId analysis
  | .remove moduleId => do
      Compiler.tell ((← Compiler.currentSession).removalLog moduleId)
      Compiler.changeSession fun session => session.remove moduleId

/-- What is left of a build after an operation, which may have ended early. -/
def after (operation : Operation) (state : BuildState) : BuildState :=
  (operation.run.run.run state).2

/-- What an operation changes in whatever session it works on. -/
def change : Operation → Change
  | .transform compiler source givenId =>
      let moduleId := ModuleId.normalize givenId
      if compiler.filter.accepts moduleId then
        match Component.analyze source with
        | .ok analysis =>
            ⟨some ⟨moduleId, analysis.component?⟩, compiler.warningsAbout moduleId analysis⟩
        | .error _ => ⟨none, []⟩
      else
        ⟨none, []⟩
  | .record moduleId analysis => ⟨some ⟨moduleId, analysis.component?⟩, []⟩
  | .remove moduleId => ⟨some ⟨moduleId, none⟩, []⟩

end Operation

/-- What is left of a build after a sequence of operations. -/
def BuildState.afterAll (state : BuildState) (operations : List Operation) : BuildState :=
  operations.foldl (fun state operation => operation.after state) state

namespace Compiler

/-- A step of a build comes to a result and leaves a session behind. -/
def Updates {Result : Type} (action : BuildM Result) (state : BuildState) (result : Result)
    (session : Session) : Prop :=
  ∃ log, action.run.run state = (.ok result, ⟨session, log⟩)

namespace Updates

variable {Result Next : Type} {state : BuildState} {session last : Session}

theorem pure (result : Result) : Updates (pure result) state result state.session :=
  ⟨state.log, rfl⟩

theorem bind {action : BuildM Result} {next : Result → BuildM Next} {result : Result}
    {final : Next} (first : Updates action state result session)
    (second : ∀ log, Updates (next result) ⟨session, log⟩ final last) :
    Updates (action >>= next) state final last := by
  rcases first with ⟨middle, ran⟩
  rcases second middle with ⟨log, ranNext⟩
  refine ⟨log, ?_⟩
  rw [ExceptT.run_bind, StateT.run_bind, ran]
  exact ranNext

theorem tell (records : List LogRecord) : Updates (tell records) state () state.session :=
  ⟨_, rfl⟩

theorem note (logger : String) (event : BuildEvent) :
    Updates (note logger event) state () state.session :=
  tell _

theorem changeSession (change : Session → Session) :
    Updates (changeSession change) state () (change state.session) :=
  ⟨_, rfl⟩

theorem report (message : Text) : Updates (report message) state () (state.session.warn message) :=
  (changeSession _).bind fun _ => note _ _

theorem recordComponent (moduleId : Text) (analysis : Analysis) :
    Updates (recordComponent moduleId analysis) state ()
      (state.session.record moduleId analysis.component?) := by
  rcases analysis with ⟨_ | component, issues, looksLikeComponent⟩
  · exact ⟨_, rfl⟩
  · exact ⟨_, rfl⟩

theorem session_eq {action : BuildM Result} {result : Result}
    (updates : Updates action state result session) :
    (action.run.run state).2.session = session := by
  rcases updates with ⟨log, ran⟩
  rw [ran]

end Updates

variable {compiler : Compiler} {source givenId : Text}

theorem transform_skipped
    (rejected : compiler.filter.accepts (ModuleId.normalize givenId) = false) (state : BuildState) :
    Updates (compiler.transform source givenId) state none state.session := by
  unfold transform
  simp only [rejected, Bool.not_false, if_true]
  exact (Updates.note _ _).bind fun _ => Updates.pure none

theorem transform_fails {fault : Component.AnalysisFault}
    (accepted : compiler.filter.accepts (ModuleId.normalize givenId) = true)
    (failed : Component.analyze source = .error fault) (state : BuildState) :
    (compiler.transform source givenId).run.run state = (.error (.analysis fault), state) := by
  unfold transform analyzed
  simp only [accepted, failed, Bool.not_true]
  rfl

theorem transform_updates {analysis : Analysis}
    (accepted : compiler.filter.accepts (ModuleId.normalize givenId) = true)
    (found : Component.analyze source = .ok analysis) (state : BuildState) :
    let moduleId := ModuleId.normalize givenId
    let recorded := state.session.record moduleId analysis.component?
    Updates (compiler.transform source givenId) state (some analysis)
      { recorded with
        warnings := recorded.warnings ++ compiler.warningsAbout moduleId analysis } := by
  intro moduleId recorded
  have reports (log : List LogRecord) : Updates (do
        if compiler.options.reportsIssues && !analysis.issues.isEmpty &&
            analysis.looksLikeComponent then
          report (Component.issueReport moduleId (analysis.issues.map fun issue => issue.message))
        return some analysis) ⟨recorded, log⟩ (some analysis)
      { recorded with
        warnings := recorded.warnings ++ compiler.warningsAbout moduleId analysis } := by
    unfold warningsAbout
    split
    · exact (Updates.report _).bind fun _ => Updates.pure _
    · rw [List.append_nil]
      exact Updates.pure _
  unfold transform analyzed
  simp only [accepted, found, Bool.not_true]
  refine (Updates.pure analysis).bind fun _ => ?_
  refine (Updates.recordComponent _ _).bind fun _ => ?_
  split
  · exact (Updates.note _ _).bind reports
  · split
    · exact (Updates.note _ _).bind reports
    · exact reports _

end Compiler

namespace Operation

theorem session_after (operation : Operation) (state : BuildState) :
    (operation.after state).session = operation.change.applyTo state.session := by
  cases operation with
  | transform compiler source givenId =>
      have same : ((transform compiler source givenId).after state).session =
          ((compiler.transform source givenId).run.run state).2.session := by
        unfold after run
        rw [ExceptT.run_bind, StateT.run_bind]
        rcases (compiler.transform source givenId).run.run state with ⟨_ | analysis?, left⟩
        · rfl
        · rfl
      rw [same]
      by_cases accepted : compiler.filter.accepts (ModuleId.normalize givenId) = true
      · cases found : Component.analyze source with
        | error fault =>
            rw [Compiler.transform_fails accepted found]
            simp [change, accepted, found, Change.applyTo]
        | ok analysis =>
            rw [(Compiler.transform_updates accepted found state).session_eq]
            simp [change, accepted, found, Change.applyTo, Session.recordEffect]
      · have rejected : compiler.filter.accepts (ModuleId.normalize givenId) = false := by
          simpa using accepted
        rw [(Compiler.transform_skipped rejected state).session_eq]
        simp [change, rejected, Change.applyTo]
  | record moduleId analysis =>
      have updates : Compiler.Updates (Compiler.recordComponent moduleId analysis) state ()
          (state.session.record moduleId analysis.component?) :=
        .recordComponent moduleId analysis
      rw [after, run, updates.session_eq]
      simp [change, Change.applyTo, Session.recordEffect]
  | remove moduleId =>
      simp [change, Change.applyTo, Session.recordEffect, Session.record]
      rfl

end Operation

namespace Change

theorem components_applyTo (change : Change) (session : Session) :
    (change.applyTo session).components =
      change.effect?.elim session.components session.components.takeEffect := by
  rcases change with ⟨_ | ⟨moduleId, _ | component⟩, warnings⟩
  · rfl
  · rfl
  · rfl

theorem warnings_applyTo (change : Change) (session : Session) :
    (change.applyTo session).warnings = session.warnings ++ change.warnings := by
  rcases change with ⟨_ | ⟨moduleId, _ | component⟩, warnings⟩
  · rfl
  · rfl
  · rfl

end Change

theorem BuildState.session_afterAll (state : BuildState) (operations : List Operation) :
    (state.afterAll operations).session =
      operations.foldl (fun session operation => operation.change.applyTo session)
        state.session := by
  induction operations generalizing state with
  | nil => rfl
  | cons operation later ih =>
      have first := operation.session_after state
      rw [List.foldl_cons, ← first]
      exact ih (operation.after state)

namespace ModuleId

/-- A module id in normal form has no query, no fragment and no backslash. -/
theorem mem_normalize {givenId : Text} {point : CodePoint} (mem : point ∈ normalize givenId) :
    point ≠ '?' ∧ point ≠ '#' ∧ point ≠ '\\' := by
  rcases List.mem_map.mp mem with ⟨given, memPath, rfl⟩
  have notFragment : given ≠ '#' := by simpa using List.mem_takeWhile_imp memPath
  have notQuery : given ≠ '?' := by
    simpa using List.mem_takeWhile_imp ((List.takeWhile_prefix _).subset memPath)
  by_cases isBackslash : given = '\\'
  · rw [if_pos isBackslash]
    decide
  · rw [if_neg isBackslash]
    exact ⟨notQuery, notFragment, isBackslash⟩

/-- An id without a query, a fragment and a backslash is in normal form. -/
theorem normalize_of_plain {moduleId : Text}
    (plain : ∀ point ∈ moduleId, point ≠ '?' ∧ point ≠ '#' ∧ point ≠ '\\') :
    normalize moduleId = moduleId := by
  have noQuery : moduleId.takeWhile (fun point : CodePoint => point ≠ '?') = moduleId :=
    List.takeWhile_eq_self_iff.mpr fun point mem => by simpa using (plain point mem).1
  have noFragment : moduleId.takeWhile (fun point : CodePoint => point ≠ '#') = moduleId :=
    List.takeWhile_eq_self_iff.mpr fun point mem => by simpa using (plain point mem).2.1
  rw [normalize, noQuery, noFragment]
  refine (List.map_congr_left fun point mem => ?_).trans (List.map_id _)
  exact if_neg (plain point mem).2.2

theorem normalize_normalize (givenId : Text) :
    normalize (normalize givenId) = normalize givenId :=
  normalize_of_plain fun _ => mem_normalize

end ModuleId

/-- It does not matter whether a host gives a module id or its normal form. -/
theorem Compiler.transform_normalize (compiler : Compiler) (source givenId : Text) :
    compiler.transform source (ModuleId.normalize givenId) = compiler.transform source givenId := by
  unfold transform
  rw [ModuleId.normalize_normalize]

end ComponentInliner
