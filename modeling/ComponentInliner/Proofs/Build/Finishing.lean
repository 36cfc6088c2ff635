import ComponentInliner.Proofs.Build.Editing
import ComponentInliner.Proofs.Build.History

/-!
# From modules to a document

A build that makes one document looks at all modules and then finishes the document. The first part
leaves what the operations on the modules leave, unless a module cannot be analyzed. The second part
looks at nothing but the components and the root of the session; `finishing` says what is done to
the document once it holds the triplets, or why the build ends early.
-/

namespace ComponentInliner.Compiler

/-- Whatever was warned about and logged before, a step of a build has the same outcome. It leaves
the session as it is, but for more warnings. -/
def Settles {Result : Type} (action : BuildM Result) (session : Session)
    (outcome : Except BuildFault Result) : Prop :=
  ∀ warnings log, ∃ more after, action.run.run ⟨{ session with warnings := warnings }, log⟩ =
    (outcome, ⟨{ session with warnings := warnings ++ more }, after⟩)

namespace Settles

variable {Result Next : Type} {session : Session}

theorem pure (result : Result) : Settles (pure result) session (.ok result) :=
  fun warnings log => ⟨[], log, by rw [List.append_nil]; rfl⟩

theorem bind {action : BuildM Result} {next : Result → BuildM Next}
    {outcome : Except BuildFault Result} {last : Result → Except BuildFault Next}
    (first : Settles action session outcome)
    (second : ∀ result, Settles (next result) session (last result)) :
    Settles (action >>= next) session (outcome >>= last) := by
  intro warnings log
  rcases first warnings log with ⟨more, between, ran⟩
  cases outcome with
  | error fault =>
      refine ⟨more, between, ?_⟩
      rw [ExceptT.run_bind, StateT.run_bind, ran]
      rfl
  | ok result =>
      rcases second result (warnings ++ more) between with ⟨others, after, ranNext⟩
      refine ⟨more ++ others, after, ?_⟩
      rw [ExceptT.run_bind, StateT.run_bind, ran, ← List.append_assoc]
      exact ranNext

/-- After a step that comes to a result, the next one decides. -/
theorem after {action : BuildM Result} {next : Result → BuildM Next} {result : Result}
    {outcome : Except BuildFault Next} (first : Settles action session (.ok result))
    (second : Settles (next result) session outcome) :
    Settles (action >>= next) session outcome := by
  intro warnings log
  rcases first warnings log with ⟨more, between, ran⟩
  rcases second (warnings ++ more) between with ⟨others, after, ranNext⟩
  refine ⟨more ++ others, after, ?_⟩
  rw [ExceptT.run_bind, StateT.run_bind, ran, ← List.append_assoc]
  exact ranNext

theorem tell (records : List LogRecord) : Settles (tell records) session (.ok ()) :=
  fun warnings log => ⟨[], log ++ records, by rw [List.append_nil]; rfl⟩

theorem note (logger : String) (event : BuildEvent) :
    Settles (note logger event) session (.ok ()) :=
  tell _

theorem warn (message : Text) :
    Settles (changeSession fun session => session.warn message) session (.ok ()) :=
  fun _ log => ⟨[message], log, rfl⟩

theorem report (message : Text) : Settles (report message) session (.ok ()) :=
  (warn message).after (note _ _)

/-- A step may read the session as long as it makes nothing of the warnings. -/
theorem reading {next : Session → BuildM Next} {outcome : Except BuildFault Next}
    (settles : ∀ warnings, Settles (next { session with warnings := warnings }) session outcome) :
    Settles (currentSession >>= next) session outcome :=
  fun warnings log => settles warnings warnings log

theorem forEach {Item : Type} {action : Item → BuildM Unit} (items : List Item)
    (settles : ∀ item, Settles (action item) session (.ok ())) :
    Settles (forIn items PUnit.unit fun item _ => do
      action item
      return ForInStep.yield PUnit.unit) session (.ok ()) := by
  induction items with
  | nil => exact pure ()
  | cons item rest ih =>
      rw [List.forIn_cons]
      have first : Settles (do
          action item
          return ForInStep.yield PUnit.unit) session (.ok (.yield PUnit.unit)) :=
        (settles item).after (pure _)
      exact first.after ih

end Settles

/-- The text of a setting, which is required to be one. -/
def textOf (setting : Setting) : Except BuildFault Text :=
  match setting.text? with
  | some text => .ok text
  | none => .error .notText

/-- The code of the runtime that goes into documents, or why the build ends early. -/
def runtimeOutcome (compiler : Compiler) (tree : FileTree) (root : Text) :
    Except BuildFault (Option Text) :=
  if compiler.options.inlinesRuntime then do
    let searchPaths ← compiler.options.searchPaths.mapM textOf
    return (RuntimeScript.find tree root (asPartOfText compiler.options.runtimeName)
      searchPaths).usable?
  else
    return none

/-- How the code of the runtime is put into documents. -/
def runtimePlacing (compiler : Compiler) : Option Text → Except BuildFault (Text → Text)
  | some code => return Html.inlineRuntime code (← textOf compiler.options.runtimeName)
  | none => return id

/-- What is done to documents with triplets, or why the build ends early. -/
def finishing (compiler : Compiler) (tree : FileTree) (root : Text) :
    Except BuildFault (Text → Text) := do
  let code? ← compiler.runtimeOutcome tree root
  let placeRuntime ← compiler.runtimePlacing code?
  let bootstrapName ← textOf compiler.options.bootstrapName
  return Html.removeBootstrap bootstrapName ∘ placeRuntime

/-- A document with the triplets of components. If it has no place for them, it stays as it is. -/
def withTriplets (compiler : Compiler) (document : Text) (records : List ComponentRecord) : Text :=
  (Html.insertBeforeBodyClose document
    (Html.renderTriplets compiler.options.compactsStyles records)).getD document

section Editing

variable (compiler : Compiler) (tree : FileTree) (document : Text) {session : Session}

theorem requireText_settles (setting : Setting) :
    Settles (requireText setting) session (textOf setting) := by
  unfold requireText textOf
  cases setting.text? with
  | some text => exact Settles.pure text
  | none => exact fun warnings log => ⟨[], log, by rw [List.append_nil]; rfl⟩

theorem requireTexts_settle (settings : List Setting) :
    Settles (settings.mapM requireText) session (settings.mapM textOf) := by
  induction settings with
  | nil => exact Settles.pure []
  | cons setting rest ih =>
      rw [List.mapM_cons, List.mapM_cons]
      exact (requireText_settles setting).bind fun _ => ih.bind fun _ => Settles.pure _

theorem inlinedRuntime_settles :
    Settles (compiler.inlinedRuntime tree) session
      (compiler.runtimeOutcome tree session.root) := by
  unfold inlinedRuntime runtimeOutcome
  split
  · unfold runtimeCode
    apply Settles.reading
    intro warnings
    refine (requireTexts_settle _).bind fun searchPaths => ?_
    cases RuntimeScript.find tree session.root (asPartOfText compiler.options.runtimeName)
        searchPaths with
    | missing searched =>
        exact (Settles.note _ _).after ((Settles.warn _).after (Settles.pure none))
    | found path code =>
        dsimp only [RuntimeScript.Lookup.usable?]
        split
        · exact (Settles.tell _).after ((Settles.warn _).after (Settles.pure none))
        · exact (Settles.note _ _).after (Settles.pure (some code))
  · exact Settles.pure none

theorem insertComponents_settles (records : List ComponentRecord) :
    Settles (compiler.insertComponents records document) session
      (.ok (compiler.withTriplets document records)) := by
  unfold insertComponents withTriplets
  cases insertion : Html.insertBeforeBodyClose document
      (Html.renderTriplets compiler.options.compactsStyles records) with
  | some written =>
      simp only [insertion]
      exact Settles.pure written
  | none =>
      simp only [insertion]
      split
      · exact (Settles.warn _).after ((Settles.tell _).after (Settles.pure document))
      · exact Settles.pure document

theorem insertRuntime_settles (code? : Option Text) :
    Settles (compiler.insertRuntime code? document) session
      ((compiler.runtimePlacing code?).map fun placeRuntime => placeRuntime document) := by
  cases code? with
  | none => exact Settles.pure document
  | some code =>
      have outcome : (compiler.runtimePlacing (some code)).map (fun placeRuntime =>
          placeRuntime document) = (textOf compiler.options.runtimeName >>= fun name =>
            .ok (Html.inlineRuntime code name document)) := by
        unfold runtimePlacing
        cases textOf compiler.options.runtimeName <;> rfl
      rw [outcome]
      exact (requireText_settles _).bind fun _ => Settles.pure _

theorem edit_settles :
    Settles (compiler.edit tree document) session
      ((compiler.finishing tree session.root).map fun finish =>
        finish (compiler.withTriplets document (session.graph.sorted.map Prod.snd))) := by
  have orders : Settles orderedComponents session
      (.ok (session.graph.sorted.map Prod.snd)) :=
    Settles.reading fun _ => (Settles.tell _).after ((Settles.note _ _).after (Settles.pure _))
  let written := compiler.withTriplets document (session.graph.sorted.map Prod.snd)
  have outcome : (compiler.finishing tree session.root).map (fun finish => finish written) =
      (compiler.runtimeOutcome tree session.root >>= fun code? =>
        (compiler.runtimePlacing code?).map (fun placeRuntime => placeRuntime written) >>=
          fun placed => textOf compiler.options.bootstrapName >>= fun name =>
            .ok (Html.removeBootstrap name placed)) := by
    unfold finishing
    rcases compiler.runtimeOutcome tree session.root with fault | code?
    · rfl
    · dsimp only [bind, Except.bind]
      cases compiler.runtimePlacing code? <;>
        cases textOf compiler.options.bootstrapName <;> rfl
  rw [outcome]
  unfold edit
  refine orders.after ((insertComponents_settles compiler document _).after ?_)
  refine (inlinedRuntime_settles compiler tree).bind fun code? => ?_
  refine (insertRuntime_settles compiler written code?).bind fun withRuntime => ?_
  exact (requireText_settles _).bind fun _ => Settles.pure _

/-- The part of a build that comes after the modules. -/
def finishDocument : BuildM Text := do
  let name : Text := "index.html"
  let bundle ← compiler.finalize tree ⟨[(name, ⟨name, document⟩)]⟩
  return ((bundle.get? name).map Asset.source).getD document

/-- A build ends with the edited document. -/
theorem finishDocument_settles {outcome : Except BuildFault Text}
    (edits : Settles (compiler.edit tree document) session outcome) :
    Settles (compiler.finishDocument tree document) session outcome := by
  have finishes : Settles (do
      let edited ← compiler.edit tree document
      note buildLogger (.chunksPruned [])
      return edited) session outcome := by
    rw [← bind_pure outcome]
    exact edits.bind fun _ => (Settles.note _ _).after (Settles.pure _)
  -- By its name, the one asset of the bundle is a document and no script.
  have isHtml : Text.endsWith "index.html" ".html" = true := by decide
  unfold finishDocument finalize editAsset
  simp only [List.mapM_cons, List.mapM_nil, isHtml, if_true, bind_assoc, pure_bind]
  split
  · simp only [bind_assoc, pure_bind]
    apply Settles.reading
    exact fun _ => (Settles.forEach _ fun _ => Settles.report _).after finishes
  · simp only [bind_assoc, pure_bind]
    exact finishes

end Editing

section Modules

/-- The part of a build that looks at the modules. -/
def visitAll (compiler : Compiler) (modules : List (Text × Text)) : BuildM Unit := do
  for (moduleId, source) in modules do
    let _ ← compiler.transform source moduleId

/-- A build looks at all modules before it finishes the document. -/
theorem buildDocument_eq (compiler : Compiler) (tree : FileTree) (document : Text)
    (modules : List (Text × Text)) :
    compiler.buildDocument tree document modules =
      compiler.visitAll modules >>= fun _ => compiler.finishDocument tree document := by
  unfold buildDocument visitAll finishDocument
  simp only [bind_assoc, pure_bind]

variable {compiler : Compiler}

theorem visitAll_cons (compiler : Compiler) (module : Text × Text)
    (rest : List (Text × Text)) : compiler.visitAll (module :: rest) =
      compiler.transform module.2 module.1 >>= fun _ => compiler.visitAll rest := by
  unfold visitAll
  simp only [List.forIn_cons, bind_assoc, pure_bind]

/-- The operation of a build on a module. -/
def visit (compiler : Compiler) (module : Text × Text) : Operation :=
  .transform compiler module.2 module.1

/-- A module does not end the build: the filter rejects it, or there is an analysis of it. -/
def Reads (compiler : Compiler) (module : Text × Text) : Prop :=
  compiler.filter.accepts (ModuleId.normalize module.1) = true →
    ∃ analysis, Component.analyze module.2 = .ok analysis

theorem transform_visits {module : Text × Text} (reads : compiler.Reads module)
    (state : BuildState) : ∃ analysis?, Updates (compiler.transform module.2 module.1) state
      analysis? ((compiler.visit module).change.applyTo state.session) := by
  by_cases accepted : compiler.filter.accepts (ModuleId.normalize module.1) = true
  · rcases reads accepted with ⟨analysis, found⟩
    refine ⟨some analysis, ?_⟩
    simpa [visit, Operation.change, accepted, found, Change.applyTo, Session.recordEffect] using
      transform_updates accepted found state
  · have rejected : compiler.filter.accepts (ModuleId.normalize module.1) = false := by
      simpa using accepted
    refine ⟨none, ?_⟩
    simpa [visit, Operation.change, rejected, Change.applyTo] using
      transform_skipped rejected state

/-- To look at modules that do not end the build is to do the operations on them. -/
theorem visitAll_updates {modules : List (Text × Text)}
    (reads : ∀ module ∈ modules, compiler.Reads module) (state : BuildState) :
    Updates (compiler.visitAll modules) state ()
      (state.afterAll (modules.map compiler.visit)).session := by
  induction modules generalizing state with
  | nil => exact Updates.pure ()
  | cons module rest ih =>
      rcases transform_visits (reads module (List.mem_cons_self ..)) state with ⟨_, visits⟩
      rw [visitAll_cons, BuildState.session_afterAll]
      refine visits.bind fun log => ?_
      have onRest := ih (fun other mem => reads other (List.mem_cons_of_mem _ mem))
        ⟨(compiler.visit module).change.applyTo state.session, log⟩
      rwa [BuildState.session_afterAll] at onRest

/-- A build that gets past the modules could analyze all of them. -/
theorem reads_of_visitAll {modules : List (Text × Text)} {state after : BuildState}
    (ran : (compiler.visitAll modules).run.run state = (.ok (), after)) :
    ∀ module ∈ modules, compiler.Reads module := by
  induction modules generalizing state with
  | nil => exact fun module mem => nomatch mem
  | cons module rest ih =>
      rw [visitAll_cons] at ran
      have readsFirst : compiler.Reads module := by
        intro accepted
        cases found : Component.analyze module.2 with
        | ok analysis => exact ⟨analysis, rfl⟩
        | error fault =>
            rw [ExceptT.run_bind, StateT.run_bind, transform_fails accepted found] at ran
            cases ran
      intro other mem
      rcases List.mem_cons.mp mem with rfl | mem
      · exact readsFirst
      · rcases transform_visits readsFirst state with ⟨_, log, visits⟩
        rw [ExceptT.run_bind, StateT.run_bind, visits] at ran
        exact ih ran other mem

theorem root_applyTo (change : Change) (session : Session) :
    (change.applyTo session).root = session.root := by
  rcases change with ⟨_ | ⟨moduleId, _ | component⟩, warnings⟩
  · rfl
  · rfl
  · rfl

theorem root_afterAll (operations : List Operation) (state : BuildState) :
    (state.afterAll operations).session.root = state.session.root := by
  induction operations generalizing state with
  | nil => rfl
  | cons operation rest ih =>
      refine (ih (operation.after state)).trans ?_
      rw [operation.session_after, root_applyTo]

/-- A build whose modules can be analyzed comes to the document that is finished with the triplets
of the components, or ends early for want of a text. -/
theorem buildDocument_outcome {modules : List (Text × Text)}
    (reads : ∀ module ∈ modules, compiler.Reads module) (tree : FileTree) (root document : Text) :
    let session := ((start root).afterAll (modules.map compiler.visit)).session
    ∃ more log, (compiler.buildDocument tree document modules).run.run (start root) =
      ((compiler.finishing tree root).map fun finish =>
          finish (compiler.withTriplets document (session.graph.sorted.map Prod.snd)),
        ⟨{ session with warnings := session.warnings ++ more }, log⟩) := by
  intro session
  rcases visitAll_updates reads (start root) with ⟨log, visits⟩
  have sameRoot : session.root = root := root_afterAll _ _
  have settles := finishDocument_settles compiler tree document
    (@edit_settles compiler tree document session)
  rw [sameRoot] at settles
  rcases settles session.warnings log with ⟨more, after, ran⟩
  refine ⟨more, after, ?_⟩
  rw [buildDocument_eq, ExceptT.run_bind, StateT.run_bind, visits]
  exact ran

theorem reads_of_buildDocument {modules : List (Text × Text)} {tree : FileTree}
    {document output : Text} {state after : BuildState}
    (ran : (compiler.buildDocument tree document modules).run.run state = (.ok output, after)) :
    ∀ module ∈ modules, compiler.Reads module := by
  rw [buildDocument_eq, ExceptT.run_bind, StateT.run_bind] at ran
  rcases visits : (compiler.visitAll modules).run.run state with ⟨fault | ⟨⟩, visited⟩
  · rw [visits] at ran
    cases ran
  · exact reads_of_visitAll visits

end Modules

end ComponentInliner.Compiler
