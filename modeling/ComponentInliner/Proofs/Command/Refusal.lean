import ComponentInliner.Command.Run
import ComponentInliner.Proofs.Config.Readable

/-!
# Runs with unusable configurations

A run makes its compiler from a configuration. If the configuration cannot be read, then the run
breaks off. If it can be read and its options are no good, the run says what is wrong with them and
ends with the status 1, provided that the log has a place to go.
-/

namespace ComponentInliner

/-- A choice of filters stands for these filters. -/
theorem Filter.ofChoice_filters (fallback : List Filter) (filters? : Option (List Filter)) :
    ofChoice fallback (filters?.map fun filters => filters.map FilterEntry.filter) =
      .ok (filters?.getD fallback) := by
  cases filters? with
  | none => rfl
  | some filters =>
      simp only [Option.map_some, ofChoice, List.mapM_map, Function.comp_def, Option.getD_some]
      change filters.mapM (fun filter => (pure filter : Except Failure Filter)) = .ok filters
      rw [List.mapM_pure, List.map_id']
      rfl

/-- There is something, or what is wrong is reported. -/
theorem FilterFault.forall_isReported_iff {α : Type} {outcome : Except FilterFault α} :
    (∀ fault, outcome = .error fault → fault.IsReported) ↔
      (∃ result, outcome = .ok result) ∨
        ∃ failure, outcome = .error (.failure failure) ∧ failure.kind = .configuration := by
  cases outcome with
  | ok result => simp
  | error fault => cases fault <;> simp [IsReported]

namespace Run

variable {tree opened : FileTree} {environment : Environment} {arguments : CommandArguments}
  {configuration : Configuration} {records : List LogRecord} {sink : LogSink} {entry : Path}

section Compiler

/-- The options of a configuration always make a compiler. -/
theorem exists_ofOptions {options : BuildOptions} (made : configuration.options = .ok options)
    (arguments : CommandArguments) :
    ∃ compiler, Compiler.ofOptions (withArguments arguments options) = .ok compiler := by
  rcases exists_of_bind_ok made with ⟨included, -, followed⟩
  rcases exists_of_bind_ok followed with ⟨excluded, -, same⟩
  cases same
  unfold Compiler.ofOptions ModuleFilter.ofChoices withArguments
  simp [Filter.ofChoice_filters, bind, Except.bind, pure, Except.pure]

theorem compilerOf_eq_error_iff {fault : FilterFault} :
    compilerOf arguments configuration = .error fault ↔ configuration.options = .error fault := by
  unfold compilerOf
  cases made : configuration.options with
  | error other => simp [bind, Except.bind]
  | ok options =>
      rcases exists_ofOptions made arguments with ⟨compiler, ofOptions⟩
      simp [bind, Except.bind, ofOptions, Except.mapError]

end Compiler

/-- The setting that the configuration of a run is made from, and what the log says about it. -/
def settingOf (tree : FileTree) (arguments : CommandArguments) :
    Except ConfigurationFault (Setting × LogRecord) :=
  let root := Configuration.rootOf tree (entryPath tree arguments).parent.text
  Configuration.loadSetting tree
    (Configuration.chosenFile? tree root (arguments.configuration?.getD []))

/-- The configuration of a run, if it can be read. -/
def configurationOf (tree : FileTree) (environment : Environment) (arguments : CommandArguments) :
    Except ConfigurationFault (Configuration × List LogRecord) :=
  Configuration.load tree environment (arguments.configuration?.getD [])
    (entryPath tree arguments).parent.text

/-- What is said of a configuration whose options are no good. -/
def refusal (failure : Failure) : LogRecord :=
  ⟨.error, logger, "Invalid configuration: " ++ failure.text⟩

theorem compileEntry_of_failure {failure : Failure}
    (failed : compilerOf arguments configuration = .error (.failure failure)) (state : RunState) :
    (compileEntry arguments configuration entry).run.run state =
      (.ok 1, { state with
        build := { state.build with log := state.build.log ++ [refusal failure] } }) := by
  unfold compileEntry
  rw [failed]
  rfl

/-- A fault that is not reported breaks off the run. -/
theorem compileEntry_of_not_isReported {fault : FilterFault}
    (failed : compilerOf arguments configuration = .error fault) (notReported : ¬fault.IsReported)
    (state : RunState) :
    ∃ runFault, ((compileEntry arguments configuration entry).run.run state).1 =
      .error runFault := by
  unfold compileEntry
  rw [failed]
  cases fault with
  | failure failure =>
      have noOptions := compilerOf_eq_error_iff.mp failed
      exact absurd (Configuration.isReported_options noOptions) notReported
  | notEntries => exact ⟨.filterWithoutEntries, rfl⟩
  | pattern patternFault => exact ⟨.filterPattern patternFault, rfl⟩

section Perform

theorem perform_of_configurationFault {fault : ConfigurationFault}
    (failed : configurationOf tree environment arguments = .error fault) :
    perform tree environment arguments = ⟨.error (.configuration fault), tree, []⟩ := by
  unfold configurationOf at failed
  unfold perform
  simp only [failed]

variable (isRead : configurationOf tree environment arguments = .ok (configuration, records))

include isRead

theorem perform_of_sinkFault {fault : SinkFault}
    (failed : sinkOf tree environment arguments configuration.logging = .error fault) :
    perform tree environment arguments = ⟨.error (.sink fault), tree, []⟩ := by
  unfold configurationOf at isRead
  unfold perform
  simp only [isRead, failed]

theorem perform_of_sink
    (opens : sinkOf tree environment arguments configuration.logging = .ok (sink, opened)) :
    perform tree environment arguments =
      let result := (compileEntry arguments configuration
        (entryPath tree arguments)).run.run ⟨opened, ⟨Session.begin [], []⟩⟩
      let log := result.2.build.log
      ⟨result.1, sink.append log result.2.tree, log.filter sink.shows⟩ := by
  unfold configurationOf at isRead
  unfold perform
  simp only [isRead, opens]
  rfl

/-- A run whose log has a place to go says what is wrong with the options. -/
theorem perform_of_failure {failure : Failure}
    (opens : sinkOf tree environment arguments configuration.logging = .ok (sink, opened))
    (failed : compilerOf arguments configuration = .error (.failure failure)) :
    perform tree environment arguments =
      ⟨.ok 1, sink.append [refusal failure] opened, [refusal failure].filter sink.shows⟩ := by
  rw [perform_of_sink isRead opens, compileEntry_of_failure failed]
  rfl

theorem perform_of_not_isReported {fault : FilterFault}
    (failed : compilerOf arguments configuration = .error fault) (notReported : ¬fault.IsReported) :
    ∃ runFault, (perform tree environment arguments).ending = .error runFault := by
  cases opens : sinkOf tree environment arguments configuration.logging with
  | error sinkFault =>
      rw [perform_of_sinkFault isRead opens]
      exact ⟨.sink sinkFault, rfl⟩
  | ok result =>
      rw [perform_of_sink isRead opens]
      exact compileEntry_of_not_isReported failed notReported _

end Perform

/-- A configuration is readable exactly if it is made and whatever keeps it from giving a compiler
is reported. -/
theorem isReadable_iff {setting : Setting} {record : LogRecord}
    (isSetting : settingOf tree arguments = .ok (setting, record)) :
    setting.IsReadable ↔ ∃ configuration records,
      configurationOf tree environment arguments = .ok (configuration, records) ∧
        ∀ fault, compilerOf arguments configuration = .error fault → fault.IsReported := by
  simp only [compilerOf_eq_error_iff]
  exact Setting.isReadable_iff isSetting

/-- Runs break off at configurations that are not readable. -/
theorem perform_of_not_isReadable {setting : Setting} {record : LogRecord}
    (isSetting : settingOf tree arguments = .ok (setting, record))
    (unreadable : ¬setting.IsReadable) :
    ∃ fault, (perform tree environment arguments).ending = .error fault := by
  cases isRead : configurationOf tree environment arguments with
  | error fault =>
      rw [perform_of_configurationFault isRead]
      exact ⟨.configuration fault, rfl⟩
  | ok result =>
      -- All sections are there, so one of the filter options must be to blame.
      obtain ⟨fault, failed, notReported⟩ : ∃ fault,
          compilerOf arguments result.1 = .error fault ∧ ¬fault.IsReported := by
        by_contra allReported
        exact unreadable <| (isReadable_iff isSetting).mpr ⟨result.1, result.2, isRead,
          fun fault failed => by_contra fun notReported =>
            allReported ⟨fault, failed, notReported⟩⟩
      exact perform_of_not_isReported isRead failed notReported

section Projects

/-- The files of a project with a configuration. -/
def configuredTree (configuration : Text) : FileTree :=
  ⟨⟨[(["boredom.config.json"], .file (configuration.flatMap Text.encodePoint)),
    (["index.html"], .file (("<body></body>" : Text).flatMap Text.encodePoint))]⟩, []⟩

def entryArguments : CommandArguments :=
  ⟨"index.html", [], none, none, false, false, false, false, false, none⟩

theorem exists_of_toOption_isSome {Fault First Second : Type}
    {outcome : Except Fault (First × Second)} (found : outcome.toOption.isSome = true) :
    ∃ first second, outcome = .ok (first, second) := by
  cases outcome with
  | error fault => cases found
  | ok result => exact ⟨result.1, result.2, rfl⟩

/-- The failure that a run shows as what is wrong with its configuration. -/
def shownFailure? (tree : FileTree) (environment : Environment) (arguments : CommandArguments) :
    Option Failure :=
  match configurationOf tree environment arguments with
  | .error _ => none
  | .ok (configuration, _) =>
      match sinkOf tree environment arguments configuration.logging,
          compilerOf arguments configuration with
      | .ok (sink, _), .error (.failure failure) =>
          if sink.shows (refusal failure) then some failure else none
      | _, _ => none

theorem exists_of_shownFailure? {failure : Failure}
    (isShown : shownFailure? tree environment arguments = some failure) :
    ∃ configuration records sink opened,
      configurationOf tree environment arguments = .ok (configuration, records) ∧
      sinkOf tree environment arguments configuration.logging = .ok (sink, opened) ∧
      compilerOf arguments configuration = .error (.failure failure) ∧
      sink.shows (refusal failure) = true := by
  unfold shownFailure? at isShown
  split at isShown
  · cases isShown
  · next configuration records isRead =>
      split at isShown
      · next sink opened found opens failed =>
          split at isShown
          · next shows =>
              cases isShown
              exact ⟨configuration, records, sink, opened, isRead, opens, failed, shows⟩
          · cases isShown
      · cases isShown

/-- What is wrong with the sections of a configuration, if that keeps it from being read. -/
def sectionFault? : Except ConfigurationFault (Configuration × List LogRecord) →
    Option SectionFault
  | .error (.sections fault) => some fault
  | _ => none

theorem eq_of_sectionFault? {outcome : Except ConfigurationFault (Configuration × List LogRecord)}
    {fault : SectionFault} (found : sectionFault? outcome = some fault) :
    outcome = .error (.sections fault) := by
  unfold sectionFault? at found
  split at found
  · cases found
    rfl
  · cases found

end Projects

end Run

end ComponentInliner
