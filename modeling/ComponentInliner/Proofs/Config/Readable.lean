import ComponentInliner.Config.Configuration
import ComponentInliner.Proofs.Outcome

/-!
# Configurations that can be read

A configuration may hold any data, and not all of it can be looked into. The configuration itself
and its sections have to be mappings, the search paths and the filter options have to have entries,
and then there are patterns whose reading breaks off. What is wrong otherwise is reported as a
failure: entries of filter options that are no texts, and malformed patterns. `Setting.IsReadable`
says which settings lead to sections and filters or to such a failure.
-/

namespace ComponentInliner

namespace Setting

def IsMapping (setting : Setting) : Prop :=
  ∃ entries, setting = .mapping entries

/-- What stands under a name in a mapping. Nothing stands in other settings. -/
def member (setting fallback : Setting) (name : Text) : Setting :=
  match setting with
  | .mapping entries => memberOr fallback name entries
  | _ => fallback

/-- A section of a configuration. One that is missing is empty. -/
def part (configuration : Setting) (name : Text) : Setting :=
  configuration.member (.mapping []) name

/-- Texts, collections and octets have entries. -/
def HasEntries : Setting → Prop
  | .text _ | .list _ | .mapping _ => True
  | .other (.pair _ _) _ | .other (.set _) _ | .other (.octets _) _ => True
  | _ => False

theorem isSome_entries?_iff {setting : Setting} : setting.entries?.isSome ↔ setting.HasEntries := by
  cases setting with
  | other data shown => cases data <;> simp [entries?, HasEntries]
  | _ => simp [entries?, HasEntries]

/-- A configuration and its sections are mappings, and there are entries in its search paths. -/
structure HasSections (configuration : Setting) : Prop where
  whole : configuration.IsMapping
  build : (configuration.part "build").IsMapping
  runtime : (configuration.part "runtime").IsMapping
  logging : (configuration.part "logging").IsMapping
  searchPaths : ((configuration.part "runtime").member (.list []) "search_paths").HasEntries

section Sections

variable {configuration : Setting}

theorem sectionOf_eq_ok_iff {name : Text} {entries : List (Setting × Setting)} :
    sectionOf name configuration = .ok entries ↔
      configuration.IsMapping ∧ configuration.part name = .mapping entries := by
  cases configuration with
  | mapping members =>
      change membersOf (memberOr (.mapping []) name members) = .ok entries ↔
        _ ∧ memberOr (.mapping []) name members = .mapping entries
      cases memberOr (.mapping []) name members with
      | mapping found => simp [membersOf, IsMapping]
      | _ => simp [membersOf]
  | _ => simp [sectionOf, membersOf, IsMapping, bind, Except.bind]

theorem exists_entriesOf_iff {setting : Setting} :
    (∃ entries, entriesOf setting = .ok entries) ↔ setting.HasEntries := by
  rw [← isSome_entries?_iff, entriesOf]
  cases setting.entries? <;> simp

/-- A section is read exactly if it is a mapping in a mapping. -/
theorem exists_sectionOf_iff {name : Text} :
    (∃ entries, sectionOf name configuration = .ok entries) ↔
      configuration.IsMapping ∧ (configuration.part name).IsMapping := by
  simp only [sectionOf_eq_ok_iff, exists_and_left, IsMapping]

end Sections

end Setting

section Sections

variable {configuration : Setting} {environment : Environment}

open Setting

theorem BuildSection.exists_ofSetting_iff :
    (∃ build, ofSetting environment configuration = .ok build) ↔
      configuration.IsMapping ∧ (configuration.part "build").IsMapping := by
  rw [← exists_sectionOf_iff]
  unfold ofSetting
  simp [exists_bind_ok_iff, pure, Except.pure]

theorem BuildSection.filters_ofSetting {build : BuildSection}
    (made : ofSetting environment configuration = .ok build) :
    build.componentInclude = (configuration.part "build").member .null "component_include" ∧
      build.componentExclude = (configuration.part "build").member .null "component_exclude" := by
  rcases exists_of_bind_ok made with ⟨entries, found, same⟩
  rw [(sectionOf_eq_ok_iff.mp found).2]
  cases same
  exact ⟨rfl, rfl⟩

theorem LoggingSection.exists_ofSetting_iff :
    (∃ logging, ofSetting environment configuration = .ok logging) ↔
      configuration.IsMapping ∧ (configuration.part "logging").IsMapping := by
  rw [← exists_sectionOf_iff]
  unfold ofSetting
  simp [exists_bind_ok_iff, pure, Except.pure]

theorem RuntimeSection.exists_ofSetting_iff {usualRuntime usualBootstrap : Text} :
    (∃ runtime, ofSetting usualRuntime usualBootstrap configuration = .ok runtime) ↔
      configuration.IsMapping ∧ (configuration.part "runtime").IsMapping ∧
        ((configuration.part "runtime").member (.list []) "search_paths").HasEntries := by
  unfold ofSetting
  simp only [exists_bind_ok_iff, sectionOf_eq_ok_iff, ← exists_entriesOf_iff, pure, Except.pure,
    Except.ok.injEq, exists_eq', and_true]
  constructor
  · rintro ⟨entries, ⟨whole, isPart⟩, paths⟩
    rw [isPart]
    exact ⟨whole, ⟨entries, rfl⟩, paths⟩
  · rintro ⟨whole, ⟨entries, isPart⟩, paths⟩
    rw [isPart] at paths
    exact ⟨entries, ⟨whole, isPart⟩, paths⟩

namespace Configuration

variable {tree : FileTree} {given root : Text} {record : LogRecord}

theorem load_eq_ok_iff {loaded : Configuration} {records : List LogRecord}
    (read : loadSetting tree (chosenFile? tree (rootOf tree root) given) =
      .ok (configuration, record)) :
    load tree environment given root = .ok (loaded, records) ↔
      ∃ build runtime logging, BuildSection.ofSetting environment configuration = .ok build ∧
        RuntimeSection.ofSetting BuildOptions.usualRuntime BuildOptions.usualBootstrap
          configuration = .ok runtime ∧
        LoggingSection.ofSetting environment configuration = .ok logging ∧
        ⟨chosenFile? tree (rootOf tree root) given, rootOf tree root, build, runtime, logging⟩ =
          loaded ∧ [record] = records := by
  unfold load
  simp only [read, bind, Except.bind]
  cases BuildSection.ofSetting environment configuration with
  | error fault => simp [throw, throwThe, MonadExceptOf.throw]
  | ok build =>
      cases RuntimeSection.ofSetting BuildOptions.usualRuntime BuildOptions.usualBootstrap
          configuration with
      | error fault => simp [throw, throwThe, MonadExceptOf.throw]
      | ok runtime =>
          cases LoggingSection.ofSetting environment configuration with
          | error fault => simp [throw, throwThe, MonadExceptOf.throw]
          | ok logging => simp [pure, Except.pure]

/-- A configuration is created from the setting of its file exactly if there are all sections. -/
theorem exists_load_iff
    (read : loadSetting tree (chosenFile? tree (rootOf tree root) given) =
      .ok (configuration, record)) :
    (∃ loaded records, load tree environment given root = .ok (loaded, records)) ↔
      configuration.HasSections := by
  simp only [load_eq_ok_iff read]
  constructor
  · rintro ⟨_, _, build, runtime, logging, isBuild, isRuntime, isLogging, -, -⟩
    have onBuild := BuildSection.exists_ofSetting_iff.mp ⟨build, isBuild⟩
    have onRuntime := RuntimeSection.exists_ofSetting_iff.mp ⟨runtime, isRuntime⟩
    have onLogging := LoggingSection.exists_ofSetting_iff.mp ⟨logging, isLogging⟩
    exact ⟨onBuild.1, onBuild.2, onRuntime.2.1, onLogging.2, onRuntime.2.2⟩
  · intro sections
    rcases BuildSection.exists_ofSetting_iff.mpr ⟨sections.whole, sections.build⟩ with
      ⟨build, isBuild⟩
    rcases RuntimeSection.exists_ofSetting_iff.mpr
      ⟨sections.whole, sections.runtime, sections.searchPaths⟩ with ⟨runtime, isRuntime⟩
    rcases LoggingSection.exists_ofSetting_iff.mpr ⟨sections.whole, sections.logging⟩ with
      ⟨logging, isLogging⟩
    exact ⟨_, _, build, runtime, logging, isBuild, isRuntime, isLogging, rfl, rfl⟩

theorem filters_load {loaded : Configuration} {records : List LogRecord}
    (read : loadSetting tree (chosenFile? tree (rootOf tree root) given) =
      .ok (configuration, record))
    (isLoaded : load tree environment given root = .ok (loaded, records)) :
    loaded.build.componentInclude = (configuration.part "build").member .null "component_include" ∧
      loaded.build.componentExclude =
        (configuration.part "build").member .null "component_exclude" := by
  rcases (load_eq_ok_iff read).mp isLoaded with ⟨build, _, _, isBuild, -, -, rfl, -⟩
  exact BuildSection.filters_ofSetting isBuild

end Configuration

end Sections

/-- A fault is reported as a failure of the configuration. -/
def FilterFault.IsReported : FilterFault → Prop
  | .failure reported => reported.kind = .configuration
  | .notEntries | .pattern _ => False

namespace Setting

/-- The entries of a filter option; without a choice there are none. -/
def filterEntries? : Setting → Option (List Setting)
  | .null => some []
  | .text content => some [.text content]
  | option => option.entries?

/-- An entry of a filter option is a pattern whose reading breaks off. -/
def BreaksOff (entry : Setting) : Prop :=
  ∃ text spelling fault, entry = .text text ∧ Filter.spelling? text = some spelling ∧
    Pattern.parse spelling = .error fault ∧ fault.isReported = false

/-- A filter option has entries, and if an entry breaks off, then one before it is reported. -/
def GivesFilters (option : Setting) : Prop :=
  ∃ entries, option.filterEntries? = some entries ∧
    ∀ before entry after, entries = before ++ entry :: after →
      (∀ other ∈ before, ∃ filter, Filter.ofSetting other = .ok filter) → ¬entry.BreaksOff

end Setting

section Filters

variable {entry option : Setting} {fault : FilterFault}

theorem Filter.ofSetting_of_breaksOff (breaksOff : entry.BreaksOff) :
    ∃ fault, ofSetting entry = .error (.pattern fault) := by
  rcases breaksOff with ⟨text, spelling, fault, rfl, spelled, malformed, notReported⟩
  refine ⟨fault, ?_⟩
  change ofText text = .error (.pattern fault)
  unfold ofText
  simp only [spelled, malformed, notReported]
  rfl

/-- An entry that is no filter is reported unless it breaks off. -/
theorem Filter.ofSetting_isReported_iff (failed : ofSetting entry = .error fault) :
    fault.IsReported ↔ ¬entry.BreaksOff := by
  cases entry with
  | text content =>
      change ofText content = .error fault at failed
      unfold ofText at failed
      split at failed
      · cases failed
      · next spelling isSpelled =>
          split at failed
          · cases failed
          · next patternFault malformed =>
              split at failed
              · next isReported =>
                  cases failed
                  refine iff_of_true rfl ?_
                  rintro ⟨_, _, _, same, spelled, parsed, notReported⟩
                  cases same
                  cases isSpelled.symm.trans spelled
                  cases malformed.symm.trans parsed
                  cases isReported.symm.trans notReported
              · next notReported =>
                  cases failed
                  refine iff_of_false id (not_not_intro ?_)
                  exact ⟨content, spelling, patternFault, rfl, isSpelled, malformed,
                    Bool.eq_false_iff.mpr notReported⟩
  | _ =>
      cases failed
      exact iff_of_true rfl nofun

/-- What is reported of an entry is a failure of the configuration. -/
theorem Filter.isReported_ofSetting {failure : Failure}
    (failed : ofSetting entry = .error (.failure failure)) :
    (FilterFault.failure failure).IsReported := by
  refine (ofSetting_isReported_iff failed).mpr fun breaksOff => ?_
  rcases ofSetting_of_breaksOff breaksOff with ⟨patternFault, brokenOff⟩
  cases failed.symm.trans brokenOff

theorem Filter.listOfEntries_eq_error_iff {entries? : Option (List Setting)} :
    listOfEntries entries? = .error fault ↔ (entries? = none ∧ fault = .notEntries) ∨
      ∃ entries, entries? = some entries ∧ entries.mapM ofSetting = .error fault := by
  cases entries? with
  | none => simp [listOfEntries, eq_comm]
  | some entries =>
      cases outcome : entries.mapM ofSetting <;>
        simp [listOfEntries, outcome, Functor.map, Except.map]

/-- All settings but a missing one and a text stand for their entries. -/
theorem Filter.listOfSetting_eq (given : option ≠ .null)
    (noText : ∀ content, option ≠ .text content) :
    listOfSetting option = listOfEntries option.entries? ∧
      option.filterEntries? = option.entries? := by
  cases option with
  | null => exact absurd rfl given
  | text content => exact absurd rfl (noText content)
  | _ => exact ⟨rfl, rfl⟩

theorem Filter.listOfSetting_eq_error_iff : listOfSetting option = .error fault ↔
    (option.filterEntries? = none ∧ fault = .notEntries) ∨
      ∃ entries, option.filterEntries? = some entries ∧
        entries.mapM ofSetting = .error fault := by
  by_cases isNull : option = .null
  · simp [isNull, listOfSetting, Setting.filterEntries?, pure, Except.pure]
  by_cases isText : ∃ content, option = .text content
  · rcases isText with ⟨content, rfl⟩
    change (do return some [← ofText content]) = .error fault ↔ _
    cases read : ofText content <;>
      simp [Setting.filterEntries?, ofSetting, read, bind, Except.bind, pure, Except.pure]
  · rcases listOfSetting_eq isNull fun content same => isText ⟨content, same⟩ with ⟨same, areAll⟩
    rw [same, areAll]
    exact listOfEntries_eq_error_iff

theorem Filter.isReported_listOfSetting {failure : Failure}
    (failed : listOfSetting option = .error (.failure failure)) :
    (FilterFault.failure failure).IsReported := by
  rcases listOfSetting_eq_error_iff.mp failed with ⟨-, impossible⟩ | ⟨entries, -, failedEntries⟩
  · cases impossible
  · rcases exists_of_mapM_error failedEntries with ⟨entry, -, failedEntry⟩
    exact isReported_ofSetting failedEntry

/-- A filter option leads to filters or to a report exactly if it gives filters. -/
theorem Filter.listOfSetting_isReported_iff :
    (∀ fault, listOfSetting option = .error fault → fault.IsReported) ↔ option.GivesFilters := by
  simp only [listOfSetting_eq_error_iff, Setting.GivesFilters]
  cases option.filterEntries? with
  | none => simp [FilterFault.IsReported]
  | some entries =>
      simp only [reduceCtorEq, false_and, false_or, Option.some_inj, exists_eq_left',
        mapM_eq_error_iff]
      constructor
      · intro reported before entry after split succeed breaksOff
        rcases ofSetting_of_breaksOff breaksOff with ⟨patternFault, failed⟩
        exact reported _ ⟨before, entry, after, split, succeed, failed⟩
      · rintro noBreak fault ⟨before, entry, after, split, succeed, failed⟩
        exact (ofSetting_isReported_iff failed).mpr (noBreak before entry after split succeed)

end Filters

theorem Configuration.options_eq_error_iff {configuration : Configuration} {fault : FilterFault} :
    configuration.options = .error fault ↔
      Filter.listOfSetting configuration.build.componentInclude = .error fault ∨
        (∃ filters, Filter.listOfSetting configuration.build.componentInclude = .ok filters) ∧
          Filter.listOfSetting configuration.build.componentExclude = .error fault := by
  unfold options
  cases Filter.listOfSetting configuration.build.componentInclude with
  | error other => simp [bind, Except.bind]
  | ok included =>
      cases Filter.listOfSetting configuration.build.componentExclude with
      | error other => simp [bind, Except.bind]
      | ok excluded => simp [bind, Except.bind, pure, Except.pure]

theorem Configuration.isReported_options {configuration : Configuration} {failure : Failure}
    (failed : configuration.options = .error (.failure failure)) :
    (FilterFault.failure failure).IsReported := by
  rcases options_eq_error_iff.mp failed with onInclude | ⟨-, onExclude⟩
  · exact Filter.isReported_listOfSetting onInclude
  · exact Filter.isReported_listOfSetting onExclude

theorem Configuration.options_isReported_iff {configuration : Configuration} :
    (∀ fault, configuration.options = .error fault → fault.IsReported) ↔
      configuration.build.componentInclude.GivesFilters ∧
        ((∃ filters, Filter.listOfSetting configuration.build.componentInclude = .ok filters) →
          configuration.build.componentExclude.GivesFilters) := by
  simp only [options_eq_error_iff, ← Filter.listOfSetting_isReported_iff]
  constructor
  · intro reported
    exact ⟨fun fault failed => reported fault (.inl failed),
      fun included fault failed => reported fault (.inr ⟨included, failed⟩)⟩
  · rintro ⟨onInclude, onExclude⟩ fault (failed | ⟨included, failed⟩)
    · exact onInclude fault failed
    · exact onExclude included fault failed

/-- A configuration has its sections, and its filter options give filters. The one for modules that
are left out does not matter if the one before it is reported already. -/
structure Setting.IsReadable (configuration : Setting) : Prop where
  sections : configuration.HasSections
  includes : ((configuration.part "build").member .null "component_include").GivesFilters
  excludes : (∃ filters, Filter.listOfSetting
      ((configuration.part "build").member .null "component_include") = .ok filters) →
    ((configuration.part "build").member .null "component_exclude").GivesFilters

/-- A configuration can be read exactly if it is created and whatever is wrong with its options is
reported. -/
theorem Setting.isReadable_iff {setting : Setting} {tree : FileTree} {environment : Environment}
    {given root : Text} {record : LogRecord}
    (read : Configuration.loadSetting tree
      (Configuration.chosenFile? tree (Configuration.rootOf tree root) given) =
        .ok (setting, record)) :
    setting.IsReadable ↔ ∃ loaded records,
      Configuration.load tree environment given root = .ok (loaded, records) ∧
        ∀ fault, loaded.options = .error fault → fault.IsReported := by
  constructor
  · intro readable
    rcases (Configuration.exists_load_iff read).mpr readable.sections with
      ⟨loaded, records, isLoaded⟩
    rcases Configuration.filters_load read isLoaded with ⟨isInclude, isExclude⟩
    refine ⟨loaded, records, isLoaded, Configuration.options_isReported_iff.mpr ?_⟩
    rw [isInclude, isExclude]
    exact ⟨readable.includes, readable.excludes⟩
  · rintro ⟨loaded, records, isLoaded, reported⟩
    rcases Configuration.filters_load read isLoaded with ⟨isInclude, isExclude⟩
    rw [Configuration.options_isReported_iff, isInclude, isExclude] at reported
    exact ⟨(Configuration.exists_load_iff read).mp ⟨loaded, records, isLoaded⟩, reported.1,
      reported.2⟩

end ComponentInliner
