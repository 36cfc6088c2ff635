import ComponentInliner.Config.Setting
import ComponentInliner.Failure
import ComponentInliner.Pattern.Parse

/-!
# Module filters

Filters decide which modules are looked at. A filter is a text, a pattern or a condition on the
end of an id: a text that begins with a point is an ending, any other text may stand anywhere. A
module is accepted if one of the filters that include modules matches, or there is none of them,
and none of those that exclude modules does. Ids that begin with a null character belong to the
build host and are never accepted.
-/

namespace ComponentInliner

/-- A filter on module ids. -/
inductive Filter where
  | text (text : Text)
  | pattern (spelling : Text) (pattern : Pattern)
  | ending (ending : Text)

def Filter.holds (moduleId : Text) : Filter → Bool
  | .text part =>
      if part.head? = some '.' then moduleId.endsWith part else moduleId.contains part
  | .pattern _ meaning => meaning.occursIn moduleId
  | .ending part => moduleId.endsWith part

/-- An entry of a filter option: a filter, or data that is none. -/
inductive FilterEntry where
  | filter (filter : Filter)
  | data (setting : Setting)

/-- A filter option; without a choice the filters that the program comes with are taken. -/
abbrev FilterChoice := Option (List FilterEntry)

/-- The filters of an option, where `fallback` is taken without a choice. -/
def Filter.ofChoice (fallback : List Filter) : FilterChoice → Except Failure (List Filter)
  | none => .ok fallback
  | some entries => entries.mapM fun entry => match entry with
      | .filter filter => .ok filter
      | .data setting =>
          .error (.configuration ("Unsupported component filter " ++ setting.shown))

/-- The filters that include and those that exclude modules. -/
structure ModuleFilter where
  included : List Filter
  excluded : List Filter

namespace ModuleFilter

/-- Scripts and modules are included: `.js`, `.mjs` and `.cjs`, at the end or before a line feed. -/
def scripts : Pattern :=
  let one (point : CodePoint) : Pattern := .oneOf .plain false [.range point point]
  let prefixLetter : Pattern := .oneOf .plain false [.range 'c' 'c', .range 'm' 'm']
  let name := .sequence (.repetition .greedy 0 (some 1) prefixLetter) (.sequence (one 'j') (one 's'))
  .sequence (one '.') (.sequence (.capture 1 name) (.boundary .plain .textEnd))

example : (Pattern.parse "\\.([cm]?js)$").toOption = some scripts := by decide

/-- The filters that include modules without a choice. -/
def defaultInclude : List Filter := [.pattern "\\.([cm]?js)$" scripts]

/-- The filters that exclude modules without a choice: what packages install. -/
def defaultExclude : List Filter := [.text "/node_modules/"]

def ofChoices (includeChoice excludeChoice : FilterChoice) : Except Failure ModuleFilter := do
  return ⟨← Filter.ofChoice defaultInclude includeChoice,
    ← Filter.ofChoice defaultExclude excludeChoice⟩

/-- Whether a module id in normal form is accepted. -/
def accepts (filter : ModuleFilter) (moduleId : Text) : Bool :=
  match moduleId with
  | [] => false
  | first :: _ =>
      first.val != 0 &&
        (filter.included.isEmpty || filter.included.any (Filter.holds moduleId)) &&
        !filter.excluded.any (Filter.holds moduleId)

end ModuleFilter

/-- Why a filter setting gives no filters. -/
inductive FilterFault where
  | failure (failure : Failure)
  | notEntries
  /-- A pattern that breaks off its reading. -/
  | pattern (fault : PatternFault)
  deriving DecidableEq

/-- The pattern that a configured text holds between slashes, if it does. -/
def Filter.spelling? (text : Text) : Option Text :=
  if text.length > 2 && text.head? = some '/' && text.getLast? = some '/' then
    some (text.drop 1).dropLast
  else
    none

/-- The filter that a configured text means: a pattern between slashes, or the text itself. -/
def Filter.ofText (text : Text) : Except FilterFault Filter :=
  match spelling? text with
  | none => .ok (.text text)
  | some spelling =>
      match Pattern.parse spelling with
      | .ok meaning => .ok (.pattern spelling meaning)
      | .error fault =>
          if fault.isReported then
            .error (.failure (.configuration ("Invalid component filter pattern " ++ text ++ ": " ++
              fault.message spelling)))
          else
            .error (.pattern fault)

def Filter.ofSetting : Setting → Except FilterFault Filter
  | .text content => ofText content
  | setting =>
      .error (.failure (.configuration
        (Text.ofString ("Component filter must be a string, got " ++ setting.kind))))

def Filter.listOfEntries : Option (List Setting) → Except FilterFault (Option (List Filter))
  | some entries => some <$> entries.mapM ofSetting
  | none => .error .notEntries

/-- The filters of a filter setting: those of its entries, or the one that a text means. -/
def Filter.listOfSetting : Setting → Except FilterFault (Option (List Filter))
  | .null => .ok none
  | .text content => return some [← ofText content]
  | setting => listOfEntries setting.entries?

end ComponentInliner
