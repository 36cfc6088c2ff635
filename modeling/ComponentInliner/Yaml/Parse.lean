import ComponentInliner.Config.Setting
import ComponentInliner.Yaml.Binary
import ComponentInliner.Yaml.Kind
import ComponentInliner.Yaml.Node

/-!
# Reading settings from YAML

The setting that a document spells. Scalars mean what their tag says, or what they look like if
they have none. A mapping may merge others under the key `<<`: their members come first, and its
own members override them. A key that is repeated keeps its place and takes the later value.
-/

namespace ComponentInliner.Yaml

/-- Why a text spells no setting. -/
inductive Fault where
  | malformed
  | emptyNumber
  | unknownFlag
  | unknownMoment
  deriving DecidableEq, Repr

/-- A value that is there, or the fault that the text is malformed. -/
def orMalformed {α : Type} : Option α → Except Fault α
  | some found => .ok found
  | none => .error .malformed

def ScalarKind.setting (kind : ScalarKind) (content : Text) : Except Fault Setting :=
  match kind with
  | .nothing => .ok .null
  | .text => .ok (.text content)
  | .flag =>
      match flagOf? content with
      | some isOn => .ok (.boolean isOn)
      | none => .error .unknownFlag
  | .integer =>
      if (splitSign (withoutUnderscores content)).2.isEmpty then .error .emptyNumber
      else (orMalformed (integer? content)).map .integer
  | .number =>
      if (withoutUnderscores content).isEmpty then .error .emptyNumber
      else (orMalformed (number? content)).map .number
  | .moment =>
      match Moment.ofText? content with
      | none => .error .unknownMoment
      | some point =>
          if point.isReal then
            .ok (.other (if point.time?.isSome then .dateAndTime else .date) point.text)
          else
            .error .malformed
  | .merge | .standIn => .error .malformed

/-- The tags of scalars, without what they begin with. -/
def scalarTags : List (Text × ScalarKind) :=
  [("null", .nothing), ("bool", .flag), ("int", .integer), ("float", .number),
    ("timestamp", .moment), ("str", .text), ("merge", .merge), ("value", .standIn)]

/-- A tag without what every tag of the format begins with. -/
def shortTag? (tag : Text) : Option Text :=
  Text.dropPrefix? NodeReader.formatTags tag

/-- The tag that leaves the choice to the look of a node. -/
def openTag : Text := "!"

/-- The kind of a scalar, unless its tag is unknown. -/
def scalarKind? (tag? : Option Text) (content : Text) (isPlain : Bool) : Option ScalarKind :=
  match tag? with
  | none => some (if isPlain then .ofPlain content else .text)
  | some tag =>
      if tag = openTag then some (.ofPlain content)
      else (shortTag? tag).bind fun short => scalarTags.lookup short

def scalarSetting (tag? : Option Text) (content : Text) (isPlain : Bool) : Except Fault Setting :=
  match scalarKind? tag? content isPlain with
  | some kind => kind.setting content
  | none =>
      if tag?.bind shortTag? = some "binary" then do
        let octets ← orMalformed (octets? content)
        return .other (.octets octets) (shownOctets octets)
      else
        .error .malformed

/-- Whether a collection has a tag, or none where it needs none. -/
def hasTag (expected : Text) (tag? : Option Text) : Bool :=
  tag?.all fun tag => tag = openTag || shortTag? tag = some expected

def sequenceSetting (tag? : Option Text) (entries : List Setting) : Except Fault Setting :=
  if hasTag "seq" tag? then .ok (.list entries) else .error .malformed

/-- Whether a sequence is one of pairs. -/
def hasPairs (tag? : Option Text) : Bool :=
  let short? := tag?.bind shortTag?
  short? = some "pairs" || short? = some "omap"

def pairOf (first second : Setting) : Setting :=
  .other (.pair first second) ("(" ++ first.shown ++ ", " ++ second.shown ++ ")")

/-- Whether two settings are the same key; numbers of different kinds may be. -/
def isSameKey : Setting → Setting → Bool
  | .null, .null => true
  | .text left, .text right => left = right
  | .other leftData left, .other rightData right => leftData.kind = rightData.kind && left = right
  | left, right =>
      match left, right with
      | .number leftDouble, .number rightDouble =>
          leftDouble == rightDouble || (leftDouble.isNaN && rightDouble.isNaN)
      | _, _ =>
          match whole? left, whole? right with
          | some leftWhole, some rightWhole => leftWhole = rightWhole
          | _, _ => false
where
  whole? : Setting → Option Int
    | .boolean flag => some (if flag then 1 else 0)
    | .integer whole => some whole
    | .number double => if Number.isInteger double then Number.truncate? double else none
    | _ => none

/-- Sets a key of a mapping: in place if it is present, else at the end. -/
def setMember (members : List (Setting × Setting)) (key value : Setting) :
    List (Setting × Setting) :=
  match members with
  | [] => [(key, value)]
  | (present, old) :: rest =>
      if isSameKey present key then (present, value) :: rest
      else (present, old) :: setMember rest key value

/-- The set of some members. -/
def setOf (members : List Setting) : Setting :=
  let shown : Text :=
    if members.isEmpty then "set()"
    else "\x7b" ++ Text.joinWith ", " (members.map Setting.shown) ++ "\x7d"
  .other (.set members) shown

def mappingSetting (tag? : Option Text) (members : List (Setting × Setting)) :
    Except Fault Setting :=
  let distinct := members.foldl (fun found (key, value) => setMember found key value) []
  if hasTag "map" tag? then .ok (.mapping distinct)
  else if hasTag "set" tag? then .ok (setOf (distinct.map Prod.fst))
  else .error .malformed

/-- The key that a setting is; collections are no keys. -/
def keyOf (setting : Setting) : Except Fault Setting :=
  match setting with
  | .list _ | .mapping _ | .other (.set _) _ => .error .malformed
  | key => .ok key

/-- Members of a mapping: those it merges and its own. -/
structure Members where
  merged : List (Setting × Setting)
  own : List (Setting × Setting)

namespace Node

def kind? : Node → Option ScalarKind
  | .scalar tag? content isPlain => scalarKind? tag? content isPlain
  | _ => none

mutual

def setting : Node → Except Fault Setting
  | .scalar tag? content isPlain => scalarSetting tag? content isPlain
  | .sequence tag? entries => do
      if hasPairs tag? then return .list (← pairs entries)
      else sequenceSetting tag? (← settings entries)
  | .mapping tag? entries => do
      let members ← members entries
      mappingSetting tag? (members.merged ++ members.own)

def settings : List Node → Except Fault (List Setting)
  | [] => .ok []
  | node :: nodes => do return (← setting node) :: (← settings nodes)

/-- The pairs that mappings of one entry spell. -/
def pairs : List Node → Except Fault (List Setting)
  | [] => .ok []
  | .mapping _ [(first, second)] :: nodes => do
      let pair := pairOf (← setting first) (← setting second)
      return pair :: (← pairs nodes)
  | _ :: _ => .error .malformed

/-- The members that the entries of a mapping spell. -/
def members : List (Node × Node) → Except Fault Members
  | [] => .ok ⟨[], []⟩
  | (key, value) :: entries => do
      if kind? key = some .merge then
        let merged ← mergedMembers value
        let others ← members entries
        return ⟨merged ++ others.merged, others.own⟩
      else
        let name ← if kind? key = some .standIn then pure (.text "=") else setting key
        let member := (← keyOf name, ← setting value)
        let others ← members entries
        return ⟨others.merged, member :: others.own⟩

/-- The members of what is merged: a mapping, or a sequence of them with the last one first. -/
def mergedMembers : Node → Except Fault (List (Setting × Setting))
  | .mapping _ entries => do
      let members ← members entries
      return members.merged ++ members.own
  | .sequence _ nodes => mergedInTurn nodes
  | .scalar _ _ _ => .error .malformed

/-- The members of mappings in a sequence, with the last one first. -/
def mergedInTurn : List Node → Except Fault (List (Setting × Setting))
  | [] => .ok []
  | .mapping _ entries :: nodes => do
      let members ← members entries
      return (← mergedInTurn nodes) ++ members.merged ++ members.own
  | _ :: _ => .error .malformed

end

end Node

/-- The setting that a YAML text spells; a text without a document spells nothing. -/
def parse (text : Text) : Except Fault Setting := do
  match ← orMalformed ((tokens? text).bind Node.ofTokens?) with
  | some node => node.setting
  | none => return .null

end ComponentInliner.Yaml
