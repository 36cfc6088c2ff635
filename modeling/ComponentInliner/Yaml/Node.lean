import ComponentInliner.Yaml.Token

/-!
# Nodes

A YAML document is a node: a scalar, a sequence or a mapping, each with a tag if one is written.
Aliases are replaced by the nodes they stand for. `Node.ofTokens?` reads the one document of a
text; a text without tokens has none.
-/

namespace ComponentInliner.Yaml

/-- A node of a document. -/
inductive Node where
  | scalar (tag? : Option Text) (text : Text) (isPlain : Bool)
  | sequence (tag? : Option Text) (entries : List Node)
  | mapping (tag? : Option Text) (entries : List (Node × Node))

instance : Inhabited Node := ⟨.scalar none [] true⟩

/-- The node of a place where nothing is written. -/
def Node.nothing : Node := .scalar none [] true

/-- What is left to read of a document. -/
structure NodeState where
  tokens : List Token
  anchors : List (Text × Node)
  handles : List (Text × Text)

/-- Reading nodes may fail. -/
abbrev NodeReader := StateT NodeState Option

namespace NodeReader

/-- What every tag of the format begins with. -/
def formatTags : Text := "tag:yaml.org,2002:"

/-- The handles that need no directive. -/
def usualHandles : List (Text × Text) := [("!", "!"), ("!!", formatTags)]

def peek : NodeReader (Option Token) := do
  return (← get).tokens.head?

def drop : NodeReader Unit :=
  modify fun state => { state with tokens := state.tokens.tail }

/-- Whether the next token is one of those given; the end of the text is not. -/
def isNext (tokens : List Token) : NodeReader Bool := do
  return (← peek).any fun token => tokens.contains token

def accept (token : Token) : NodeReader Bool := do
  if ← isNext [token] then
    drop
    return true
  return false

/-- Drops the next token, which has to be the one given. -/
def expect (token : Token) : NodeReader Unit := do
  if !(← accept token) then
    failure

/-- What stands in front of a node. -/
structure Properties where
  anchor? : Option Text
  tag? : Option Text

def tagOf (handle? : Option Text) (suffix : Text) : NodeReader Text := do
  match handle? with
  | none => return suffix
  | some handle =>
      match (← get).handles.lookup handle with
      | some start => return start ++ suffix
      | none => failure

/-- Reads the anchor and the tag of a node, in any order and each at most once. -/
def properties : (count : Nat) → Properties → NodeReader Properties
  | 0, found => return found
  | count + 1, found => do
      match ← peek with
      | some (.anchor name) =>
          if found.anchor?.isSome then
            return found
          drop
          properties count { found with anchor? := some name }
      | some (.tag handle? suffix) =>
          if found.tag?.isSome then
            return found
          drop
          let tag ← tagOf handle? suffix
          properties count { found with tag? := some tag }
      | _ => return found

/-- Keeps a node under its anchor; an anchor may be given once. -/
def keep (anchor? : Option Text) (node : Node) : NodeReader Node := do
  match anchor? with
  | none => return node
  | some name =>
      let state ← get
      if (state.anchors.lookup name).isSome then
        failure
      set { state with anchors := (name, node) :: state.anchors }
      return node

/-- Which kinds of nodes may stand at a place. -/
inductive Setting where
  | flow
  | block
  /-- Inside of a block mapping, where a sequence need not be indented. -/
  | blockMapping
  deriving DecidableEq

mutual

def node (setting : Setting) : (bound : Nat) → NodeReader Node
  | 0 => failure
  | bound + 1 => do
      match ← peek with
      | some (.alias name) =>
          drop
          match (← get).anchors.lookup name with
          | some node => return node
          | none => failure
      | _ =>
          let found ← properties 2 ⟨none, none⟩
          keep found.anchor? (← content setting found bound)

def content (setting : Setting) (found : Properties) : (bound : Nat) → NodeReader Node
  | 0 => failure
  | bound + 1 => do
      match ← peek with
      | some (.scalar text isPlain) =>
          drop
          return .scalar found.tag? text isPlain
      | some .blockEntry =>
          if setting = .blockMapping then
            return .sequence found.tag? (← looseEntries [] bound)
          else empty
      | some .flowSequence =>
          drop
          return .sequence found.tag? (← flowEntries [] bound)
      | some .flowMapping =>
          drop
          return .mapping found.tag? (← flowMembers [] bound)
      | some .blockSequence =>
          if setting = .flow then
            empty
          else
            drop
            return .sequence found.tag? (← blockEntries [] bound)
      | some .blockMapping =>
          if setting = .flow then
            empty
          else
            drop
            return .mapping found.tag? (← blockMembers [] bound)
      | _ => empty
where
  empty : NodeReader Node :=
    if found.anchor?.isSome || found.tag?.isSome then return .scalar found.tag? [] true
    else failure

/-- Reads a node, or nothing if one of the given tokens comes next. -/
def nodeUnless (stops : List Token) (setting : Setting) : (bound : Nat) → NodeReader Node
  | 0 => failure
  | bound + 1 => do
      if ← isNext stops then return .nothing else node setting bound

def blockEntries (entries : List Node) : (bound : Nat) → NodeReader (List Node)
  | 0 => failure
  | bound + 1 => do
      if ← accept .blockEntry then
        let entry ← nodeUnless [.blockEntry, .blockEnd] .block bound
        blockEntries (entries ++ [entry]) bound
      else
        expect .blockEnd
        return entries

/-- Reads the entries of a block sequence that is not indented. -/
def looseEntries (entries : List Node) : (bound : Nat) → NodeReader (List Node)
  | 0 => failure
  | bound + 1 => do
      if ← accept .blockEntry then
        let entry ← nodeUnless [.blockEntry, .key, .value, .blockEnd] .block bound
        looseEntries (entries ++ [entry]) bound
      else
        return entries

def blockMembers (members : List (Node × Node)) : (bound : Nat) → NodeReader (List (Node × Node))
  | 0 => failure
  | bound + 1 => do
      if ← accept .key then
        let stops : List Token := [.key, .value, .blockEnd]
        let key ← nodeUnless stops .blockMapping bound
        let member ← if ← accept .value then nodeUnless stops .blockMapping bound else pure .nothing
        blockMembers (members ++ [(key, member)]) bound
      else
        expect .blockEnd
        return members

/-- Reads a member of a flow collection after the mark of its key. -/
def flowMember (close : Token) : (bound : Nat) → NodeReader (Node × Node)
  | 0 => failure
  | bound + 1 => do
      let key ← nodeUnless [.value, .flowEntry, close] .flow bound
      if ← accept .value then
        return (key, ← nodeUnless [.flowEntry, close] .flow bound)
      else
        return (key, .nothing)

def flowEntries (entries : List Node) : (bound : Nat) → NodeReader (List Node)
  | 0 => failure
  | bound + 1 => do
      if ← accept .flowSequenceEnd then
        return entries
      if !entries.isEmpty then
        expect .flowEntry
      if ← accept .flowSequenceEnd then
        return entries
      let entry ← if ← accept .key then
          (fun member => Node.mapping none [member]) <$> flowMember .flowSequenceEnd bound
        else node .flow bound
      flowEntries (entries ++ [entry]) bound

def flowMembers (members : List (Node × Node)) : (bound : Nat) → NodeReader (List (Node × Node))
  | 0 => failure
  | bound + 1 => do
      if ← accept .flowMappingEnd then
        return members
      if !members.isEmpty then
        expect .flowEntry
      if ← accept .flowMappingEnd then
        return members
      let member ← if ← accept .key then flowMember .flowMappingEnd bound
        else (fun key => (key, Node.nothing)) <$> node .flow bound
      flowMembers (members ++ [member]) bound

end

/-- Reads directives in front of a document; the version and each handle are given once. -/
def directives (seenVersion : Bool) : (count : Nat) → NodeReader Unit
  | 0 => failure
  | count + 1 => do
      match ← peek with
      | some .versionDirective =>
          if seenVersion then
            failure
          drop
          directives true count
      | some (.tagDirective handle start) =>
          let state ← get
          if (state.handles.lookup handle).isSome then
            failure
          set { state with handles := (handle, start) :: state.handles }
          drop
          directives seenVersion count
      | some .otherDirective =>
          drop
          directives seenVersion count
      | _ => return

/-- Adds the handles that need no directive. -/
def addUsualHandles : NodeReader Unit :=
  modify fun state => { state with handles := state.handles ++ usualHandles }

/-- Whether the next token begins or ends a document. -/
def isBetweenDocuments : NodeReader Bool := do
  match ← peek with
  | none | some .documentStart | some .documentEnd | some .versionDirective | some .otherDirective
  | some (.tagDirective _ _) => return true
  | some _ => return false

def dropEnds : (count : Nat) → NodeReader Unit
  | 0 => return
  | count + 1 => do
      if ← accept .documentEnd then
        dropEnds count

def document (size : Nat) : NodeReader Node := do
  let isExplicit ← match ← peek with
    | some .documentStart | some .versionDirective | some .otherDirective
    | some (.tagDirective _ _) => pure true
    | _ => pure false
  if isExplicit then
    directives false (size + 1)
    expect .documentStart
  addUsualHandles
  let isEmpty ← isBetweenDocuments
  let root ← if isExplicit && isEmpty then pure .nothing else node .block (8 * size + 8)
  dropEnds size
  if (← peek).isSome then
    failure
  return root

end NodeReader

/-- The one document that tokens spell; without tokens there is none. -/
def Node.ofTokens? (tokens : List Token) : Option (Option Node) :=
  if tokens.isEmpty then
    some none
  else
    ((NodeReader.document tokens.length).run ⟨tokens, [], []⟩).map fun (node, _) => some node

end ComponentInliner.Yaml
