import ComponentInliner.Command.Run
import ComponentInliner.Proofs.Build.Registrations
import ComponentInliner.Proofs.Build.Scalars

/-!
# Runs that can write their document

A run makes the output file empty before it encodes the document. It does not break off there if no
component in the files of its tree is spelled with a surrogate: modules, the entry document and the
runtime are all read from files, and a file holds no surrogate.
-/

namespace ComponentInliner

open Text

/-- No file holds a module that spells a surrogate in what its exports need. -/
def FileTree.SpellsScalars (tree : FileTree) : Prop :=
  ∀ parts bytes, tree.entry? parts = some (.file bytes) → ∀ text, Text.decode? bytes = some text →
    Component.SpellsScalars text.unifyLineEndings

theorem Component.spellsScalars_nil : SpellsScalars [] := by
  have exportless : (Module.parse []).toOption.all (fun module => (foldedNodes module).isEmpty) =
      true := by
    decide
  intro module parsed node mem
  rw [parsed] at exportless
  rw [List.isEmpty_iff.mp exportless] at mem
  cases mem

namespace FileTree

variable {tree : FileTree}

theorem SpellsScalars.readText (spells : tree.SpellsScalars) {path : Path} {source : Text}
    (read : tree.readText path = .ok source) : Component.SpellsScalars source := by
  rcases exists_of_bind_ok read with ⟨bytes, isBytes, decoded⟩
  rcases exists_of_bind_ok isBytes with ⟨parts, -, isFile⟩
  split at isFile
  · next content isContent =>
      cases isFile
      split at decoded
      · next text isText =>
          cases decoded
          exact spells parts bytes isContent text isText
      · cases decoded
  · cases isFile
  · cases isFile

/-- An empty file spells nothing. -/
theorem SpellsScalars.insert (spells : tree.SpellsScalars) (place : List Text) :
    SpellsScalars { tree with entries := tree.entries.insert place (.file []) } := by
  intro parts bytes found text decoded
  unfold entry? at found
  split at found
  · cases found
  · next inside =>
      rw [OrderedMap.get?_insert] at found
      split at found
      · cases found
        cases decoded
        exact Component.spellsScalars_nil
      · refine spells parts bytes ?_ text decoded
        unfold entry?
        simp [inside, found]

theorem SpellsScalars.openFile (spells : tree.SpellsScalars) {path : Path} {opened : FileTree}
    (opens : LogSink.openFile tree path = .ok opened) : opened.SpellsScalars := by
  unfold LogSink.openFile at opens
  split at opens
  · cases opens
    exact spells
  · rcases exists_of_bind_ok opens with ⟨parts, -, written⟩
    split at written
    · cases written
    · cases written
      exact spells.insert parts
    · split at written
      · cases written
        exact spells.insert parts
      · cases written
      · cases written
  · cases opens

end FileTree

namespace Run

/-- The faults with which a run may break off: all but that of a document without an encoding. -/
def Tolerable (fault : RunFault) : Prop :=
  fault ≠ .unencodable

/-- There are no surrogates in the records, nor in components that are still to be read. -/
structure Plain (state : RunState) : Prop where
  files : state.tree.SpellsScalars
  build : Compiler.Plain state.build

variable {compiler : Compiler}

theorem ofBuild_leads {Result : Type} {step : BuildM Result} {found : Result → Prop}
    (leads : Leads Compiler.Plain step (fun result state => found result ∧ Compiler.Plain state)
      fun _ => True) :
    Leads Plain (ofBuild step) (fun result state => found result ∧ Plain state) Tolerable := by
  unfold ofBuild
  refine Leads.get.bind fun state => ?_
  rintro _ ⟨rfl, plain⟩
  have onBuild := leads state.build plain.build
  rcases ran : step.run.run state.build with ⟨fault | result, after⟩
  · exact nofun
  · rw [ran] at onBuild
    exact ⟨onBuild.1, plain.files, onBuild.2⟩

theorem say_leads (level : LogLevel) (message : Text) :
    Leads Plain (say level message) (fun _ => Plain) Tolerable :=
  fun _ plain => ⟨plain.files, plain.build⟩

theorem currentTree_leads :
    Leads Plain currentTree (fun tree state => tree.SpellsScalars ∧ Plain state) Tolerable :=
  fun _ plain => ⟨plain.files, plain⟩

theorem visitFile_leads (path : Path) :
    Leads Plain (visitFile compiler path) (fun _ => Plain) Tolerable := by
  unfold visitFile
  dsimp only
  split
  · refine currentTree_leads.bind fun tree => Leads.given fun spells => ?_
    cases read : tree.readText path with
    | ok source =>
        have transforms := compiler.transform_leads (spells.readText read)
          (ModuleId.normalize path.text)
        refine (ofBuild_leads (transforms.weaken fun _ _ plain => ⟨trivial, plain⟩)).bind fun _ => ?_
        exact Leads.pure fun _ holds => holds.2
    | error fault =>
        have warns (message : Text) : Leads Compiler.Plain
            (Compiler.changeSession fun session => session.warn message)
            (fun _ state => True ∧ Compiler.Plain state) fun _ => True :=
          fun _ plain => ⟨trivial, plain⟩
        exact (ofBuild_leads (warns _)).bind fun _ => Leads.given fun _ => say_leads _ _
  · exact Leads.pure fun _ plain => plain

theorem forM_leads {Item : Type} {action : Item → RunM Unit} (items : List Item)
    (keeps : ∀ item, Leads Plain (action item) (fun _ => Plain) Tolerable) :
    Leads Plain (items.forM action) (fun _ => Plain) Tolerable := by
  induction items with
  | nil => exact Leads.pure fun _ plain => plain
  | cons item rest ih => exact (keeps item).bind fun _ => ih

theorem visitPath_leads (path : Path) :
    Leads Plain (visitPath compiler path) (fun _ => Plain) Tolerable := by
  unfold visitPath
  refine currentTree_leads.bind fun tree => Leads.given fun _ => ?_
  split
  · exact forM_leads _ visitFile_leads
  · exact say_leads _ _

/-- A document without surrogates is encoded once its file is there. -/
theorem writeDocument_leads {path : Path} {document? : Option Text}
    (isScalar : ∀ document, document? = some document → document.IsScalar) :
    Leads (fun _ => True) (writeDocument path document?) (fun _ _ => True) Tolerable := by
  have reads : Leads (fun _ => True) currentTree (fun _ _ => True) Tolerable := fun _ _ => trivial
  have makes : Leads (fun _ => True) (makeDirectory path.parent) (fun _ _ => True) Tolerable := by
    refine reads.bind fun tree => ?_
    cases tree.makeDirectory path.parent with
    | ok made => exact fun _ _ => trivial
    | error fault => exact fun _ _ => trivial
  have writes (bytes : Bytes) :
      Leads (fun _ => True) (writeBytes path bytes) (fun _ _ => True) Tolerable := by
    refine reads.bind fun tree => ?_
    cases tree.writeBytes path bytes with
    | ok written => exact fun _ _ => trivial
    | error fault => exact fun _ _ => trivial
  refine makes.bind fun made => ?_
  cases made with
  | error fault => exact Leads.pure fun _ _ => trivial
  | ok =>
      cases document? with
      | none => exact Leads.throw nofun
      | some document =>
          -- The file is emptied first, so only now it matters that there is an encoding.
          refine (writes []).bind fun emptied => ?_
          cases emptied with
          | error fault => exact Leads.pure fun _ _ => trivial
          | ok =>
              rcases Option.isSome_iff_exists.mp
                (isScalar_iff_encode?_isSome.mp (isScalar document rfl)) with ⟨bytes, encodes⟩
              simp only [encodes]
              exact writes bytes

theorem compile_leads {arguments : CommandArguments} {entry : Path} {document : Text}
    (isScalar : document.IsScalar) :
    Leads Plain (compile compiler arguments entry document) (fun _ _ => True) Tolerable := by
  have starts (root : Text) : Leads Plain (start root) (fun _ => Plain) Tolerable :=
    fun _ plain => ⟨plain.files, Compiler.plain_start root⟩
  have isPlain : Compiler.PlainBundle ⟨[(entry.name, ⟨entry.name, document⟩)]⟩ := by
    intro file mem
    rw [List.mem_singleton.mp mem]
    exact isScalar
  unfold compile
  refine currentTree_leads.bind fun _ => Leads.given fun _ => ?_
  refine (starts _).bind fun _ => (forM_leads _ visitPath_leads).bind fun _ => ?_
  refine currentTree_leads.bind fun tree => Leads.given fun _ => ?_
  refine (ofBuild_leads (compiler.finalize_leads tree isPlain)).bind fun bundle => ?_
  refine Leads.given fun edited => ?_
  have written : ∀ source, (bundle.get? entry.name).map Asset.source = some source →
      source.IsScalar := by
    intro source isSource
    rcases Option.map_eq_some_iff.mp isSource with ⟨asset, found, rfl⟩
    exact edited.get? found
  have writes : Leads Plain (writeDocument (outputPath arguments entry.parent entry.name)
      ((bundle.get? entry.name).map Asset.source)) (fun _ _ => True) Tolerable :=
    fun state _ => writeDocument_leads written state trivial
  refine writes.bind fun outcome => ?_
  cases outcome with
  | ok => exact fun _ _ => trivial
  | error fault => exact fun _ _ => trivial

theorem compileEntry_leads (arguments : CommandArguments) (configuration : Configuration)
    (entry : Path) :
    Leads Plain (compileEntry arguments configuration entry) (fun _ _ => True) Tolerable := by
  unfold compileEntry
  split
  · exact (say_leads _ _).bind fun _ => Leads.pure fun _ _ => trivial
  · exact Leads.throw nofun
  · exact Leads.throw nofun
  · refine currentTree_leads.bind fun tree => Leads.given fun _ => ?_
    cases read : tree.readText entry with
    | ok document => exact compile_leads (FileTree.isScalar_readText read)
    | error fault => exact (say_leads _ _).bind fun _ => Leads.pure fun _ _ => trivial

end Run

theorem FileTree.SpellsScalars.ofSettings {tree opened : FileTree} {environment : Environment}
    {level file : Setting} {sink : LogSink} (spells : tree.SpellsScalars)
    (opens : LogSink.ofSettings tree environment level file = .ok (sink, opened)) :
    opened.SpellsScalars := by
  rcases exists_of_bind_ok opens with ⟨word, -, leveled⟩
  rcases exists_of_bind_ok leveled with ⟨rank, -, ranked⟩
  split at ranked
  · split at ranked
    · next content _ =>
        rcases exists_of_bind_ok ranked with ⟨other, openedFile, same⟩
        cases same
        cases outcome : LogSink.openFile tree
            ((Path.ofText content).resolve tree.workingDirectory) with
        | error fault =>
            rw [outcome] at openedFile
            cases openedFile
        | ok made =>
            rw [outcome] at openedFile
            cases openedFile
            exact spells.openFile outcome
    · cases ranked
  · cases ranked
    exact spells

theorem Run.perform_encodes {tree : FileTree} (spells : tree.SpellsScalars)
    (environment : Environment) (arguments : CommandArguments) :
    (Run.perform tree environment arguments).ending ≠ .error .unencodable := by
  unfold Run.perform
  dsimp only
  split
  · exact nofun
  · next configuration _ _ =>
      split
      · exact nofun
      · next sink opened opens =>
          have plain : Run.Plain ⟨opened, ⟨Session.begin [], []⟩⟩ :=
            ⟨spells.ofSettings opens, OrderedMap.All.empty⟩
          have ends := Run.compileEntry_leads arguments configuration
            (Run.entryPath tree arguments) _ plain
          intro broken
          rcases ran : (Run.compileEntry arguments configuration
            (Run.entryPath tree arguments)).run.run ⟨opened, ⟨Session.begin [], []⟩⟩
            with ⟨fault | status, final⟩
          · rw [ran] at ends broken
            exact ends (Except.error.inj broken)
          · rw [ran] at broken
            cases broken

/-- Where no text is spelled with a surrogate in what the exports of components need, none comes into
a record or a document. So every document has an encoding, and no run breaks off for want of one. -/
theorem encodable_of_spellsScalars {document : Text} {modules : List (Text × Text)}
    {state : BuildState} (compiler : Compiler) (tree : FileTree) (isScalar : document.IsScalar)
    (spell : ∀ module ∈ modules, Component.SpellsScalars module.2)
    (plain : state.session.IsScalar) :
    (∀ output last,
      (compiler.buildDocument tree document modules).run.run state = (.ok output, last) →
        output.IsScalar ∧ (Text.encode? output).isSome ∧
          ∀ record ∈ last.session.components.values, record.IsScalar) ∧
      (tree.SpellsScalars → ∀ environment arguments,
        (Run.perform tree environment arguments).ending ≠ .error .unencodable) := by
  constructor
  · intro output last returns
    have holds := compiler.buildDocument_leads tree isScalar spell state plain
    rw [returns] at holds
    refine ⟨holds.1, isScalar_iff_encode?_isSome.mp holds.1, fun record mem => ?_⟩
    rcases List.mem_map.mp mem with ⟨entry, entryMem, rfl⟩
    exact holds.2 entry entryMem
  · exact fun files environment arguments => Run.perform_encodes files environment arguments

section Styles

/-- A module of a component with a given style literal. -/
def styledSource (style : Text) : Text :=
  "export const metadata=\x7bname:'x-a'\x7d,style='" ++ style ++ "',template='',logic=()=>1"

/-- The component of `styledSource` with the style that the literal stands for. -/
def styledRecord (style : Text) : ComponentRecord :=
  ⟨⟨"x-a", none, [], [], []⟩, style, [], "()=>1"⟩

open Compiler

/-- A build of one such component. -/
theorem buildDocument_styled (tree : FileTree) {spelled style : Text}
    (analyzed : Component.analyze (styledSource spelled) =
      .ok ⟨some (styledRecord style), [], true⟩) :
    ∃ last, (withoutRuntime.buildDocument tree "</body>"
        [("a.js", styledSource spelled)]).run.run (start []) =
          (.ok (Html.removeBootstrap "main.js"
            (withoutRuntime.withTriplets "</body>" [styledRecord style])), last) ∧
      last.session.components.values = [styledRecord style] := by
  let modules : List (Text × Text) := [("a.js", styledSource spelled)]
  have reads : ∀ module ∈ modules, withoutRuntime.Reads module := by
    intro module mem _
    rw [List.mem_singleton.mp mem]
    exact ⟨_, analyzed⟩
  have effect : (withoutRuntime.visit ("a.js", styledSource spelled)).change.effect? =
      some ⟨"a.js", some (styledRecord style)⟩ := by
    have accepted : withoutRuntime.filter.accepts "a.js" = true := by decide
    have normal : ModuleId.normalize "a.js" = "a.js" := by decide
    simp only [visit, Operation.change, accepted, if_true, analyzed, normal]
  rcases buildDocument_outcome reads tree [] "</body>" with ⟨more, log, returns⟩
  have entries : ((start []).afterAll (modules.map withoutRuntime.visit)).session.components.entries
      = [(("a.js" : Text), styledRecord style)] := by
    rw [Registration.components_afterAll, List.map_singleton, List.filterMap_cons, effect]
    rfl
  have sorted := DependencyGraph.sorted_singleton
    ((start []).afterAll (modules.map withoutRuntime.visit)).session.graph entries
  rw [sorted] at returns
  refine ⟨_, returns, ?_⟩
  exact congrArg (List.map Prod.snd) entries

/-- A tree with a document and a component. -/
def styledTree (spelled : Text) : FileTree :=
  ⟨⟨[(["a.js"], .file ((styledSource spelled).flatMap encodePoint)),
    (["index.html"], .file (("</body>" : Text).flatMap encodePoint))]⟩, []⟩

theorem spellsScalars_pair : Component.SpellsScalars (styledSource "\\ud83d\\ude00") := by
  have literals : (Module.parse (styledSource "\\ud83d\\ude00")).toOption.bind
      (fun module => Component.literalExports? (Component.foldedNodes module)) =
        some [("x-a" : Text), [0x1F600], []] := by
    decide +kernel
  exact Component.spellsScalars_of_literals literals (by decide)

theorem spellsScalars_tree : (styledTree "\\ud83d\\ude00").SpellsScalars := by
  have ofComponent : decode? ((styledSource "\\ud83d\\ude00").flatMap encodePoint) =
      some (styledSource "\\ud83d\\ude00") := by
    decide
  have ofDocument : decode? (("</body>" : Text).flatMap encodePoint) = some "</body>" := by
    decide
  intro parts bytes found text decoded
  unfold FileTree.entry? at found
  split at found
  · cases found
  · have mem := OrderedMap.mem_of_get? found
    simp only [styledTree, List.mem_cons, List.not_mem_nil, or_false] at mem
    rcases mem with same | same
    · cases same
      cases ofComponent.symm.trans decoded
      have unified : (styledSource "\\ud83d\\ude00").unifyLineEndings =
          styledSource "\\ud83d\\ude00" := by
        decide
      rw [unified]
      exact spellsScalars_pair
    · cases same
      cases ofDocument.symm.trans decoded
      have unparsed : (Module.parse (Text.unifyLineEndings "</body>")).isOk = false := by
        decide
      intro module parsed
      rw [parsed] at unparsed
      cases unparsed

/-- Both halves of a surrogate pair in one literal stand for a single scalar value. -/
theorem encodable_of_joined_pair :
    let source := styledSource "\\ud83d\\ude00"
    let tree := styledTree "\\ud83d\\ude00"
    let arguments : CommandArguments :=
      ⟨"index.html", ["a.js"], none, none, true, false, false, false, false, none⟩
    Text.IsScalar "</body>" ∧ Component.SpellsScalars source ∧ tree.SpellsScalars ∧
      (∃ output last, (withoutRuntime.buildDocument tree "</body>" [("a.js", source)]).run.run
          (start []) = (.ok output, last) ∧
        last.session.components.values = [styledRecord [0x1F600]] ∧
          output.IsScalar ∧ (Text.encode? output).isSome ∧
            ∀ record ∈ last.session.components.values, record.IsScalar) ∧
      (Run.perform tree .empty arguments).ending ≠ .error .unencodable := by
  intro source tree arguments
  have analyzed : Component.analyze source = .ok ⟨some (styledRecord [0x1F600]), [], true⟩ := by
    decide +kernel
  have isScalar : Text.IsScalar "</body>" := isScalar_ofString _
  have spell : ∀ module ∈ [(("a.js" : Text), source)], Component.SpellsScalars module.2 := by
    intro module mem
    rw [List.mem_singleton.mp mem]
    exact spellsScalars_pair
  rcases buildDocument_styled tree analyzed with ⟨last, returns, values⟩
  rcases encodable_of_spellsScalars withoutRuntime tree isScalar spell (plain_start []) with
    ⟨onBuild, onRun⟩
  exact ⟨isScalar, spellsScalars_pair, spellsScalars_tree,
    ⟨_, last, returns, values, onBuild _ last returns⟩, onRun spellsScalars_tree .empty arguments⟩

/-- A literal may as well hold one half of a pair alone, and then so does the document. -/
theorem not_encodable_of_half_pair :
    let source := styledSource "\\ud83d"
    source.IsScalar ∧ Text.IsScalar "</body>" ∧
      ∃ output last, (withoutRuntime.buildDocument ⟨.empty, []⟩ "</body>"
          [("a.js", source)]).run.run (start []) = (.ok output, last) ∧
        Text.encode? output = none ∧
          ∃ record ∈ last.session.components.values, ¬record.style.IsScalar := by
  intro source
  have analyzed : Component.analyze source = .ok ⟨some (styledRecord [0xD83D]), [], true⟩ := by
    decide +kernel
  rcases buildDocument_styled ⟨.empty, []⟩ analyzed with ⟨last, returns, values⟩
  refine ⟨?_, isScalar_ofString _, _, last, returns, by decide, styledRecord [0xD83D],
    ?_, ?_⟩
  · simp [source, styledSource]
  · rw [values]
    exact List.mem_singleton_self _
  · intro isScalar
    cases isScalar 0xD83D (List.mem_singleton_self _)

end Styles

end ComponentInliner
