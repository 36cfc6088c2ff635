import ComponentInliner.Build.Compiler
import ComponentInliner.Proofs.Component.Order
import ComponentInliner.Proofs.Html.Triplets

/-!
# Edited documents

An edited document holds the triplets of the components of the session. After they were put into
the document, the runtime takes the place of its script tag and the starting scripts are removed;
both are looked for in the whole document, the triplets included. The triplets are left as they are
exactly if no tag that is replaced begins in them.
-/

namespace ComponentInliner

namespace Html

/-- The substitution of the runtime for its script tag, if the runtime is inlined. -/
def runtimeSubstitution (code? : Option Text) (filename : Text) : Substitution :=
  match code? with
  | some code => runtimeInlining code filename
  | none => .nothing

/-- Each code point of a block of a document stays when the runtime is inlined and also when the
starting scripts are removed after that. -/
def CarriesOver (runtime bootstrap : Substitution) (left block right : Text) : Prop :=
  runtime.Keeps left block right ∧
    bootstrap.Keeps (runtime.leftOf left (block ++ right)) block
      (runtime.rightOf (left ++ block) right)

/-- A block that is carried over is found in the new document. -/
theorem CarriesOver.infix {runtime bootstrap : Substitution} {left block right : Text}
    (carries : CarriesOver runtime bootstrap left block right) :
    block <:+: bootstrap.apply (runtime.apply (left ++ block ++ right)) := by
  rw [Substitution.apply_of_keeps carries.1, Substitution.apply_of_keeps carries.2]
  exact List.infix_append _ _ _

section Triplets

variable {code? : Option Text} {filename left block right : Text}
  (unquoted : CodePoint.ofChar '"' ∉ filename)

include unquoted

/-- Triplets are left alone when the runtime is inlined, unless its first tag begins in them. -/
theorem keeps_runtimeSubstitution_iff (begins : block = [] ∨ BeginsTriplets (block ++ right)) :
    (runtimeSubstitution code? filename).Keeps left block right ↔
      ∀ code, code? = some code → BeginsIn (IsRuntimeTag filename) left (block ++ right) ∨
        ¬BeginsIn (IsRuntimeTag filename) block right := by
  rcases begins with rfl | begins
  · exact iff_of_true nofun fun _ _ => .inr BeginsIn.not_nil
  cases code? with
  | none =>
      have ends : Substitution.nothing.EndsIn left (block ++ right) := nofun
      have noTag : ¬BeginsIn Substitution.nothing.Finds block right := by
        rintro ⟨rest, -, -, found⟩
        cases found
      exact iff_of_true ((Substitution.keeps_iff ends).mpr (.inr noTag)) nofun
  | some code =>
      have ends : (runtimeInlining code filename).EndsIn left (block ++ right) :=
        runtimeInlining_endsIn unquoted begins
      have same (text : Text) : (runtimeInlining code filename).Finds text ↔
          IsRuntimeTag filename text := finds_runtimeInlining
      have once : (runtimeInlining code filename).once = true := rfl
      rw [runtimeSubstitution, Substitution.keeps_iff ends, BeginsIn.congr same,
        BeginsIn.congr same]
      simp [once]

/-- Triplets are left alone when starting scripts are removed, unless the tag of one begins in
them. -/
theorem keeps_bootstrapRemoval_iff (begins : block = [] ∨ BeginsTriplets (block ++ right)) :
    (bootstrapRemoval filename).Keeps left block right ↔
      ¬BeginsIn (IsBootstrapTag filename) block right := by
  rcases begins with rfl | begins
  · exact iff_of_true nofun BeginsIn.not_nil
  have ends : (bootstrapRemoval filename).EndsIn left (block ++ right) :=
    bootstrapRemoval_endsIn unquoted begins
  have same (text : Text) : (bootstrapRemoval filename).Finds text ↔ IsBootstrapTag filename text :=
    finds_bootstrapRemoval
  have repeated : (bootstrapRemoval filename).once = false := rfl
  rw [Substitution.keeps_iff ends, BeginsIn.congr same, BeginsIn.congr same]
  simp [repeated]

end Triplets

/-- Triplets are carried over exactly if neither the first tag for the runtime that is inlined nor
a tag that starts components begins in them. -/
theorem carriesOver_iff {code? : Option Text} {runtimeName bootstrapName left right : Text}
    {compactStyles : Bool} {records : List ComponentRecord}
    (runtimeUnquoted : CodePoint.ofChar '"' ∉ runtimeName)
    (bootstrapUnquoted : CodePoint.ofChar '"' ∉ bootstrapName) :
    let block := tripletBlock compactStyles records
    let runtime := runtimeSubstitution code? runtimeName
    CarriesOver runtime (bootstrapRemoval bootstrapName) left block right ↔
      (∀ code, code? = some code → BeginsIn (IsRuntimeTag runtimeName) left (block ++ right) ∨
        ¬BeginsIn (IsRuntimeTag runtimeName) block right) ∧
      ¬BeginsIn (IsBootstrapTag bootstrapName) block (runtime.rightOf (left ++ block) right) := by
  have begins (following : Text) : tripletBlock compactStyles records = [] ∨
      BeginsTriplets (tripletBlock compactStyles records ++ following) := by
    cases records with
    | nil => exact .inl rfl
    | cons record records => exact .inr (beginsTriplets_tripletBlock ..)
  intro block runtime
  unfold CarriesOver
  rw [keeps_runtimeSubstitution_iff runtimeUnquoted (begins _),
    keeps_bootstrapRemoval_iff bootstrapUnquoted (begins _)]

end Html

namespace Compiler

/-- A step of a build comes to a result and stays with the root of the project. -/
def Yields {Result : Type} (action : BuildM Result) (state : BuildState) (result : Result) : Prop :=
  ∃ after, action.run.run state = (.ok result, after) ∧ after.session.root = state.session.root

namespace Yields

variable {Result Next : Type} {state : BuildState}

theorem pure (result : Result) : Yields (pure result) state result :=
  ⟨state, rfl, rfl⟩

theorem bind {action : BuildM Result} {next : Result → BuildM Next} {result : Result} {last : Next}
    (first : Yields action state result)
    (second : ∀ after, after.session.root = state.session.root → Yields (next result) after last) :
    Yields (action >>= next) state last := by
  rcases first with ⟨middle, ran, sameRoot⟩
  rcases second middle sameRoot with ⟨after, ranNext, sameNext⟩
  refine ⟨after, ?_, sameNext.trans sameRoot⟩
  rw [ExceptT.run_bind, StateT.run_bind, ran]
  exact ranNext

theorem tell (records : List LogRecord) : Yields (tell records) state () :=
  ⟨_, rfl, rfl⟩

theorem note (logger : String) (event : BuildEvent) : Yields (note logger event) state () :=
  tell _

theorem warn (message : Text) :
    Yields (changeSession fun session => session.warn message) state () :=
  ⟨_, rfl, rfl⟩

theorem currentSession : Yields currentSession state state.session :=
  ⟨state, rfl, rfl⟩

theorem requireText {setting : Setting} {text : Text} (given : setting.text? = some text) :
    Yields (requireText setting) state text := by
  unfold Compiler.requireText
  rw [given]
  exact pure text

theorem requireTexts {settings : List Setting} {texts : List Text}
    (given : settings.mapM Setting.text? = some texts) :
    Yields (settings.mapM Compiler.requireText) state texts := by
  induction settings generalizing texts state with
  | nil =>
      cases given
      exact pure []
  | cons setting rest ih =>
      rw [List.mapM_cons] at given
      rcases Option.bind_eq_some_iff.mp given with ⟨text, first, given⟩
      rcases Option.bind_eq_some_iff.mp given with ⟨others, later, same⟩
      cases same
      rw [List.mapM_cons]
      exact (requireText first).bind fun after _ => (ih later).bind fun _ _ => pure _

theorem orderedComponents :
    Yields orderedComponents state (state.session.graph.sorted.map Prod.snd) :=
  currentSession.bind fun _ _ => (tell _).bind fun _ _ => (note _ _).bind fun _ _ => pure _

end Yields

end Compiler

/-- The code of a runtime that was found, unless it is blank. -/
def RuntimeScript.Lookup.usable? : RuntimeScript.Lookup → Option Text
  | .found _ code => if code.all CodePoint.isBlank then none else some code
  | .missing _ => none

namespace Compiler

/-- The code of the runtime that goes into documents, if it is inlined, found and not blank. -/
def inlinedCode? (compiler : Compiler) (tree : FileTree) (root runtimeName : Text)
    (searchPaths : List Text) : Option Text :=
  if compiler.options.inlinesRuntime then
    (RuntimeScript.find tree root runtimeName searchPaths).usable?
  else
    none

section Documents

variable {compiler : Compiler} {tree : FileTree} {state : BuildState}
  {runtimeName bootstrapName : Text} {searchPaths : List Text}

theorem runtimeCode_yields (nameGiven : compiler.options.runtimeName.text? = some runtimeName)
    (pathsGiven : compiler.options.searchPaths.mapM Setting.text? = some searchPaths) :
    Yields (compiler.runtimeCode tree) state
      (RuntimeScript.find tree state.session.root runtimeName searchPaths).usable? := by
  have name : asPartOfText compiler.options.runtimeName = runtimeName := by
    simp [asPartOfText, nameGiven]
  unfold runtimeCode
  refine Yields.currentSession.bind fun _ _ => (Yields.requireTexts pathsGiven).bind fun _ _ => ?_
  rw [name]
  cases RuntimeScript.find tree state.session.root runtimeName searchPaths with
  | missing searched =>
      exact (Yields.note _ _).bind fun _ _ => (Yields.warn _).bind fun _ _ => Yields.pure none
  | found path code =>
      by_cases isBlank : code.all CodePoint.isBlank = true
      · simp only [isBlank, if_true, RuntimeScript.Lookup.usable?]
        exact (Yields.tell _).bind fun _ _ => (Yields.warn _).bind fun _ _ => Yields.pure none
      · simp only [isBlank, RuntimeScript.Lookup.usable?]
        exact (Yields.note _ _).bind fun _ _ => Yields.pure (some code)

/-- Editing a document that holds the end tag of a body comes to a document. -/
theorem edit_yields {document inserted : Text}
    (runtimeGiven : compiler.options.runtimeName.text? = some runtimeName)
    (bootstrapGiven : compiler.options.bootstrapName.text? = some bootstrapName)
    (pathsGiven : compiler.options.searchPaths.mapM Setting.text? = some searchPaths)
    (insertion : Html.insertBeforeBodyClose document (Html.renderTriplets
      compiler.options.compactsStyles (state.session.graph.sorted.map Prod.snd)) = some inserted) :
    let code? := compiler.inlinedCode? tree state.session.root runtimeName searchPaths
    Yields (compiler.edit tree document) state ((Html.bootstrapRemoval bootstrapName).apply
      ((Html.runtimeSubstitution code? runtimeName).apply inserted)) := by
  intro code?
  unfold edit
  apply Yields.orderedComponents.bind
  intro afterOrder sameRoot
  have inserts : Yields
      (compiler.insertComponents (state.session.graph.sorted.map Prod.snd) document)
      afterOrder inserted := by
    unfold insertComponents
    simp only [insertion]
    exact Yields.pure inserted
  apply inserts.bind
  intro afterInsertion sameRoot'
  have finds : Yields (compiler.inlinedRuntime tree) afterInsertion code? := by
    have rootKept : afterInsertion.session.root = state.session.root := sameRoot'.trans sameRoot
    unfold inlinedRuntime code? inlinedCode?
    split
    · rw [← rootKept]
      exact runtimeCode_yields runtimeGiven pathsGiven
    · exact Yields.pure none
  apply finds.bind
  intro afterRuntime _
  have replaces : Yields (compiler.insertRuntime code? inserted) afterRuntime
      ((Html.runtimeSubstitution code? runtimeName).apply inserted) := by
    cases code? with
    | some code => exact (Yields.requireText runtimeGiven).bind fun _ _ => Yields.pure _
    | none =>
        rw [Html.runtimeSubstitution, Html.Substitution.apply_nothing]
        exact Yields.pure inserted
  apply replaces.bind
  intro afterReplacement _
  exact (Yields.requireText bootstrapGiven).bind fun _ _ => Yields.pure _

/--
The triplets in an edited document. Editing comes to a document; the triplets of the components,
dependencies first, stand in it as they were rendered if none of their code points is replaced. For
file names without quotes, that is the case exactly if neither the first tag for the runtime that is
inlined nor, after that, a tag that starts components begins in the triplets.
-/
theorem edit_triplets (compiler : Compiler) (tree : FileTree) (state : BuildState) {document : Text}
    (runtimeGiven : compiler.options.runtimeName.text? = some runtimeName)
    (bootstrapGiven : compiler.options.bootstrapName.text? = some bootstrapName)
    (pathsGiven : compiler.options.searchPaths.mapM Setting.text? = some searchPaths)
    (hasBody : Text.ofString Html.bodyClose <:+: document) :
    let records := state.session.graph.sorted.map Prod.snd
    let markup := Html.renderTriplets compiler.options.compactsStyles records
    let triplets := Html.tripletBlock compiler.options.compactsStyles records
    let code? := compiler.inlinedCode? tree state.session.root runtimeName searchPaths
    let runtime := Html.runtimeSubstitution code? runtimeName
    let bootstrap := Html.bootstrapRemoval bootstrapName
    ∃ before close output after, document = before ++ close ∧
      Html.splitLast? Html.bodyClose document = some (before, close) ∧
      (compiler.edit tree document).run.run state = (.ok output, after) ∧
      let left := before ++ markup.takeWhile CodePoint.isBlank
      output = bootstrap.apply (runtime.apply (left ++ triplets ++ close)) ∧
      (Html.CarriesOver runtime bootstrap left triplets close → triplets <:+: output) ∧
      (CodePoint.ofChar '"' ∉ runtimeName → CodePoint.ofChar '"' ∉ bootstrapName →
        (Html.CarriesOver runtime bootstrap left triplets close ↔
          (∀ code, code? = some code →
            Html.BeginsIn (Html.IsRuntimeTag runtimeName) left (triplets ++ close) ∨
              ¬Html.BeginsIn (Html.IsRuntimeTag runtimeName) triplets close) ∧
          ¬Html.BeginsIn (Html.IsBootstrapTag bootstrapName) triplets
            (runtime.rightOf (left ++ triplets) close))) := by
  intro records markup triplets code? runtime bootstrap
  obtain ⟨before, close, last, split, insertion⟩ :=
    Html.insertBeforeBodyClose_triplets hasBody compiler.options.compactsStyles records
  rcases edit_yields runtimeGiven bootstrapGiven pathsGiven insertion with ⟨after, ran, -⟩
  refine ⟨before, close, _, after, split, last, ran, rfl, ?_, ?_⟩
  · exact Html.CarriesOver.infix
  · exact Html.carriesOver_iff

end Documents

/-- The triplets of a component without script tags stand in a document with an inlined runtime. -/
theorem edit_triplets_beside_runtime :
    let component : ComponentRecord := ⟨⟨"x-b", none, [], [], []⟩, [], "<p></p>", "() => 1"⟩
    let state : BuildState := ⟨(Session.begin []).register "b.js" component, []⟩
    let tree : FileTree := ⟨⟨[(["boreDOM.js"], .file [103, 111])]⟩, []⟩
    let compiler : Compiler := ⟨.usual, ⟨[], []⟩⟩
    let document : Text := "<body><script src=\"boreDOM.js\"></script></body>"
    ∃ output after, (compiler.edit tree document).run.run state = (.ok output, after) ∧
      Html.tripletBlock true [component] <:+: output := by
  intro component state tree compiler document
  have alone : state.session.graph.components.entries =
      [(Text.ofString "b.js", component)] := rfl
  have sorted : state.session.graph.sorted.map Prod.snd = [component] := by
    rw [DependencyGraph.sorted_singleton _ alone]
    rfl
  let front : Text := "<body><script src=\"boreDOM.js\"></script>"
  obtain ⟨before, close, output, after, -, last, ran, -, kept, exactly⟩ :=
    edit_triplets compiler tree state rfl rfl rfl ⟨front, [], rfl⟩
  refine ⟨output, after, ran, ?_⟩
  have found : Html.splitLast? Html.bodyClose document =
      some (front, Text.ofString Html.bodyClose) := by decide
  cases last.symm.trans found
  rw [sorted] at kept exactly
  refine kept ((exactly (by decide) (by decide)).mpr ⟨?_, ?_⟩)
  · intro code _
    left
    decide
  · decide +kernel

/-- A component whose markup holds a script tag. -/
def scriptedComponent : ComponentRecord :=
  ⟨⟨"x-a", none, [], [], []⟩, [], "<script type=\"module\" src=\"main.js\"></script>", "() => 1"⟩

/-- A build that looked at one component, whose markup holds a script tag. -/
def scriptedBuild : BuildState :=
  ⟨(Session.begin []).register "a.js" scriptedComponent, []⟩

/-- The usual compiler, but for the runtime, which is not inlined. -/
def withoutRuntime : Compiler :=
  ⟨{ BuildOptions.usual with inlinesRuntime := false }, ⟨[], []⟩⟩

theorem sorted_scriptedBuild :
    scriptedBuild.session.graph.sorted.map Prod.snd = [scriptedComponent] := by
  have alone : scriptedBuild.session.graph.components.entries =
      [(Text.ofString "a.js", scriptedComponent)] := rfl
  rw [DependencyGraph.sorted_singleton _ alone]
  rfl

/-- A script tag in the markup of a component is removed with the starting scripts. -/
theorem edit_scripted :
    ¬∀ (compiler : Compiler) (tree : FileTree) (state : BuildState) (document output : Text)
      (after : BuildState), Text.ofString Html.bodyClose <:+: document →
        (compiler.edit tree document).run.run state = (.ok output, after) →
          Html.tripletBlock compiler.options.compactsStyles
            (state.session.graph.sorted.map Prod.snd) <:+: output := by
  intro holds
  let markup := Html.renderTriplets true [scriptedComponent]
  have insertion : Html.insertBeforeBodyClose Html.bodyClose (Html.renderTriplets
      withoutRuntime.options.compactsStyles (scriptedBuild.session.graph.sorted.map Prod.snd)) =
        some (markup ++ Html.bodyClose) := by
    rw [sorted_scriptedBuild]
    rfl
  have yields : Yields (withoutRuntime.edit ⟨.empty, []⟩ Html.bodyClose) scriptedBuild
      ((Html.bootstrapRemoval "main.js").apply
        ((Html.runtimeSubstitution none "boreDOM.js").apply (markup ++ Html.bodyClose))) :=
    edit_yields rfl rfl rfl insertion
  rcases yields with ⟨after, ran, -⟩
  have held := holds _ _ _ _ _ _ List.infix_rfl ran
  have shorter : ((Html.bootstrapRemoval "main.js").apply ((Html.runtimeSubstitution none
      "boreDOM.js").apply (markup ++ Html.bodyClose))).length <
        (Html.tripletBlock true [scriptedComponent]).length := by decide +kernel
  rw [sorted_scriptedBuild] at held
  exact absurd held.length_le (Nat.not_le_of_lt shorter)

end Compiler

end ComponentInliner
