import ComponentInliner.Proofs.Html.Bootstrap
import ComponentInliner.Proofs.Text.Excision

/-!
# What clearing a document leaves

A document is cleared of the scripts for a file in one pass. The pass leaves stretches of the
document, none of which holds such a script; but a script can be cut open by another one, and its
halves meet when that one is gone. So the document that is left holds a script exactly if one is put
together at a place where a script was, and exactly then clearing it once more changes it.
-/

namespace ComponentInliner.Html

/-- A module script for a file. -/
def IsBootstrapScript (filename script : Text) : Prop :=
  ∃ folder, CodePoint.ofChar '"' ∉ folder ∧ script = moduleScript (folder ++ filename)

theorem isSome_afterBootstrapTag?_iff {filename text : Text} :
    (afterBootstrapTag? filename text).isSome ↔
      ∃ script following, IsBootstrapScript filename script ∧ text = script ++ following := by
  have found : (afterBootstrapTag? filename text).isSome ↔ IsBootstrapTag filename text := by
    rw [← finds_bootstrapRemoval, Substitution.Finds, bootstrapRemoval, Option.isSome_map]
  rw [found, isBootstrapTag_iff]
  constructor
  · rintro ⟨folder, after, unquoted, read⟩
    exact ⟨_, after, ⟨folder, unquoted, rfl⟩, read⟩
  · rintro ⟨_, after, ⟨folder, unquoted, rfl⟩, read⟩
    exact ⟨folder, after, unquoted, read⟩

theorem afterBootstrapTag?_shortens {filename text after : Text}
    (found : afterBootstrapTag? filename text = some after) : after.length < text.length := by
  obtain ⟨folder, behind, -, rfl, rfl⟩ := afterBootstrapTag?_sound found
  have left := (List.dropWhile_suffix CodePoint.isBlank (l := behind)).length_le
  have opening : 0 < (Text.ofString "<script type=\"module\" src=\"").length := by decide
  simp only [List.length_append]
  omega

/-- The module scripts that a document is cleared of, each with the white space behind it. -/
def bootstrapScripts (filename : Text) : Excision where
  IsPart := IsBootstrapScript filename
  behind? := afterBootstrapTag? filename
  finds _ := isSome_afterBootstrapTag?_iff
  shortens _ _ := afterBootstrapTag?_shortens

section Stretches

variable {filename document : Text} {stretches : List Text}

theorem removeBootstrap_of_cut {after : Text}
    (found : afterBootstrapTag? filename document = some after) :
    removeBootstrap filename document = removeBootstrap filename after := by
  have isTag : (bootstrapRemoval filename).tag? document = some ⟨[], after⟩ := by
    simp [bootstrapRemoval, found]
  obtain ⟨folder, behind, -, read, rfl⟩ := afterBootstrapTag?_sound found
  cases document with
  | nil => cases read
  | cons point rest =>
      have isRest := (List.cons.inj read).2
      have isEnd : behind.dropWhile CodePoint.isBlank <:+ rest := by
        rw [isRest]
        exact (List.dropWhile_suffix _).trans (List.suffix_append _ _)
      exact Substitution.apply_of_some rfl isTag isEnd

/-- The stretches that one pass leaves make up the cleared document. -/
theorem removeBootstrap_eq_flatten
    (leaves : (bootstrapScripts filename).Leaves document stretches) :
    removeBootstrap filename document = stretches.flatten := by
  induction leaves with
  | done => rfl
  | @kept point rest stretch stretches uncut onRest ih =>
      have noTag : (bootstrapRemoval filename).tag? (point :: rest) = none := by
        rw [bootstrapRemoval, Option.map_eq_none_iff]
        exact uncut
      have step : removeBootstrap filename (point :: rest) =
          point :: removeBootstrap filename rest := Substitution.apply_of_none noTag
      rw [step, ih]
      rfl
  | cut isCut onRest ih => exact (removeBootstrap_of_cut isCut).trans ih

end Stretches

/-- A cleared document is made up of the stretches that one pass leaves. It holds a script for the
file exactly if a script is put together at a cut, from the end of what stands before it and the
beginning of what stands behind it. Clearing it again changes nothing exactly if it holds none. -/
theorem removeBootstrap_settles (filename document : Text) :
    ∃ stretches, (bootstrapScripts filename).Leaves document stretches ∧
      removeBootstrap filename document = stretches.flatten ∧
      ((bootstrapScripts filename).Occurs (removeBootstrap filename document) ↔
        ∃ left right folder, left ≠ [] ∧ right ≠ [] ∧ CodePoint.ofChar '"' ∉ folder ∧
          left ++ right = moduleScript (folder ++ filename) ∧
          Excision.Meet stretches left right) ∧
      (removeBootstrap filename (removeBootstrap filename document) =
          removeBootstrap filename document ↔
        ¬(bootstrapScripts filename).Occurs (removeBootstrap filename document)) := by
  obtain ⟨first, more, leaves⟩ := (bootstrapScripts filename).exists_leaves document
  have cleared := removeBootstrap_eq_flatten leaves
  refine ⟨first :: more, leaves, cleared, ?_, ?_⟩
  · rw [cleared, leaves.occurs_iff]
    constructor
    · rintro ⟨left, right, started, ended, ⟨folder, unquoted, isScript⟩, meet⟩
      exact ⟨left, right, folder, started, ended, unquoted, isScript, meet⟩
    · rintro ⟨left, right, folder, started, ended, unquoted, isScript, meet⟩
      exact ⟨left, right, started, ended, ⟨folder, unquoted, isScript⟩, meet⟩
  · obtain ⟨second, others, again⟩ :=
      (bootstrapScripts filename).exists_leaves (removeBootstrap filename document)
    rw [removeBootstrap_eq_flatten again]
    exact again.flatten_eq_iff

/-- A document in which one script for a file cuts another one open. -/
def cutOpenScript : Text :=
  "<script type=\"module\" s" ++ moduleScript "main.js" ++ "rc=\"main.js\"></script>"

/-- A script that another one cuts open is put together when that one goes. -/
theorem removeBootstrap_cutOpen :
    (bootstrapScripts "main.js").Occurs (removeBootstrap "main.js" cutOpenScript) ∧
      removeBootstrap "main.js" (removeBootstrap "main.js" cutOpenScript) ≠
        removeBootstrap "main.js" cutOpenScript := by
  have cleared : removeBootstrap "main.js" cutOpenScript = moduleScript "main.js" := by decide
  rw [cleared]
  exact ⟨⟨_, ⟨[], List.not_mem_nil, rfl⟩, List.infix_rfl⟩, by decide⟩

end ComponentInliner.Html
