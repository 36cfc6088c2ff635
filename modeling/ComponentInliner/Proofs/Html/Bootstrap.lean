import ComponentInliner.Proofs.Html.Tags

/-!
# Clearing a document of the scripts for a file

The scripts that start components are found by how their sources end, and nothing is asked of what
stands before the name of the file. So every module script goes whose source ends with the name,
be it the name of the file or only the end of another name. What goes is said as a relation between
a document and the one that is left of it, which also lists the folders: the parts of the sources
before the name. A document loses only scripts for the file exactly if every folder that is not
empty ends with a slash.

Module scripts do not overlap, so that what happens to one of them can be told from its own source.
-/

namespace ComponentInliner.Html

/-- The element that loads a module script. -/
def moduleScript (source : Text) : Text :=
  "<script type=\"module\" src=\"" ++ source ++ "\"></script>"

/-- A source names a file: it is the name, or it ends with a slash and the name. -/
def NamesFile (filename source : Text) : Prop :=
  source = filename ∨ CodePoint.ofChar '/' :: filename <:+ source

instance (filename source : Text) : Decidable (NamesFile filename source) :=
  inferInstanceAs (Decidable (_ ∨ _))

theorem namesFile_append_iff {filename folder : Text} :
    NamesFile filename (folder ++ filename) ↔
      folder = [] ∨ folder.getLast? = some (CodePoint.ofChar '/') := by
  have behindSlash : CodePoint.ofChar '/' :: filename <:+ folder ++ filename ↔
      ∃ front, folder = front ++ [CodePoint.ofChar '/'] := by
    refine exists_congr fun front => ?_
    rw [List.append_cons, List.append_left_inj, eq_comm]
  rw [NamesFile, List.append_left_eq_self, behindSlash, List.getLast?_eq_some_iff]

theorem isBootstrapTag_iff {filename text : Text} :
    IsBootstrapTag filename text ↔
      ∃ folder after, CodePoint.ofChar '"' ∉ folder ∧
        text = moduleScript (folder ++ filename) ++ after := by
  simp only [IsBootstrapTag, moduleScript, List.append_assoc]

section Overlap

variable {source other start after right : Text}

/-- The source of a module script ends with the first quotation mark. -/
theorem moduleScript_inj (unquoted : CodePoint.ofChar '"' ∉ source)
    (otherUnquoted : CodePoint.ofChar '"' ∉ other)
    (read : moduleScript source ++ right = moduleScript other ++ after) : source = other := by
  unfold moduleScript at read
  simp only [List.append_assoc] at read
  exact (eq_of_first unquoted otherUnquoted (List.append_cancel_left read)).1

/-- A module script does not begin in another one. -/
theorem suffix_of_moduleScript (unquoted : CodePoint.ofChar '"' ∉ source) (started : start ≠ [])
    (read : start ++ (moduleScript other ++ after) = moduleScript source ++ right) :
    moduleScript other ++ after <:+ right := by
  have opensOnce : CodePoint.ofChar '<' ∉
      (Text.ofString "<script type=\"module\" src=\"").tail := by decide
  unfold moduleScript at read
  rw [List.append_assoc _ _ right, List.append_assoc _ source] at read
  have pastOpening := suffix_of_opening rfl started opensOnce read
  have pastSource := suffix_of_not_in pastOpening fun inner isEnd reads => by
    have innerUnquoted : CodePoint.ofChar '"' ∉ inner := fun mem => unquoted (isEnd.mem mem)
    have atQuote : inner ++ CodePoint.ofChar '"' :: ("></script>" ++ right) =
        Text.ofString "<script type=" ++
          CodePoint.ofChar '"' :: ("module\" src=\"" ++ other ++ "\"></script>" ++ after) := by
      simpa [Text.ofString] using reads.symm
    have behind := (eq_of_first innerUnquoted (by decide) atQuote).2
    exact absurd (List.cons.inj behind).1 (by decide)
  exact suffix_of_not_in pastSource fun inner isEnd reads =>
    eq_nil_of_starts rfl (ne_of_beq_false rfl) reads isEnd

end Overlap

section Removal

variable {filename rest : Text}

theorem removeBootstrap_of_noTag {point : CodePoint}
    (noTag : ¬IsBootstrapTag filename (point :: rest)) :
    removeBootstrap filename (point :: rest) = point :: removeBootstrap filename rest := by
  rw [← finds_bootstrapRemoval, Substitution.Finds, Option.not_isSome_iff_eq_none] at noTag
  exact Substitution.apply_of_none noTag

/-- The script at the beginning of a document goes, and so does the white space behind it. -/
theorem removeBootstrap_of_tag {text : Text} (begins : IsBootstrapTag filename text) :
    ∃ folder blanks rest, CodePoint.ofChar '"' ∉ folder ∧
      text = moduleScript (folder ++ filename) ++ blanks ++ rest ∧
      (∀ point ∈ blanks, point.isBlank) ∧ (∀ point ∈ rest.head?, ¬point.isBlank) ∧
      removeBootstrap filename text = removeBootstrap filename rest := by
  obtain ⟨tag, isTag⟩ := Option.isSome_iff_exists.mp (finds_bootstrapRemoval.mpr begins)
  obtain ⟨after, found, rfl⟩ := Option.map_eq_some_iff.mp isTag
  obtain ⟨folder, behind, unquoted, read, rfl⟩ := afterBootstrapTag?_sound found
  have inScript : text = moduleScript (folder ++ filename) ++ behind := by
    simpa only [moduleScript, List.append_assoc] using read
  refine ⟨folder, behind.takeWhile CodePoint.isBlank, behind.dropWhile CodePoint.isBlank, unquoted,
    ?_, fun point => List.mem_takeWhile_imp, fun point isHead => ?_, ?_⟩
  · rw [List.append_assoc, List.takeWhile_append_dropWhile, inScript]
  · rw [← List.find?_not_eq_head?_dropWhile] at isHead
    simpa using List.find?_some isHead
  · cases text with
    | nil => cases read
    | cons point text =>
        have isEnd : behind.dropWhile CodePoint.isBlank <:+ text := by
          have isRest := (List.cons.inj inScript).2
          rw [isRest]
          exact (List.dropWhile_suffix _).trans (List.suffix_append _ _)
        exact Substitution.apply_of_some rfl isTag isEnd

end Removal

/-- What clearing a document leaves of it: the module scripts go whose sources end with the name,
and so does the white space behind them. The parts of the sources before the name are listed. -/
inductive Clears (filename : Text) : (document : Text) → (folders : List Text) → Text → Prop
  | done : Clears filename [] [] []
  | kept {point : CodePoint} {rest cleared : Text} {folders : List Text}
      (noTag : ¬IsBootstrapTag filename (point :: rest))
      (onRest : Clears filename rest folders cleared) :
      Clears filename (point :: rest) folders (point :: cleared)
  | removed {folder blanks rest cleared : Text} {folders : List Text}
      (unquoted : CodePoint.ofChar '"' ∉ folder) (areBlank : ∀ point ∈ blanks, point.isBlank)
      (stops : ∀ point ∈ rest.head?, ¬point.isBlank)
      (onRest : Clears filename rest folders cleared) :
      Clears filename (moduleScript (folder ++ filename) ++ blanks ++ rest) (folder :: folders)
        cleared

/-- Only module scripts whose sources end with the name are removed, and all of them are. -/
theorem exists_clears (filename document : Text) :
    ∃ folders, Clears filename document folders (removeBootstrap filename document) := by
  -- A removed script takes more than one code point at once, so the induction is on the length.
  induction size : document.length using Nat.strong_induction_on generalizing document with
  | _ size ih =>
    subst size
    by_cases begins : IsBootstrapTag filename document
    · obtain ⟨folder, blanks, rest, unquoted, rfl, areBlank, stops, removed⟩ :=
        removeBootstrap_of_tag begins
      have shorter : rest.length <
          (moduleScript (folder ++ filename) ++ blanks ++ rest).length := by
        rw [List.append_assoc, moduleScript]
        simp [Text.ofString]
        omega
      obtain ⟨folders, onRest⟩ := ih rest.length shorter rest rfl
      exact ⟨folder :: folders, removed ▸ .removed unquoted areBlank stops onRest⟩
    · cases document with
      | nil => exact ⟨[], .done⟩
      | cons point rest =>
          obtain ⟨folders, onRest⟩ := ih rest.length (Nat.lt_succ_self _) rest rfl
          exact ⟨folders, removeBootstrap_of_noTag begins ▸ .kept begins onRest⟩

section Blocks

variable {filename source left right : Text} (nameUnquoted : CodePoint.ofChar '"' ∉ filename)
  (unquoted : CodePoint.ofChar '"' ∉ source)

include nameUnquoted

/-- No script that is removed reaches into a module script behind it. -/
theorem bootstrapRemoval_endsBefore :
    (bootstrapRemoval filename).EndsIn left (moduleScript source ++ right) := by
  intro rest tag _ started isTag
  rcases Option.map_eq_some_iff.mp isTag with ⟨after, found, rfl⟩
  rcases afterBootstrapTag?_sound found with ⟨folder, behind, folderUnquoted, read, rfl⟩
  have reads : rest ++ (moduleScript source ++ right) =
      moduleScript (folder ++ filename) ++ behind := by
    simpa only [moduleScript, List.append_assoc] using read
  have folderThenName := List.not_mem_append folderUnquoted nameUnquoted
  have ends := suffix_of_moduleScript folderThenName started reads
  exact (suffix_dropWhile rfl (by decide) ends).length_le

include unquoted

/-- A script that is removed begins in a module script only if it is that one. -/
theorem beginsIn_moduleScript_iff :
    BeginsIn (IsBootstrapTag filename) (moduleScript source) right ↔ filename <:+ source := by
  constructor
  · rintro ⟨rest, ⟨start, isScript⟩, ordinary, begins⟩
    obtain ⟨folder, after, folderUnquoted, reads⟩ := isBootstrapTag_iff.mp begins
    cases start with
    | nil =>
        have isRest : rest = moduleScript source := isScript
        rw [isRest] at reads
        have folderThenName := List.not_mem_append folderUnquoted nameUnquoted
        exact ⟨folder, (moduleScript_inj unquoted folderThenName reads).symm⟩
    | cons point start =>
        have inScript : point :: start ++ (moduleScript (folder ++ filename) ++ after) =
            moduleScript source ++ right := by
          rw [← reads, ← List.append_assoc, isScript]
        have behind := suffix_of_moduleScript unquoted (List.cons_ne_nil _ _) inScript
        rw [← reads] at behind
        have shorter := behind.length_le
        have reaches := List.length_pos_of_ne_nil ordinary
        rw [List.length_append] at shorter
        omega
  · rintro ⟨folder, rfl⟩
    refine ⟨moduleScript (folder ++ filename), List.suffix_rfl, List.cons_ne_nil _ _, ?_⟩
    have folderUnquoted : CodePoint.ofChar '"' ∉ folder := fun mem =>
      unquoted (List.mem_append_left _ mem)
    exact isBootstrapTag_iff.mpr ⟨folder, right, folderUnquoted, rfl⟩

/-- A module script is kept exactly if its source does not end with the name. -/
theorem keeps_moduleScript_iff :
    (bootstrapRemoval filename).Keeps left (moduleScript source) right ↔ ¬filename <:+ source := by
  have begins : BeginsIn (bootstrapRemoval filename).Finds (moduleScript source) right ↔
      filename <:+ source :=
    (BeginsIn.congr fun _ => finds_bootstrapRemoval).trans
      (beginsIn_moduleScript_iff nameUnquoted unquoted)
  rw [Substitution.keeps_iff (bootstrapRemoval_endsBefore nameUnquoted), begins]
  simp [bootstrapRemoval]

end Blocks

/-- A document loses module scripts whose sources end with the name, and nothing else but the white
space behind them. They are all scripts for the file exactly if each folder before the name is empty
or ends with a slash. For a name without quotation marks, a module script anywhere in the document
is kept exactly if its source does not end with the name. -/
theorem removeBootstrap_clears (filename : Text) :
    (∀ document, ∃ folders,
      Clears filename document folders (removeBootstrap filename document) ∧
      ((∀ folder ∈ folders, NamesFile filename (folder ++ filename)) ↔
        ∀ folder ∈ folders, folder = [] ∨ folder.getLast? = some (CodePoint.ofChar '/'))) ∧
    (CodePoint.ofChar '"' ∉ filename → ∀ left source right, CodePoint.ofChar '"' ∉ source →
      ((bootstrapRemoval filename).Keeps left (moduleScript source) right ↔
        ¬filename <:+ source)) := by
  constructor
  · intro document
    obtain ⟨folders, clears⟩ := exists_clears filename document
    exact ⟨folders, clears, forall₂_congr fun _ _ => namesFile_append_iff⟩
  · intro nameUnquoted left source right unquoted
    exact keeps_moduleScript_iff nameUnquoted unquoted

theorem removeBootstrap_clears_app :
    CodePoint.ofChar '"' ∉ Text.ofString "main.js" ∧
      CodePoint.ofChar '"' ∉ Text.ofString "/src/app.js" ∧
      (bootstrapRemoval "main.js").Keeps (moduleScript "./main.js" ++ "\n")
        (moduleScript "/src/app.js") "\n</body>" := by
  have nameUnquoted : CodePoint.ofChar '"' ∉ Text.ofString "main.js" := by decide
  have unquoted : CodePoint.ofChar '"' ∉ Text.ofString "/src/app.js" := by decide
  have keepsIff := (removeBootstrap_clears "main.js").2 nameUnquoted
    (moduleScript "./main.js" ++ "\n") "/src/app.js" "\n</body>" unquoted
  exact ⟨nameUnquoted, unquoted, keepsIff.mpr (by decide)⟩

/-- A script for another file goes if the name of that file ends with the name. -/
theorem removes_otherFile :
    removeBootstrap "main.js" (moduleScript "/src/domain.js") = [] ∧
      ¬NamesFile "main.js" "/src/domain.js" := by
  decide

end ComponentInliner.Html
