import ComponentInliner.Build.Compiler
import ComponentInliner.Proofs.StyleSheet.Comments

/-!
# Modules that are accepted without a choice

The pattern that includes modules is read from one place of an id to the next. It occurs in an id
exactly if the id ends like the file of a script, where a line feed at the end does not count. What
excludes modules is a folder of installed packages anywhere in the id.
-/

namespace ComponentInliner

namespace Pattern

variable {next : Onward} {goal : Place → Prop}

/-- What goes on succeeds exactly from the places with a property, whatever groups have taken. -/
def Reaches (next : Onward) (goal : Place → Prop) : Prop :=
  ∀ progress : Progress, (next progress).isSome ↔ goal progress.place

/-- One of some letters. -/
def letter (letters : List CodePoint) : Pattern :=
  oneOf .plain false (letters.map fun letter => .range letter letter)

/-- A place before one of some letters, behind which is a place with a property. -/
def AtLetter (letters : List CodePoint) (goal : Place → Prop) (place : Place) : Prop :=
  ∃ taken ∈ letters, ∃ rest, place.rest = taken :: rest ∧
    goal ⟨place.offset + 1, taken :: place.before, rest⟩

theorem Reaches.letter {letters : List CodePoint} (reaches : Reaches next goal) :
    Reaches ((Pattern.letter letters).run next) (AtLetter letters goal) := by
  have holds (point : CodePoint) : ((letters.map fun letter => SetMember.range letter letter).any
      (SetMember.holds .plain point) != false) = true ↔ point ∈ letters := by
    have isLetter (letter : CodePoint) :
        (SetMember.range letter letter).holds .plain point = true ↔ letter = point := by
      have within : (SetMember.range letter letter).holds .plain point =
          (decide (letter.val ≤ point.val) && decide (point.val ≤ letter.val)) := rfl
      rw [within, Bool.and_eq_true, decide_eq_true_eq, decide_eq_true_eq, ← Nat.le_antisymm_iff,
        ← Fin.ext_iff]
    simp only [Bool.bne_false, List.any_map, List.any_eq_true, Function.comp_apply, isLetter,
      exists_eq_right]
  rintro ⟨⟨offset, before, _ | ⟨point, rest⟩⟩, marks⟩
  · simp [Pattern.letter, run, Place.step?, AtLetter]
  · rw [Pattern.letter, run, Place.step?]
    dsimp only [AtLetter]
    by_cases isLetter : point ∈ letters
    · rw [if_pos ((holds point).mpr isLetter), Option.bind_some, reaches]
      simp [isLetter, Progress.moveTo]
    · rw [if_neg (mt (holds point).mp isLetter)]
      simp [isLetter]

/-- What may stand once or not at all. -/
theorem Reaches.optional {body : Pattern} {once : Place → Prop} (reaches : Reaches next goal)
    (taken : Reaches (body.run next) once) :
    Reaches ((repetition .greedy 0 (some 1) body).run next) fun place =>
      once place ∨ goal place := by
  intro progress
  change ((body.run next progress).orElse fun _ => next progress).isSome ↔
    once progress.place ∨ goal progress.place
  rw [← taken progress, ← reaches progress]
  cases body.run next progress <;> simp

/-- A capture changes only what groups have taken. -/
theorem Reaches.capture {body : Pattern} {group : Nat} {around : Place → Prop}
    (reaches : ∀ {next}, Reaches next goal → Reaches (body.run next) around)
    (inner : Reaches next goal) : Reaches ((capture group body).run next) around := by
  intro progress
  have marked : Reaches (fun found : Progress => next (found.mark (.last group))) goal :=
    fun found => inner (found.mark (.last group))
  exact reaches marked (progress.mark (.first group))

/-- The place is the end of a text, or the line feed that ends it. -/
def AtEnd (place : Place) : Prop :=
  place.rest = [] ∨ place.rest = Text.ofString "\n"

theorem reaches_textEnd : Reaches ((boundary .plain .textEnd).run some) AtEnd := by
  intro progress
  rw [run, Boundary.holds, AtEnd]
  simp [or_iff_not_imp_left]

/-- A pattern occurs in a text if it matches from one of its places. -/
theorem occursFrom_iff {pattern : Pattern} {offset : Nat} {before text : Text} :
    pattern.occursFrom offset before text ↔ ∃ skipped rest, text = skipped ++ rest ∧
      (pattern.run some
        (.start ⟨offset + skipped.length, skipped.reverse ++ before, rest⟩)).isSome := by
  induction text generalizing offset before with
  | nil => simp [occursFrom, and_assoc]
  | cons point rest ih =>
      rw [occursFrom, Bool.or_eq_true, ih]
      constructor
      · rintro (here | ⟨skipped, later, rfl, begins⟩)
        · exact ⟨[], point :: rest, rfl, by simpa using here⟩
        · refine ⟨point :: skipped, later, rfl, ?_⟩
          simpa [Nat.add_right_comm, Nat.add_assoc, Nat.add_comm] using begins
      · rintro ⟨_ | ⟨_, skipped⟩, later, split, begins⟩
        · exact .inl (by simpa [split] using begins)
        · cases split
          refine .inr ⟨skipped, later, rfl, ?_⟩
          simpa [Nat.add_right_comm, Nat.add_assoc, Nat.add_comm] using begins

end Pattern

namespace ModuleFilter

open Pattern

/-- The ends of script files. -/
def scriptEndings : List String :=
  [".js", ".cjs", ".mjs"]

/-- An id is that of a script outside of installed packages. A line feed may follow its ending. -/
def IsScriptFile (moduleId : Text) : Prop :=
  (∃ ending ∈ scriptEndings, ∃ final ∈ ["", "\n"],
    Text.ofString ending ++ Text.ofString final <:+ moduleId) ∧
  ¬Text.ofString "/node_modules/" <:+: moduleId

instance (moduleId : Text) : Decidable (IsScriptFile moduleId) :=
  inferInstanceAs (Decidable (_ ∧ _))

/-- The name of an ending, behind which is a place with a property. -/
def AtName (goal : Place → Prop) (place : Place) : Prop :=
  let name := AtLetter ['j'] (AtLetter ['s'] goal)
  AtLetter ['c', 'm'] name place ∨ name place

/-- The pattern of scripts matches from a place if the rest is the ending of one. -/
theorem run_scripts {place : Place} : (scripts.run some (.start place)).isSome ↔
    ∃ ending ∈ scriptEndings, ∃ final ∈ ["", "\n"],
      place.rest = Text.ofString ending ++ Text.ofString final := by
  have parts : scripts = .sequence (letter ['.']) (.sequence (.capture 1 (.sequence
      (.repetition .greedy 0 (some 1) (letter ['c', 'm']))
        (.sequence (letter ['j']) (letter ['s'])))) (.boundary .plain .textEnd)) := rfl
  have reaches : Reaches (scripts.run some) (AtLetter ['.'] (AtName AtEnd)) := by
    rw [parts]
    refine Reaches.letter (Reaches.capture (fun {next} after => ?_) reaches_textEnd)
    exact after.letter.letter.optional after.letter.letter.letter
  rw [reaches (.start place)]
  simp [Progress.start, AtName, AtLetter, AtEnd, scriptEndings, Text.ofString, and_or_left,
    exists_or, or_assoc]
  tauto

theorem occursIn_scripts {moduleId : Text} : scripts.occursIn moduleId ↔
    ∃ ending ∈ scriptEndings, ∃ final ∈ ["", "\n"],
      Text.ofString ending ++ Text.ofString final <:+ moduleId := by
  rw [occursIn, occursFrom_iff]
  simp only [run_scripts]
  constructor
  · rintro ⟨skipped, rest, rfl, ending, isEnding, final, isFinal, rfl⟩
    exact ⟨ending, isEnding, final, isFinal, List.suffix_append ..⟩
  · rintro ⟨ending, isEnding, final, isFinal, skipped, rfl⟩
    exact ⟨skipped, _, rfl, ending, isEnding, final, isFinal, rfl⟩

/-- The filters that are taken without a choice. -/
def standard : ModuleFilter :=
  ⟨defaultInclude, defaultExclude⟩

/-- What the build host keeps to itself aside, the scripts outside of installed packages are
accepted. -/
theorem accepts_standard {first : CodePoint} {rest : Text} (visible : first.val ≠ 0) :
    standard.accepts (first :: rest) ↔ IsScriptFile (first :: rest) := by
  have installed : Filter.holds (first :: rest) (.text "/node_modules/") = true ↔
      Text.ofString "/node_modules/" <:+: first :: rest := by
    have noEnding : (Text.ofString "/node_modules/").head? ≠ some '.' := by decide
    rw [Filter.holds, if_neg noEnding, Text.contains_iff]
  rw [IsScriptFile, ← occursIn_scripts, ← installed]
  simp [accepts, standard, defaultInclude, defaultExclude, visible, Filter.holds.eq_2]

end ModuleFilter

end ComponentInliner
