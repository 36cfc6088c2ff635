import ComponentInliner.Script.Token

/-!
# What scanners leave

The scanners for numbers, strings, templates and regular expressions leave less of the source than
they find.
-/

namespace ComponentInliner.Script

/-! ## Numbers -/

variable {isDigit : Char → Bool} {input rest digits : List Char}

theorem takeDigitRun_length (isDigit : Char → Bool) (input : List Char) :
    (takeDigitRun isDigit input).1.length + (takeDigitRun isDigit input).2.length =
      input.length := by
  fun_induction takeDigitRun isDigit input with
  | _ => simp_all <;> omega

theorem takeNumberRun_length (isDigit : Char → Bool) (input : List Char) :
    (takeNumberRun isDigit input).1.length + (takeNumberRun isDigit input).2.length =
      input.length := by
  unfold takeNumberRun
  split
  · rw [List.length_nil, Nat.zero_add]
  · exact takeDigitRun_length isDigit input

theorem takeExponentPart_length (input : List Char) :
    (takeExponentPart input).2.length ≤ input.length := by
  unfold takeExponentPart
  split
  · next mark rest =>
    split
    · split
      next sign unsigned isSign =>
        have shorter : unsigned.length ≤ rest.length := by
          split at isSign
          all_goals
            cases isSign
            simp
        have run := takeNumberRun_length Char.isDigit unsigned
        split
        · exact Nat.le_refl _
        · next digits after _ same =>
          rw [same] at run
          simp only [List.length_cons] at run ⊢
          omega
    · exact Nat.le_refl _
  · exact Nat.le_refl _

theorem takeBigSuffix_length (digits rest : List Char) :
    (takeBigSuffix digits rest).2.length ≤ rest.length := by
  unfold takeBigSuffix
  split
  · exact Nat.le_succ _
  · exact Nat.le_refl _

theorem scanRadixNumber_length {marker number : List Char}
    (scanned : scanRadixNumber marker isDigit input = some (number, rest)) :
    rest.length < input.length := by
  unfold scanRadixNumber at scanned
  have run := takeNumberRun_length isDigit input
  split at scanned
  · cases scanned
  · next digits after several same =>
    have suffix := takeBigSuffix_length (marker ++ digits) after
    have shorter := List.length_pos_iff.mpr several
    rw [Option.some.inj scanned] at suffix
    rw [same] at run
    dsimp only at run suffix
    omega

theorem scanDecimal_length {number : List Char}
    (scanned : scanNumber.scanDecimal input = some (number, rest)) : rest.length < input.length := by
  unfold scanNumber.scanDecimal at scanned
  have run := takeNumberRun_length Char.isDigit input
  split at scanned
  · next later same =>
    have fraction := takeNumberRun_length Char.isDigit later
    have exponent := takeExponentPart_length (takeNumberRun Char.isDigit later).2
    grind
  · cases scanned
  · next digits later _ several same =>
    have shorter := List.length_pos_iff.mpr several
    have suffix := takeBigSuffix_length digits later
    rw [same] at run
    dsimp only at run
    have short : rest.length ≤ later.length := by
      split at scanned
      · split at scanned
        · next more _ =>
          have fraction := takeNumberRun_length Char.isDigit more
          have exponent := takeExponentPart_length (takeNumberRun Char.isDigit more).2
          rcases takeNumberRun Char.isDigit more with ⟨fractionDigits, after⟩
          dsimp only at fraction exponent scanned
          rcases takeExponentPart after with ⟨exponentDigits, final⟩
          cases scanned
          rw [List.length_cons]
          omega
        · have exponent := takeExponentPart_length later
          split at scanned
          · rwa [Option.some.inj scanned] at suffix
          · next found =>
            cases scanned
            rwa [found] at exponent
      · rwa [Option.some.inj scanned] at suffix
    omega

theorem scanNumber_length {number : List Char} (scanned : scanNumber input = some (number, rest)) :
    rest.length < input.length := by
  unfold scanNumber at scanned
  split at scanned
  · next letter later =>
    have radix {marker : List Char} {isDigit : Char → Bool}
        (onRadix : scanRadixNumber marker isDigit later = some (number, rest)) :
        rest.length < ('0' :: letter :: later).length :=
      Nat.lt_succ_of_lt (Nat.lt_succ_of_lt (scanRadixNumber_length onRadix))
    split at scanned
    · exact radix scanned
    · split at scanned
      · exact radix scanned
      · split at scanned
        · exact radix scanned
        · exact scanDecimal_length scanned
  · exact scanDecimal_length scanned

/-! ## Strings, templates and regular expressions -/

theorem scanBody_length {atEnd : List Char → Bool} {allowed : Char → Bool} {left : Nat}
    {escape : List Char} {body : LiteralBody}
    (scanned : scanBody atEnd allowed left escape input = some body) :
    0 < body.rest.length ∧ body.rest.length ≤ input.length := by
  fun_induction scanBody atEnd allowed left escape input generalizing body with
  | _ => grind [LiteralBody.consRaw, LiteralBody.consEscape, Option.map_eq_some_iff]

theorem scanRegexBody_length {insideClass escaped : Bool} {body : List Char}
    (scanned : scanRegexBody insideClass escaped input = some (body, rest)) :
    rest.length < input.length := by
  induction input generalizing insideClass escaped body with
  | nil => cases scanned
  | cons character later ih =>
      have goesOn {inside after : Bool} {change : List Char × List Char → List Char × List Char}
          (keeps : ∀ read left, (change (read, left)).2 = left)
          (onLater : (scanRegexBody inside after later).map change = some (body, rest)) :
          rest.length < (character :: later).length := by
        rcases Option.map_eq_some_iff.mp onLater with ⟨⟨read, left⟩, onRest, same⟩
        have isRest : left = rest := by rw [← keeps read left, same]
        exact Nat.lt_succ_of_lt (ih (isRest ▸ onRest))
      unfold scanRegexBody at scanned
      split at scanned
      · cases scanned
      · split at scanned
        · exact goesOn (fun _ _ => rfl) scanned
        · split at scanned
          · cases scanned
            exact Nat.lt_succ_self _
          · exact goesOn (fun _ _ => rfl) scanned

theorem scanRegex_length {expression : List Char}
    (scanned : scanRegex input = some (expression, rest)) : rest.length < input.length := by
  unfold scanRegex at scanned
  split at scanned
  · next later =>
    rcases Option.map_eq_some_iff.mp scanned with ⟨⟨body, after⟩, onBody, same⟩
    cases same
    have shorter := scanRegexBody_length onBody
    rw [List.length_drop, List.length_cons]
    omega
  · cases scanned

end ComponentInliner.Script
