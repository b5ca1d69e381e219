import RecordGen.Proofs.Name.Points

/-!
# Words and single code points

The words of a text are cut at digits and ASCII capitals, but what a code point becomes in Pascal case
depends on the one before it alone: nothing is lost but separators, and nothing changes but the starts
of words.
-/

namespace RecordGen

open CodePoint

/-! ## Capitals -/

namespace Unicode

/-- A code point that no table maps has no other upper-case form. -/
theorem upper_of_unmapped
    {c : CodePoint}
    (unexpanded : upperExpansions.lookup c.val = none)
    (uncovered : upperRuns.find? (·.covers c.val) = none) :
    upper c = [c] := by
  rw [upper, unexpanded, uncovered]
  split_ifs with ascii
  · -- The first run of the table maps the small ASCII letters, so the code point is none of them.
    have first : (⟨0x61, 0x7A, 1, 0x41⟩ : CaseRun) ∈ upperRuns := List.mem_cons_self
    have noSmall : ¬ (0x61 ≤ c.val ∧ c.val ≤ 0x7A) := fun small =>
      List.find?_eq_none.mp uncovered _ first (by simpa [CaseRun.covers, Nat.mod_one] using small)
    simp [asciiUpper, noSmall]
  · rfl

/-- A decimal digit has no other upper-case form. -/
theorem upper_of_isDecimalDigit
    {c : CodePoint}
    (digit : isDecimalDigit c = true) :
    upper c = [c] := by
  have expanded : ∀ entry ∈ upperExpansions, decimalDigitRanges.holds entry.1 = false := by
    decide +kernel
  have mapped : (upperRuns.all fun run => decimalDigitRanges.isApart run.first run.last) = true := by
    decide +kernel
  apply upper_of_unmapped
  · rw [List.lookup_eq_none_iff]
    intro entry listed
    have absent := expanded entry listed
    rw [bne_iff_ne]
    intro same
    rw [isDecimalDigit, Ranges.contains, same, absent] at digit
    cases digit
  · rw [List.find?_eq_none]
    intro run listed covered
    simp only [CaseRun.covers, Bool.and_eq_true, decide_eq_true_eq] at covered
    have apart := List.all_eq_true.mp mapped run listed
    have outside := Ranges.holds_of_isApart apart covered.1.1 covered.1.2
    rw [isDecimalDigit, Ranges.contains, outside] at digit
    cases digit

theorem upper_of_isAsciiUpper
    {c : CodePoint}
    (capital : c.isAsciiUpper = true) :
    upper c = [c] := by
  simp only [isAsciiUpper, Bool.and_eq_true, decide_eq_true_eq] at capital
  have ascii : c.val < 0x80 := by omega
  have noSmall : ¬ 0x61 ≤ c.val := by omega
  simp [upper, ascii, asciiUpper, noSmall]

end Unicode

namespace Pascal

variable {goesOn : CodePoint → Bool} {c : CodePoint} {rest : Text}

theorem words_of_digit
    (digit : Unicode.isDecimalDigit c = true) :
    words (c :: rest) = attach Unicode.isDecimalDigit c rest (words rest) := by
  rw [words, if_pos digit]

theorem words_of_letter
    (letter : isLetter c = true) :
    words (c :: rest) = attach isTail c rest (words rest) := by
  have noDigit : Unicode.isDecimalDigit c = false := by
    simp only [isLetter, Bool.and_eq_true, Bool.not_eq_true'] at letter
    exact letter.2
  simp [words, noDigit, letter]

theorem words_of_separator
    (noDigit : Unicode.isDecimalDigit c = false)
    (noLetter : isLetter c = false) :
    words (c :: rest) = words rest := by
  simp [words, noDigit, noLetter]

/-! ## What stands behind a code point -/

/-- The code points at the start of a text that go on with the word before it, and the words behind
them. -/
def behind (goesOn : CodePoint → Bool) (t : Text) : Text × List Text :=
  match t, words t with
  | next :: _, word :: others => if goesOn next then (word, others) else ([], word :: others)
  | _, words => ([], words)

theorem behind_of_stop
    {t : Text}
    (stop : t.head?.any goesOn = false) :
    behind goesOn t = ([], words t) := by
  unfold behind
  split
  · rename_i next rest word others spelled
    have ended : goesOn next = false := stop
    simp [ended, spelled]
  · rfl

theorem attach_eq (goesOn : CodePoint → Bool) (c : CodePoint) (rest : Text) :
    attach goesOn c rest (words rest) =
      (c :: (behind goesOn rest).1) :: (behind goesOn rest).2 := by
  unfold attach behind
  generalize words rest = others
  cases rest with
  | nil => rfl
  | cons next rest =>
      cases others with
      | nil => rfl
      | cons word others =>
          dsimp only
          split <;> rfl

/-- A text behind a word: its words with capitals, except for what goes on with that word. -/
def joinedAfter (goesOn : CodePoint → Bool) (t : Text) : Text :=
  (behind goesOn t).1 ++ (behind goesOn t).2.flatMap capitalized

theorem joinedAfter_of_stop
    {t : Text}
    (stop : t.head?.any goesOn = false) :
    joinedAfter goesOn t = ofText t := by
  rw [joinedAfter, behind_of_stop stop]
  rfl

/-- A code point that starts a word gets its capital, and the text behind it goes on with the word. -/
theorem ofText_of_attach
    (attached : words (c :: rest) = attach goesOn c rest (words rest)) :
    ofText (c :: rest) = Unicode.upper c ++ joinedAfter goesOn rest := by
  rw [ofText, attached, attach_eq, List.flatMap_cons, capitalized, joinedAfter, List.append_assoc]

/-- A code point that goes on with a word stays as it is. -/
theorem joinedAfter_of_attach
    (further : goesOn c = true)
    (attached : words (c :: rest) = attach goesOn c rest (words rest)) :
    joinedAfter goesOn (c :: rest) = c :: joinedAfter goesOn rest := by
  have own : behind goesOn (c :: rest) =
      (c :: (behind goesOn rest).1, (behind goesOn rest).2) := by
    rw [attach_eq] at attached
    simp only [behind.eq_def goesOn (c :: rest), attached, further, ↓reduceIte]
  rw [joinedAfter, own, joinedAfter, List.cons_append]

/-- In a run of digits none has another capital. -/
theorem joinedAfter_digit (t : Text) : joinedAfter Unicode.isDecimalDigit t = ofText t := by
  cases stop : t.head?.any Unicode.isDecimalDigit with
  | false => exact joinedAfter_of_stop stop
  | true =>
      cases t with
      | nil => cases stop
      | cons c rest =>
          have digit : Unicode.isDecimalDigit c = true := stop
          have attached : words (c :: rest) = attach Unicode.isDecimalDigit c rest (words rest) :=
            words_of_digit digit
          rw [joinedAfter_of_attach digit attached, ofText_of_attach attached,
            Unicode.upper_of_isDecimalDigit digit, List.singleton_append]

theorem ofText_of_digit
    (digit : Unicode.isDecimalDigit c = true) :
    ofText (c :: rest) = c :: ofText rest := by
  rw [ofText_of_attach (words_of_digit digit), Unicode.upper_of_isDecimalDigit digit,
    joinedAfter_digit, List.singleton_append]

theorem ofText_of_letter
    (letter : isLetter c = true) :
    ofText (c :: rest) = Unicode.upper c ++ joinedAfter isTail rest :=
  ofText_of_attach (words_of_letter letter)

/-- Behind a letter another one stays as it is: it goes on with the word, or it is a capital. -/
theorem joinedAfter_of_letter
    (letter : isLetter c = true) :
    joinedAfter isTail (c :: rest) = c :: joinedAfter isTail rest := by
  by_cases capital : c.isAsciiUpper = true
  · have stop : (c :: rest).head?.any isTail = false := by simp [isTail, capital]
    rw [joinedAfter_of_stop stop, ofText_of_letter letter, Unicode.upper_of_isAsciiUpper capital,
      List.singleton_append]
  · have further : isTail c = true := by simp [isTail, letter, capital]
    exact joinedAfter_of_attach further (words_of_letter letter)

/-! ## One pass -/

/-- What the pass over a text gives, after any code point: only behind a letter does the text start
in the middle of a word. -/
theorem pass_eq
    (previous : Option CodePoint) (t : Text) :
    pass previous t = if startsWord previous then ofText t else joinedAfter isTail t := by
  induction t generalizing previous with
  | nil =>
      split <;> rfl
  | cons c rest inductionHypothesis =>
      rw [pass, inductionHypothesis]
      -- A digit ends a word and is one, a letter goes on or starts one, and the rest separates.
      by_cases digit : Unicode.isDecimalDigit c = true
      · have noLetter : isLetter c = false := by simp [isLetter, digit]
        have stop : (c :: rest).head?.any isTail = false := by simp [isTail, noLetter]
        have own : contribution previous c = [c] := by
          simp [contribution, Unicode.isAlphanumeric_of_isDecimalDigit digit, digit]
        have starts : startsWord (some c) = true := by simp [startsWord, noLetter]
        rw [joinedAfter_of_stop stop, ofText_of_digit digit, own, if_pos starts, ite_self,
          List.singleton_append]
      · by_cases letter : isLetter c = true
        · have alphanumeric : Unicode.isAlphanumeric c = true := by
            simp only [isLetter, Bool.and_eq_true] at letter
            exact letter.1
          have own : contribution previous c =
              if startsWord previous then Unicode.upper c else [c] := by
            simp [contribution, alphanumeric, digit]
          have goesOn : startsWord (some c) = false := by simp [startsWord, letter]
          rw [ofText_of_letter letter, joinedAfter_of_letter letter, own, goesOn]
          split <;> rfl
        · rw [Bool.not_eq_true] at digit letter
          have separator : Unicode.isAlphanumeric c = false := by
            simpa [isLetter, digit] using letter
          have stop : (c :: rest).head?.any isTail = false := by simp [isTail, letter]
          have skipped : ofText (c :: rest) = ofText rest := by
            rw [ofText, ofText, words_of_separator digit letter]
          have dropped : contribution previous c = [] := by simp [contribution, separator]
          have starts : startsWord (some c) = true := by simp [startsWord, letter]
          rw [joinedAfter_of_stop stop, skipped, dropped, if_pos starts, ite_self, List.nil_append]

/-- Pascal case is a rule for single code points: letters and digits stay, all else is dropped, and a
letter gets its capital where nothing, no letter or a decimal digit stands before it. -/
theorem ofText_eq_pass (t : Text) : ofText t = pass none t := by
  rw [pass_eq]
  rfl

example : ofText (.ofString "v2model_of-IDs, x²y") = .ofString "V2ModelOfIDsX²y" := by
  decide +kernel

end Pascal
end RecordGen
