import RecordGen.Source.Numeral
import Mathlib.Data.List.Basic

/-!
# Numerals of a text

The number at the start of a text is a part of it. What belongs to no numeral closes a text off: each
part of a number is read in front of it as it is read at the end of a text. So a number that starts in
a word ends in it, unless a point or a sign follows.
-/

namespace RecordGen.Source

def isNumeralPoint (c : CodePoint) : Bool :=
  isWordPoint c || c = CodePoint.ofChar '.' || c = CodePoint.ofChar '+' || c = CodePoint.ofChar '-'

def isNumeral (t : Text) : Bool := numeral? t = some (t, [])

/-! ## Points of numerals -/

theorem isNumeralPoint_of_isWordPoint
    {c : CodePoint}
    (point : isWordPoint c = true) :
    isNumeralPoint c = true := by
  simp [isNumeralPoint, point]

theorem isNumeralPoint_of_isAsciiDigit
    {c : CodePoint}
    (digit : c.isAsciiDigit = true) :
    isNumeralPoint c = true := by
  simp [isNumeralPoint, isWordPoint, digit]

theorem isNumeralPoint_of_asciiLower
    {c d : CodePoint}
    (letter : d.isAsciiLetter = true)
    (lower : c.asciiLower = d) :
    isNumeralPoint c = true := by
  subst lower
  apply isNumeralPoint_of_isWordPoint
  unfold CodePoint.asciiLower at letter
  split_ifs at letter with capital
  · simp [isWordPoint, CodePoint.isAsciiLetter, capital]
  · simp [isWordPoint, letter]

theorem isNumeralPoint_of_hexValue?
    {c : CodePoint}
    (digit : c.hexValue?.isSome = true) :
    isNumeralPoint c = true := by
  apply isNumeralPoint_of_isWordPoint
  unfold CodePoint.hexValue? at digit
  split_ifs at digit with decimal capital small
  · simp [isWordPoint, decimal]
  · simp only [Bool.and_eq_true, decide_eq_true_eq] at capital
    have letter : c.isAsciiLetter = true := by
      simp only [CodePoint.isAsciiLetter, CodePoint.isAsciiUpper, Bool.or_eq_true,
        Bool.and_eq_true, decide_eq_true_eq]
      omega
    simp [isWordPoint, letter]
  · simp only [Bool.and_eq_true, decide_eq_true_eq] at small
    have letter : c.isAsciiLetter = true := by
      simp only [CodePoint.isAsciiLetter, CodePoint.isAsciiUpper, Bool.or_eq_true,
        Bool.and_eq_true, decide_eq_true_eq]
      omega
    simp [isWordPoint, letter]
  · cases digit

theorem isNumeralPoint_of_baseDigit?
    {mark : CodePoint} {isDigit : CodePoint → Bool}
    (base : baseDigit? mark = some isDigit) :
    isNumeralPoint mark = true ∧ ∀ c, isDigit c = true → isNumeralPoint c = true := by
  unfold baseDigit? at base
  dsimp only at base
  split_ifs at base with hexadecimal octal binary
  · cases base
    exact ⟨isNumeralPoint_of_asciiLower (by decide) hexadecimal,
      fun c => isNumeralPoint_of_hexValue?⟩
  · cases base
    refine ⟨isNumeralPoint_of_asciiLower (by decide) octal, fun c digit => ?_⟩
    exact isNumeralPoint_of_isAsciiDigit (Bool.and_eq_true_iff.mp digit).1
  · cases base
    refine ⟨isNumeralPoint_of_asciiLower (by decide) binary, fun c digit => ?_⟩
    exact isNumeralPoint_of_isAsciiDigit (Bool.and_eq_true_iff.mp digit).1

/-! ## Parts of a text -/

/-- What is put in front of a part stands in front of the text. -/
theorem append_eq_of_map
    {c : CodePoint} {t run after : Text} {cut : Option (Text × Text)}
    (parts : ∀ own behind, cut = some (own, behind) → own ++ behind = t)
    (done : cut.map (fun (run, after) => (c :: run, after)) = some (run, after)) :
    run ++ after = c :: t := by
  obtain ⟨⟨own, behind⟩, found, same⟩ := Option.map_eq_some_iff.mp done
  obtain ⟨rfl, rfl⟩ := Prod.mk.inj same
  rw [List.cons_append, parts own behind found]

theorem append_of_digitGroups?
    {isDigit : CodePoint → Bool} {t run after : Text}
    (done : digitGroups? isDigit t = some (run, after)) :
    run ++ after = t := by
  induction t generalizing run after with
  | nil =>
      cases done
      rfl
  | cons c rest inductionHypothesis =>
      have later (own behind : Text) (found : digitGroups? isDigit rest = some (own, behind)) :
          own ++ behind = rest :=
        inductionHypothesis found
      unfold digitGroups? at done
      split_ifs at done with digit underscore
      · exact append_eq_of_map later done
      · split at done
        · split_ifs at done with next
          exact append_eq_of_map later done
        · cases done
      · cases done
        rfl

theorem append_of_decimalDigits?
    {t run after : Text}
    (done : decimalDigits? t = some (run, after)) :
    run ++ after = t := by
  unfold decimalDigits? at done
  split_ifs at done
  · exact append_of_digitGroups? done
  · cases done
    rfl

theorem append_of_fraction?
    {t run after : Text}
    (done : fraction? t = some (run, after)) :
    run ++ after = t := by
  unfold fraction? at done
  split at done
  · cases done
    rfl
  · split_ifs at done
    · exact append_eq_of_map (fun _ _ => append_of_decimalDigits?) done
    · cases done
      rfl

theorem append_of_exponent?
    {t run after : Text}
    (done : exponent? t = some (run, after)) :
    run ++ after = t := by
  cases t with
  | nil =>
      cases done
      rfl
  | cons mark rest =>
      by_cases letter : mark.asciiLower = CodePoint.ofChar 'e'
      · cases rest with
        | nil =>
            simp only [exponent?, letter, ↓reduceIte] at done
            cases done
            rfl
        | cons sign digits =>
            simp only [exponent?, letter, ↓reduceIte] at done
            split_ifs at done
            · obtain ⟨⟨own, behind⟩, found, same⟩ := Option.map_eq_some_iff.mp done
              obtain ⟨rfl, rfl⟩ := Prod.mk.inj same
              rw [List.cons_append, List.cons_append, append_of_decimalDigits? found]
            · exact append_eq_of_map (fun _ _ => append_of_decimalDigits?) done
            · cases done
              rfl
      · simp only [exponent?, letter, ↓reduceIte] at done
        cases done
        rfl

theorem append_imaginaryMark (t : Text) : (imaginaryMark t).1 ++ (imaginaryMark t).2 = t := by
  unfold imaginaryMark
  split
  · rfl
  · split_ifs <;> rfl

theorem append_of_decimal?
    {t number after : Text}
    (done : decimal? t = some (number, after)) :
    number ++ after = t := by
  obtain ⟨⟨whole, behindWhole⟩, first, rest⟩ := Option.bind_eq_some_iff.mp done
  obtain ⟨⟨fraction, behindFraction⟩, second, rest⟩ := Option.bind_eq_some_iff.mp rest
  obtain ⟨⟨exponent, behindExponent⟩, third, rest⟩ := Option.bind_eq_some_iff.mp rest
  dsimp only at rest
  split_ifs at rest
  obtain ⟨rfl, rfl⟩ := Prod.mk.inj (Option.some.inj rest)
  simp only [List.append_assoc, append_imaginaryMark]
  rw [append_of_exponent? third, append_of_fraction? second, append_of_decimalDigits? first]

theorem append_of_basedDigits?
    {isDigit : CodePoint → Bool} {t number after : Text}
    (done : basedDigits? isDigit t = some (number, after)) :
    number ++ after = t := by
  unfold basedDigits? at done
  by_cases mark : t.head? = some (CodePoint.ofChar '_')
  · obtain ⟨rest, rfl⟩ := List.head?_eq_some_iff.mp mark
    simp only [List.head?_cons, ↓reduceIte, List.drop_succ_cons, List.drop_zero] at done
    split_ifs at done
    obtain ⟨⟨run, behind⟩, found, last⟩ := Option.bind_eq_some_iff.mp done
    dsimp only at last
    split_ifs at last
    obtain ⟨rfl, rfl⟩ := Prod.mk.inj (Option.some.inj last)
    have front : (CodePoint.ofChar '_' :: rest).take
        ((CodePoint.ofChar '_' :: rest).length - rest.length) = [CodePoint.ofChar '_'] := by
      simp
    rw [front, List.append_assoc, append_of_digitGroups? found]
    rfl
  · simp only [mark, ↓reduceIte] at done
    split_ifs at done
    obtain ⟨⟨run, behind⟩, found, last⟩ := Option.bind_eq_some_iff.mp done
    dsimp only at last
    split_ifs at last
    obtain ⟨rfl, rfl⟩ := Prod.mk.inj (Option.some.inj last)
    rw [Nat.sub_self, List.take_zero, List.nil_append, append_of_digitGroups? found]

theorem append_of_numeral?
    {t number after : Text}
    (done : numeral? t = some (number, after)) :
    number ++ after = t := by
  unfold numeral? at done
  split at done
  · split_ifs at done
    · split at done
      · obtain ⟨⟨run, behind⟩, found, same⟩ := Option.map_eq_some_iff.mp done
        obtain ⟨rfl, rfl⟩ := Prod.mk.inj same
        rw [List.cons_append, List.cons_append, append_of_basedDigits? found]
      · exact append_of_decimal? done
    · exact append_of_decimal? done
  · exact append_of_decimal? done

/-! ## In front of what closes a number off -/

/-- A part of a text and what follows it, with more text behind. -/
def withMore (more : Text) (cut : Text × Text) : Text × Text := (cut.1, cut.2 ++ more)

section

variable {c : CodePoint} {rest : Text}

theorem any_head?_append
    {isPoint : CodePoint → Bool}
    (t : Text)
    (other : isPoint c = false) :
    (t ++ c :: rest).head?.any isPoint = t.head?.any isPoint := by
  cases t with
  | nil => simp [other]
  | cons d others => rfl

theorem isPrefixOf_append
    {word : Text}
    (t : Text)
    (free : c ∉ word) :
    word.isPrefixOf (t ++ c :: rest) = word.isPrefixOf t := by
  induction word generalizing t with
  | nil => simp
  | cons d others inductionHypothesis =>
      obtain ⟨different, later⟩ := not_or.mp (List.mem_cons.not.mp free)
      cases t with
      | nil => simp [List.isPrefixOf, Ne.symm different]
      | cons e t => simp [List.isPrefixOf, inductionHypothesis t later]

variable (stop : isNumeralPoint c = false)

include stop

theorem eq_false_of_numeralPoint
    {isDigit : CodePoint → Bool}
    (digits : ∀ d, isDigit d = true → isNumeralPoint d = true) :
    isDigit c = false := by
  rw [Bool.eq_false_iff]
  intro digit
  rw [digits c digit] at stop
  cases stop

theorem ne_of_numeralPoint
    {d : CodePoint}
    (point : isNumeralPoint d = true) :
    c ≠ d := by
  rintro rfl
  rw [point] at stop
  cases stop

theorem isWordPoint_eq_false : isWordPoint c = false :=
  eq_false_of_numeralPoint stop fun _ => isNumeralPoint_of_isWordPoint

theorem isAsciiDigit_eq_false : c.isAsciiDigit = false :=
  eq_false_of_numeralPoint stop fun _ => isNumeralPoint_of_isAsciiDigit

theorem startsDigit_withMore (t : Text) : startsDigit (t ++ c :: rest) = startsDigit t := by
  cases t with
  | nil => exact isAsciiDigit_eq_false stop
  | cons d others => rfl

theorem digitGroups?_withMore
    {isDigit : CodePoint → Bool}
    (digits : ∀ d, isDigit d = true → isNumeralPoint d = true)
    (t : Text) :
    digitGroups? isDigit (t ++ c :: rest) =
      (digitGroups? isDigit t).map (withMore (c :: rest)) := by
  have noDigit := eq_false_of_numeralPoint stop digits
  have noMark : c ≠ CodePoint.ofChar '_' := ne_of_numeralPoint stop (by decide)
  induction t with
  | nil => simp [digitGroups?, noDigit, noMark, withMore]
  | cons d others inductionHypothesis =>
      have further : (digitGroups? isDigit (others ++ c :: rest)).map
          (fun (run, after) => (d :: run, after)) =
            ((digitGroups? isDigit others).map fun (run, after) => (d :: run, after)).map
              (withMore (c :: rest)) := by
        rw [inductionHypothesis, Option.map_map, Option.map_map]
        rfl
      rw [List.cons_append, digitGroups?.eq_def isDigit (d :: (others ++ c :: rest)),
        digitGroups?.eq_def isDigit (d :: others)]
      dsimp only
      split_ifs with digit underscore
      · exact further
      · cases others with
        | nil => simp [noDigit]
        | cons e others =>
            dsimp only [List.cons_append]
            split_ifs
            · exact further
            · rfl
      · rfl

theorem decimalDigits?_withMore (t : Text) :
    decimalDigits? (t ++ c :: rest) = (decimalDigits? t).map (withMore (c :: rest)) := by
  rw [decimalDigits?, decimalDigits?, startsDigit_withMore stop]
  split_ifs
  · exact digitGroups?_withMore stop (fun _ => isNumeralPoint_of_isAsciiDigit) t
  · rfl

theorem fraction?_withMore (t : Text) :
    fraction? (t ++ c :: rest) = (fraction? t).map (withMore (c :: rest)) := by
  cases t with
  | nil =>
      have noPoint : c ≠ CodePoint.ofChar '.' := ne_of_numeralPoint stop (by decide)
      simp [fraction?, noPoint, withMore]
  | cons d others =>
      rw [List.cons_append, fraction?, fraction?]
      split_ifs
      · rw [decimalDigits?_withMore stop, Option.map_map, Option.map_map]
        rfl
      · rfl

theorem exponent?_withMore (t : Text) :
    exponent? (t ++ c :: rest) = (exponent? t).map (withMore (c :: rest)) := by
  have noLetter : c.asciiLower ≠ CodePoint.ofChar 'e' := fun letter =>
    ne_of_numeralPoint stop (isNumeralPoint_of_asciiLower (by decide) letter) rfl
  have noSign : ¬ (c = CodePoint.ofChar '+' ∨ c = CodePoint.ofChar '-') :=
    not_or.mpr ⟨ne_of_numeralPoint stop (by decide), ne_of_numeralPoint stop (by decide)⟩
  cases t with
  | nil => simp [exponent?, noLetter, withMore]
  | cons mark others =>
      cases others with
      | nil =>
          have noDigit : startsDigit (c :: rest) = false := isAsciiDigit_eq_false stop
          simp [exponent?, noSign, noDigit, withMore]
      | cons sign digits =>
          have numbered : startsDigit (sign :: digits ++ c :: rest) = startsDigit (sign :: digits) :=
            rfl
          rw [List.cons_append, List.cons_append, exponent?, exponent?]
          dsimp only
          rw [startsDigit_withMore stop, ← List.cons_append, numbered]
          split_ifs
          · rw [decimalDigits?_withMore stop, Option.map_map, Option.map_map]
            rfl
          · rfl
          · rw [decimalDigits?_withMore stop, Option.map_map, Option.map_map]
            rfl
          · rfl
          · rfl

theorem imaginaryMark_withMore (t : Text) :
    imaginaryMark (t ++ c :: rest) = withMore (c :: rest) (imaginaryMark t) := by
  cases t with
  | nil =>
      have noLetter : c.asciiLower ≠ CodePoint.ofChar 'j' := fun letter =>
        ne_of_numeralPoint stop (isNumeralPoint_of_asciiLower (by decide) letter) rfl
      simp [imaginaryMark, noLetter, withMore]
  | cons d others =>
      rw [List.cons_append, imaginaryMark, imaginaryMark]
      split_ifs <;> rfl

theorem not_mem_of_isWordPoint
    {word : Text}
    (points : word.all isWordPoint = true) :
    c ∉ word := by
  intro member
  have noPoint := isWordPoint_eq_false stop
  rw [List.all_eq_true.mp points c member] at noPoint
  cases noPoint

theorem startsKeyword_withMore
    {s : String}
    (t : Text)
    (points : (Text.ofString s).all isWordPoint = true) :
    startsKeyword (t ++ c :: rest) s = startsKeyword t s := by
  have noPoint := isWordPoint_eq_false stop
  rw [startsKeyword, startsKeyword, isPrefixOf_append t (not_mem_of_isWordPoint stop points)]
  cases starts : (Text.ofString s).isPrefixOf t with
  | false => rfl
  | true =>
      have long := (List.isPrefixOf_iff_prefix.mp starts).length_le
      rw [List.drop_append_of_le_length long, any_head?_append _ noPoint]

theorem endsNumber_withMore (t : Text) : endsNumber (t ++ c :: rest) = endsNumber t := by
  have noPoint := isWordPoint_eq_false stop
  have keyword {s : String} (points : (Text.ofString s).all isWordPoint = true) :
      startsKeyword (t ++ c :: rest) s = startsKeyword t s :=
    startsKeyword_withMore stop t points
  have start {s : String} (points : (Text.ofString s).all isWordPoint = true) :
      (Text.ofString s).isPrefixOf (t ++ c :: rest) = (Text.ofString s).isPrefixOf t :=
    isPrefixOf_append t (not_mem_of_isWordPoint stop points)
  simp only [endsNumber, any_head?_append t noPoint, List.any_cons, List.any_nil]
  rw [keyword (by decide), keyword (by decide), keyword (by decide), keyword (by decide),
    keyword (by decide), start (by decide), start (by decide), start (by decide)]

theorem decimal?_withMore (t : Text) :
    decimal? (t ++ c :: rest) = (decimal? t).map (withMore (c :: rest)) := by
  rw [decimal?, decimal?, decimalDigits?_withMore stop]
  cases decimalDigits? t with
  | none => rfl
  | some whole =>
      simp only [Option.map_some, Option.bind_eq_bind, Option.bind_some, withMore]
      rw [fraction?_withMore stop]
      cases fraction? whole.2 with
      | none => rfl
      | some fraction =>
          simp only [Option.map_some, Option.bind_some, withMore]
          rw [exponent?_withMore stop]
          cases exponent? fraction.2 with
          | none => rfl
          | some exponent =>
              simp only [Option.map_some, Option.bind_some, withMore]
              rw [imaginaryMark_withMore stop]
              simp only [withMore, endsNumber_withMore stop]
              split_ifs <;> rfl

theorem basedDigits?_withMore
    {isDigit : CodePoint → Bool}
    (digits : ∀ d, isDigit d = true → isNumeralPoint d = true)
    (t : Text) :
    basedDigits? isDigit (t ++ c :: rest) =
      (basedDigits? isDigit t).map (withMore (c :: rest)) := by
  have noDigit := eq_false_of_numeralPoint stop digits
  have noMark : c ≠ CodePoint.ofChar '_' := ne_of_numeralPoint stop (by decide)
  have noNumber := isAsciiDigit_eq_false stop
  have groups (start : Text) := @digitGroups?_withMore c rest stop isDigit digits start
  have ends (after : Text) := @endsNumber_withMore c rest stop after
  cases t with
  | nil => simp [basedDigits?, noDigit, noMark]
  | cons d others =>
      by_cases mark : d = CodePoint.ofChar '_'
      · subst mark
        simp only [basedDigits?, List.cons_append, List.head?_cons, ↓reduceIte,
          List.drop_succ_cons, List.drop_zero, any_head?_append others noDigit, groups]
        split_ifs
        · rfl
        · cases digitGroups? isDigit others with
          | none => rfl
          | some found =>
              simp only [Option.map_some, Option.bind_eq_bind, Option.bind_some, withMore,
                any_head?_append _ noNumber, ends]
              split_ifs <;> simp [withMore]
      · have noMark' : (some d = some (CodePoint.ofChar '_')) = False := by simpa using mark
        simp only [basedDigits?, List.cons_append, List.head?_cons, noMark', ↓reduceIte]
        rw [← List.cons_append, groups]
        split_ifs
        · rfl
        · cases digitGroups? isDigit (d :: others) with
          | none => rfl
          | some found =>
              simp only [Option.map_some, Option.bind_eq_bind, Option.bind_some, withMore,
                any_head?_append _ noNumber, ends]
              split_ifs <;> simp [withMore]

theorem numeral?_withMore (t : Text) :
    numeral? (t ++ c :: rest) = (numeral? t).map (withMore (c :: rest)) := by
  have decimal := @decimal?_withMore c rest stop t
  cases t with
  | nil =>
      have noZero : c ≠ CodePoint.ofChar '0' := ne_of_numeralPoint stop (by decide)
      cases rest with
      | nil => exact decimal
      | cons d rest =>
          rw [List.nil_append, numeral?, if_neg noZero]
          exact decimal
  | cons zero others =>
      cases others with
      | nil =>
          have noBase : baseDigit? c = none := by
            rw [Option.eq_none_iff_forall_ne_some]
            intro isDigit base
            exact ne_of_numeralPoint stop (isNumeralPoint_of_baseDigit? base).1 rfl
          have single : numeral? [zero] = decimal? [zero] := rfl
          rw [List.cons_append, List.nil_append, numeral?, noBase, single]
          split_ifs <;> exact decimal
      | cons mark digits =>
          rw [List.cons_append, List.cons_append, numeral?, numeral?]
          split_ifs
          · cases base : baseDigit? mark with
            | none => exact decimal
            | some isDigit =>
                dsimp only
                rw [basedDigits?_withMore stop (isNumeralPoint_of_baseDigit? base).2,
                  Option.map_map, Option.map_map]
                rfl
          · exact decimal

/-- A number at the start of a word ends in the word, if what ends the word is in no numeral. -/
theorem exists_of_numeral?_word
    {word number after : Text}
    (done : numeral? (word ++ c :: rest) = some (number, after)) :
    ∃ tail, numeral? word = some (number, tail) ∧ after = tail ++ c :: rest := by
  rw [numeral?_withMore stop] at done
  obtain ⟨⟨own, tail⟩, found, same⟩ := Option.map_eq_some_iff.mp done
  obtain ⟨rfl, rfl⟩ := Prod.mk.inj same
  exact ⟨tail, found, rfl⟩

end

end RecordGen.Source
