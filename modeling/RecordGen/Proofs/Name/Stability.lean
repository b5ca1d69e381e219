import RecordGen.Proofs.Name.Words

/-!
# Pascal case is stable

A text in Pascal case has no separators left, so it falls into other words than the text it comes from.
Every word that starts there starts with a capital all the same: what stands at such a place has been
given its upper-case form, and an upper-case form has no other one. Only a capital with a mark that is
no letter changes once more, when the mark is dropped.
-/

namespace RecordGen

open CodePoint

/-! ## Capitals of capitals -/

namespace Unicode

/-- The numbers that a run maps. -/
def CaseRun.points (run : CaseRun) : List Nat :=
  (List.range ((run.last - run.first) / run.stride + 1)).map fun k => run.first + k * run.stride

theorem CaseRun.mem_points
    {run : CaseRun} {n : Nat}
    (covered : run.covers n = true) :
    n ∈ run.points := by
  simp only [covers, Bool.and_eq_true, decide_eq_true_eq, beq_iff_eq] at covered
  obtain ⟨⟨lower, upper⟩, whole⟩ := covered
  have steps : (n - run.first) / run.stride * run.stride = n - run.first :=
    Nat.div_mul_cancel (Nat.dvd_of_mod_eq_zero whole)
  have within : (n - run.first) / run.stride ≤ (run.last - run.first) / run.stride :=
    Nat.div_le_div_right (Nat.sub_le_sub_right upper run.first)
  refine List.mem_map.mpr ⟨_, List.mem_range.mpr (Nat.lt_succ_of_le within), ?_⟩
  rw [steps, Nat.add_sub_cancel' lower]

/-- The numbers that the tables map to others. -/
def smallNumbers : List Nat := upperRuns.flatMap CaseRun.points ++ upperExpansions.map Prod.fst

/-- The numbers that the tables map to, and zero. -/
def capitalNumbers : List Nat :=
  0 :: ((upperRuns.flatMap fun run => run.points.map run.image) ++ upperExpansions.flatMap Prod.snd)

/-- Some numbers as the bits of one. -/
def bitsOf (numbers : List Nat) : Nat := numbers.foldr (fun n bits => 1 <<< n ||| bits) 0

theorem testBit_bitsOf
    {numbers : List Nat} {n : Nat}
    (member : n ∈ numbers) :
    (bitsOf numbers).testBit n = true := by
  induction numbers with
  | nil => cases member
  | cons first rest inductionHypothesis =>
      rw [bitsOf, List.foldr_cons, ← bitsOf, Nat.testBit_or, Bool.or_eq_true]
      rcases List.mem_cons.mp member with rfl | inRest
      · exact Or.inl (by simp [Nat.one_shiftLeft])
      · exact Or.inr (inductionHypothesis inRest)

/-- No capital has another upper-case form. -/
theorem not_mem_smallNumbers
    {n : Nat}
    (capital : n ∈ capitalNumbers) :
    n ∉ smallNumbers := by
  intro small
  have apart : bitsOf smallNumbers &&& bitsOf capitalNumbers = 0 := by decide +kernel
  have both : (bitsOf smallNumbers &&& bitsOf capitalNumbers).testBit n = true := by
    rw [Nat.testBit_and, testBit_bitsOf small, testBit_bitsOf capital, Bool.and_self]
  rw [apart, Nat.zero_testBit] at both
  cases both

theorem upper_of_not_mem_smallNumbers
    {c : CodePoint}
    (noSmall : c.val ∉ smallNumbers) :
    upper c = [c] := by
  simp only [smallNumbers, List.mem_append, not_or] at noSmall
  apply upper_of_unmapped
  · rw [List.lookup_eq_none_iff]
    intro entry listed
    rw [bne_iff_ne]
    exact fun same => noSmall.2 (same ▸ List.mem_map_of_mem listed)
  · rw [List.find?_eq_none]
    intro run listed covered
    exact noSmall.1 (List.mem_flatMap.mpr ⟨run, listed, CaseRun.mem_points covered⟩)

/-- The code points of an upper-case form have no other upper-case form. -/
theorem upper_of_mem_upper
    {c d : CodePoint}
    (member : d ∈ upper c) :
    upper d = [d] := by
  have valued {n : Nat} (listed : n ∈ capitalNumbers) :
      upper (CodePoint.ofNat n) = [CodePoint.ofNat n] := by
    apply upper_of_not_mem_smallNumbers
    apply not_mem_smallNumbers
    unfold CodePoint.ofNat
    split
    · exact listed
    · exact List.mem_cons_self
  have capitals : ∀ n < 0x80, upper (CodePoint.ofNat n).asciiUpper =
      [(CodePoint.ofNat n).asciiUpper] := by decide +kernel
  -- Whatever a table maps to is listed as a capital, and no table maps what is listed.
  unfold upper at member
  split_ifs at member with ascii
  · rw [List.mem_singleton.mp member, ← CodePoint.ofNat_val c]
    exact capitals c.val ascii
  · split at member
    · rename_i points found
      obtain ⟨n, inside, rfl⟩ := List.mem_map.mp member
      apply valued
      apply List.mem_cons_of_mem
      apply List.mem_append_right
      exact List.mem_flatMap.mpr ⟨_, mem_upperExpansions found, inside⟩
    · rename_i unexpanded
      split at member
      · rename_i run found
        have covered := List.find?_some found
        rw [List.mem_singleton.mp member]
        apply valued
        apply List.mem_cons_of_mem
        apply List.mem_append_left
        exact List.mem_flatMap.mpr ⟨run, List.mem_of_find?_eq_some found,
          List.mem_map_of_mem (CaseRun.mem_points covered)⟩
      · rename_i unmapped
        obtain rfl := List.mem_singleton.mp member
        rw [upper, if_neg ascii, unexpanded, unmapped]

theorem avoidsCapitals_decimalDigits : decimalDigitRanges.AvoidsCapitals := by
  constructor <;> decide +kernel

end Unicode

/-! ## A second pass -/

namespace Pascal

/-- The upper-case forms of the letters of a text have nothing but letters and numbers in them. -/
def HasPlainCapitals (t : Text) : Prop :=
  ∀ c ∈ t, Unicode.isAlphanumeric c = true → ∀ d ∈ Unicode.upper c, Unicode.isAlphanumeric d = true

theorem hasPlainCapitals_of_isAscii
    {t : Text}
    (ascii : ∀ c ∈ t, c.isAscii = true) :
    HasPlainCapitals t := by
  have capitals : ∀ n < 0x80, Unicode.isAlphanumeric (CodePoint.ofNat n) = true →
      Unicode.isAlphanumeric (CodePoint.ofNat n).asciiUpper = true := by decide +kernel
  intro c member alphanumeric d capital
  have small : c.val < 0x80 := of_decide_eq_true (ascii c member)
  rw [Unicode.upper, if_pos small] at capital
  rw [List.mem_singleton.mp capital, ← CodePoint.ofNat_val c]
  exact capitals c.val small (by rwa [CodePoint.ofNat_val])

/-- The capitals of a letter are letters. -/
theorem isLetter_of_mem_upper
    {c d : CodePoint}
    (letter : isLetter c = true)
    (plain : ∀ d ∈ Unicode.upper c, Unicode.isAlphanumeric d = true)
    (member : d ∈ Unicode.upper c) :
    isLetter d = true := by
  have noDigit : Unicode.isDecimalDigit d = false := by
    rcases Unicode.avoidsCapitals_decimalDigits.contains_of_mem_upper member with apart | ⟨rfl, -⟩
    · exact apart
    · simp only [isLetter, Bool.and_eq_true, Bool.not_eq_true'] at letter
      exact letter.2
  simp [isLetter, plain d member, noDigit]

theorem contribution_of_isLetter
    {c : CodePoint}
    (letter : isLetter c = true)
    (previous : Option CodePoint) :
    contribution previous c = if startsWord previous then Unicode.upper c else [c] := by
  simp only [isLetter, Bool.and_eq_true, Bool.not_eq_true'] at letter
  simp [contribution, letter.1, letter.2]

theorem pass_append (previous : Option CodePoint) (s t : Text) :
    pass previous (s ++ t) = pass previous s ++ pass (s.getLast?.or previous) t := by
  induction s generalizing previous with
  | nil => rfl
  | cons c rest inductionHypothesis =>
      rw [List.cons_append, pass, pass, inductionHypothesis, List.append_assoc, List.getLast?_cons]
      cases rest.getLast? <;> rfl

/-- Letters that are capitals stay as they are, wherever words start. -/
theorem pass_of_capitals
    {t : Text}
    (letters : ∀ c ∈ t, isLetter c = true)
    (capitals : ∀ c ∈ t, Unicode.upper c = [c])
    (previous : Option CodePoint) :
    pass previous t = t := by
  induction t generalizing previous with
  | nil => rfl
  | cons c rest inductionHypothesis =>
      obtain ⟨letter, letters⟩ := List.forall_mem_cons.mp letters
      obtain ⟨capital, capitals⟩ := List.forall_mem_cons.mp capitals
      rw [pass, inductionHypothesis letters capitals, contribution_of_isLetter letter, capital,
        ite_self, List.singleton_append]

/-- A second pass changes nothing that one code point has contributed, and it is inside of a word
where the first one was: `earlier` stands before the code point in the text, `previous` before its
contribution. -/
theorem pass_contribution
    {c : CodePoint} {earlier previous : Option CodePoint}
    (plain : Unicode.isAlphanumeric c = true →
      ∀ d ∈ Unicode.upper c, Unicode.isAlphanumeric d = true)
    (inside : startsWord earlier = false → startsWord previous = false) :
    pass previous (contribution earlier c) = contribution earlier c ∧
      (startsWord (some c) = false →
        startsWord ((contribution earlier c).getLast?.or previous) = false) := by
  cases alphanumeric : Unicode.isAlphanumeric c with
  | false =>
      have noLetter : startsWord (some c) = true := by simp [startsWord, isLetter, alphanumeric]
      simp [contribution, alphanumeric, noLetter, pass]
  | true =>
      cases digit : Unicode.isDecimalDigit c with
      | true =>
          have noLetter : startsWord (some c) = true := by simp [startsWord, isLetter, digit]
          simp [contribution, alphanumeric, digit, noLetter, pass]
      | false =>
          have letter : isLetter c = true := by simp [isLetter, alphanumeric, digit]
          rw [contribution_of_isLetter letter]
          cases starts : startsWord earlier with
          | true =>
              have letters : ∀ d ∈ Unicode.upper c, isLetter d = true := fun d member =>
                isLetter_of_mem_upper letter (plain alphanumeric) member
              refine ⟨pass_of_capitals letters (fun d => Unicode.upper_of_mem_upper) previous,
                fun _ => ?_⟩
              rw [if_pos rfl, List.getLast?_eq_some_getLast (upper_ne_nil c)]
              simp [startsWord, letters _ (List.getLast_mem (upper_ne_nil c))]
          | false =>
              have goesOn : startsWord previous = false := inside starts
              have contributed := contribution_of_isLetter letter previous
              rw [goesOn] at contributed
              simp [pass, contributed, startsWord, letter]

/-- A second pass changes nothing, if it is inside of a word where the first one was. -/
theorem pass_pass
    {t : Text} {earlier previous : Option CodePoint}
    (plain : HasPlainCapitals t)
    (inside : startsWord earlier = false → startsWord previous = false) :
    pass previous (pass earlier t) = pass earlier t := by
  induction t generalizing earlier previous with
  | nil => rfl
  | cons c rest inductionHypothesis =>
      obtain ⟨own, others⟩ := List.forall_mem_cons.mp plain
      obtain ⟨kept, insideRest⟩ := pass_contribution own inside
      rw [pass, pass_append, kept, inductionHypothesis others insideRest]

/-- A text in Pascal case is its own Pascal case, unless a capital has brought something into it that
is no letter and no number. -/
theorem ofText_ofText
    {t : Text}
    (plain : HasPlainCapitals t) :
    ofText (ofText t) = ofText t := by
  have onePass (s : Text) : ofText s = pass none s := (pass_eq none s).symm
  rw [onePass t, onePass]
  exact pass_pass plain id

/-- A text of ASCII code points with all kinds of word boundaries. -/
theorem ofText_ofText_identifier :
    HasPlainCapitals (.ofString "v2model_of-IDs.x") ∧
      ofText (ofText (.ofString "v2model_of-IDs.x")) = .ofString "V2ModelOfIDsX" := by
  have ascii : (Text.ofString "v2model_of-IDs.x").all isAscii = true := by decide +kernel
  have plain : HasPlainCapitals (.ofString "v2model_of-IDs.x") :=
    hasPlainCapitals_of_isAscii (List.all_eq_true.mp ascii)
  refine ⟨plain, ?_⟩
  rw [ofText_ofText plain]
  decide +kernel

/-- The capital of `ǰ` is a letter and a mark, which goes with the second pass. -/
example : ofText [CodePoint.ofNat 0x1F0] = [CodePoint.ofNat 0x4A, CodePoint.ofNat 0x30C] ∧
    ofText (ofText [CodePoint.ofNat 0x1F0]) = [CodePoint.ofNat 0x4A] := by
  decide +kernel

end Pascal
end RecordGen
