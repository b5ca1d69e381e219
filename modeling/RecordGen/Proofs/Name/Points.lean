import RecordGen.Name.TypeName
import RecordGen.Proofs.Name.Ranges
import RecordGen.Source.Leaf

/-!
# Code points of type names

A name in Pascal case is made of letters and digits: every ASCII code point of it is one. So it is one
word of the source language, and no blank, quote, mark or line break gets into a text through it.
-/

namespace RecordGen

namespace CodePoint

/-- An ASCII letter or digit, or anything that is not ASCII. -/
def isNamePoint (c : CodePoint) : Bool := c.isAsciiLetter || c.isAsciiDigit || !c.isAscii

/-- A point of a name that is no small ASCII letter. -/
def isCapitalPoint (c : CodePoint) : Bool :=
  c.isNamePoint && !(0x61 ≤ c.val && c.val ≤ 0x7A)

theorem isWordPoint_of_isNamePoint
    {c : CodePoint}
    (point : c.isNamePoint = true) :
    Source.isWordPoint c = true := by
  simp only [isNamePoint, Bool.or_eq_true] at point
  simp only [Source.isWordPoint, Bool.or_eq_true]
  tauto

end CodePoint

open CodePoint

/-! ## Tables -/

namespace Unicode

/-- Code points that separate words: the controls and the marks of ASCII, and further controls,
blanks, marks and line breaks. Surrogates are among them. -/
def separatorRanges : Ranges :=
  [(0x0, 0x2F), (0x3A, 0x40), (0x5B, 0x60), (0x7B, 0xA0), (0x1680, 0x1680), (0x2000, 0x206F),
   (0x3000, 0x3000), (0xD800, 0xDFFF)]

theorem avoidsNames_separatorRanges : separatorRanges.AvoidsNames := by
  refine ⟨⟨?_, ?_⟩, ?_⟩ <;> decide +kernel

/-- No upper-case form has a small ASCII letter. -/
theorem avoidsCapitals_small : Ranges.AvoidsCapitals [(0x61, 0x7A)] := by
  constructor <;> decide +kernel

end Unicode

theorem isNamePoint_of_contains_eq_false
    {c : CodePoint}
    (outside : Unicode.separatorRanges.contains c = false) :
    c.isNamePoint = true := by
  have digits : c.val < 0x0 ∨ 0x2F < c.val := Unicode.Ranges.outside_of_holdsAll outside rfl
  have capitals : c.val < 0x3A ∨ 0x40 < c.val := Unicode.Ranges.outside_of_holdsAll outside rfl
  have letters : c.val < 0x5B ∨ 0x60 < c.val := Unicode.Ranges.outside_of_holdsAll outside rfl
  have others : c.val < 0x7B ∨ 0x7F < c.val := Unicode.Ranges.outside_of_holdsAll outside rfl
  simp only [isNamePoint, isAsciiLetter, isAsciiUpper, isAsciiDigit, isAscii, Bool.or_eq_true,
    Bool.and_eq_true, Bool.not_eq_true', decide_eq_true_eq, decide_eq_false_iff_not]
  omega

theorem isCapitalPoint_of_mem_upper
    {c d : CodePoint}
    (alphanumeric : Unicode.isAlphanumeric c = true)
    (member : d ∈ Unicode.upper c) :
    d.isCapitalPoint = true := by
  have point : d.isNamePoint = true := isNamePoint_of_contains_eq_false
    (Unicode.avoidsNames_separatorRanges.contains_of_mem_upper alphanumeric member)
  have noSmall : ¬ (0x61 ≤ d.val ∧ d.val ≤ 0x7A) := by
    rcases Unicode.avoidsCapitals_small.contains_of_mem_upper member with apart | ⟨rfl, noSmall⟩
    · have outside : d.val < 0x61 ∨ 0x7A < d.val := Unicode.Ranges.outside_of_holdsAll apart rfl
      omega
    · exact noSmall
  simp only [isCapitalPoint, point, Bool.true_and, Bool.not_eq_true', Bool.and_eq_false_iff,
    decide_eq_false_iff_not]
  omega

/-! ## Pascal case -/

namespace Pascal

theorem forall_mem_attach
    {holds : CodePoint → Prop} {goesOn : CodePoint → Bool} {c : CodePoint} {rest : Text}
    {words : List Text}
    (point : holds c)
    (others : ∀ word ∈ words, ∀ d ∈ word, holds d) :
    ∀ word ∈ attach goesOn c rest words, ∀ d ∈ word, holds d := by
  have alone : ∀ d ∈ [c], holds d := by simpa using point
  unfold attach
  split
  · rename_i word others' _
    obtain ⟨first, later⟩ := List.forall_mem_cons.mp others
    split
    · refine List.forall_mem_cons.mpr ⟨?_, later⟩
      exact List.forall_mem_cons.mpr ⟨point, first⟩
    · exact List.forall_mem_cons.mpr ⟨alone, others⟩
  · exact List.forall_mem_cons.mpr ⟨alone, others⟩

/-- The points of words are letters and digits. -/
theorem isAlphanumeric_of_mem_words (t : Text) :
    ∀ word ∈ words t, ∀ c ∈ word, Unicode.isAlphanumeric c = true := by
  induction t with
  | nil =>
      simp [words]
  | cons c rest inductionHypothesis =>
      unfold words
      split_ifs with digit letter
      · have alphanumeric := Unicode.isAlphanumeric_of_isDecimalDigit digit
        exact forall_mem_attach alphanumeric inductionHypothesis
      · have alphanumeric : Unicode.isAlphanumeric c = true := by
          simp only [isLetter, Bool.and_eq_true] at letter
          exact letter.1
        exact forall_mem_attach alphanumeric inductionHypothesis
      · exact inductionHypothesis

/-- A name in Pascal case is made of letters and digits and of capitals of these. -/
theorem exists_of_mem_ofText
    {t : Text} {c : CodePoint}
    (member : c ∈ ofText t) :
    ∃ p, Unicode.isAlphanumeric p = true ∧ (c = p ∨ c ∈ Unicode.upper p) := by
  obtain ⟨word, inside, here⟩ := List.mem_flatMap.mp member
  have points := isAlphanumeric_of_mem_words t word inside
  cases word with
  | nil =>
      cases here
  | cons first rest =>
      rcases List.mem_append.mp here with capital | tail
      · exact ⟨first, points first List.mem_cons_self, Or.inr capital⟩
      · exact ⟨c, points c (List.mem_cons_of_mem first tail), Or.inl rfl⟩

/-- What separates words is in no text in Pascal case. -/
theorem contains_of_mem_ofText
    {t : Text} {c : CodePoint}
    (member : c ∈ ofText t) :
    Unicode.separatorRanges.contains c = false := by
  have avoids := Unicode.avoidsNames_separatorRanges
  obtain ⟨p, alphanumeric, rfl | capital⟩ := exists_of_mem_ofText member
  · exact avoids.contains_of_isAlphanumeric alphanumeric
  · exact avoids.contains_of_mem_upper alphanumeric capital

theorem isNamePoint_of_mem_ofText
    {t : Text} {c : CodePoint}
    (member : c ∈ ofText t) :
    c.isNamePoint = true :=
  isNamePoint_of_contains_eq_false (contains_of_mem_ofText member)

theorem upper_ne_nil (c : CodePoint) : Unicode.upper c ≠ [] := by
  unfold Unicode.upper
  split_ifs with ascii
  · exact List.cons_ne_nil _ _
  · split
    · rename_i points found
      have entries : ∀ entry ∈ Unicode.upperExpansions, entry.2 ≠ [] := by decide +kernel
      simpa using entries _ (Unicode.mem_upperExpansions found)
    · split
      · exact List.cons_ne_nil _ _
      · exact List.cons_ne_nil _ _

theorem isCapitalPoint_of_head?_ofText
    {t : Text} {c : CodePoint}
    (first : (ofText t).head? = some c) :
    c.isCapitalPoint = true := by
  rw [ofText, List.head?_flatMap] at first
  obtain ⟨word, member, own⟩ := List.exists_of_findSome?_eq_some first
  cases word with
  | nil =>
      cases own
  | cons d rest =>
      have alphanumeric :=
        isAlphanumeric_of_mem_words t (d :: rest) member d List.mem_cons_self
      rw [capitalized, List.head?_append_of_ne_nil _ (upper_ne_nil d)] at own
      exact isCapitalPoint_of_mem_upper alphanumeric (List.mem_of_mem_head? own)

/-- A word that starts with a small letter is no text in Pascal case. -/
theorem ofText_ne
    {word : Text} {c : CodePoint}
    (first : word.head? = some c)
    (small : c.isCapitalPoint = false)
    (t : Text) :
    ofText t ≠ word := by
  rintro rfl
  rw [isCapitalPoint_of_head?_ofText first] at small
  cases small

end Pascal

/-! ## Type names -/

/-- The type name of a URI is what Pascal case makes of some text. -/
theorem TypeName.exists_ofText_of_ofUri
    {uri name : Text}
    (named : TypeName.ofUri uri = .ok name) :
    name ≠ [] ∧ ∃ t, name = Pascal.ofText t := by
  unfold TypeName.ofUri at named
  split at named
  · cases named
  · rename_i path _
    split at named
    · cases named
    · rename_i nonempty
      obtain rfl := Except.ok.inj named
      exact ⟨nonempty, _, rfl⟩

/-- A type name is made of letters and digits, at least one, and starts with no small letter. -/
theorem TypeName.points_of_ofUri
    {uri name : Text}
    (named : TypeName.ofUri uri = .ok name) :
    (∀ c ∈ name, c.isNamePoint = true) ∧ name.head?.any isCapitalPoint = true := by
  obtain ⟨nonempty, t, rfl⟩ := exists_ofText_of_ofUri named
  obtain ⟨first, rest, spelled⟩ := List.exists_cons_of_ne_nil nonempty
  refine ⟨fun c member => Pascal.isNamePoint_of_mem_ofText member, ?_⟩
  rw [spelled, List.head?_cons, Option.any_some]
  exact Pascal.isCapitalPoint_of_head?_ofText (by rw [spelled, List.head?_cons])

end RecordGen
