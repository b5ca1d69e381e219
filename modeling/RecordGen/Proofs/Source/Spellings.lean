import RecordGen.Proofs.Source.LogicalLines

/-!
# Leaves in their canonical spelling

A layout leaves words and marks as they are. It leaves a number whose spelling is canonical, and a
string in double quotes whose body has neither quote marks nor backslashes, wherever they stand but on
a line of their own.
-/

namespace RecordGen.Source

variable {body : Text} {c : CodePoint}

/-! ## Marks that do not occur -/

theorem backslashesBefore?_eq_none
    (absent : c ∉ body) :
    backslashesBefore? [c] body = none := by
  have unseen : List.isPrefixOf [c] (body.drop (body.takeWhile (· = backslash)).length) = false := by
    rw [Bool.eq_false_iff]
    intro starts
    obtain ⟨rest, spelled⟩ := List.isPrefixOf_iff_prefix.mp starts
    have inside : c ∈ body.drop (body.takeWhile (· = backslash)).length := by
      rw [← spelled]
      exact List.mem_cons_self
    exact absent (List.mem_of_mem_drop inside)
  simp only [backslashesBefore?, unseen, Bool.false_eq_true, ↓reduceIte]

theorem rewriteMarks_eq_self
    {change : Nat → Option Nat} {fuel : Nat} {atStart : Bool}
    (absent : c ∉ body) :
    rewriteMarks [c] change fuel atStart body = body := by
  induction fuel generalizing body atStart with
  | zero => rfl
  | succ fuel inductionHypothesis =>
      cases body with
      | nil => rfl
      | cons d rest =>
          have later : c ∉ rest := fun member => absent (List.mem_cons_of_mem _ member)
          simp [rewriteMarks, backslashesBefore?_eq_none later, backslashesBefore?_eq_none absent,
            inductionHypothesis later]

theorem unescapeMark_eq_self
    (absent : c ∉ body) :
    unescapeMark [c] body = body := by
  simp only [unescapeMark, rewriteMarksTwice, rewriteMarks_eq_self absent]

theorem escapeMark_eq_self
    (absent : c ∉ body) :
    escapeMark [c] body = body := by
  simp only [escapeMark, rewriteMarksTwice, rewriteMarks_eq_self absent]

theorem escapeSpelling_eq_self
    {octets : Bool} {fuel : Nat}
    (absent : backslash ∉ body) :
    escapeSpelling octets fuel body = body := by
  induction fuel generalizing body with
  | zero => rfl
  | succ fuel inductionHypothesis =>
      cases body with
      | nil => rfl
      | cons d rest =>
          have later : backslash ∉ rest := fun member => absent (List.mem_cons_of_mem _ member)
          have different : d ≠ backslash := by
            rintro rfl
            exact absent List.mem_cons_self
          simp [escapeSpelling, different, inductionHypothesis later]

/-! ## Strings -/

/-- A text that can stand in a string as it is. -/
def IsBare (body : Text) : Prop := ∀ d ∈ body, isQuoteMark d = false ∧ d ≠ backslash

theorem IsBare.absent
    (bare : IsBare body) :
    doubleQuote ∉ body ∧ singleQuote ∉ body ∧ backslash ∉ body := by
  refine ⟨fun member => ?_, fun member => ?_, fun member => ?_⟩
  · exact absurd (bare _ member).1 (by decide)
  · exact absurd (bare _ member).1 (by decide)
  · exact (bare _ member).2 rfl

theorem ofText_quotedText
    (nonempty : body ≠ [])
    (bare : IsBare body) :
    Literal.ofText (quotedText body) = ⟨[], [doubleQuote], body⟩ := by
  obtain ⟨d, others, rfl⟩ := List.exists_cons_of_ne_nil nonempty
  have different : d ≠ doubleQuote := by
    rintro rfl
    exact bare.absent.1 List.mem_cons_self
  have opened : openingQuote? (quotedText (d :: others)) = some [doubleQuote] := by
    simp [openingQuote?, quotedText, isQuoteMark, different]
  have unlettered : (quotedText (d :: others)).takeWhile (fun c => !isQuoteMark c) = [] := rfl
  simp only [Literal.ofText, unlettered, List.length_nil, List.drop_zero, opened, Option.getD_some]
  simp [quotedText]

theorem preferred_eq_self
    (bare : IsBare body) :
    (⟨[], [doubleQuote], body⟩ : Literal).preferred = ⟨[], [doubleQuote], body⟩ := by
  obtain ⟨noDouble, noSingle, -⟩ := bare.absent
  have quotes : (⟨[], [doubleQuote], body⟩ : Literal).quotes? =
      some ([doubleQuote], [singleQuote]) := rfl
  have unlettered : Literal.preferredMark [] = [] := rfl
  have plain : (⟨[], [doubleQuote], body⟩ : Literal).isRaw = false ∧
      (⟨[], [doubleQuote], body⟩ : Literal).isInterpolated = false := ⟨rfl, rfl⟩
  simp only [Literal.preferred, unlettered, Literal.withPreferredQuote, quotes, Literal.requoted,
    plain, unescapeMark_eq_self noSingle, Bool.false_and, Bool.false_eq_true, ↓reduceIte,
    unescapeMark_eq_self noDouble, escapeMark_eq_self noSingle]
  simp

/-- The spelling of a string that is no docstring. -/
def plainSpelling (normalize : Bool) (t : Text) : Text :=
  let literal := (Literal.ofText t).withPreferredEscapes
  (if normalize then literal.preferred else literal).text

theorem plainSpelling_quotedText
    {normalize : Bool}
    (nonempty : body ≠ [])
    (bare : IsBare body) :
    plainSpelling normalize (quotedText body) = quotedText body := by
  have escapes : (⟨[], [doubleQuote], body⟩ : Literal).withPreferredEscapes =
      ⟨[], [doubleQuote], body⟩ := by
    have plain : (⟨[], [doubleQuote], body⟩ : Literal).isRaw = false := rfl
    simp only [Literal.withPreferredEscapes, plain, escapeSpelling_eq_self bare.absent.2.2]
    rfl
  have spelled : (⟨[], [doubleQuote], body⟩ : Literal).text = quotedText body := by
    simp [Literal.text, quotedText]
  simp only [plainSpelling, ofText_quotedText nonempty bare, escapes, preferred_eq_self bare, ite_self,
    spelled]

theorem stringSpelling_eq
    {l : Leaf} {path : Path}
    (elsewhere : path.isIn .simpleLine = false)
    (normalize : Bool)
    (lineLength : Int)
    (margin : Text) :
    stringSpelling normalize lineLength margin l path = plainSpelling normalize l.text := by
  have noDocstring : isDocstring l path = false := by
    unfold isDocstring
    split
    · rename_i line outer _
      have other : line.kind ≠ .simpleLine := by simpa [Path.isIn, Path.kind?] using elsewhere
      simp [other]
    · simp
  simp only [stringSpelling, noDocstring, Bool.false_and, Bool.false_eq_true, ↓reduceIte,
    plainSpelling]

/-! ## Leaves -/

/-- The leaf is put on a line as it is, wherever it stands but alone. -/
structure Leaf.IsCanonical (l : Leaf) : Prop where
  plain : l.isPlain = true
  number : l.kind = .number → numberSpelling l.text = l.text
  string : l.kind = .string → ∀ normalize, plainSpelling normalize l.text = l.text

theorem Leaf.IsCanonical.isSteady
    {style : LineStyle} {place : Leaf × Path}
    (canonical : place.1.IsCanonical)
    (elsewhere : place.2.isIn .simpleLine = false) :
    IsSteady style place := by
  refine ⟨canonical.plain, fun r => ?_⟩
  obtain ⟨⟨kind, t, lead, hidden⟩, path⟩ := place
  cases kind with
  | number =>
      have same := canonical.number rfl
      simp only [LineReader.spelled, same]
  | string =>
      have same := canonical.string rfl style.normalizesStrings
      simp only [LineReader.spelled, stringSpelling_eq elsewhere, same]
  | _ => rfl

theorem Leaf.isCanonical_word
    {l : Leaf}
    (word : l.kind = .word) :
    l.IsCanonical where
  plain := by simp [Leaf.isPlain, Leaf.inside, Leaf.isMargin, Leaf.isMark, word]
  number := by simp [word]
  string := by simp [word]

theorem Leaf.isCanonical_mark
    {l : Leaf}
    (plain : l.isPlain = true)
    (mark : l.kind = .mark) :
    l.IsCanonical where
  plain := plain
  number := by simp [mark]
  string := by simp [mark]

/-- What stands in front of a leaf does not matter. -/
theorem Leaf.IsCanonical.withLead
    {l : Leaf}
    (canonical : l.IsCanonical)
    (lead : Text) :
    { l with lead }.IsCanonical :=
  ⟨canonical.plain, canonical.number, canonical.string⟩

end RecordGen.Source
