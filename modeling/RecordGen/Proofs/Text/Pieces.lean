import RecordGen.Text

/-!
# Pieces of texts

How the pieces between the occurrences of a code point behave when texts are joined, and what is in
a text that is joined from parts. At the line feed the pieces are the lines of a text, once all its
line breaks are spelled alike.
-/

namespace RecordGen.Text

theorem pieces_ne_nil (mark : CodePoint) (t : Text) : pieces mark t ≠ [] := by
  cases t with
  | nil =>
      simp [pieces]
  | cons c rest =>
      rw [pieces]
      split
      · exact List.cons_ne_nil _ _
      · split <;> exact List.cons_ne_nil _ _

/-- A mark separates the pieces before it from those behind it. -/
theorem pieces_append_mark
    (mark : CodePoint) (s t : Text) :
    pieces mark (s ++ mark :: t) = pieces mark s ++ pieces mark t := by
  induction s with
  | nil =>
      simp [pieces]
  | cons c rest inductionHypothesis =>
      by_cases same : c = mark
      · simp [pieces, same, inductionHypothesis]
      · obtain ⟨piece, others, spelled⟩ := List.exists_cons_of_ne_nil (pieces_ne_nil mark rest)
        simp [pieces, same, inductionHypothesis, spelled]

/-- A text without the mark is the start of the first piece. -/
theorem pieces_append_of_not_mem
    {mark : CodePoint} {s : Text}
    (free : mark ∉ s)
    (t : Text) :
    ∃ first rest, pieces mark t = first :: rest ∧ pieces mark (s ++ t) = (s ++ first) :: rest := by
  induction s with
  | nil =>
      obtain ⟨first, rest, spelled⟩ := List.exists_cons_of_ne_nil (pieces_ne_nil mark t)
      exact ⟨first, rest, spelled, spelled⟩
  | cons c s inductionHypothesis =>
      obtain ⟨different, others⟩ := not_or.mp (mt List.mem_cons.mpr free)
      obtain ⟨first, rest, spelled, joined⟩ := inductionHypothesis others
      refine ⟨first, rest, spelled, ?_⟩
      simp [pieces, Ne.symm different, joined]

/-- A text without the mark is its only piece. -/
theorem pieces_of_not_mem
    {mark : CodePoint} {t : Text}
    (free : mark ∉ t) :
    pieces mark t = [t] := by
  obtain ⟨first, rest, spelled, joined⟩ := pieces_append_of_not_mem free []
  rw [pieces] at spelled
  cases spelled
  simpa using joined

/-- No piece has the mark. -/
theorem mark_not_mem_of_mem_pieces
    {mark : CodePoint} {t piece : Text}
    (member : piece ∈ pieces mark t) :
    mark ∉ piece := by
  induction t generalizing piece with
  | nil =>
      rw [List.mem_singleton.mp member]
      exact List.not_mem_nil
  | cons c rest inductionHypothesis =>
      by_cases same : c = mark
      · rw [pieces, if_pos same, List.mem_cons] at member
        rcases member with rfl | later
        · exact List.not_mem_nil
        · exact inductionHypothesis later
      · obtain ⟨first, others, spelled⟩ := List.exists_cons_of_ne_nil (pieces_ne_nil mark rest)
        rw [spelled] at inductionHypothesis
        simp only [pieces, same, spelled, ↓reduceIte, List.mem_cons] at member
        rcases member with rfl | later
        · rw [List.mem_cons, not_or]
          exact ⟨Ne.symm same, inductionHypothesis List.mem_cons_self⟩
        · exact inductionHypothesis (List.mem_cons_of_mem first later)

/-- The pieces of a text make it up again. -/
theorem join_pieces (mark : CodePoint) (t : Text) : join [mark] (pieces mark t) = t := by
  induction t with
  | nil =>
      rfl
  | cons c rest inductionHypothesis =>
      obtain ⟨piece, others, spelled⟩ := List.exists_cons_of_ne_nil (pieces_ne_nil mark rest)
      rw [spelled] at inductionHypothesis
      by_cases same : c = mark
      · simp [pieces, same, spelled, join, inductionHypothesis]
      · cases others with
        | nil => simp_all [pieces, join]
        | cons next others => simp_all [pieces, join]

theorem pieces_injective (mark : CodePoint) : Function.Injective (pieces mark) := by
  intro s t same
  rw [← join_pieces mark s, same, join_pieces]

/-- What is in a text that is joined from parts is in a part or in the separator. -/
theorem mem_join
    {separator : Text} {c : CodePoint} {parts : List Text}
    (member : c ∈ join separator parts) :
    c ∈ separator ∨ ∃ part ∈ parts, c ∈ part := by
  induction parts with
  | nil =>
      cases member
  | cons part parts inductionHypothesis =>
      cases parts with
      | nil =>
          exact Or.inr ⟨part, List.mem_cons_self, member⟩
      | cons next parts =>
          rw [join, List.mem_append, List.mem_append] at member
          rcases member with (own | between) | later
          · exact Or.inr ⟨part, List.mem_cons_self, own⟩
          · exact Or.inl between
          · refine (inductionHypothesis later).imp_right ?_
            rintro ⟨other, inParts, found⟩
            exact ⟨other, List.mem_cons_of_mem part inParts, found⟩

/-! ## Line breaks -/

/-- Line breaks of other spellings are only looked for behind the first carriage return. -/
theorem unifyLineBreaks_append_of_not_mem
    {s : Text}
    (free : CodePoint.carriageReturn ∉ s)
    (t : Text) :
    unifyLineBreaks (s ++ t) = s ++ unifyLineBreaks t := by
  induction s with
  | nil =>
      rfl
  | cons c s inductionHypothesis =>
      obtain ⟨different, others⟩ := not_or.mp (mt List.mem_cons.mpr free)
      rw [List.cons_append, unifyLineBreaks.eq_def]
      simp only [Ne.symm different, ↓reduceIte, inductionHypothesis others, List.cons_append]

theorem unifyLineBreaks_of_not_mem
    {t : Text}
    (free : CodePoint.carriageReturn ∉ t) :
    t.unifyLineBreaks = t := by
  have unified := unifyLineBreaks_append_of_not_mem free []
  rwa [List.append_nil, unifyLineBreaks, List.append_nil] at unified

end RecordGen.Text
