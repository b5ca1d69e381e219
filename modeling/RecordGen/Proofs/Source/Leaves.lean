import RecordGen.Source.Scan
import RecordGen.Proofs.Source.Numerals

/-!
# Leaves of words

How a text is cut into leaves where it consists of words, blanks and single marks. A word that a
point ends which belongs to no word is one leaf, or it starts with a number, and then the number is
the leaf and what is left of the word comes behind it.
-/

namespace RecordGen.Source

variable {n : Nat} {keepsLines inComment inLine : Bool} {c : CodePoint}
  {t lead word rest : Text} {leaves : List Leaf}

/-! ## Leads -/

theorem leadSpan?_lineFeed :
    leadSpan? true inComment (CodePoint.lineFeed :: t) =
      (leadSpan? true false t).map fun (own, rest) => (CodePoint.lineFeed :: own, rest) := by
  rw [leadSpan?.eq_def]
  simp only [↓reduceIte]

theorem leadSpan?_comment
    (other : c ≠ CodePoint.lineFeed)
    (comment : inComment = true ∨ c = commentMark) :
    leadSpan? keepsLines inComment (c :: t) =
      (leadSpan? keepsLines true t).map fun (own, rest) => (c :: own, rest) := by
  rw [leadSpan?.eq_def]
  simp [other, comment]

theorem leadSpan?_gap
    (gap : isGap c = true) :
    leadSpan? keepsLines false (c :: t) =
      (leadSpan? keepsLines false t).map fun (own, rest) => (c :: own, rest) := by
  have different : c ≠ CodePoint.lineFeed ∧ c ≠ commentMark := by
    simp only [isGap, Bool.or_eq_true, decide_eq_true_eq] at gap
    rcases gap with (rfl | rfl) | rfl <;> decide
  rw [leadSpan?.eq_def]
  simp [different, gap]

/-- Neither stands between leaves nor ends a line. -/
def startsLeaf (c : CodePoint) : Bool :=
  !isGap c && c ≠ commentMark && c ≠ backslash && c ≠ CodePoint.lineFeed

theorem leadSpan?_startsLeaf
    (starts : startsLeaf c = true) :
    leadSpan? keepsLines false (c :: t) = some ([], c :: t) := by
  simp only [startsLeaf, Bool.and_eq_true, Bool.not_eq_true', decide_eq_true_eq, ne_eq] at starts
  obtain ⟨⟨⟨noGap, noComment⟩, noJoint⟩, noLine⟩ := starts
  rw [leadSpan?.eq_def]
  simp [noGap, noComment, noJoint, noLine]

theorem leadSpan?_gaps
    (gaps : ∀ c ∈ lead, isGap c = true) :
    leadSpan? keepsLines false (lead ++ t) =
      (leadSpan? keepsLines false t).map fun (own, rest) => (lead ++ own, rest) := by
  induction lead with
  | nil =>
      simp
  | cons c others inductionHypothesis =>
      obtain ⟨first, later⟩ := List.forall_mem_cons.mp gaps
      rw [List.cons_append, leadSpan?_gap first, inductionHypothesis later, Option.map_map]
      rfl

/-- What can stand in front of the first leaf of a line, whatever the leaf: blank lines and lines of
comments. -/
structure IsLoose (lead : Text) : Prop where
  skipped : ∀ after, leadSpan? true false (lead ++ after) =
    (leadSpan? true false after).map fun (own, rest) => (lead ++ own, rest)
  margin : ∀ own, marginOf .none 0 false (lead ++ own) = marginOf .none 0 false own

theorem IsLoose.nil : IsLoose [] where
  skipped after := by simp
  margin own := rfl

theorem marginOf_lineFeed (m : Margin) (joined : Nat) :
    marginOf m joined inComment (CodePoint.lineFeed :: t) = marginOf .none 0 false t := by
  rw [marginOf.eq_def]
  simp only [↓reduceIte]

theorem marginOf_comment
    (m : Margin) (joined : Nat)
    (other : c ≠ CodePoint.lineFeed)
    (comment : inComment = true ∨ c = commentMark) :
    marginOf m joined inComment (c :: t) = marginOf m joined true t := by
  rw [marginOf.eq_def]
  simp [other, comment]

theorem IsLoose.lineFeed (loose : IsLoose lead) : IsLoose (CodePoint.lineFeed :: lead) where
  skipped after := by
    rw [List.cons_append, leadSpan?_lineFeed, loose.skipped, Option.map_map]
    rfl
  margin own := by
    rw [List.cons_append, marginOf_lineFeed, loose.margin]

theorem leadSpan?_commentLine
    (loose : IsLoose lead)
    (oneLine : CodePoint.lineFeed ∉ t) :
    leadSpan? true true (t ++ CodePoint.lineFeed :: lead ++ rest) =
      (leadSpan? true false rest).map fun (own, rest) =>
        (t ++ CodePoint.lineFeed :: lead ++ own, rest) := by
  induction t with
  | nil =>
      rw [List.nil_append, List.cons_append, leadSpan?_lineFeed, loose.skipped, Option.map_map]
      rfl
  | cons c others inductionHypothesis =>
      obtain ⟨different, later⟩ := not_or.mp (List.mem_cons.not.mp oneLine)
      rw [List.cons_append, List.cons_append, leadSpan?_comment (Ne.symm different) (Or.inl rfl),
        inductionHypothesis later, Option.map_map]
      rfl

theorem marginOf_commentLine
    (loose : IsLoose lead)
    (oneLine : CodePoint.lineFeed ∉ t) :
    marginOf .none 0 true (t ++ CodePoint.lineFeed :: lead ++ rest) =
      marginOf .none 0 false rest := by
  induction t with
  | nil =>
      rw [List.nil_append, List.cons_append, marginOf_lineFeed, loose.margin]
  | cons c others inductionHypothesis =>
      obtain ⟨different, later⟩ := not_or.mp (List.mem_cons.not.mp oneLine)
      rw [List.cons_append, List.cons_append, marginOf_comment _ _ (Ne.symm different) (Or.inl rfl),
        inductionHypothesis later]

theorem IsLoose.comment
    (loose : IsLoose lead)
    (oneLine : CodePoint.lineFeed ∉ t) :
    IsLoose (commentMark :: t ++ CodePoint.lineFeed :: lead) := by
  have different : commentMark ≠ CodePoint.lineFeed := by decide
  refine ⟨fun after => ?_, fun own => ?_⟩
  · rw [List.cons_append, List.cons_append, leadSpan?_comment different (Or.inr rfl),
      leadSpan?_commentLine loose oneLine, Option.map_map]
    rfl
  · rw [List.cons_append, List.cons_append, marginOf_comment _ _ different (Or.inr rfl),
      marginOf_commentLine loose oneLine]

theorem IsLoose.append
    {others : Text}
    (loose : IsLoose lead)
    (loose' : IsLoose others) :
    IsLoose (lead ++ others) where
  skipped after := by
    rw [List.append_assoc, loose.skipped, loose'.skipped, Option.map_map]
    simp [Function.comp_def]
  margin own := by
    rw [List.append_assoc, loose.margin, loose'.margin]

/-- The text can be the whole lead of a leaf, at the start of a line or inside of one. -/
def IsLead (inLine : Bool) (lead : Text) : Prop :=
  ∀ c rest, startsLeaf c = true →
    leadSpan? (!inLine) false (lead ++ c :: rest) = some (lead, c :: rest)

theorem isLead_gaps
    (gaps : ∀ c ∈ lead, isGap c = true) :
    IsLead inLine lead := by
  intro c rest starts
  rw [leadSpan?_gaps gaps, leadSpan?_startsLeaf starts]
  simp

theorem isLead_nil : IsLead inLine [] := by
  intro c rest starts
  exact leadSpan?_startsLeaf starts

theorem IsLoose.isLead
    {gaps : Text}
    (loose : IsLoose lead)
    (blank : ∀ c ∈ gaps, isGap c = true) :
    IsLead false (lead ++ gaps) := by
  intro c rest starts
  have behind : leadSpan? true false (gaps ++ c :: rest) = some (gaps, c :: rest) :=
    @isLead_gaps false gaps blank c rest starts
  rw [List.append_assoc]
  exact (loose.skipped _).trans (by rw [behind]; rfl)

theorem IsLoose.isLead_self
    (loose : IsLoose lead) :
    IsLead false lead := by
  have whole := @IsLoose.isLead lead [] loose (by simp)
  rwa [List.append_nil] at whole

/-! ## Single leaves -/

def Leaf.ofWord (lead word : Text) : Leaf := ⟨.word, word, lead, false⟩

def Leaf.ofNumber (lead number : Text) : Leaf := ⟨.number, number, lead, false⟩

def Leaf.ofMark (lead : Text) (mark : String) : Leaf := ⟨.mark, .ofString mark, lead, false⟩

def Leaf.ending : Leaf := ⟨.lineEnd, [CodePoint.lineFeed], [], false⟩

/-- The beginning of a block. -/
def Leaf.opening : Leaf := ⟨.indent, [], [], false⟩

/-- The end of a block. -/
def Leaf.closing : Leaf := ⟨.dedent, [], [], false⟩

/-- The end of a text. -/
def Leaf.last : Leaf := ⟨.finish, [], [], false⟩

theorem flatLeaves?_leaf
    {leaf : Leaf} {after : Text}
    (isLead : IsLead inLine lead)
    (starts : t.head?.any startsLeaf = true)
    (found : leafAt? t = some (leaf, after))
    (opens : openBrackets? [] leaf = some []) :
    flatLeaves? (n + 1) [] inLine (lead ++ t) =
      (flatLeaves? n [] true after).map fun others => { leaf with lead } :: others := by
  cases t with
  | nil =>
      cases starts
  | cons c t =>
      have first : startsLeaf c = true := starts
      have different : c ≠ CodePoint.lineFeed := by
        rintro rfl
        cases first
      rw [flatLeaves?]
      simp only [List.isEmpty_nil, Bool.not_true, Bool.false_or, isLead c t first,
        Option.bind_eq_bind, Option.bind_some, different, ↓reduceIte, found, opens]
      cases flatLeaves? n [] true after <;> rfl

theorem flatLeaves?_eq_none
    (isLead : IsLead inLine lead)
    (starts : t.head?.any startsLeaf = true)
    (missing : leafAt? t = none) :
    flatLeaves? (n + 1) [] inLine (lead ++ t) = none := by
  cases t with
  | nil =>
      cases starts
  | cons c t =>
      have first : startsLeaf c = true := starts
      have different : c ≠ CodePoint.lineFeed := by
        rintro rfl
        cases first
      rw [flatLeaves?]
      simp only [List.isEmpty_nil, Bool.not_true, Bool.false_or, isLead c t first,
        Option.bind_eq_bind, Option.bind_some, different, ↓reduceIte, missing, Option.bind_none]

theorem flatLeaves?_ending :
    flatLeaves? (n + 1) [] true (CodePoint.lineFeed :: t) =
      (flatLeaves? n [] false t).map fun others => Leaf.ending :: others := by
  rw [flatLeaves?, leadSpan?.eq_def]
  simp only [List.isEmpty_nil, Bool.not_true, Bool.or_self, Bool.false_eq_true, ↓reduceIte,
    Option.bind_eq_bind, Option.bind_some]
  cases flatLeaves? n [] false t <;> rfl

theorem flatLeaves?_finish :
    flatLeaves? (n + 1) [] false [] = some [Leaf.last] := rfl

/-! ## Words -/

/-- Ends a word, and starts no string with it. -/
def endsWord (c : CodePoint) : Bool := !isWordPoint c && !isQuoteMark c

theorem takeWhile_word
    (points : ∀ d ∈ word, isWordPoint d = true)
    (stop : endsWord c = true) :
    (word ++ c :: rest).takeWhile isWordPoint = word := by
  have ends : isWordPoint c = false := by
    simp only [endsWord, Bool.and_eq_true, Bool.not_eq_true'] at stop
    exact stop.1
  rw [List.takeWhile_append_of_pos points]
  simp [ends]

theorem startsDigit_append
    (nonempty : word ≠ []) :
    startsDigit (word ++ t) = startsDigit word := by
  cases word with
  | nil => exact absurd rfl nonempty
  | cons d others => rfl

theorem startsLeaf_of_isWordPoint
    (point : isWordPoint c = true) :
    startsLeaf c = true := by
  have marks : [CodePoint.space, CodePoint.tab, CodePoint.formFeed, commentMark, backslash,
      CodePoint.lineFeed].all (fun d => !isWordPoint d) = true := by decide
  have different : ∀ d, isWordPoint d = false → c ≠ d := by
    rintro d other rfl
    rw [point] at other
    cases other
  simp only [List.all_cons, List.all_nil, Bool.and_eq_true, Bool.not_eq_true', and_true] at marks
  obtain ⟨space, tab, formFeed, comment, joint, line⟩ := marks
  simp [startsLeaf, isGap, different _ space, different _ tab, different _ formFeed,
    different _ comment, different _ joint, different _ line]

theorem startsDigit_of_isIdentifier
    (identifier : Unicode.isIdentifier word = true) :
    word ≠ [] ∧ startsDigit word = false := by
  have small : ∀ m : Fin 0x80, Unicode.identifierStartRanges.holds m.val = true →
      (decide (0x30 ≤ m.val) && decide (m.val ≤ 0x39)) = false := by decide +kernel
  cases word with
  | nil =>
      cases identifier
  | cons d others =>
      simp only [Unicode.isIdentifier, Bool.and_eq_true] at identifier
      refine ⟨List.cons_ne_nil d others, ?_⟩
      unfold startsDigit CodePoint.isAsciiDigit
      by_cases ascii : d.val < 0x80
      · exact small ⟨d.val, ascii⟩ identifier.1
      · simp only [Bool.and_eq_false_imp, decide_eq_true_eq, decide_eq_false_iff_not]
        omega

theorem leafAt?_word
    (nonempty : word ≠ [])
    (points : ∀ d ∈ word, isWordPoint d = true)
    (noDigit : startsDigit word = false)
    (stop : endsWord c = true) :
    leafAt? (word ++ c :: rest) =
      if Unicode.isIdentifier word then some (⟨.word, word, [], false⟩, c :: rest) else none := by
  have noFraction : startsFraction (word ++ c :: rest) = false := by
    cases word with
    | nil => exact absurd rfl nonempty
    | cons d others =>
        have point := points d List.mem_cons_self
        have different : d ≠ CodePoint.ofChar '.' := by
          rintro rfl
          revert point
          decide
        simp [startsFraction, different]
  have noQuote : isQuoteMark c = false := by
    simp only [endsWord, Bool.and_eq_true, Bool.not_eq_true'] at stop
    exact stop.2
  have filled : word.isEmpty = false := by simpa using nonempty
  unfold leafAt?
  rw [startsDigit_append nonempty, noDigit, noFraction]
  simp only [Bool.or_self, Bool.false_eq_true, ↓reduceIte, takeWhile_word points stop,
    List.drop_left, startsLiteral, List.head?_cons, Option.any_some, noQuote, Bool.false_and,
    filled, Bool.not_false]

theorem startsLeaf_word
    (nonempty : word ≠ [])
    (points : ∀ d ∈ word, isWordPoint d = true) :
    (word ++ t).head?.any startsLeaf = true := by
  cases word with
  | nil => exact absurd rfl nonempty
  | cons d others => exact startsLeaf_of_isWordPoint (points d List.mem_cons_self)

theorem flatLeaves?_word
    (isLead : IsLead inLine lead)
    (points : ∀ d ∈ word, isWordPoint d = true)
    (identifier : Unicode.isIdentifier word = true)
    (stop : endsWord c = true) :
    flatLeaves? (n + 1) [] inLine (lead ++ (word ++ c :: rest)) =
      (flatLeaves? n [] true (c :: rest)).map fun others => .ofWord lead word :: others := by
  obtain ⟨nonempty, noDigit⟩ := startsDigit_of_isIdentifier identifier
  have found : leafAt? (word ++ c :: rest) = some (⟨.word, word, [], false⟩, c :: rest) := by
    rw [leafAt?_word nonempty points noDigit stop, if_pos identifier]
  exact flatLeaves?_leaf isLead (startsLeaf_word nonempty points) found rfl

/-- What a word that is read begins with: the word itself, which is then an identifier, or a number
in front of the rest of the word. -/
theorem leaves_of_word
    (isLead : IsLead inLine lead)
    (nonempty : word ≠ [])
    (points : ∀ d ∈ word, isWordPoint d = true)
    (stop : endsWord c = true)
    (outside : isNumeralPoint c = false)
    (done : flatLeaves? (n + 1) [] inLine (lead ++ (word ++ c :: rest)) = some leaves) :
    ∃ others,
      (Unicode.isIdentifier word = true ∧ leaves = .ofWord lead word :: others ∧
          flatLeaves? n [] true (c :: rest) = some others) ∨
        ∃ number tail, numeral? word = some (number, tail) ∧
          leaves = .ofNumber lead number :: others ∧
            flatLeaves? n [] true (tail ++ c :: rest) = some others := by
  have starts : (word ++ c :: rest).head?.any startsLeaf = true := startsLeaf_word nonempty points
  -- A word with a digit in front is never read as a word, only as a number with a rest.
  by_cases digit : startsDigit word = true
  · have numeral : leafAt? (word ++ c :: rest) =
        (numeral? (word ++ c :: rest)).map fun (text, after) =>
          (⟨.number, text, [], false⟩, after) := by
      unfold leafAt?
      rw [startsDigit_append nonempty, digit]
      rfl
    cases number : numeral? (word ++ c :: rest) with
    | none =>
        rw [number] at numeral
        rw [flatLeaves?_eq_none isLead starts numeral] at done
        cases done
    | some found =>
        obtain ⟨own, after⟩ := found
        obtain ⟨tail, inWord, rfl⟩ := exists_of_numeral?_word outside number
        rw [number] at numeral
        rw [flatLeaves?_leaf isLead starts numeral rfl] at done
        obtain ⟨others, behind, rfl⟩ := Option.map_eq_some_iff.mp done
        exact ⟨others, Or.inr ⟨own, tail, inWord, rfl, behind⟩⟩
  · have noDigit : startsDigit word = false := by simpa using digit
    by_cases identifier : Unicode.isIdentifier word = true
    · rw [flatLeaves?_word isLead points identifier stop] at done
      obtain ⟨others, behind, rfl⟩ := Option.map_eq_some_iff.mp done
      exact ⟨others, Or.inl ⟨identifier, rfl, behind⟩⟩
    · have missing : leafAt? (word ++ c :: rest) = none := by
        rw [leafAt?_word nonempty points noDigit stop, if_neg identifier]
      rw [flatLeaves?_eq_none isLead starts missing] at done
      cases done

end RecordGen.Source
