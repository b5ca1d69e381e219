import RecordGen.Proofs.Source.Leaves
import RecordGen.Source.Scan

/-!
# Lines of leaves

Texts of one line after the other, without brackets: how each line is taken off the front of the text,
and how the blocks are found from the margins of the lines.
-/

namespace RecordGen.Source

variable {inLine : Bool} {c : CodePoint} {t lead word rest : Text} {leaves : List Leaf}

/-! ## Taking leaves off a text -/

/-- The text outside of brackets has the leaves. -/
def Scans (inLine : Bool) (t : Text) (leaves : List Leaf) : Prop :=
  ∃ n, flatLeaves? n [] inLine t = some leaves

theorem Scans.exists_succ
    (scans : Scans inLine t leaves) :
    ∃ n, flatLeaves? (n + 1) [] inLine t = some leaves := by
  obtain ⟨n, done⟩ := scans
  cases n with
  | zero => cases done
  | succ n => exact ⟨n, done⟩

theorem Scans.leaf
    {leaf : Leaf} {after : Text}
    (isLead : IsLead inLine lead)
    (starts : t.head?.any startsLeaf = true)
    (found : leafAt? t = some (leaf, after))
    (opens : openBrackets? [] leaf = some [])
    (scans : Scans inLine (lead ++ t) leaves) :
    ∃ others, leaves = { leaf with lead } :: others ∧ Scans true after others := by
  obtain ⟨n, done⟩ := scans.exists_succ
  rw [flatLeaves?_leaf isLead starts found opens] at done
  obtain ⟨others, behind, rfl⟩ := Option.map_eq_some_iff.mp done
  exact ⟨others, rfl, n, behind⟩

theorem Scans.ending
    (scans : Scans true (CodePoint.lineFeed :: t) leaves) :
    ∃ others, leaves = .ending :: others ∧ Scans false t others := by
  obtain ⟨n, done⟩ := scans.exists_succ
  rw [flatLeaves?_ending] at done
  obtain ⟨others, behind, rfl⟩ := Option.map_eq_some_iff.mp done
  exact ⟨others, rfl, n, behind⟩

theorem Scans.finish
    (scans : Scans false [] leaves) :
    leaves = [Leaf.last] := by
  obtain ⟨n, done⟩ := scans.exists_succ
  rw [flatLeaves?_finish] at done
  exact (Option.some.inj done).symm

theorem Scans.identifier
    (isLead : IsLead inLine lead)
    (points : ∀ d ∈ word, isWordPoint d = true)
    (identifier : Unicode.isIdentifier word = true)
    (stop : endsWord c = true)
    (scans : Scans inLine (lead ++ (word ++ c :: rest)) leaves) :
    ∃ others, leaves = .ofWord lead word :: others ∧ Scans true (c :: rest) others := by
  obtain ⟨n, done⟩ := scans.exists_succ
  rw [flatLeaves?_word isLead points identifier stop] at done
  obtain ⟨others, behind, rfl⟩ := Option.map_eq_some_iff.mp done
  exact ⟨others, rfl, n, behind⟩

/-- The leaf ends neither a line nor a block nor the text. -/
def Leaf.inside (l : Leaf) : Bool := !l.isMargin && l.kind ≠ .finish

theorem Leaf.kind_of_inside
    {l : Leaf}
    (inside : l.inside = true) :
    l.kind ≠ .lineEnd ∧ l.kind ≠ .dedent ∧ l.kind ≠ .finish := by
  simp only [Leaf.inside, isMargin, Bool.and_eq_true, Bool.not_eq_true', Bool.or_eq_false_iff,
    decide_eq_false_iff_not, decide_eq_true_eq] at inside
  exact ⟨inside.1.1.1, inside.1.2, inside.2⟩

/-- What the rest of a word behind a number is: nothing, a word, or further numbers. -/
inductive IsSplit : List Leaf → Prop
  | nil : IsSplit []
  | single {l : Leaf} : l.kind = .word → IsSplit [l]
  | number {l : Leaf} {others : List Leaf} :
      l.kind = .number → IsSplit others → IsSplit (l :: others)

/-- What a word is scanned as: the word itself, which is then an identifier, or a number and the
rest of the word. If there is no rest, the word is one number. -/
inductive IsScan (lead word : Text) : List Leaf → Prop
  | whole : Unicode.isIdentifier word = true → IsScan lead word [.ofWord lead word]
  | number {number : Text} {others : List Leaf} :
      IsSplit others → (others = [] → number = word ∧ isNumeral word = true) →
        IsScan lead word (.ofNumber lead number :: others)

theorem IsSplit.inside
    {own : List Leaf}
    (split : IsSplit own) :
    own.all Leaf.inside = true := by
  induction split with
  | nil => rfl
  | single word => simp [Leaf.inside, Leaf.isMargin, word]
  | number number _ inductionHypothesis =>
      simpa [Leaf.inside, Leaf.isMargin, number] using inductionHypothesis

theorem IsScan.isSplit
    {own : List Leaf}
    (scan : IsScan lead word own) :
    IsSplit own := by
  cases scan with
  | whole identifier => exact .single rfl
  | number split whole => exact .number rfl split

theorem IsScan.ne_nil
    {own : List Leaf}
    (scan : IsScan lead word own) :
    own ≠ [] := by
  cases scan <;> exact List.cons_ne_nil _ _

theorem exists_isScan
    {n : Nat}
    (isLead : IsLead inLine lead)
    (nonempty : word ≠ [])
    (points : ∀ d ∈ word, isWordPoint d = true)
    (stop : endsWord c = true)
    (outside : isNumeralPoint c = false)
    (done : flatLeaves? n [] inLine (lead ++ (word ++ c :: rest)) = some leaves) :
    ∃ own others, leaves = own ++ others ∧ IsScan lead word own ∧ Scans true (c :: rest) others := by
  -- Not on the word: a number takes an unknown part of it, and the rest is cut like a new word.
  induction n generalizing inLine lead word leaves with
  | zero => cases done
  | succ n inductionHypothesis =>
      obtain ⟨others, ⟨identifier, rfl, behind⟩ | ⟨number, tail, numeral, rfl, behind⟩⟩ :=
        leaves_of_word isLead nonempty points stop outside done
      · exact ⟨_, others, rfl, .whole identifier, n, behind⟩
      · have parts := append_of_numeral? numeral
        by_cases finished : tail = []
        · subst finished
          rw [List.append_nil] at parts
          subst parts
          have whole : isNumeral number = true := by simp [isNumeral, numeral]
          exact ⟨_, others, rfl, .number .nil (fun _ => ⟨rfl, whole⟩), n, behind⟩
        · have later : ∀ d ∈ tail, isWordPoint d = true := fun d member =>
            points d (parts ▸ List.mem_append_right number member)
          obtain ⟨own, last, rfl, scan, further⟩ :=
            inductionHypothesis isLead_nil finished later behind
          exact ⟨_, last, rfl, .number scan.isSplit (fun empty => absurd empty scan.ne_nil), further⟩

theorem Scans.split
    (isLead : IsLead inLine lead)
    (nonempty : word ≠ [])
    (points : ∀ d ∈ word, isWordPoint d = true)
    (stop : endsWord c = true)
    (outside : isNumeralPoint c = false)
    (scans : Scans inLine (lead ++ (word ++ c :: rest)) leaves) :
    ∃ own others, leaves = own ++ others ∧ IsScan lead word own ∧ Scans true (c :: rest) others := by
  obtain ⟨n, done⟩ := scans
  exact exists_isScan isLead nonempty points stop outside done

/-! ## Code points outside of code -/

/-- No leaf starts with the code point, and it neither separates leaves nor ends a line. -/
def isForeign (c : CodePoint) : Bool :=
  startsLeaf c && endsWord c && c ≠ CodePoint.carriageReturn &&
    marks.all fun mark => mark.head? ≠ some c

theorem isNumeralPoint_of_isForeign
    (foreign : isForeign c = true) :
    isNumeralPoint c = false := by
  simp only [isForeign, endsWord, Bool.and_eq_true, Bool.not_eq_true', decide_eq_true_eq,
    List.all_eq_true] at foreign
  obtain ⟨⟨⟨-, noWord, -⟩, -⟩, noMark⟩ := foreign
  have different (mark : CodePoint) (member : [mark] ∈ marks) : c ≠ mark := by
    rintro rfl
    exact noMark _ member rfl
  simp [isNumeralPoint, noWord, different (CodePoint.ofChar '.') (by decide),
    different (CodePoint.ofChar '+') (by decide), different (CodePoint.ofChar '-') (by decide)]

theorem leafAt?_foreign
    (foreign : isForeign c = true) :
    leafAt? (c :: rest) = none := by
  simp only [isForeign, endsWord, Bool.and_eq_true, Bool.not_eq_true', decide_eq_true_eq,
    List.all_eq_true] at foreign
  obtain ⟨⟨⟨-, noWord, noQuote⟩, -⟩, noMark⟩ := foreign
  have noDigit : startsDigit (c :: rest) = false := by
    rw [Bool.eq_false_iff]
    intro digit
    have point : isWordPoint c = true := by
      simp [isWordPoint, show c.isAsciiDigit = true from digit]
    rw [point] at noWord
    cases noWord
  have noFraction : startsFraction (c :: rest) = false := by
    have different : c ≠ CodePoint.ofChar '.' := by
      rintro rfl
      exact noMark (.ofString ".") (by decide) rfl
    simp [startsFraction, different]
  have missing : (marks.find? fun mark => mark.isPrefixOf (c :: rest)) = none := by
    rw [List.find?_eq_none]
    intro mark member starts
    have nonempty : ∀ mark ∈ marks, mark ≠ [] := by decide
    obtain ⟨d, tail, rfl⟩ := List.exists_cons_of_ne_nil (nonempty mark member)
    simp only [List.isPrefixOf_cons_cons, Bool.and_eq_true, beq_iff_eq] at starts
    exact noMark _ member (by rw [List.head?_cons, starts.1])
  unfold leafAt?
  simp [noDigit, noFraction, noWord, startsLiteral, noQuote, missing]

/-- Words that a foreign code point follows are not scanned. -/
theorem Scans.not_foreign
    (isLead : IsLead inLine lead)
    (points : ∀ d ∈ word, isWordPoint d = true)
    (foreign : isForeign c = true) :
    ¬ Scans inLine (lead ++ (word ++ c :: rest)) leaves := by
  intro scans
  have starts : (c :: rest).head?.any startsLeaf = true := by
    simp only [isForeign, Bool.and_eq_true] at foreign
    exact foreign.1.1.1
  have stop : endsWord c = true := by
    simp only [isForeign, Bool.and_eq_true] at foreign
    exact foreign.1.1.2
  have alone {inLine : Bool} {lead : Text} {leaves : List Leaf} (isLead : IsLead inLine lead) :
      ¬ Scans inLine (lead ++ c :: rest) leaves := by
    intro scans
    obtain ⟨n, done⟩ := scans.exists_succ
    rw [flatLeaves?_eq_none isLead starts (leafAt?_foreign foreign)] at done
    cases done
  by_cases nonempty : word = []
  · subst nonempty
    exact alone isLead scans
  · obtain ⟨own, others, -, -, behind⟩ := scans.split isLead nonempty points stop
      (isNumeralPoint_of_isForeign foreign)
    exact alone isLead_nil behind

/-! ## Strings -/

theorem literalBody?_append
    {quote : CodePoint} {body : Text} {n : Nat}
    (free : ∀ d ∈ body, d ≠ quote ∧ d ≠ backslash ∧ d ≠ CodePoint.lineFeed)
    (enough : body.length < n) :
    literalBody? [quote] n (body ++ quote :: rest) = some (body, rest) := by
  induction body generalizing n with
  | nil =>
      obtain ⟨n, rfl⟩ := Nat.exists_eq_add_of_lt enough
      simp [literalBody?]
  | cons d body inductionHypothesis =>
      obtain ⟨⟨noQuote, noJoint, noLine⟩, later⟩ := List.forall_mem_cons.mp free
      cases n with
      | zero => cases enough
      | succ n =>
          have behind := inductionHypothesis later (Nat.lt_of_succ_lt_succ enough)
          simp [literalBody?, noQuote.symm, noJoint, noLine, behind]

/-- A string in double quotes. -/
def quotedText (body : Text) : Text := doubleQuote :: body ++ [doubleQuote]

theorem quoted?_quotedText
    {body : Text}
    (nonempty : body ≠ [])
    (free : ∀ d ∈ body, d ≠ doubleQuote ∧ d ≠ backslash ∧ d ≠ CodePoint.lineFeed) :
    quoted? [] (quotedText body ++ rest) = some (⟨[], [doubleQuote], body⟩, rest) := by
  obtain ⟨d, others, rfl⟩ := List.exists_cons_of_ne_nil nonempty
  have different : d ≠ doubleQuote := (free d List.mem_cons_self).1
  have opened : openingQuote? (quotedText (d :: others) ++ rest) = some [doubleQuote] := by
    simp [openingQuote?, quotedText, isQuoteMark, different]
  have spelled : (quotedText (d :: others) ++ rest).drop [doubleQuote].length =
      d :: others ++ doubleQuote :: rest := by
    simp [quotedText]
  have closed := @literalBody?_append rest doubleQuote (d :: others)
    ((quotedText (d :: others) ++ rest).length + 1) free (by simp [quotedText]; omega)
  rw [quoted?, opened, Option.bind_eq_bind, Option.bind_some, spelled, closed]
  rfl

theorem leafAt?_quoted
    {body : Text}
    (nonempty : body ≠ [])
    (free : ∀ d ∈ body, d ≠ doubleQuote ∧ d ≠ backslash ∧ d ≠ CodePoint.lineFeed) :
    leafAt? (quotedText body ++ rest) = some (⟨.string, quotedText body, [], false⟩, rest) := by
  have unnumbered : (startsDigit (quotedText body ++ rest) ||
      startsFraction (quotedText body ++ rest)) = false := rfl
  have unlettered : (quotedText body ++ rest).takeWhile isWordPoint = [] := rfl
  have starts : startsLiteral [] (quotedText body ++ rest) = true := rfl
  rw [leafAt?, unnumbered]
  simp only [Bool.false_eq_true, ↓reduceIte, unlettered, List.length_nil, List.drop_zero, starts,
    quoted?_quotedText nonempty free]
  rfl

/-! ## Lines of words -/

/-- The leaves of words with single spaces between them. -/
def wordLeaves (lead : Text) : List Text → List Leaf
  | [] => []
  | word :: words => .ofWord lead word :: wordLeaves [CodePoint.space] words

theorem isLead_space : IsLead inLine [CodePoint.space] :=
  isLead_gaps (by simp [isGap])

theorem Scans.words
    {words : List Text}
    (isLead : IsLead inLine lead)
    (nonempty : words ≠ [])
    (identifiers : ∀ word ∈ words,
      Unicode.isIdentifier word = true ∧ ∀ d ∈ word, isWordPoint d = true)
    (scans : Scans inLine (lead ++ (Text.join [CodePoint.space] words ++ CodePoint.lineFeed :: rest))
      leaves) :
    ∃ others, leaves = wordLeaves lead words ++ .ending :: others ∧ Scans false rest others := by
  induction words generalizing inLine lead leaves with
  | nil => exact absurd rfl nonempty
  | cons word words inductionHypothesis =>
      obtain ⟨⟨identifier, points⟩, later⟩ := List.forall_mem_cons.mp identifiers
      cases words with
      | nil =>
          obtain ⟨others, rfl, behind⟩ := scans.identifier isLead points identifier rfl
          obtain ⟨last, rfl, further⟩ := behind.ending
          exact ⟨last, rfl, further⟩
      | cons next words =>
          rw [Text.join, List.append_assoc, List.append_assoc] at scans
          obtain ⟨others, rfl, behind⟩ := scans.identifier isLead points identifier rfl
          obtain ⟨last, rfl, further⟩ :=
            inductionHypothesis isLead_space (List.cons_ne_nil _ _) later behind
          exact ⟨last, rfl, further⟩

/-! ## Blocks -/

/-- The leaves make a line behind a margin. -/
structure IsLine (margin : Margin) (own : List Leaf) : Prop where
  exists_first : ∃ first inner, own = first :: inner ++ [Leaf.ending] ∧
    marginOf .none 0 false first.lead = margin ∧ (first :: inner).all Leaf.inside = true

variable {margin : Margin} {own others : List Leaf} {level : Level} {levels outer : List Level}

theorem blockLeaves?_inside
    {inner : List Leaf}
    (inside : inner.all Leaf.inside = true) :
    blockLeaves? levels false (inner ++ Leaf.ending :: others) =
      (blockLeaves? levels true others).map fun rest => inner ++ Leaf.ending :: rest := by
  induction inner with
  | nil =>
      have notLast : Leaf.ending.kind ≠ .finish := by decide
      have ends : decide (Leaf.ending.kind = .lineEnd) = true := rfl
      rw [List.nil_append, blockLeaves?, if_neg notLast, if_neg Bool.false_ne_true, ends]
      cases blockLeaves? levels true others <;> rfl
  | cons l inner inductionHypothesis =>
      obtain ⟨first, later⟩ := Bool.and_eq_true_iff.mp inside
      obtain ⟨notEnd, -, notLast⟩ := Leaf.kind_of_inside first
      rw [List.cons_append, blockLeaves?, if_neg notLast, if_neg Bool.false_ne_true]
      simp only [notEnd, decide_false, inductionHypothesis later]
      cases blockLeaves? levels true others <;> rfl

theorem blockLeaves?_enter
    {first : Leaf} {inner before : List Leaf}
    (inside : (first :: inner).all Leaf.inside = true)
    (enters : enterLine? levels first.lead = some (before, first.lead, outer)) :
    blockLeaves? levels true (first :: inner ++ Leaf.ending :: others) =
      (blockLeaves? outer true others).map fun rest =>
        before ++ (first :: inner ++ Leaf.ending :: rest) := by
  obtain ⟨own, later⟩ := Bool.and_eq_true_iff.mp inside
  obtain ⟨notEnd, -, notLast⟩ := Leaf.kind_of_inside own
  rw [List.cons_append, blockLeaves?, if_neg notLast, if_pos rfl, enters]
  simp only [Option.bind_eq_bind, Option.bind_some, notEnd, decide_false,
    blockLeaves?_inside later]
  cases blockLeaves? outer true others <;> rfl

theorem blockLeaves?_same
    (line : IsLine level.margin own) :
    blockLeaves? (level :: outer) true (own ++ others) =
      (blockLeaves? (level :: outer) true others).map fun rest => own ++ rest := by
  obtain ⟨first, inner, rfl, same, inside⟩ := line.exists_first
  have enters : enterLine? (level :: outer) first.lead = some ([], first.lead, level :: outer) := by
    simp [enterLine?, same, leaveBlocks]
  simp only [List.append_assoc, List.cons_append, List.nil_append]
  have entered := @blockLeaves?_enter others _ _ first inner _ inside enters
  simpa using entered

theorem blockLeaves?_deeper
    (line : IsLine margin own)
    (deeper : level.margin.columns < margin.columns ∧ level.margin.narrow < margin.narrow)
    (room : outer.length + 1 < maxLevels) :
    ∃ gaps, blockLeaves? (level :: outer) true (own ++ others) =
      (blockLeaves? (⟨margin, gaps⟩ :: level :: outer) true others).map fun rest =>
        Leaf.opening :: (own ++ rest) := by
  obtain ⟨first, inner, rfl, same, inside⟩ := line.exists_first
  have enters : ∃ gaps, enterLine? (level :: outer) first.lead =
      some ([Leaf.opening], first.lead, ⟨margin, gaps⟩ :: level :: outer) := by
    simp [enterLine?, same, deeper, room, Leaf.opening]
  obtain ⟨gaps, enters⟩ := enters
  have entered := @blockLeaves?_enter others _ _ first inner _ inside enters
  exact ⟨gaps, by simpa using entered⟩

theorem blockLeaves?_lines
    {lines : List (List Leaf)}
    (isLine : ∀ own ∈ lines, IsLine level.margin own) :
    blockLeaves? (level :: outer) true (lines.flatten ++ others) =
      (blockLeaves? (level :: outer) true others).map fun rest => lines.flatten ++ rest := by
  induction lines with
  | nil => simp
  | cons own lines inductionHypothesis =>
      obtain ⟨first, later⟩ := List.forall_mem_cons.mp isLine
      rw [List.flatten_cons, List.append_assoc, blockLeaves?_same first, inductionHypothesis later,
        Option.map_map]
      simp [Function.comp_def]

theorem leaveBlocks_last
    {gaps : Nat}
    (deep : 0 < margin.columns) :
    leaveBlocks .none [] [⟨margin, gaps⟩, ⟨.none, 0⟩] = ([Leaf.closing], [], [⟨.none, 0⟩]) := by
  have left : Margin.none.columns < margin.columns := deep
  have stays : ¬ Margin.none.columns < Margin.none.columns := Nat.lt_irrefl _
  simp only [leaveBlocks, left, stays, ↓reduceIte]
  rfl

/-- A text whose last lines are a block is cut as told by the margins. -/
theorem blockLeaves?_body
    {front body : List (List Leaf)}
    (frontLines : ∀ own ∈ front, IsLine .none own)
    (bodyLines : ∀ own ∈ body, IsLine margin own)
    (deep : 0 < margin.columns ∧ 0 < margin.narrow)
    (nonempty : body ≠ []) :
    blockLeaves? [⟨.none, 0⟩] true (front.flatten ++ (body.flatten ++ [Leaf.last])) =
      some (front.flatten ++ Leaf.opening :: (body.flatten ++ [Leaf.closing, Leaf.last])) := by
  obtain ⟨own, lines, rfl⟩ := List.exists_cons_of_ne_nil nonempty
  obtain ⟨first, later⟩ := List.forall_mem_cons.mp bodyLines
  have outside := @blockLeaves?_lines ((own :: lines).flatten ++ [Leaf.last]) ⟨.none, 0⟩ [] front
    frontLines
  obtain ⟨gaps, entered⟩ := @blockLeaves?_deeper margin own (lines.flatten ++ [Leaf.last])
    ⟨.none, 0⟩ [] first deep (by decide)
  have inBlock := @blockLeaves?_lines [Leaf.last] ⟨margin, gaps⟩ [⟨.none, 0⟩] lines later
  have ended : blockLeaves? [⟨margin, gaps⟩, ⟨.none, 0⟩] true [Leaf.last] =
      some [Leaf.closing, Leaf.last] := by
    have isLast : Leaf.last.kind = .finish := rfl
    rw [blockLeaves?, if_pos isLast]
    simp only [show Leaf.last.lead = [] from rfl, leaveBlocks_last deep.1]
    rfl
  rw [outside, List.flatten_cons, List.append_assoc, entered, inBlock, ended]
  simp

end RecordGen.Source
