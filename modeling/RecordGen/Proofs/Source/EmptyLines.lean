import RecordGen.Proofs.Source.LineTexts

/-!
# The empty lines of a module

Between imports stand the empty lines that somebody wrote, up to two; two stand in front of the decorator
behind them, none in front of the class behind the decorator, and none between the statements of its
body. Lines that come in this order, with these empty lines between them, are laid out with them.
-/

namespace RecordGen.Source

variable {style : LineStyle} {above plan : LinePlan} {line : LogicalLine} {written : Text}

/-- A line follows another one in a module of imports and one class, with the empty lines that belong
between them. -/
inductive Succeeds (above plan : LinePlan) : Prop
  | imports : above.role = .comment ∨ above.role = .imports → plan.role = .imports →
      plan.depth = 0 → plan.blanks ≤ 2 → Succeeds above plan
  | decorates : above.role = .imports → plan.role = .decorates → plan.depth = 0 → plan.blanks = 2 →
      Succeeds above plan
  | opensClass : above.role = .decorates → plan.role = .opensClass → plan.depth = 0 →
      plan.blanks = 0 → Succeeds above plan
  | plain : above.role = .opensClass ∨ above.role = .plain → plan.role = .plain →
      plan.depth = 1 → plan.blanks = 0 → Succeeds above plan

/-- What a line adds to a text: the empty lines in front of it, and itself. -/
def LinePlan.entry (plan : LinePlan) : Text :=
  List.replicate plan.blanks CodePoint.lineFeed ++ Text.line plan.text

namespace Spacer

variable {s : Spacer}

def text (style : LineStyle) (s : Spacer) : Text :=
  s.lines.reverse.flatMap fun l => l.text (l.line.broken style)

/-- The spacer stands behind a line of a module, which no empty lines follow. The class is the only
definition, and only its body stands in it. -/
structure Stands (style : LineStyle) (s : Spacer) (above : LinePlan) (written : Text) : Prop where
  exists_last : ∃ last others, s.lines = last :: others ∧ last.after = 0 ∧
    last.line.HasRole above.role
  definitions : ∀ d ∈ s.definitions, d.depth = 0 ∧
    (above.role = .opensClass ∨ above.role = .plain)
  text : s.text style = written

theorem endsDocstring_eq_false
    {last : SpacedLine}
    (noDocstring : last.line.isDocstring = false)
    (others : List SpacedLine)
    (definitions : List Line)
    (leading : Option Nat) :
    endsDocstring ⟨last :: others, definitions, leading⟩ = false := by
  simp [endsDocstring, noDocstring]

/-- The empty lines that somebody wrote in front of a line, up to one in a block and two outside. -/
def asked (line : LogicalLine) : Nat := min line.blanks (if line.line.depth = 0 then 2 else 1)

variable {last : SpacedLine} {others : List SpacedLine}

/-- A statement that ends no definition keeps the empty lines in front of it. -/
theorem add_statement
    (lines : s.lines = last :: others)
    (after : last.after = 0)
    (noDocstring : last.line.isDocstring = false)
    (noEnd : (s.definitions.takeWhile fun d => line.line.depth ≤ d.depth) = [])
    (statement : line.line.isDefinition = false ∧ line.line.isDocstring = false)
    (joined : last.line.isImport = true → line.line.isImport = true) :
    (s.add line).lines = ⟨line.line, asked line, 0, line.formFeed && line.line.depth = 0⟩ :: s.lines ∧
      (s.add line).definitions = s.definitions := by
  have noClass : line.line.isFunction = false ∧ line.line.isClass = false := by
    have none := statement.1
    simp only [Line.isDefinition, Bool.or_eq_false_iff] at none
    exact ⟨none.1.2, none.2⟩
  have around (before : Nat) : aroundStatement last.line line.line before = (before, 0) := by
    rw [aroundStatement, statement.2]
    cases imported : last.line.isImport with
    | true => simp [joined imported]
    | false => simp
  simp only [add, noEnd, noClass, lines, statement.1, Bool.or_self, Bool.false_eq_true, ↓reduceIte,
    List.getLast?_nil, Option.map_none, Option.getD_none, List.length_nil, List.drop_zero, around,
    endsDocstring_eq_false noDocstring, Bool.false_and, after, asked]
  simp

/-- A definition in a text of its own stands behind an import apart, and behind a decorator closely. -/
theorem add_definition
    (lines : s.lines = last :: others)
    (after : last.after = 0)
    (noDocstring : last.line.isDocstring = false)
    (outside : s.definitions = [])
    (definition : line.line.isDefinition = true)
    (noFunction : last.line.isFunction = false ∧ last.line.isComment = false)
    (margin : line.line.depth = 0) :
    (s.add line).lines =
        ⟨line.line, (if last.line.isDecorator then 0 else 2 : Nat), 0, line.formFeed⟩ :: s.lines ∧
      (s.add line).definitions =
        if line.line.isFunction || line.line.isClass then [line.line] else [] := by
  have before (definitions : List Line) (leading : Option Nat) (blanks : Nat) (hadBlanks : Bool) :
      beforeDefinition ⟨last :: others, definitions, leading⟩ last line.line blanks hadBlanks =
        (if last.line.isDecorator then 0 else 2, ⟨last :: others, definitions, leading⟩) := by
    have noStub : last.line.isStubFunction = false := by
      rw [Line.isStubFunction, noFunction.1, Bool.false_and]
    cases decorated : last.line.isDecorator with
    | true => simp [beforeDefinition, decorated]
    | false => simp [beforeDefinition, decorated, margin, noFunction.2, noStub]
  cases defines : line.line.isFunction || line.line.isClass with
  | true =>
      simp only [add, outside, List.takeWhile_nil, lines, definition, defines, ↓reduceIte,
        List.getLast?_nil, Option.map_none, Option.getD_none, List.length_nil, List.drop_zero, before,
        endsDocstring_eq_false noDocstring, Bool.false_and, Bool.false_eq_true, after]
      simp [margin]
  | false =>
      simp only [add, outside, List.takeWhile_nil, lines, definition, defines, ↓reduceIte,
        List.getLast?_nil, Option.map_none, Option.getD_none, List.length_nil, List.drop_zero, before,
        endsDocstring_eq_false noDocstring, Bool.false_and, Bool.false_eq_true, after]
      simp [margin]

theorem text_of_lines
    {next : Spacer}
    (lines : next.lines = ⟨line.line, (plan.blanks : Nat), 0, false⟩ :: s.lines)
    (follows : line.Follows style plan)
    (fits : ((Unicode.textWidth plan.text : Nat) : Int) ≤ style.lineLength) :
    next.text style = s.text style ++ plan.entry := by
  rw [text, lines, List.reverse_cons, List.flatMap_append, text, List.flatMap_singleton,
    SpacedLine.text, follows.broken fits]
  simp [SpacedLine.emptyLines, LinePlan.entry]

namespace Stands

theorem definitions_eq_nil
    (stands : s.Stands style above written)
    (outside : above.role ≠ .opensClass ∧ above.role ≠ .plain) :
    s.definitions = [] := by
  refine List.eq_nil_iff_forall_not_mem.mpr fun d member => ?_
  rcases (stands.definitions d member).2 with same | same
  · exact outside.1 same
  · exact outside.2 same

theorem next
    {next : Spacer}
    (stands : s.Stands style above written)
    (follows : line.Follows style plan)
    (fits : ((Unicode.textWidth plan.text : Nat) : Int) ≤ style.lineLength)
    (added : next.lines = ⟨line.line, (plan.blanks : Nat), 0, false⟩ :: s.lines)
    (inside : ∀ d ∈ next.definitions, d.depth = 0 ∧
      (plan.role = .opensClass ∨ plan.role = .plain)) :
    next.Stands style plan (written ++ plan.entry) :=
  ⟨⟨_, _, added, rfl, follows.role⟩, inside, by rw [text_of_lines added follows fits, stands.text]⟩

theorem add_statement
    (stands : s.Stands style above written)
    (follows : line.Follows style plan)
    (fits : ((Unicode.textWidth plan.text : Nat) : Int) ≤ style.lineLength)
    (kind : plan.role = .imports ∨ plan.role = .plain)
    (joined : above.role = .imports → plan.role = .imports)
    (deep : ∀ d ∈ s.definitions, plan.role = .plain ∧ plan.depth ≠ 0)
    (asked : asked line = plan.blanks) :
    (s.add line).Stands style plan (written ++ plan.entry) := by
  obtain ⟨last, others, lines, after, lastRole⟩ := stands.exists_last
  have statement : line.line.isDefinition = false ∧ line.line.isDocstring = false := by
    have decorates := follows.role.decorates
    have opensClass := follows.role.opensClass
    rcases kind with same | same <;> rw [same] at decorates opensClass <;>
      simpa [Line.isDefinition, follows.role.noFunction, decorates] using
        ⟨opensClass, follows.role.noDocstring⟩
  -- Only a line at the margin would end the class.
  have noEnd : (s.definitions.takeWhile fun d => line.line.depth ≤ d.depth) = [] := by
    cases around : s.definitions with
    | nil => rfl
    | cons d others =>
        have member : d ∈ s.definitions := by rw [around]; exact List.mem_cons_self
        have margin := (stands.definitions d member).1
        have inner : line.line.depth ≠ 0 := by rw [follows.depth]; exact (deep d member).2
        simp [margin, inner]
  have imported : last.line.isImport = true → line.line.isImport = true := by
    rw [lastRole.imports, follows.role.imports, decide_eq_true_iff, decide_eq_true_iff]
    exact joined
  obtain ⟨added, same⟩ :=
    Spacer.add_statement lines after lastRole.noDocstring noEnd statement imported
  refine stands.next follows fits ?_ ?_
  · rw [added, asked, follows.formFeed]
    rfl
  · rw [same]
    exact fun d member => ⟨(stands.definitions d member).1, .inr (deep d member).1⟩

theorem add_definition
    (stands : s.Stands style above written)
    (follows : line.Follows style plan)
    (fits : ((Unicode.textWidth plan.text : Nat) : Int) ≤ style.lineLength)
    (previous : above.role = .imports ∨ above.role = .decorates)
    (kind : plan.role = .decorates ∨ plan.role = .opensClass)
    (margin : plan.depth = 0)
    (blanks : plan.blanks = if above.role = .decorates then 0 else 2) :
    (s.add line).Stands style plan (written ++ plan.entry) := by
  obtain ⟨last, others, lines, after, lastRole⟩ := stands.exists_last
  have none := stands.definitions_eq_nil (by rcases previous with same | same <;> rw [same] <;> decide)
  have definition : line.line.isDefinition = true := by
    rcases kind with same | same <;>
      simp [Line.isDefinition, follows.role.decorates, follows.role.opensClass, same]
  have noComment : last.line.isComment = false := by
    rcases previous with same | same <;> rw [lastRole.comment, same] <;> rfl
  obtain ⟨added, same⟩ := Spacer.add_definition lines after lastRole.noDocstring none definition
    ⟨lastRole.noFunction, noComment⟩ (follows.depth.trans margin)
  refine stands.next follows fits ?_ ?_
  · rw [added, blanks, follows.formFeed, lastRole.decorates]
    simp only [decide_eq_true_iff]
  · rw [same, follows.role.noFunction, follows.role.opensClass]
    rcases kind with same | same <;> simp [same, follows.depth, margin]

/-- A line of a module is laid out with the empty lines in front of it. -/
theorem add
    (stands : s.Stands style above written)
    (succeeds : Succeeds above plan)
    (follows : line.Follows style plan)
    (fits : ((Unicode.textWidth plan.text : Nat) : Int) ≤ style.lineLength) :
    (s.add line).Stands style plan (written ++ plan.entry) := by
  cases succeeds with
  | imports previous kind margin few =>
      have none := stands.definitions_eq_nil
        (by rcases previous with same | same <;> rw [same] <;> decide)
      refine stands.add_statement follows fits (.inl kind) (fun _ => kind) (by simp [none]) ?_
      rw [asked, follows.depth, follows.blanks, if_pos margin]
      exact Nat.min_eq_left few
  | decorates previous kind margin blanks =>
      exact stands.add_definition follows fits (.inl previous) (.inl kind) margin
        (by rw [blanks, previous]; rfl)
  | opensClass previous kind margin blanks =>
      exact stands.add_definition follows fits (.inr previous) (.inr kind) margin
        (by rw [blanks, previous]; rfl)
  | plain previous kind margin blanks =>
      refine stands.add_statement follows fits (.inr kind) (fun imported => ?_)
        (fun _ _ => ⟨kind, by rw [margin]; decide⟩) ?_
      · rcases previous with same | same <;> rw [same] at imported <;> cases imported
      · rw [asked, follows.blanks, blanks, Nat.zero_min]

end Stands

/-- The first line of a text is laid out without empty lines in front of it. -/
theorem stands_first
    (follows : line.Follows style plan)
    (fits : ((Unicode.textWidth plan.text : Nat) : Int) ≤ style.lineLength)
    (noClass : plan.role ≠ .opensClass)
    (blanks : plan.blanks = 0) :
    (Spacer.add {} line).Stands style plan plan.entry := by
  have role := follows.role
  have opensClass : line.line.isClass = false := by
    rw [role.opensClass]
    exact decide_eq_false noClass
  have added : (Spacer.add {} line).lines = ⟨line.line, (plan.blanks : Nat), 0, false⟩ :: [] := by
    rw [blanks]
    simp [Spacer.add, role.noFunction, opensClass, follows.formFeed]
  have none : (Spacer.add {} line).definitions = [] := by
    simp [Spacer.add, role.noFunction, opensClass]
  exact ⟨⟨_, _, added, rfl, role⟩, by simp [none], @text_of_lines _ _ _ {} _ added follows fits⟩

/-- Lines of a module are laid out one after another. -/
theorem Stands.foldl
    {lines : List LogicalLine} {plans : List LinePlan}
    (stands : s.Stands style above written)
    (aligned : List.Forall₂ (LogicalLine.Follows style) lines plans)
    (succeed : (above :: plans).IsChain Succeeds)
    (fits : ∀ plan ∈ plans, ((Unicode.textWidth plan.text : Nat) : Int) ≤ style.lineLength) :
    ∃ last, (lines.foldl Spacer.add s).Stands style last
      (written ++ plans.flatMap LinePlan.entry) := by
  induction aligned generalizing s above written with
  | nil => exact ⟨above, by simpa using stands⟩
  | @cons line plan lines plans follows _ inductionHypothesis =>
      obtain ⟨own, later⟩ := List.isChain_cons_cons.mp succeed
      obtain ⟨ownFits, laterFit⟩ := List.forall_mem_cons.mp fits
      obtain ⟨last, done⟩ := inductionHypothesis (stands.add own follows ownFits) later laterFit
      exact ⟨last, by simpa using done⟩

end Spacer

/-- A module whose lines come in order is laid out as its lines are planned. -/
theorem text_spacedLines
    {line : LogicalLine} {plan : LinePlan} {lines : List LogicalLine} {plans : List LinePlan}
    (aligned : List.Forall₂ (LogicalLine.Follows style) (line :: lines) (plan :: plans))
    (noClass : plan.role ≠ .opensClass)
    (blanks : plan.blanks = 0)
    (succeed : (plan :: plans).IsChain Succeeds)
    (fits : ∀ other ∈ plan :: plans,
      ((Unicode.textWidth other.text : Nat) : Int) ≤ style.lineLength) :
    ((spacedLines (line :: lines)).flatMap fun l => l.text (l.line.broken style)) =
      (plan :: plans).flatMap LinePlan.entry := by
  obtain ⟨follows, others⟩ := List.forall₂_cons.mp aligned
  obtain ⟨ownFits, laterFit⟩ := List.forall_mem_cons.mp fits
  obtain ⟨_, ⟨last, front, spaced, after, -⟩, -, written⟩ :=
    (Spacer.stands_first follows ownFits noClass blanks).foldl others succeed laterFit
  rw [Spacer.text, spaced] at written
  have same : ({ last with after := 0 } : SpacedLine) = last := by rw [← after]
  rw [spacedLines, List.foldl_cons, spaced, List.flatMap_cons]
  simpa only [same] using written

end RecordGen.Source
