import RecordGen.Proofs.Record.Bindings
import RecordGen.Proofs.Record.CommandLine

/-!
# Lines of a preamble

The preamble of a module has at most two lines that are not blank: a comment, and the line that
switches the evaluation of annotations off. The comment ends with the names of the files of a command,
so it is one line only if no name has a line break. Then nothing but the comment stands before the
line that switches evaluation off, which has to be the first statement of a module.
-/

namespace RecordGen

/-! ## Lines -/

/-- The lines of a source text, whose line breaks are spelled in any way. -/
def sourceLines (t : Text) : List Text := t.unifyLineBreaks.pieces CodePoint.lineFeed

theorem sourceLines_line_append
    {line : Text}
    (whole : CodePoint.lineFeed ∉ line ∧ CodePoint.carriageReturn ∉ line)
    (t : Text) :
    sourceLines (Text.line line ++ t) = line :: sourceLines t := by
  have lineEnd : CodePoint.carriageReturn ≠ CodePoint.lineFeed := by decide
  have free : CodePoint.carriageReturn ∉ Text.line line := by
    simp [Text.line, whole.2, lineEnd]
  rw [sourceLines, Text.unifyLineBreaks_append_of_not_mem free, Text.line, List.append_assoc]
  change Text.pieces CodePoint.lineFeed (line ++ CodePoint.lineFeed :: t.unifyLineBreaks) = _
  rw [Text.pieces_append_mark, Text.pieces_of_not_mem whole.1]
  rfl

def isCommentLine (line : Text) : Bool := (Text.ofString "# ").isPrefixOf line

/-- The lines of a preamble: at most one comment, and behind it at most one line that switches the
evaluation of annotations off. -/
structure IsHeader (commented late : Bool) (lines : List Text) : Prop where
  blank : ∀ line ∈ lines, line = [] ∨ isCommentLine line = true ∨ line = lateAnnotationLine
  comments : lines.countP isCommentLine = commented.toNat
  late : lines.count lateAnnotationLine = late.toNat
  ordered : lines.Pairwise fun line other =>
    isCommentLine other = true → line ≠ lateAnnotationLine

/-- Only blank lines and comments precede the line that switches evaluation off. -/
def LeadsWithLate (lines : List Text) : Prop :=
  ∃ front rest, lines = front ++ lateAnnotationLine :: rest ∧
    ∀ line ∈ front, line = [] ∨ isCommentLine line = true

/-! ## Names of files -/

namespace CommandLine

/-- No name of a file has a line break. -/
def HasOneLineNames (values : Json.Members) : Prop :=
  ∀ name ∈ pathNames, ∀ component, lastComponent? values name = some component →
    CodePoint.lineFeed ∉ component ∧ CodePoint.carriageReturn ∉ component

theorem not_mem_shown
    {values : Json.Members} {c : CodePoint}
    (chosen : HasChoice values)
    (other : c ≠ CodePoint.space ∧ isOptionMark c = false)
    (names : ∀ name ∈ pathNames, ∀ component, lastComponent? values name = some component →
      c ∉ component) :
    c ∉ shown values := by
  intro member
  rcases mem_shown chosen member with blank | option | ⟨name, isPath, component, given, inComponent⟩
  · exact other.1 blank
  · rw [other.2] at option
    cases option
  · exact names name isPath component given inComponent

theorem HasOneLineNames.shown
    {values : Json.Members}
    (names : HasOneLineNames values)
    (chosen : HasChoice values) :
    CodePoint.lineFeed ∉ shown values ∧ CodePoint.carriageReturn ∉ shown values :=
  ⟨not_mem_shown chosen (by decide) fun name isPath component given =>
      (names name isPath component given).1,
    not_mem_shown chosen (by decide) fun name isPath component given =>
      (names name isPath component given).2⟩

end CommandLine

/-! ## Preambles -/

namespace Settings

variable {s : Settings} {tools : Formatter.Toolbox} {commandLine : Text} {schema : Schema}
  {code : Text} {values : Json.Members}

theorem isCommentLine_commentStart (t : Text) : isCommentLine (commentStart ++ t) = true := by
  have start : Text.ofString "# " <+: commentStart := by decide
  exact List.isPrefixOf_iff_prefix.mpr (start.trans (List.prefix_append _ t))

/-- The lines of a preamble in front of others. -/
theorem sourceLines_preamble_append
    (oneLine : s.addGenerationComment.isTruthy = true →
      CodePoint.lineFeed ∉ commandLine ∧ CodePoint.carriageReturn ∉ commandLine)
    (t : Text) :
    sourceLines (s.preamble commandLine ++ t) =
      (if s.addGenerationComment.isTruthy then [commentStart ++ commandLine] else []) ++
        (if s.addGenerationComment.isTruthy && s.useFutureAnnotations.isTruthy then [[]] else []) ++
          (if s.useFutureAnnotations.isTruthy then [lateAnnotationLine] else []) ++
            sourceLines t := by
  have late (u : Text) : sourceLines (Text.line lateAnnotationLine ++ u) =
      lateAnnotationLine :: sourceLines u :=
    sourceLines_line_append (by decide) u
  have blank (u : Text) : sourceLines (CodePoint.lineFeed :: u) = [] :: sourceLines u :=
    @sourceLines_line_append [] (by decide) u
  have comment (commented : s.addGenerationComment.isTruthy = true) (u : Text) :
      sourceLines (Text.line (commentStart ++ commandLine) ++ u) =
        (commentStart ++ commandLine) :: sourceLines u := by
    have fixed : CodePoint.lineFeed ∉ commentStart ∧ CodePoint.carriageReturn ∉ commentStart := by
      decide
    have own := oneLine commented
    exact sourceLines_line_append (by simp [fixed, own]) u
  rw [preamble_eq]
  cases isLate : s.useFutureAnnotations.isTruthy <;>
    cases commented : s.addGenerationComment.isTruthy <;>
      simp [late, blank, comment, commented]

theorem isHeader_preamble_of_oneLine
    (oneLine : s.addGenerationComment.isTruthy = true →
      CodePoint.lineFeed ∉ commandLine ∧ CodePoint.carriageReturn ∉ commandLine) :
    IsHeader s.addGenerationComment.isTruthy s.useFutureAnnotations.isTruthy
      (sourceLines (s.preamble commandLine)) := by
  have lines := sourceLines_preamble_append oneLine []
  have comment := isCommentLine_commentStart commandLine
  have noComment : isCommentLine [] = false ∧ isCommentLine lateAnnotationLine = false := by decide
  have different : commentStart ++ commandLine ≠ lateAnnotationLine := by
    intro same
    rw [same, noComment.2] at comment
    cases comment
  have nonempty : lateAnnotationLine ≠ [] := by decide
  have last : sourceLines [] = [[]] := rfl
  rw [List.append_nil, last] at lines
  rw [lines]
  cases s.useFutureAnnotations.isTruthy <;> cases s.addGenerationComment.isTruthy <;>
    constructor <;>
      simp [comment, noComment, different, nonempty, nonempty.symm]

/-- A module that is not formatted starts with its preamble. -/
theorem exists_append_of_emit
    (unformatted : schema.id ≠ [] →
      ∀ options, s.formatter = .options options → options.enabled.isTruthy = false)
    (emitted : s.emit tools commandLine schema = .ok code) :
    ∃ t, code = s.preamble commandLine ++ t := by
  by_cases named : schema.id = []
  · rw [emit, named] at emitted
    exact ⟨[], by simpa using (Except.ok.inj emitted).symm⟩
  · obtain ⟨d, -, rfl⟩ := exists_declaration_of_emit named (unformatted named) emitted
    split_ifs with empty
    · rw [List.isEmpty_iff.mp empty]
      exact ⟨_, rfl⟩
    · exact ⟨_, List.append_assoc _ _ _⟩

theorem leadsWithLate_of_emit
    (oneLine : s.addGenerationComment.isTruthy = true →
      CodePoint.lineFeed ∉ commandLine ∧ CodePoint.carriageReturn ∉ commandLine)
    (unformatted : schema.id ≠ [] →
      ∀ options, s.formatter = .options options → options.enabled.isTruthy = false)
    (late : s.useFutureAnnotations.isTruthy = true)
    (emitted : s.emit tools commandLine schema = .ok code) :
    LeadsWithLate (sourceLines code) := by
  obtain ⟨t, rfl⟩ := exists_append_of_emit unformatted emitted
  rw [sourceLines_preamble_append oneLine, if_pos late, List.append_assoc]
  refine ⟨_, sourceLines t, rfl, fun line member => ?_⟩
  rcases List.mem_append.mp member with comment | blank
  · rw [List.mem_ite_nil_right, List.mem_singleton] at comment
    rw [comment.2]
    exact Or.inr (isCommentLine_commentStart commandLine)
  · rw [List.mem_ite_nil_right, List.mem_singleton] at blank
    exact Or.inl blank.2

/-- A preamble stays one, whatever command is run and whatever the settings are, if no name of a file
has a line break: it has a comment and switches evaluation off as the settings ask for, in this order,
and nothing else. So no statement precedes the line that switches evaluation off in what is not
formatted. -/
theorem isHeader_preamble
    (chosen : CommandLine.HasChoice values)
    (names : s.addGenerationComment.isTruthy = true → CommandLine.HasOneLineNames values) :
    IsHeader s.addGenerationComment.isTruthy s.useFutureAnnotations.isTruthy
      (sourceLines (s.preamble (CommandLine.shown values))) ∧
      ∀ tools schema code,
        (schema.id ≠ [] →
          ∀ options, s.formatter = .options options → options.enabled.isTruthy = false) →
        s.emit tools (CommandLine.shown values) schema = .ok code →
        s.useFutureAnnotations.isTruthy = true → LeadsWithLate (sourceLines code) := by
  have oneLine (commented : s.addGenerationComment.isTruthy = true) :=
    (names commented).shown chosen
  exact ⟨isHeader_preamble_of_oneLine oneLine, fun _ _ _ unformatted emitted late =>
    leadsWithLate_of_emit oneLine unformatted late emitted⟩

/-- A command for a schema with a name. -/
def namedFile (name : String) : Json.Members :=
  [(.ofString "path", .str (.ofString "/data/" ++ .ofString name)),
    (.ofString "formatter", .str (.ofString "none"))]

theorem isHeader_preamble_point :
    IsHeader true true
      (sourceLines (({} : Settings).preamble (CommandLine.shown (namedFile "point.json")))) ∧
      ∃ code, ({} : Settings).emit .full (CommandLine.shown (namedFile "point.json")) {} = .ok code ∧
        LeadsWithLate (sourceLines code) := by
  have chosen : CommandLine.HasChoice (namedFile "point.json") := by
    intro value given
    exact ⟨.none, (Option.some.inj given).symm⟩
  have names : CommandLine.HasOneLineNames (namedFile "point.json") := by
    have checked : (CommandLine.pathNames.all fun name =>
        (CommandLine.lastComponent? (namedFile "point.json") name).all fun component =>
          decide (CodePoint.lineFeed ∉ component ∧ CodePoint.carriageReturn ∉ component)) = true := by
      decide
    intro name isPath component given
    have own := List.all_eq_true.mp checked name isPath
    rw [given] at own
    exact of_decide_eq_true own
  obtain ⟨header, emission⟩ := isHeader_preamble (s := {}) chosen fun _ => names
  exact ⟨header, _, rfl, emission .full {} _ (absurd rfl) rfl rfl⟩

/-- A name with a line feed ends the comment, and what follows is a statement in front of the line that
switches evaluation off. -/
theorem not_isHeader_preamble_lineFeed :
    CommandLine.HasChoice (namedFile "a\nimport os") ∧
      sourceLines (({} : Settings).preamble (CommandLine.shown (namedFile "a\nimport os"))) =
        ["# Generated by json_schema_to_struct v0.1.0 : json_schema_to_struct a",
          "import os --formatter none", "", "from __future__ import annotations",
          ""].map Text.ofString ∧
      ¬ IsHeader true true
        (sourceLines (({} : Settings).preamble (CommandLine.shown (namedFile "a\nimport os")))) := by
  have lines : sourceLines
      (({} : Settings).preamble (CommandLine.shown (namedFile "a\nimport os"))) =
        ["# Generated by json_schema_to_struct v0.1.0 : json_schema_to_struct a",
          "import os --formatter none", "", "from __future__ import annotations",
          ""].map Text.ofString := by
    simp only [List.map_cons, List.map_nil]
    repeat rw [Text.ofString_ofList]
    decide +kernel
  have second : Text.ofString "import os --formatter none" ∈ sourceLines
      (({} : Settings).preamble (CommandLine.shown (namedFile "a\nimport os"))) := by
    rw [lines]
    exact List.mem_cons_of_mem _ List.mem_cons_self
  refine ⟨fun value given => ⟨.none, (Option.some.inj given).symm⟩, lines, fun header => ?_⟩
  have statement := header.blank _ second
  exact absurd statement (by decide)

end Settings
end RecordGen
