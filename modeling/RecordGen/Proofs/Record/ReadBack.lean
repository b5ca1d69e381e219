import RecordGen.Proofs.Formatter.Check
import RecordGen.Proofs.Record.Bindings
import RecordGen.Proofs.Record.Points
import RecordGen.Source.Parse

/-!
# Reading a generated module back

The formatters check the text of a module as a whole, whatever its properties are called. For names
that are made of points of words and of points that no code has, this check is enough: the module is
code only if every name can name a field, and then the body of its class has one annotated statement
for each property and nothing else. `lambda` is the one such name that slips through.
-/

namespace RecordGen

open Source Source.Grammar Source.Reader

/-! ## Texts and their leaves -/

/-- A text of whole lines that has a tree is cut into leaves, and these are read as the tree. -/
theorem Source.exists_leaves_of_tree?
    {t : Text} {tree : Tree}
    (ends : t.getLast? = some CodePoint.lineFeed)
    (found : tree? t = some tree) :
    ∃ flat leaves limit, Scans false t flat ∧ blockLeaves? [⟨.none, 0⟩] true flat = some leaves ∧
      (wholeText (inside limit limit)).run leaves = some (tree, []) := by
  have whole : endLine t = t := by rw [endLine, ends]; rfl
  obtain ⟨leaves, cut, read⟩ := Option.bind_eq_some_iff.mp found
  obtain ⟨⟨tree', left⟩, run, last⟩ := Option.bind_eq_some_iff.mp read
  rw [leaves?, whole] at cut
  obtain ⟨flat, scanned, blocks⟩ := Option.bind_eq_some_iff.mp cut
  cases left with
  | nil =>
      obtain rfl := Option.some.inj last
      exact ⟨flat, leaves, _, ⟨_, scanned⟩, blocks, run⟩
  | cons l rest => cases last

/-- What is code has a tree. -/
theorem Source.tree?_of_parse
    {t : Text} {tree : Tree}
    (free : CodePoint.carriageReturn ∉ t)
    (parsed : parse t = .ok tree) :
    tree? t = some tree := by
  rw [parse, Text.unifyLineBreaks_of_not_mem free] at parsed
  split at parsed
  · cases parsed
  · split at parsed
    · cases parsed
    · split at parsed
      · rename_i other isTree
        cases parsed
        exact isTree
      · cases parsed

namespace Declaration

variable {options : RecordOptions} {limit : Nat} {lead : Text} {rest : List Leaf}

/-! ## The lines of a module -/

theorem exists_readsLines_append
    {front lines : List (List Leaf)} {ts : Option (List Tree)}
    (statements : ∀ own ∈ front, IsStatementLine own)
    (reads : ReadsLines limit rest lines ts) :
    ∃ fronts : List Tree,
      ReadsLines limit rest (front ++ lines) (ts.map fun ts => fronts ++ ts) := by
  induction front with
  | nil => exact ⟨[], by simpa using reads⟩
  | cons own front inductionHypothesis =>
      obtain ⟨first, later⟩ := List.forall_mem_cons.mp statements
      obtain ⟨fronts, others⟩ := inductionHypothesis later
      obtain ⟨t, read⟩ := first.exists_statement
      obtain ⟨l, inner, rfl, -, inside⟩ := first.isLine.exists_first
      have kinds := Leaf.kind_of_inside (Bool.and_eq_true_iff.mp inside).1
      have whole := ReadsLines.cons (t := some t) kinds.2.1 kinds.2.2
        (fun depth => read limit depth _) others
      refine ⟨t :: fronts, ?_⟩
      cases ts <;> exact whole

/-- The head of a class with its body is read as one class, if it is read. -/
theorem exists_readsLines_class
    {className : Text} {name : List Leaf} {lines : List (List Leaf)} {ts : Option (List Tree)}
    (scan : IsScan [CodePoint.space] className name)
    (nonempty : lines ≠ [])
    (reads : ReadsLines limit (Leaf.closing :: rest) lines ts) :
    ∃ own : Option Tree,
      ReadsLines limit rest
        [(headLines lead name).flatten ++ Leaf.opening :: (lines.flatten ++ [Leaf.closing])]
        (own.map fun t => [t]) ∧
      ∀ t, own = some t → ∃ body, ts = some body ∧
        t = classTree lead decorator (.ofWord [CodePoint.space] className) body := by
  have dataclass : decorator.isName = true := by decide
  let block := colon :: Leaf.ending :: Leaf.opening :: (lines.flatten ++ [Leaf.closing])
  have single {own : Option Tree}
      (read : ∀ depth, Only (readRule limit depth .statement)
        (.ofMark lead "@" :: decorator :: Leaf.ending :: classWord :: (name ++ block) ++ rest)
        (own.map fun t => (t, rest))) :
      ReadsLines limit rest
        [(headLines lead name).flatten ++ Leaf.opening :: (lines.flatten ++ [Leaf.closing])]
        (own.map fun t => [t]) := by
    have line := ReadsLines.cons (by simp [Leaf.ofMark]) (by simp [Leaf.ofMark]) read .nil
    have spelled : (headLines lead name).flatten ++
        Leaf.opening :: (lines.flatten ++ [Leaf.closing]) =
          .ofMark lead "@" :: decorator :: Leaf.ending :: classWord :: (name ++ block) := by
      simp [headLines, block]
    rw [spelled]
    cases own <;> exact line
  have unnamed {l : Leaf} {others : List Leaf} (spelled : name = l :: others)
      (noName : l.isName = false) :
      ReadsLines limit rest
        [(headLines lead name).flatten ++ Leaf.opening :: (lines.flatten ++ [Leaf.closing])]
        ((none : Option Tree).map fun t => [t]) := by
    refine single fun depth => Or.inl ?_
    subst spelled
    exact run_class_none dataclass noName
  -- A name that starts with a digit is cut behind a number, and then the class has no name.
  cases scan with
  | number split whole =>
      exact ⟨none, unnamed rfl rfl, by simp⟩
  | whole identifier =>
      by_cases named : (Leaf.ofWord [CodePoint.space] className).isName = true
      · refine ⟨ts.map fun ts => classTree lead decorator (.ofWord [CodePoint.space] className) ts,
          single fun depth => ?_, ?_⟩
        · have only := @ReadsLines.only_class limit depth lead rest _ decorator lines ts reads nonempty
            dataclass named
          simpa [classHead, block, Function.comp_def] using only
        · intro t same
          obtain ⟨body, found, rfl⟩ := Option.map_eq_some_iff.mp same
          exact ⟨body, found, rfl⟩
      · exact ⟨none, unnamed rfl (by simpa using named), by simp⟩

theorem isLine_headLines
    {className : Text} {name : List Leaf}
    (loose : IsLoose lead)
    (scan : IsScan [CodePoint.space] className name) :
    ∀ own ∈ headLines lead name, IsLine .none own := by
  have margin : marginOf .none 0 false lead = .none := by
    have behind := loose.margin []
    rwa [List.append_nil] at behind
  refine List.forall_mem_cons.mpr ⟨?_, List.forall_mem_singleton.mpr ?_⟩
  · exact ⟨.ofMark lead "@", [decorator], rfl, margin, rfl⟩
  · refine ⟨classWord, name ++ [colon], by simp, rfl, ?_⟩
    rw [List.all_cons, List.all_append, scan.isSplit.inside]
    rfl

variable {d : Declaration} {comment : Text}

theorem getLast?_moduleCode : (moduleCode comment options d).getLast? = some CodePoint.lineFeed := by
  have fields (t : Text) (ends : t.getLast? = some CodePoint.lineFeed) :
      (t ++ d.fields.flatMap (fieldLine options)).getLast? = some CodePoint.lineFeed := by
    induction d.fields generalizing t with
    | nil => simpa using ends
    | cons field fields inductionHypothesis =>
        rw [List.flatMap_cons, ← List.append_assoc]
        exact inductionHypothesis _ (by simp [fieldLine, Text.line])
  rw [moduleCode, text, ← List.append_assoc, ← List.append_assoc]
  refine fields _ ?_
  simp only [Text.line, ← List.append_assoc]
  exact List.getLast?_concat

/-- The declaration is named by a schema, and its fields have plain names, in ascending order behind
the one that is named like a block with handlers. -/
structure IsPlain (d : Declaration) : Prop where
  named : ∃ uri, TypeName.ofUri uri = .ok d.className
  plain : ∀ field ∈ d.fields, isPlainName field.name = true
  referred : ∀ field ∈ d.fields, ∀ className, field.type = .reference className →
    ∃ uri, TypeName.ofUri uri = .ok className
  ordered : d.fields.Pairwise fun field other =>
    field.name = .ofString "try" → field.name ≤ other.name
  nonempty : d.fields ≠ []

/-- A module that is code has one statement in the body of its class for each field, and each
reference in it that is not quoted stands for a value. -/
theorem IsPlain.fields_of_parse
    {tree : Tree}
    (isPlain : d.IsPlain)
    (loose : IsLoose comment)
    (free : CodePoint.carriageReturn ∉ moduleCode comment options d)
    (parsed : parse (moduleCode comment options d) = .ok tree) :
    d.HasClassBody options tree ∧ ∀ field ∈ d.fields, IsEvaluable options field.type := by
  obtain ⟨flat, leaves, limit, scans, blocks, run⟩ :=
    exists_leaves_of_tree? getLast?_moduleCode (tree?_of_parse free parsed)
  obtain ⟨front, lead, name, lines, rfl, isStatement, loose', scan, aligned⟩ :=
    scans_module loose isPlain.named isPlain.plain isPlain.referred scans
  -- The leaves are cut into blocks by their margins: the class has the only one.
  have someLines : lines ≠ [] := by
    rintro rfl
    exact isPlain.nonempty (List.forall₂_nil_right_iff.mp aligned)
  have frontLines : ∀ own ∈ front ++ headLines lead name, IsLine .none own :=
    List.forall_mem_append.mpr
      ⟨fun own member => (isStatement own member).isLine, isLine_headLines loose' scan⟩
  have bodyLines : ∀ own ∈ lines, IsLine ⟨4, 4⟩ own := by
    intro own member
    obtain ⟨field, -, isField⟩ := exists_left_of_mem aligned member
    exact isField.isLine
  have cut := blockLeaves?_body frontLines bodyLines (by decide) someLines
  rw [List.flatten_append, List.append_assoc] at cut
  obtain rfl := Option.some.inj (blocks.symm.trans cut)
  -- What the lines are read as decides what the class is read as, and this the whole text.
  obtain ⟨ts, reads, isFields⟩ := @readsLines_fields options [Leaf.last] limit _ _ isPlain.ordered
    aligned
  obtain ⟨own, readsClass, isClass⟩ := @exists_readsLines_class limit lead _ _ _ _ _ scan someLines
    reads
  obtain ⟨fronts, readsAll⟩ := exists_readsLines_append isStatement readsClass
  have only := @ReadsLines.only_wholeText limit limit _ _ readsAll
  have read : (wholeText (inside limit limit)).run
      ((front ++ ([(headLines lead name).flatten ++ Leaf.opening ::
        (lines.flatten ++ [Leaf.closing])])).flatten ++ [Leaf.last]) = some (tree, []) := by
    simpa using run
  cases own with
  | none =>
      rw [only.run_eq_none] at read
      cases read
  | some t =>
      obtain ⟨body, found, rfl⟩ := isClass t rfl
      rcases only with missing | whole
      · rw [missing] at read
        cases read
      · rw [whole] at read
        cases read
        obtain ⟨statements, evaluable⟩ := isFields body found
        exact ⟨⟨fronts, lead, body, by simp, statements⟩, evaluable⟩

/-! ## Modules of schemas -/

theorem isForeign_carriageReturn : IsForeign fun c => c = CodePoint.carriageReturn := by
  intro c ordinary
  refine decide_eq_false ?_
  rintro rfl
  revert ordinary
  decide

theorem carriageReturn_not_mem_of_isPlainName
    {name : Text}
    (plain : isPlainName name = true) :
    CodePoint.carriageReturn ∉ name := by
  intro member
  have point := List.all_eq_true.mp (Bool.and_eq_true_iff.mp plain).1 _ member
  revert point
  decide

theorem IsPlain.carriageReturn_not_mem
    (isPlain : d.IsPlain)
    (free : CodePoint.carriageReturn ∉ comment) :
    CodePoint.carriageReturn ∉ moduleCode comment options d := by
  have notIn {t : Text} (absent : CodePoint.carriageReturn ∉ t) :
      (t.any fun c => c = CodePoint.carriageReturn) = false :=
    List.any_eq_false.mpr fun c member => by simpa using ne_of_mem_of_not_mem member absent
  intro member
  have found : ((moduleCode comment options d).any fun c => c = CodePoint.carriageReturn) = true :=
    List.any_eq_true.mpr ⟨_, member, by simp⟩
  rw [any_moduleCode isForeign_carriageReturn isPlain.named isPlain.referred, notIn free,
    Bool.false_or, List.any_eq_true] at found
  obtain ⟨field, inFields, bad⟩ := found
  rw [notIn (carriageReturn_not_mem_of_isPlainName (isPlain.plain field inFields))] at bad
  cases bad

theorem isPlain_of_ofSchema
    {schema : Schema}
    (plain : options.capitalize = false → ∀ p ∈ schema.properties, isPlainName p.1 = true)
    (declared : ofSchema options schema = .ok d) :
    d.IsPlain := by
  obtain ⟨someProperties, named, aligned, -⟩ := ofSchema_eq_ok_iff.mp declared
  have property : ∀ field ∈ d.fields, ∃ p ∈ schema.properties, IsField options p field := by
    intro field member
    obtain ⟨p, inSorted, isField⟩ := exists_left_of_mem aligned member
    exact ⟨p, (sortedProperties_perm schema).mem_iff.mp inSorted, isField⟩
  refine ⟨⟨_, named⟩, ?_, ?_, ?_, ?_⟩
  · intro field member
    obtain ⟨p, inSchema, isField⟩ := property field member
    rw [isField.name, fieldName]
    split_ifs with capitalized
    · exact isPlainName_ofText p.1
    · exact plain (by simpa using capitalized) p inSchema
  · intro field member className type
    obtain ⟨p, -, isField⟩ := property field member
    have resolved := isField.type
    rw [type] at resolved
    exact ⟨_, ofUri_of_resolve_eq_reference resolved⟩
  · have behindTry : ((d.fields.map RecordField.name).Pairwise fun name other =>
        name = .ofString "try" → name ≤ other) := by
      rw [map_name_eq_of_fields aligned, List.pairwise_map]
      refine (sortedProperties_ordered schema).imp fun {p q} ascending handles => ?_
      unfold fieldName at handles ⊢
      split_ifs at handles ⊢
      · exact absurd handles (Pascal.ofText_ne rfl (by decide) p.1)
      · exact ascending
    rwa [List.pairwise_map] at behindTry
  · rintro empty
    rw [empty, List.forall₂_nil_right_iff] at aligned
    have perm := sortedProperties_perm schema
    rw [aligned] at perm
    exact someProperties perm.symm.eq_nil

end Declaration

/-! ## Emission -/

namespace Settings

variable {s : Settings} {tools : Formatter.Toolbox} {commandLine : Text} {schema : Schema}
  {options : FormatterSettings} {code : Text}

/-- The comment at the start of a module, with the blank line behind it. -/
def commentLines (s : Settings) (commandLine : Text) : Text :=
  if s.addGenerationComment.isTruthy then
    Text.line (commentStart ++ commandLine) ++ [CodePoint.lineFeed]
  else []

theorem preamble_append
    (d : Declaration) :
    (if (s.preamble commandLine).isEmpty then d.text s.recordOptions
      else s.preamble commandLine ++ CodePoint.lineFeed :: d.text s.recordOptions) =
        Declaration.moduleCode (s.commentLines commandLine) s.recordOptions d := by
  rw [preamble_eq, commentLines, Declaration.moduleCode, recordOptions]
  cases late : s.useFutureAnnotations.isTruthy <;>
    cases commented : s.addGenerationComment.isTruthy <;>
      simp [Text.line]

theorem moduleText_eq_ok_iff :
    s.moduleText commandLine schema = .ok code ↔
      ∃ d, Declaration.ofSchema s.recordOptions schema = .ok d ∧
        code = Declaration.moduleCode (s.commentLines commandLine) s.recordOptions d := by
  simp only [moduleText, recordText, bind_eq_ok, map_eq_ok]
  constructor
  · rintro ⟨body, ⟨d, declared, rfl⟩, last⟩
    cases last
    exact ⟨d, declared, preamble_append d⟩
  · rintro ⟨d, declared, rfl⟩
    exact ⟨_, ⟨d, declared, rfl⟩, congrArg Except.ok (preamble_append d)⟩

theorem isLoose_commentLines
    (oneLine : s.addGenerationComment.isTruthy = true → CodePoint.lineFeed ∉ commandLine) :
    IsLoose (s.commentLines commandLine) := by
  by_cases commented : s.addGenerationComment.isTruthy = true
  · have start : commentStart = commentMark :: commentStart.tail := by decide
    have free : CodePoint.lineFeed ∉ commentStart.tail ++ commandLine := by
      have fixed : CodePoint.lineFeed ∉ commentStart.tail := by decide
      simp [fixed, oneLine commented]
    rw [commentLines, if_pos commented, start]
    have loose := IsLoose.nil.lineFeed.comment free
    simpa [Text.line] using loose
  · rw [commentLines, if_neg commented]
    exact .nil

theorem carriageReturn_not_mem_commentLines
    (oneLine : s.addGenerationComment.isTruthy = true → CodePoint.carriageReturn ∉ commandLine) :
    CodePoint.carriageReturn ∉ s.commentLines commandLine := by
  by_cases commented : s.addGenerationComment.isTruthy = true
  · have fixed : CodePoint.carriageReturn ∉ commentStart := by decide
    have lineEnd : CodePoint.carriageReturn ≠ CodePoint.lineFeed := by decide
    simp [commentLines, commented, Text.line, fixed, lineEnd, oneLine commented]
  · simp [commentLines, commented]

/-- The module is laid out with some options. -/
structure IsFormatted (s : Settings) (options : FormatterSettings) : Prop where
  formatter : s.formatter = .options options
  enabled : options.enabled.isTruthy = true

theorem IsFormatted.emit_eq
    (isFormatted : s.IsFormatted options)
    (identified : schema.id ≠ []) :
    s.emit tools commandLine schema = (do
      let code ← s.moduleText commandLine schema
      Formatter.run tools (← Formatter.named options.name) code options) := by
  have nonempty : schema.id.isEmpty = false := by simpa using identified
  have present : s.formatterFor "enabled" = .ok options := by
    rw [formatterFor, isFormatted.formatter]
    rfl
  rw [emit, nonempty, present, Attempt.ofSettings, mapError_ok]
  simp only [Bool.false_eq_true, ↓reduceIte, bind, Except.bind, isFormatted.enabled]

/-- The module is laid out with some options, and the field names are the property names. -/
structure Formats (s : Settings) (options : FormatterSettings) : Prop where
  formatter : s.formatter = .options options
  enabled : options.enabled.isTruthy = true
  uncapitalized : s.capitalizeFieldNames.isTruthy = false

theorem Formats.emit_eq
    (formats : s.Formats options)
    (identified : schema.id ≠ []) :
    s.emit tools commandLine schema = (do
      let code ← s.moduleText commandLine schema
      Formatter.run tools (← Formatter.named options.name) code options) :=
  IsFormatted.emit_eq ⟨formats.formatter, formats.enabled⟩ identified

theorem Formats.exists_hasClassBody
    {tree : Tree}
    (formats : s.Formats options)
    (oneLine : s.addGenerationComment.isTruthy = true →
      CodePoint.lineFeed ∉ commandLine ∧ CodePoint.carriageReturn ∉ commandLine)
    (plain : ∀ p ∈ schema.properties, Declaration.isPlainName p.1 = true)
    (module : s.moduleText commandLine schema = .ok code)
    (parsed : parse code = .ok tree) :
    ∃ d, Declaration.ofSchema s.recordOptions schema = .ok d ∧
      d.HasClassBody s.recordOptions tree ∧
        d.fields.map RecordField.name = (Declaration.sortedProperties schema).map Prod.fst ∧
          ∀ p ∈ schema.properties, isFieldName p.1 = true := by
  obtain ⟨d, declared, rfl⟩ := moduleText_eq_ok_iff.mp module
  have uncapitalized : s.recordOptions.capitalize = false := formats.uncapitalized
  have isPlain := Declaration.isPlain_of_ofSchema (fun _ => plain) declared
  have loose := isLoose_commentLines fun commented => (oneLine commented).1
  have free := carriageReturn_not_mem_commentLines fun commented => (oneLine commented).2
  have body := (isPlain.fields_of_parse loose (isPlain.carriageReturn_not_mem free) parsed).1
  obtain ⟨-, -, aligned, -⟩ := Declaration.ofSchema_eq_ok_iff.mp declared
  have own (property : Text) : Declaration.fieldName s.recordOptions property = property := by
    rw [Declaration.fieldName, uncapitalized]
    rfl
  refine ⟨d, declared, body, ?_, ?_⟩
  · rw [Declaration.map_name_eq_of_fields aligned]
    simp only [own]
  · intro p member
    obtain ⟨front, lead, statements, -, isStatement⟩ := body
    have inSorted := (Declaration.sortedProperties_perm schema).mem_iff.mpr member
    obtain ⟨field, inFields, isField⟩ := exists_right_of_mem aligned inSorted
    obtain ⟨t, -, fieldName, -⟩ := exists_right_of_mem isStatement inFields
    rwa [isField.name, own] at fieldName

/-- No name that cannot be a field reaches the output, if the names are plain. Text is emitted only
for a module whose class has a body with one annotated statement for each property and nothing else.
If some name cannot be a field, emission fails, and as a formatter's complaint about the syntax if
nothing has failed before: the module is there and can be encoded, and the formatter is known and
installed. -/
theorem emit_class_body
    (identified : schema.id ≠ [])
    (formats : s.Formats options)
    (oneLine : s.addGenerationComment.isTruthy = true →
      CodePoint.lineFeed ∉ commandLine ∧ CodePoint.carriageReturn ∉ commandLine)
    (plain : ∀ p ∈ schema.properties, Declaration.isPlainName p.1 = true) :
    (∀ text, s.emit tools commandLine schema = .ok text →
      (∀ p ∈ schema.properties, isFieldName p.1 = true) ∧
      ∃ d code tree, Declaration.ofSchema s.recordOptions schema = .ok d ∧
        s.moduleText commandLine schema = .ok code ∧ parse code = .ok tree ∧
        d.HasClassBody s.recordOptions tree ∧
        d.fields.map RecordField.name = (Declaration.sortedProperties schema).map Prod.fst) ∧
    ((∃ p ∈ schema.properties, isFieldName p.1 = false) →
      ∃ failure, s.emit tools commandLine schema = .error failure ∧
        ∀ code formatter, s.moduleText commandLine schema = .ok code →
          code.hasSurrogate = false → (code.any fun c => c.val = 0) = false →
          Formatter.named options.name = .ok formatter → Formatter.IsReady tools formatter →
          failure = .generator (.formatting formatter .invalidSyntax)) := by
  rw [formats.emit_eq identified]
  constructor
  · intro text emitted
    obtain ⟨code, module, formatted⟩ := bind_eq_ok.mp emitted
    obtain ⟨formatter, -, ran⟩ := bind_eq_ok.mp formatted
    obtain ⟨tree, parsed⟩ := Formatter.exists_parse_of_run ran
    obtain ⟨d, declared, body, names, fieldNames⟩ :=
      formats.exists_hasClassBody oneLine plain module parsed
    exact ⟨fieldNames, d, code, tree, declared, module, parsed, body, names⟩
  · rintro ⟨p, member, noField⟩
    -- If the module were code, the name would be that of a field.
    have refused {code : Text} (module : s.moduleText commandLine schema = .ok code) :
        ∃ fault, parse code = .error fault := by
      cases outcome : parse code with
      | error fault => exact ⟨fault, rfl⟩
      | ok tree =>
          obtain ⟨d, -, -, -, fieldNames⟩ :=
            formats.exists_hasClassBody oneLine plain module outcome
          rw [fieldNames p member] at noField
          cases noField
    cases module : s.moduleText commandLine schema with
    | error failure => exact ⟨failure, rfl, by simp⟩
    | ok code =>
        obtain ⟨fault, unread⟩ := refused module
        cases chosen : Formatter.named options.name with
        | error failure => exact ⟨failure, rfl, by simp⟩
        | ok formatter =>
            obtain ⟨failure, failed⟩ := @Formatter.exists_failure_of_refused tools formatter code
              options fault unread
            refine ⟨failure, failed, ?_⟩
            rintro _ _ ⟨⟩ encodable noNull ⟨⟩ ready
            have reported := @Formatter.run_of_refused tools formatter code options fault ready unread
            rw [failed, eq_invalidSyntax_of_parse encodable noNull unread] at reported
            exact Except.error.inj reported

/-- A schema with a property that is named by a word. -/
def wordSchema (word : String) : Schema :=
  { id := .ofString "event", properties := [(.ofString word, { types := .single .string })] }

theorem formats_default : ({} : Settings).Formats {} := ⟨rfl, rfl, rfl⟩

theorem emit_class_body_word :
    (∃ text tree, ∃ d : Declaration,
      ({} : Settings).emit .full programName (wordSchema "place") = .ok text ∧
        d.HasClassBody ({} : Settings).recordOptions tree ∧
          d.fields.map RecordField.name = [Text.ofString "place"]) ∧
      ({} : Settings).emit .full programName (wordSchema "class") =
        .error (.generator (.formatting .black .invalidSyntax)) := by
  have oneLine : ({} : Settings).addGenerationComment.isTruthy = true →
      CodePoint.lineFeed ∉ programName ∧ CodePoint.carriageReturn ∉ programName := by
    decide
  have evaluated :
      (({} : Settings).emit .full programName (wordSchema "place")).toOption.isSome = true ∧
        ((({} : Settings).moduleText programName (wordSchema "class")).toOption.any
          fun code => !code.hasSurrogate && !code.any fun c => c.val = 0) = true := by
    decide +kernel
  obtain ⟨succeeds, readable⟩ := evaluated
  constructor
  · have accepted := @emit_class_body {} .full programName (wordSchema "place") {} (by decide)
      formats_default oneLine (by decide)
    obtain ⟨text, emitted⟩ := exists_ok_of_isSome succeeds
    obtain ⟨-, d, code, tree, -, -, -, body, names⟩ := accepted.1 text emitted
    have single : (Declaration.sortedProperties (wordSchema "place")).map Prod.fst =
        [Text.ofString "place"] := by
      simp [Declaration.sortedProperties, wordSchema]
    exact ⟨text, tree, d, emitted, body, names.trans single⟩
  · have rejected := @emit_class_body {} .full programName (wordSchema "class") {} (by decide)
      formats_default oneLine (by decide)
    obtain ⟨failure, emitted, fault⟩ := rejected.2 (by decide)
    cases module : ({} : Settings).moduleText programName (wordSchema "class") with
    | error other =>
        rw [module] at readable
        cases readable
    | ok code =>
        rw [module] at readable
        obtain ⟨encodable, noNull⟩ := Bool.and_eq_true_iff.mp readable
        rw [Bool.not_eq_true'] at encodable noNull
        rw [emitted, fault code .black module encodable noNull rfl rfl]

/-- A property that is named like the start of a function without a name gives a module that is code:
its class has no such field. -/
theorem emit_accepts_lambda :
    (wordSchema "lambda").id ≠ [] ∧ ({} : Settings).Formats {} ∧
      (({} : Settings).emit .full programName (wordSchema "lambda")).toOption =
        some (.ofString ("# Generated by json_schema_to_struct v0.1.0 : json_schema_to_struct\n\n" ++
          "from __future__ import annotations\n\nfrom dataclasses import dataclass\n\n\n" ++
          "@dataclass\nclass Event:\n    lambda: str\n")) ∧
        isFieldName (.ofString "lambda") = false := by
  refine ⟨by decide, formats_default, ?_, by decide⟩
  -- The text that is expected is taken apart into its characters before the two are compared.
  repeat rw [Text.ofString_append]
  repeat rw [Text.ofString_ofList]
  decide +kernel

end Settings
end RecordGen
