import RecordGen.Proofs.Source.Drawing
import RecordGen.Source.Blanks
import RecordGen.Source.Breaking

/-!
# What a line shows

The text of a line is the text of its leaves with the spaces that their places ask for. A line that
fits and has nothing to break at stays whole, so its text is what the layout has of it.
-/

namespace RecordGen.Source

variable {style : LineStyle} {depth blanks : Nat} {place : Leaf × Path} {places : List (Leaf × Path)}
  {line : LogicalLine} {s : Sketch}

/-! ## Texts -/

/-- What is seen of a leaf at a place behind another leaf. -/
def spacedShown (place : Leaf × Path) : Text :=
  if hasSpaceBefore place.1 place.2 then CodePoint.space :: place.1.shown else place.1.shown

/-- What is seen of the leaves of a line. -/
def rowText : List (Leaf × Path) → Text
  | [] => []
  | place :: places => place.1.shown ++ places.flatMap spacedShown

theorem Piece.spacedText_eq (p : Piece) :
    p.spacedText [] = if p.spaced then CodePoint.space :: p.leaf.shown else p.leaf.shown := by
  cases hidden : p.leaf.hidden <;> simp [spacedText, text, isSeen, Leaf.shown, hidden]

theorem flatMap_spacedText
    {pieces : List Piece}
    (views : pieces.map Piece.view = viewsOf places) :
    pieces.flatMap (Piece.spacedText []) = rowText places ∧ pieces.flatMap Piece.comments = [] := by
  let shown (view : Leaf × Path × Bool × List Text) : Text :=
    if view.2.2.1 then CodePoint.space :: view.1.shown else view.1.shown
  have spaced : pieces.flatMap (Piece.spacedText []) = (pieces.map Piece.view).flatMap shown := by
    rw [List.flatMap_map]
    exact congrArg (pieces.flatMap ·) (funext Piece.spacedText_eq)
  have comments : pieces.flatMap Piece.comments =
      (pieces.map Piece.view).flatMap (fun view => view.2.2.2) := by
    rw [List.flatMap_map]
    rfl
  rw [spaced, comments, views]
  cases places with
  | nil => exact ⟨rfl, rfl⟩
  | cons place places =>
      refine ⟨?_, ?_⟩
      · simp only [viewsOf, List.flatMap_cons, List.flatMap_map, rowText]
        rfl
      · simp [viewsOf, List.flatMap_map]

theorem LogicalLine.Shows.text
    (shows_ : line.Shows s) :
    line.line.text [] = Line.margin s.depth ++ rowText s.places := by
  obtain ⟨spaced, comments⟩ := flatMap_spacedText shows_.views
  have depth : line.line.depth = s.depth := congrArg Prod.fst shows_.outline
  rw [Line.text, spaced, comments, depth]
  simp

/-! ## Whole lines -/

theorem LogicalLine.Shows.leaves
    (shows_ : line.Shows s) :
    line.line.pieces.map Piece.leaf = s.places.map Prod.fst := by
  have leaves := congrArg (List.map Prod.fst) shows_.views
  rw [map_fst_viewsOf, List.map_map] at leaves
  exact leaves

theorem LogicalLine.Shows.any_pieces
    (shows_ : line.Shows s)
    {holds : Leaf → Bool}
    (noLeaf : ∀ place ∈ s.places, holds place.1 = false) :
    (line.line.pieces.any fun p => holds p.leaf) = false := by
  have same : (line.line.pieces.any fun p => holds p.leaf) =
      (s.places.any fun place => holds place.1) := by
    have mapped := congrArg (List.any · holds) shows_.leaves
    simpa [List.any_map, Function.comp_def] using mapped
  rw [same, List.any_eq_false]
  intro place member
  simp [noLeaf place member]

/-- A line that stays whole is laid out as it is. -/
theorem Line.broken_of_staysWhole
    {l : Line}
    (whole : staysWhole style [] l = true)
    (noPower : (l.pieces.any fun p => p.isMark "**") = false) :
    l.broken style = [l.text []] := by
  have hugged : l.hugged = l := by rw [Line.hugged, noPower]; rfl
  have done : (breakLine style (2 * l.pieces.length + 8) false l).run {} = ([l], {}) := by
    have step : (breakLine style (2 * l.pieces.length + 8) false l).run {} =
        (if staysWhole style [] l then (pure [l.hugged] : StateM Progress (List Line))
          else breakByFirst style (breakLine style (2 * l.pieces.length + 7)) false l (waysFor l)).run
            {} := rfl
    rw [step, if_pos whole, hugged]
    rfl
  rw [Line.broken, done]
  rfl

theorem LogicalLine.Shows.noComments
    (shows_ : line.Shows s) :
    ∀ p ∈ line.line.pieces, p.comments = [] := by
  have none := (flatMap_spacedText shows_.views).2
  exact List.flatMap_eq_nil_iff.mp none

theorem Line.keepsTypesApart_eq_false
    {l : Line}
    (noComments : ∀ p ∈ l.pieces, p.comments = []) :
    l.keepsTypesApart [] = false := by
  have none : (l.pieces.flatMap fun p => p.comments.map fun comment => (p.id, comment)) = [] :=
    List.flatMap_eq_nil_iff.mpr fun p member => by rw [noComments p member]; rfl
  rw [keepsTypesApart, none, typesApart, Bool.and_false]

theorem Line.hasCommentedStrings_eq_false
    {pieces : List Piece}
    (noComments : ∀ p ∈ pieces, p.comments = []) :
    Line.hasCommentedStrings pieces = false := by
  fun_induction Line.hasCommentedStrings pieces with
  | case1 p q rest isString inductionHypothesis =>
      have own := noComments p (by simp)
      have next := noComments q (by simp)
      simp [own, next, inductionHypothesis fun other member => noComments other
        (List.mem_cons_of_mem _ member)]
  | case2 => rfl

/-- A line of plain leaves that fits is laid out as it is. -/
theorem LogicalLine.Shows.broken
    (shows_ : line.Shows s)
    (plain : ∀ place ∈ s.places, place.1.isPlain = true)
    (noLineFeed : CodePoint.lineFeed ∉ Line.margin s.depth ++ rowText s.places)
    (fits : ((Unicode.textWidth (Line.margin s.depth ++ rowText s.places) : Nat) : Int) ≤
      style.lineLength) :
    line.line.broken style = [Line.margin s.depth ++ rowText s.places] := by
  have noPower : (line.line.pieces.any fun p => p.isMark "**") = false :=
    @any_pieces _ _ shows_ (·.isMark "**") fun place member =>
      (Leaf.inside_of_isPlain (plain place member)).2.2
  have noKept : line.line.hasKept = false :=
    @any_pieces _ _ shows_ (·.kind = .kept) fun place member =>
      decide_eq_false (Leaf.inside_of_isPlain (plain place member)).2.1
  have hugged : line.line.hugged = line.line := by rw [Line.hugged, noPower]; rfl
  have outline := shows_.outline
  simp only [Line.outline, Prod.mk.injEq] at outline
  have oneLine : (line.line.text []).contains CodePoint.lineFeed = false := by
    rw [shows_.text, Bool.eq_false_iff]
    exact fun found => noLineFeed (List.contains_iff_mem.mp found)
  have fits' : line.line.fits style.lineLength [] = true := by
    rw [Line.fits, oneLine, noKept, shows_.text]
    simpa using fits
  have whole : staysWhole style [] line.line = true := by
    rw [staysWhole, hugged, fits', Line.keepsTypesApart_eq_false shows_.noComments,
      Line.hasCommentedStrings_eq_false shows_.noComments, outline.2.1, outline.2.2.1, outline.2.2.2]
    simp
  rw [Line.broken_of_staysWhole whole noPower, shows_.text]

/-! ## Plans -/

/-- What a line is to the lines around it. -/
inductive Role where
  | comment
  | imports
  | decorates
  | opensClass
  | plain
deriving DecidableEq

/-- The line is a comment, an import, a decorator or a class, as its role has it, and neither a function
nor a docstring. -/
structure Line.HasRole (l : Line) (role : Role) : Prop where
  comment : l.isComment = decide (role = .comment)
  imports : l.isImport = decide (role = .imports)
  decorates : l.isDecorator = decide (role = .decorates)
  opensClass : l.isClass = decide (role = .opensClass)
  noFunction : l.isFunction = false
  noDocstring : l.isDocstring = false

/-- A line as it is to be laid out: its depth, the empty lines in front of it, its role and its text. -/
structure LinePlan where
  depth : Nat
  blanks : Nat
  role : Role
  text : Text
deriving DecidableEq

/-- The line is laid out as planned, if it is not too long. -/
structure LogicalLine.Follows (style : LineStyle) (line : LogicalLine) (plan : LinePlan) : Prop where
  depth : line.line.depth = plan.depth
  blanks : line.blanks = plan.blanks
  formFeed : line.formFeed = false
  role : line.line.HasRole plan.role
  broken : ((Unicode.textWidth plan.text : Nat) : Int) ≤ style.lineLength →
    line.line.broken style = [plan.text]

theorem LogicalLine.Shows.exists_pieces
    (shows_ : line.Shows ⟨depth, blanks, place :: places⟩) :
    ∃ p ps, line.line.pieces = p :: ps ∧ p.leaf = place.1 ∧ p.path = place.2 ∧
      (places = [] → ps = []) := by
  have views := shows_.views
  rw [viewsOf, List.map_eq_cons_iff] at views
  obtain ⟨p, ps, pieces, first, rest⟩ := views
  refine ⟨p, ps, pieces, congrArg Prod.fst first, congrArg (fun view => view.2.1) first, ?_⟩
  rintro rfl
  exact List.map_eq_nil_iff.mp rest

/-- A line that starts with a leaf at a place, and not with a comment, is what its role says. -/
structure IsHead (role : Role) (place : Leaf × Path) : Prop where
  kinds : place.1.kind ≠ .kept ∧ place.1.kind ≠ .string
  noFunction : place.1.isWord "def" = false ∧ place.1.isWord "async" = false
  noComment : role ≠ .comment
  imports : ((place.1.isWord "import" && place.2.isIn .importName) ||
    (place.1.isWord "from" && place.2.isIn .importFrom)) = decide (role = .imports)
  decorates : place.1.isMark "@" = decide (role = .decorates)
  opensClass : place.1.isWord "class" = decide (role = .opensClass)

theorem IsHead.hasRole
    {role : Role}
    (isHead : IsHead role place)
    (shows_ : line.Shows ⟨depth, blanks, place :: places⟩) :
    line.line.HasRole role := by
  obtain ⟨p, ps, pieces, leaf, path, -⟩ := shows_.exists_pieces
  have unkept : p.isKept = false := by rw [Piece.isKept, leaf]; exact decide_eq_false isHead.kinds.1
  refine ⟨?_, ?_, ?_, ?_, ?_, ?_⟩
  · rw [decide_eq_false isHead.noComment, Line.isComment, pieces]
    cases ps with
    | nil => exact unkept
    | cons => rfl
  · simp only [Line.isImport, pieces, List.head?_cons, Option.any_some, Piece.isWord, leaf, path]
    exact isHead.imports
  · simp only [Line.isDecorator, pieces, List.head?_cons, Option.any_some, Piece.isMark, leaf]
    exact isHead.decorates
  · simp only [Line.isClass, pieces, List.head?_cons, Option.any_some, Piece.isWord, leaf]
    exact isHead.opensClass
  · simp [Line.isFunction, pieces, Piece.isWord, leaf, isHead.noFunction]
  · simp [Line.isDocstring, pieces, Source.isDocstring, leaf, isHead.kinds.2]

/-- A comment on a line of its own is laid out as it is. -/
theorem LogicalLine.Shows.follows_comment
    {c : Comment}
    (shows_ : line.Shows (c.sketch depth)) :
    line.Follows style ⟨depth, c.blanks, .comment, Line.margin depth ++ c.text⟩ := by
  obtain ⟨p, ps, pieces, leaf, -, alone⟩ := shows_.exists_pieces
  obtain rfl := alone rfl
  have noMark (s : String) : p.isMark s = false := by rw [Piece.isMark, leaf]; rfl
  have noWord (s : String) : p.isWord s = false := by rw [Piece.isWord, leaf]; rfl
  have isComment : line.line.isComment = true := by
    rw [Line.isComment, pieces]
    exact decide_eq_true (congrArg Leaf.kind leaf)
  refine ⟨congrArg Prod.fst shows_.outline, shows_.blanks, shows_.formFeed, ?_, fun _ => ?_⟩
  · refine ⟨isComment, ?_, ?_, ?_, ?_, ?_⟩
    · simp [Line.isImport, pieces, noWord]
    · simp [Line.isDecorator, pieces, noMark]
    · simp [Line.isClass, pieces, noWord]
    · simp [Line.isFunction, pieces, noWord]
    · simp [Line.isDocstring, pieces, Source.isDocstring, leaf]
  · have whole : staysWhole style [] line.line = true := by rw [staysWhole, isComment, Bool.true_or]
    have noPower : (line.line.pieces.any fun p => p.isMark "**") = false := by simp [pieces, noMark]
    rw [Line.broken_of_staysWhole whole noPower, shows_.text]
    simp [rowText, Comment.sketch, Leaf.shown]

/-- A line of leaves that are put on it as they are is laid out as it is. -/
theorem LogicalLine.Shows.follows
    {role : Role} {t : Text}
    (shows_ : line.Shows ⟨depth, blanks, place :: places⟩)
    (isHead : IsHead role place)
    (row : IsRow style (place :: places))
    (text : Line.margin depth ++ rowText (place :: places) = t)
    (noLineFeed : CodePoint.lineFeed ∉ t) :
    line.Follows style ⟨depth, blanks, role, t⟩ := by
  subst text
  exact ⟨congrArg Prod.fst shows_.outline, shows_.blanks, shows_.formFeed, isHead.hasRole shows_,
    shows_.broken (fun other member => (row.steady other member).plain) noLineFeed⟩

end RecordGen.Source
