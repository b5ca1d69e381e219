import RecordGen.Proofs.Aligned
import RecordGen.Proofs.Source.Spellings

/-!
# The lines of statements and of a class

The events of a tree add lines to those that have been read, whatever these are. A statement without
breaks adds the comments in front of it and one line; a class behind its decorator adds two, and what
its body adds one block deeper.
-/

namespace RecordGen.Source

open Grammar

variable {α : Type} {R : LogicalLine → α → Prop} {style : LineStyle} {depth after last : Nat}
  {events more : List Event} {plans others : List α}

/-! ## Adding lines -/

/-- Behind whatever lines at one depth, events add lines as they are planned, and the next line is at
another depth. -/
def Draws (R : LogicalLine → α → Prop) (style : LineStyle) (depth after : Nat) (events : List Event)
    (plans : List α) : Prop :=
  ∀ (r : LineReader) (lines : List LogicalLine), r.Ends lines depth →
    ∃ added, List.Forall₂ R added plans ∧
      (events.foldl (LineReader.event style) r).Ends (added.reverse ++ lines) after

namespace Draws

theorem nil : Draws R style depth depth [] [] :=
  fun _ _ ends => ⟨[], .nil, ends⟩

theorem append
    (draws : Draws R style depth after events plans)
    (behind : Draws R style after last more others) :
    Draws R style depth last (events ++ more) (plans ++ others) := by
  intro r lines ends
  obtain ⟨added, aligned, next⟩ := draws r lines ends
  obtain ⟨further, aligned', done⟩ := behind _ _ next
  refine ⟨added ++ further, List.rel_append aligned aligned', ?_⟩
  rwa [List.foldl_append, List.reverse_append, List.append_assoc]

theorem stop (shift : Int) :
    Draws R style depth ((depth : Int) + shift).toNat [.stop shift] [] :=
  fun _ _ ends => ⟨[], .nil, ends.stop shift⟩

theorem margin
    {l : Leaf}
    (margin : l.isMargin = true ∨ l.kind = .finish)
    (uncommented : commentMark ∉ l.lead)
    (path : Path) :
    Draws R style depth depth [.leaf l path] [] :=
  fun _ _ ends => ⟨[], .nil, ends.margin margin uncommented⟩

end Draws

/-- The comments in front of a leaf as lines, and the empty lines behind them. -/
structure Introduces (R : LogicalLine → α → Prop) (depth blanks : Nat) (lead : Text)
    (remarks : List α) : Prop where
  noFormFeed : ∀ c ∈ leadComments false lead, c.formFeed = false
  comments : List.Forall₂ (fun c plan => ∀ line, line.Shows (Comment.sketch depth c) → R line plan)
    (leadComments false lead) remarks
  blanks : leadBlanks (leadComments false lead) lead = (blanks, false)

/-- The leaves of a line: there are several, they are put on it as they are, and comments stand only
in front of the first one. -/
structure IsRow (style : LineStyle) (places : List (Leaf × Path)) : Prop where
  several : 2 ≤ places.length
  steady : ∀ place ∈ places, IsSteady style place
  uncommented : ∀ place ∈ places.tail, commentMark ∉ place.1.lead

theorem rel_of_sketches
    {comments : List Comment} {remarks : List α} {added : List LogicalLine}
    (planned : List.Forall₂ (fun c plan => ∀ line, line.Shows (Comment.sketch depth c) → R line plan)
      comments remarks)
    (drawn : List.Forall₂ LogicalLine.Shows added (comments.map (Comment.sketch depth))) :
    List.Forall₂ R added remarks := by
  induction planned generalizing added with
  | nil =>
      cases drawn
      exact .nil
  | cons own _ inductionHypothesis =>
      cases drawn with
      | cons isComment drawn => exact .cons (own _ isComment) (inductionHypothesis drawn)

/-- A line of leaves adds the comments in front of it and itself. -/
theorem Draws.line
    {place : Leaf × Path} {places : List (Leaf × Path)} {l : Leaf} {path : Path} {blanks : Nat}
    {remarks : List α} {plan : α}
    (row : IsRow style (place :: places))
    (introduces : Introduces R depth blanks place.1.lead remarks)
    (planned : ∀ line : LogicalLine, line.Shows ⟨depth, blanks, place :: places⟩ → R line plan)
    (margin : l.isMargin = true)
    (uncommented : commentMark ∉ l.lead) :
    Draws R style depth depth (.stop 0 :: ((place :: places).map leafEvent ++ [.leaf l path]))
      (remarks ++ [plan]) := by
  intro r lines ends
  obtain ⟨first, later⟩ := List.forall_mem_cons.mp row.steady
  obtain ⟨added, drawn, reads⟩ :=
    (ends 0).leaf introduces.noFormFeed introduces.blanks first
  have all := reads.leaves (List.cons_ne_nil _ _) (List.forall_mem_singleton.mpr first.plain) later
    row.uncommented
  obtain ⟨line, shown, next⟩ := all.exists_line row.several
  rw [Int.add_zero, Int.toNat_natCast] at drawn shown next
  refine ⟨added ++ [line], List.rel_append (rel_of_sketches introduces.comments drawn)
    (.cons (planned line shown) .nil), ?_⟩
  have ended := @LineReader.Ends.margin style l path _ _ _ next (.inl margin) uncommented
  rw [List.foldl_cons, List.foldl_append, List.reverse_append, List.append_assoc]
  exact ended

/-! ## Events of statements -/

/-- The nodes of expressions and small statements. -/
def flatKinds : List NodeKind :=
  [.importName, .importFrom, .assignment, .hint, .atom, .power, .trailer, .bitOr, .decorator]

mutual

/-- No line ends in the tree, as far as its nodes tell. -/
def Tree.isFlat : Tree → Bool
  | .leaf l => l.inside && !l.isMark ";"
  | .node kind children => flatKinds.contains kind && allFlat children

/-- No line ends in some trees. -/
def Tree.allFlat : List Tree → Bool
  | [] => true
  | t :: rest => isFlat t && allFlat rest

end

theorem leafEvents_inside
    {l : Leaf}
    (inside : l.inside = true)
    (noEnd : l.isMark ";" = false)
    (path : Path) :
    leafEvents l path = [.leaf l path] := by
  obtain ⟨-, noDedent, noFinish⟩ := Leaf.kind_of_inside inside
  have noMargin : l.isMargin = false := by
    simp only [Leaf.inside, Bool.and_eq_true, Bool.not_eq_true'] at inside
    exact inside.1
  have noIndent : l.kind ≠ .indent := by
    rintro indent
    simp [Leaf.isMargin, indent] at noMargin
  simp [leafEvents, noMargin, noIndent, noDedent, noFinish, noEnd]

theorem stops_of_flatKind
    {kind : NodeKind}
    (flat : kind ∈ flatKinds)
    (path : Path)
    (children : List Tree)
    (t : Tree) :
    stopsAround kind path children = ([], []) ∧ stopsBefore kind t = [] := by
  simp only [flatKinds, List.mem_cons, List.not_mem_nil, or_false] at flat
  rcases flat with rfl | rfl | rfl | rfl | rfl | rfl | rfl | rfl | rfl <;> exact ⟨rfl, rfl⟩

mutual

theorem eventsOf_flat
    (t : Tree)
    (flat : t.isFlat = true)
    (path : Path) :
    eventsOf path t = (placesOf path t).map leafEvent := by
  cases t with
  | leaf l =>
      simp only [Tree.isFlat, Bool.and_eq_true, Bool.not_eq_true'] at flat
      exact leafEvents_inside flat.1 flat.2 path
  | node kind children =>
      obtain ⟨flatKind, allFlat⟩ := Bool.and_eq_true_iff.mp flat
      have isFlat := List.contains_iff_mem.mp flatKind
      rw [eventsOf, (stops_of_flatKind isFlat path children (.node kind [])).1, placesOf]
      simpa using childEvents_flat kind children isFlat allFlat path []

theorem childEvents_flat
    (kind : NodeKind)
    (children : List Tree)
    (isFlat : kind ∈ flatKinds)
    (allFlat : Tree.allFlat children = true)
    (path : Path)
    (before : List Tree) :
    childEvents kind path before children =
      (childPlaces kind path before children).map leafEvent := by
  cases children with
  | nil => rfl
  | cons t rest =>
      obtain ⟨own, later⟩ := Bool.and_eq_true_iff.mp allFlat
      rw [childEvents, childPlaces, (stops_of_flatKind isFlat path [] t).2, List.map_append,
        eventsOf_flat t own, childEvents_flat kind rest isFlat later]
      rfl

end

variable {t statement : Tree} {kind : NodeKind} {path : Path} {before children ts rest : List Tree}

/-- A tree at a place has a line of its own: it does not stand behind a header, and it is not the body
of a stub. -/
def isOwnLine (t : Tree) (path : Path) : Bool :=
  !path.isInAny headedKinds && !(path.isIn .block && isStubBlock path.outerKind? (path.siblings t))

/-- The way up from the statement of a line. -/
def statementPath (path : Path) : Path := ⟨.simpleLine, [], [.leaf Leaf.ending]⟩ :: path

/-- The way up from the end of the line of a statement. -/
def endingPath (statement : Tree) (path : Path) : Path := ⟨.simpleLine, [statement], []⟩ :: path

theorem eventsOf_simpleLine
    (flat : statement.isFlat = true)
    (own : isOwnLine (.node .simpleLine [statement, .leaf Leaf.ending]) path = true) :
    eventsOf path (.node .simpleLine [statement, .leaf Leaf.ending]) =
      .stop 0 :: ((placesOf (statementPath path) statement).map leafEvent ++
        [.leaf Leaf.ending (endingPath statement path)]) := by
  obtain ⟨outside, noStub⟩ := Bool.and_eq_true_iff.mp own
  rw [Bool.not_eq_true'] at outside noStub
  have around : stopsAround .simpleLine path [statement, .leaf Leaf.ending] = ([.stop 0], []) := by
    simp only [stopsAround, outside, noStub, Bool.false_eq_true, ↓reduceIte]
  have ends : eventsOf (endingPath statement path) (.leaf Leaf.ending) =
      [.leaf Leaf.ending (endingPath statement path)] := rfl
  have inLine (t : Tree) : stopsBefore .simpleLine t = [] := rfl
  have own := eventsOf_flat statement flat (statementPath path)
  unfold statementPath endingPath at *
  rw [eventsOf, around]
  simp only [childEvents, inLine, own, ends, List.nil_append, List.append_nil, List.cons_append]

/-! ## Statements -/

/-- Wherever it has a line of its own at some depth, a tree adds lines as planned. It is no ellipsis. -/
structure IsStatement (R : LogicalLine → α → Prop) (style : LineStyle) (depth : Nat) (t : Tree)
    (plans : List α) : Prop where
  noEllipsis : t.isEllipsisLine = false
  draws : ∀ path, isOwnLine t path = true → Draws R style depth depth (eventsOf path t) plans

theorem isStubBlock_eq_false
    {outer : Option NodeKind}
    (noEllipsis : ∀ t ∈ ts, t.isEllipsisLine = false) :
    isStubBlock outer ts = false := by
  unfold isStubBlock
  split
  · rename_i lineEnd indent line dedent
    simp [noEllipsis line (by simp)]
  · rfl

theorem isOwnLine_child
    (isOuter : kind = .text ∨ kind = .block)
    (noEllipsis : ∀ other ∈ before.reverse ++ t :: rest, other.isEllipsisLine = false)
    (path : Path) :
    isOwnLine t (⟨kind, before, rest⟩ :: path) = true := by
  have noHeader : Path.isInAny headedKinds (⟨kind, before, rest⟩ :: path) = false := by
    rcases isOuter with rfl | rfl <;> rfl
  have noStub (outer : Option NodeKind) :
      isStubBlock outer (Path.siblings t (⟨kind, before, rest⟩ :: path)) = false :=
    isStubBlock_eq_false noEllipsis
  rw [isOwnLine, noHeader, noStub]
  simp

/-- The statements of a text or a block add their lines one after another. -/
theorem exists_draws_children
    {planned : List (List α)}
    (isOuter : kind = .text ∨ kind = .block)
    (statements : List.Forall₂ (IsStatement R style depth) ts planned)
    (noEllipsis : ∀ other ∈ before ++ rest, other.isEllipsisLine = false)
    (path : Path) :
    ∃ events, childEvents kind path before (ts ++ rest) =
        events ++ childEvents kind path (ts.reverse ++ before) rest ∧
      Draws R style depth depth events planned.flatten := by
  induction statements generalizing before with
  | nil => exact ⟨[], rfl, .nil⟩
  | @cons t plans ts planned own later inductionHypothesis =>
      have isLast : ∀ other ∈ ts, other.isEllipsisLine = false := by
        intro other member
        obtain ⟨plans, -, isStatement⟩ := exists_right_of_mem later member
        exact isStatement.noEllipsis
      obtain ⟨front, behind⟩ := List.forall_mem_append.mp noEllipsis
      obtain ⟨events, spelled, draws⟩ := @inductionHypothesis
        (t :: before) (by simpa [own.noEllipsis] using noEllipsis)
      have ownLine : isOwnLine t (⟨kind, before, ts ++ rest⟩ :: path) = true := by
        refine isOwnLine_child isOuter ?_ path
        simp only [List.mem_append, List.mem_reverse, List.mem_cons]
        rintro other (member | rfl | member | member)
        · exact front other member
        · exact own.noEllipsis
        · exact isLast other member
        · exact behind other member
      have inside : stopsBefore kind t = [] := by rcases isOuter with rfl | rfl <;> rfl
      refine ⟨eventsOf (⟨kind, before, ts ++ rest⟩ :: path) t ++ events, ?_,
        (own.draws _ ownLine).append draws⟩
      rw [List.cons_append, childEvents, inside, spelled]
      simp

/-- Nothing in front of a leaf introduces nothing. -/
theorem introduces_nil : Introduces R depth 0 [] [] :=
  ⟨by simp [leadComments], .nil, rfl⟩

/-! ## Classes -/

variable {lead : Text} {decorator name : Leaf} {body : List Tree}

/-- The leaves of the line of a decorator, given the way up from the decorator. -/
def decoratorPlaces (lead : Text) (decorator : Leaf) (path : Path) : List (Leaf × Path) :=
  [(.ofMark lead "@", ⟨.decorator, [], [.leaf decorator, .leaf Leaf.ending]⟩ :: path),
    (decorator, ⟨.decorator, [.leaf (.ofMark lead "@")], [.leaf Leaf.ending]⟩ :: path)]

/-- The leaves of the line of a class, given its block and the way up from the class. -/
def classPlaces (name : Leaf) (block : Tree) (path : Path) : List (Leaf × Path) :=
  [(classWord, ⟨.classBlock, [], [.leaf name, .leaf colon, block]⟩ :: path),
    (name, ⟨.classBlock, [.leaf classWord], [.leaf colon, block]⟩ :: path),
    (colon, ⟨.classBlock, [.leaf name, .leaf classWord], [block]⟩ :: path)]

def classBody (body : List Tree) : Tree :=
  .node .block (.leaf Leaf.ending :: .leaf Leaf.opening :: body ++ [.leaf Leaf.closing])

theorem leafEvents_word
    {l : Leaf}
    (word : l.kind = .word)
    (path : Path) :
    leafEvents l path = [.leaf l path] :=
  leafEvents_inside (by simp [Leaf.inside, Leaf.isMargin, word]) (by simp [Leaf.isMark, word]) path

theorem eventsOf_decorator
    (word : decorator.kind = .word)
    (path : Path) :
    eventsOf path (.node .decorator [.leaf (.ofMark lead "@"), .leaf decorator, .leaf Leaf.ending]) =
      (decoratorPlaces lead decorator path).map leafEvent ++
        [.leaf Leaf.ending
          (⟨.decorator, [.leaf decorator, .leaf (.ofMark lead "@")], []⟩ :: path)] := by
  have inside (t : Tree) : stopsBefore .decorator t = [] := rfl
  have around : stopsAround .decorator path
      [.leaf (.ofMark lead "@"), .leaf decorator, .leaf Leaf.ending] = ([], []) := rfl
  have marked (path : Path) : leafEvents (.ofMark lead "@") path = [.leaf (.ofMark lead "@") path] :=
    leafEvents_inside rfl rfl path
  have ends (before after : List Tree) :
      leafEvents Leaf.ending (⟨.decorator, before, after⟩ :: path) =
        [.leaf Leaf.ending (⟨.decorator, before, after⟩ :: path)] := rfl
  rw [eventsOf, around]
  simp only [childEvents, eventsOf, inside, marked, leafEvents_word word, ends]
  rfl

/-- A margin of a block that is no stub. -/
theorem leafEvents_margin
    {l : Leaf}
    (margin : l.isMargin = true)
    (noEllipsis : ∀ t ∈ before.reverse ++ .leaf l :: rest, t.isEllipsisLine = false)
    (path : Path) :
    leafEvents l (⟨.block, before, rest⟩ :: path) =
      if l.kind = .indent then [.stop 1, .leaf l (⟨.block, before, rest⟩ :: path)]
      else if l.kind = .dedent then [.stop 0, .leaf l (⟨.block, before, rest⟩ :: path), .stop (-1)]
      else [.leaf l (⟨.block, before, rest⟩ :: path)] := by
  have noStub (outer : Option NodeKind) :
      isStubBlock outer (Path.siblings (.leaf l) (⟨.block, before, rest⟩ :: path)) = false :=
    isStubBlock_eq_false noEllipsis
  have notLast : l.kind ≠ .finish := by
    rintro last
    simp [Leaf.isMargin, last] at margin
  have noEnd : l.isMark ";" = false := by
    refine Leaf.isMark_of_kind fun mark => ?_
    simp [Leaf.isMargin, mark] at margin
  simp only [leafEvents, noStub, Bool.and_false, Bool.false_eq_true, ↓reduceIte, notLast, noEnd]

/-- What stands in the block of a class is drawn one block deeper, behind the end of the line of the
class. -/
theorem exists_draws_classBody
    {planned : List (List α)}
    (statements : List.Forall₂ (IsStatement R style (depth + 1)) body planned)
    (path : Path) :
    ∃ ending inner, eventsOf path (classBody body) = .leaf Leaf.ending ending :: inner ∧
      Draws R style depth depth inner planned.flatten := by
  have inBody : ∀ t ∈ body, t.isEllipsisLine = false := by
    intro t member
    obtain ⟨plans, -, isStatement⟩ := exists_right_of_mem statements member
    exact isStatement.noEllipsis
  have margins (l : Leaf) : (Tree.leaf l).isEllipsisLine = false := rfl
  have inBlock (others : List Tree) (same : others.Perm (.leaf Leaf.ending :: .leaf Leaf.opening ::
      (body ++ [.leaf Leaf.closing]))) : ∀ t ∈ others, t.isEllipsisLine = false := by
    intro t member
    have inside := same.mem_iff.mp member
    simp only [List.mem_append, List.mem_cons, List.not_mem_nil, or_false] at inside
    rcases inside with rfl | rfl | member | rfl
    · exact margins _
    · exact margins _
    · exact inBody t member
    · exact margins _
  obtain ⟨events, spelled, draws⟩ := exists_draws_children (.inr rfl) statements
    (by simp [margins] : ∀ t ∈ [.leaf Leaf.opening, .leaf Leaf.ending] ++ [.leaf Leaf.closing],
      Tree.isEllipsisLine t = false) path
  let behindEnd : Path := ⟨.block, [], .leaf Leaf.opening :: (body ++ [.leaf Leaf.closing])⟩ :: path
  let inFront : Path := ⟨.block, [.leaf Leaf.ending], body ++ [.leaf Leaf.closing]⟩ :: path
  let behind : Path := ⟨.block, body.reverse ++ [.leaf Leaf.opening, .leaf Leaf.ending], []⟩ :: path
  have ends : leafEvents Leaf.ending behindEnd = [.leaf Leaf.ending behindEnd] :=
    leafEvents_margin rfl (inBlock _ (.refl _)) path
  have opens : leafEvents Leaf.opening inFront = [.stop 1, .leaf Leaf.opening inFront] :=
    leafEvents_margin rfl (inBlock _ (.refl _)) path
  have closes : leafEvents Leaf.closing behind =
      [.stop 0, .leaf Leaf.closing behind, .stop (-1)] :=
    leafEvents_margin rfl (inBlock _ (by simp)) path
  refine ⟨behindEnd, .stop 1 :: .leaf Leaf.opening inFront ::
    (events ++ [.stop 0, .leaf Leaf.closing behind, .stop (-1)]), ?_, ?_⟩
  · have inside (t : Tree) : stopsBefore .block t = [] := rfl
    have around (children : List Tree) : stopsAround .block path children = ([], []) := rfl
    rw [classBody, eventsOf, around, List.cons_append, List.cons_append, childEvents, childEvents,
      spelled, childEvents]
    simp only [eventsOf, inside, childEvents, List.append_nil, List.nil_append]
    change leafEvents Leaf.ending behindEnd ++ (leafEvents Leaf.opening inFront ++
      (events ++ leafEvents Leaf.closing behind)) = _
    rw [ends, opens, closes]
    rfl
  · have enters : Draws R style depth (depth + 1) [.stop 1] [] := .stop 1
    have leaves : Draws R style (depth + 1) depth [.stop (-1)] [] := by
      have shifted := @Draws.stop α R style (depth + 1) (-1)
      have back : (((depth + 1 : Nat) : Int) + -1).toNat = depth := by omega
      rwa [back] at shifted
    have stays : Draws R style (depth + 1) (depth + 1) [.stop 0] [] := .stop 0
    have opening : Draws R style (depth + 1) (depth + 1) [.leaf Leaf.opening inFront] [] :=
      .margin (.inl rfl) (by simp [Leaf.opening]) _
    have closing : Draws R style (depth + 1) (depth + 1) [.leaf Leaf.closing behind] [] :=
      .margin (.inl rfl) (by simp [Leaf.closing]) _
    have whole := enters.append (opening.append (draws.append
      (stays.append (closing.append leaves))))
    simpa using whole

theorem isRow_decorator
    (word : decorator.kind = .word)
    (uncommented : commentMark ∉ decorator.lead)
    (path : Path) :
    IsRow style (decoratorPlaces lead decorator path) where
  several := Nat.le_refl 2
  steady := List.forall_mem_cons.mpr ⟨(Leaf.isCanonical_mark rfl rfl).isSteady rfl,
    List.forall_mem_singleton.mpr ((Leaf.isCanonical_word word).isSteady rfl)⟩
  uncommented := List.forall_mem_singleton.mpr uncommented

theorem isRow_class
    (word : name.kind = .word)
    (uncommented : commentMark ∉ name.lead)
    (block : Tree)
    (path : Path) :
    IsRow style (classPlaces name block path) where
  several := Nat.le_succ 2
  steady := by
    simp only [classPlaces, List.forall_mem_cons]
    exact ⟨(Leaf.isCanonical_word rfl).isSteady rfl, (Leaf.isCanonical_word word).isSteady rfl,
      (Leaf.isCanonical_mark rfl rfl).isSteady rfl, by simp⟩
  uncommented := by simpa [classPlaces, colon, Leaf.ofMark] using uncommented

theorem draws_decorator
    {remarks : List α} {plan : α} {blanks : Nat}
    (word : decorator.kind = .word)
    (uncommented : commentMark ∉ decorator.lead)
    (introduces : Introduces R depth blanks lead remarks)
    (path : Path)
    (planned : ∀ line : LogicalLine,
      line.Shows ⟨depth, blanks, decoratorPlaces lead decorator path⟩ → R line plan) :
    Draws R style depth depth
      (.stop 0 :: eventsOf path
        (.node .decorator [.leaf (.ofMark lead "@"), .leaf decorator, .leaf Leaf.ending]))
      (remarks ++ [plan]) := by
  rw [eventsOf_decorator word]
  exact .line (isRow_decorator word uncommented path) introduces planned rfl (by simp [Leaf.ending])

/-- A class adds its line and its body. -/
theorem draws_classBlock
    {planned : List (List α)} {plan : α}
    (word : name.kind = .word)
    (noClass : name.isWord "class" = false)
    (uncommented : commentMark ∉ name.lead)
    (path : Path)
    (own : ∀ line : LogicalLine,
      line.Shows ⟨depth, 0, classPlaces name (classBody body) path⟩ → R line plan)
    (statements : List.Forall₂ (IsStatement R style (depth + 1)) body planned) :
    Draws R style depth depth
      (eventsOf path (.node .classBlock
        [.leaf classWord, .leaf name, .leaf colon, classBody body]))
      (plan :: planned.flatten) := by
  obtain ⟨ending, inner, spelled, draws⟩ := exists_draws_classBody statements
    (⟨.classBlock, [.leaf colon, .leaf name, .leaf classWord], []⟩ :: path)
  have starts : stopsBefore .classBlock (.leaf classWord) = [.stop 0] := rfl
  have named : stopsBefore .classBlock (.leaf name) = [] := by
    simp [stopsBefore, startingWords, Tree.isWord, Tree.isLeafWhere, noClass]
  have others : stopsBefore .classBlock (.leaf colon) = [] ∧
      stopsBefore .classBlock (classBody body) = [] := ⟨rfl, rfl⟩
  have classLeaf (path : Path) : leafEvents classWord path = [.leaf classWord path] :=
    leafEvents_word rfl path
  have colonLeaf (path : Path) : leafEvents colon path = [.leaf colon path] :=
    leafEvents_inside rfl rfl path
  have events : eventsOf path (.node .classBlock
      [.leaf classWord, .leaf name, .leaf colon, classBody body]) =
      (.stop 0 :: ((classPlaces name (classBody body) path).map leafEvent ++
        [.leaf Leaf.ending ending])) ++ inner := by
    have around (children : List Tree) : stopsAround .classBlock path children = ([], []) := rfl
    rw [eventsOf, around]
    simp only [childEvents, eventsOf, starts, named, others, classLeaf, colonLeaf,
      leafEvents_word word, spelled]
    simp [classPlaces, leafEvent]
  rw [events]
  exact @Draws.append _ _ _ _ _ _ _ _ [plan] _ (.line (isRow_class word uncommented _ path)
    introduces_nil own rfl (by simp [Leaf.ending])) draws

/-- A class behind its decorator adds the comments in front of it, two lines, and its body. -/
theorem draws_classTree
    {planned : List (List α)} {remarks : List α} {first second : α} {blanks : Nat}
    (words : decorator.kind = .word ∧ name.kind = .word)
    (noClass : name.isWord "class" = false)
    (uncommented : commentMark ∉ decorator.lead ∧ commentMark ∉ name.lead)
    (introduces : Introduces R depth blanks lead remarks)
    (decorates : ∀ path (line : LogicalLine),
      line.Shows ⟨depth, blanks, decoratorPlaces lead decorator path⟩ → R line first)
    (names : ∀ block path (line : LogicalLine),
      line.Shows ⟨depth, 0, classPlaces name block path⟩ → R line second)
    (statements : List.Forall₂ (IsStatement R style (depth + 1)) body planned)
    (path : Path) :
    Draws R style depth depth (eventsOf path (classTree lead decorator name body))
      (remarks ++ first :: second :: planned.flatten) := by
  let head : Tree := .node .decorator
    [.leaf (.ofMark lead "@"), .leaf decorator, .leaf Leaf.ending]
  let block : Tree := .node .classBlock [.leaf classWord, .leaf name, .leaf colon, classBody body]
  let headPath : Path := ⟨.decorated, [], [block]⟩ :: path
  let blockPath : Path := ⟨.decorated, [head], []⟩ :: path
  have headDraws : Draws R style depth depth (.stop 0 :: eventsOf headPath head) (remarks ++ [first]) :=
    draws_decorator words.1 uncommented.1 introduces headPath (decorates headPath)
  have blockDraws := draws_classBlock words.2 noClass uncommented.2 blockPath (names _ blockPath)
    statements
  have stays : Draws R style depth depth [.stop 0] [] := .stop 0
  have whole := headDraws.append (stays.append blockDraws)
  have events : eventsOf path (classTree lead decorator name body) =
      (.stop 0 :: eventsOf headPath head) ++ ([.stop 0] ++ eventsOf blockPath block) := by
    have inside (t : Tree) : stopsBefore .decorated t = [.stop 0] := rfl
    have around (children : List Tree) : stopsAround .decorated path children = ([], []) := rfl
    rw [classTree, eventsOf, around]
    simp only [childEvents, inside, List.append_nil, List.nil_append]
    rfl
  rw [events]
  simpa using whole

/-! ## Texts -/

/-- The lines of a text are those of its statements, and those of what stands behind them. -/
theorem rel_logicalLines
    {class_ : Tree} {planned : List (List α)}
    (statements : List.Forall₂ (IsStatement R style 0) ts planned)
    (noEllipsis : class_.isEllipsisLine = false)
    (behind : ∀ path, Draws R style 0 0 (eventsOf path class_) others) :
    List.Forall₂ R ((Tree.node .text (ts ++ [class_, .leaf Leaf.last])).logicalLines style)
      (planned.flatten ++ others) := by
  obtain ⟨events, spelled, draws⟩ := @exists_draws_children α R style 0 .text [] ts
    [class_, .leaf Leaf.last] planned (.inl rfl) statements (by
      have last : (Tree.leaf Leaf.last).isEllipsisLine = false := rfl
      simp [noEllipsis, last]) []
  let classPath : Path := [⟨.text, ts.reverse, [.leaf Leaf.last]⟩]
  let lastPath : Path := [⟨.text, class_ :: ts.reverse, []⟩]
  have all : eventsOf [] (Tree.node .text (ts ++ [class_, .leaf Leaf.last])) =
      events ++ eventsOf classPath class_ ++ [.leaf Leaf.last lastPath, .stop 0] := by
    have around (children : List Tree) : stopsAround .text [] children = ([], []) := rfl
    have inside (t : Tree) : stopsBefore .text t = [] := rfl
    have finishes : leafEvents Leaf.last lastPath = [.leaf Leaf.last lastPath, .stop 0] := rfl
    rw [eventsOf, around, spelled]
    simp only [childEvents, inside, eventsOf, List.append_nil, List.nil_append, List.append_assoc]
    exact congrArg (fun rest => events ++ (eventsOf classPath class_ ++ rest)) finishes
  have starts : LineReader.Starts {} [] 0 := ⟨rfl, rfl⟩
  obtain ⟨added, aligned, ends⟩ := (draws.append (behind classPath)) {} [] starts.ends
  have last := @LineReader.Ends.margin style Leaf.last lastPath _ _ _ ends (.inr rfl)
    (by simp [Leaf.last])
  have lines := (last 0).lines
  rw [List.append_nil] at lines
  have whole : (Tree.node .text (ts ++ [class_, .leaf Leaf.last])).logicalLines style = added := by
    rw [Tree.logicalLines, all, List.foldl_append]
    exact (congrArg List.reverse lines).trans (List.reverse_reverse added)
  rwa [whole]

end RecordGen.Source
