import RecordGen.Proofs.Source.Arrangement
import RecordGen.Proofs.Source.Lines
import RecordGen.Source.LogicalLine

/-!
# The lines of a tree without breaks

A statement of words, numbers and strings, in which all parentheses are hidden, becomes one line: its
leaves are put on it in order, with a space where their places ask for one, and nothing else happens to
the line. What a line shows is the view of its pieces; brackets and priorities do not come into it.
-/

namespace RecordGen.Source

open Grammar

/-! ## Pieces -/

/-- What is seen of a piece whatever the brackets of its line are: its leaf and the place of it, the
space in front, and the comments behind. -/
def Piece.view (p : Piece) : Leaf × Path × Bool × List Text := (p.leaf, p.path, p.spaced, p.comments)

/-- The pieces of leaves at some places on one line, as they are seen. -/
def viewsOf : List (Leaf × Path) → List (Leaf × Path × Bool × List Text)
  | [] => []
  | (l, path) :: rest =>
    (l, path, false, []) :: rest.map fun (l, path) => (l, path, hasSpaceBefore l path, [])

/-- What is said of a line beside its pieces. -/
def Line.outline (l : Line) : Nat × Bool × Bool × Bool := (l.depth, l.inside, l.forced, l.exploded)

/-- The leaf is put on a line as it is: it ends none and is not kept, it asks for no breaks, powers and
parentheses do not come with it unless they are hidden. -/
def Leaf.isPlain (l : Leaf) : Bool :=
  l.inside && l.kind ≠ .kept && !l.isMark "," && !l.isMark ";" && !l.isMark "**" &&
    (!l.isMark "(" || l.hidden)

namespace Leaf

variable {l : Leaf}

theorem marks_of_isPlain
    (plain : l.isPlain = true) :
    l.isMark "," = false ∧ (l.isMark "(" = true → l.hidden = true) := by
  simp only [isPlain, Bool.and_eq_true, Bool.not_eq_true', Bool.or_eq_true] at plain
  refine ⟨plain.1.1.1.2, fun opens => ?_⟩
  rcases plain.2 with other | hidden
  · rw [opens] at other
    cases other
  · exact hidden

theorem inside_of_isPlain
    (plain : l.isPlain = true) :
    l.inside = true ∧ l.kind ≠ .kept ∧ l.isMark "**" = false := by
  simp only [isPlain, Bool.and_eq_true, Bool.not_eq_true', decide_eq_true_eq] at plain
  exact ⟨plain.1.1.1.1.1, plain.1.1.1.1.2, plain.1.2⟩

end Leaf

variable {style : LineStyle} {l : Leaf} {path : Path} {depth blanks : Nat}
  {places more : List (Leaf × Path)}

theorem viewsOf_append (place : Leaf × Path) :
    viewsOf (places ++ [place]) =
      viewsOf places ++ [(place.1, place.2, !places.isEmpty && hasSpaceBefore place.1 place.2, [])] := by
  cases places with
  | nil => rfl
  | cons first rest => simp [viewsOf]

theorem map_fst_viewsOf (places : List (Leaf × Path)) :
    (viewsOf places).map Prod.fst = places.map Prod.fst := by
  cases places with
  | nil => rfl
  | cons first rest => simp [viewsOf, Function.comp_def]

theorem Brackets.view_follow (b : Brackets) (p : Piece) : (b.follow p).1.view = p.view := by
  unfold Brackets.follow
  split <;> rfl

/-! ## Drafts -/

/-- The leaves at some places have been put on a line. -/
structure LineDraft.Holds (d : LineDraft) (depth : Nat) (places : List (Leaf × Path)) : Prop where
  views : d.line.pieces.reverse.map Piece.view = viewsOf places
  outline : d.line.outline = (depth, false, false, false)

namespace LineDraft

variable {d : LineDraft} {p : Piece}

theorem holds_start (depth : Nat) : (start depth false).Holds depth [] := ⟨rfl, rfl⟩

theorem Holds.leaves
    (holds : d.Holds depth places) :
    d.line.pieces.map Piece.leaf = (places.map Prod.fst).reverse := by
  have leaves := congrArg (List.map Prod.fst) holds.views
  rw [map_fst_viewsOf, List.map_map] at leaves
  rw [← leaves, ← List.map_reverse, List.reverse_reverse]
  rfl

theorem Holds.isEmpty
    (holds : d.Holds depth places) :
    d.line.pieces.isEmpty = places.isEmpty := by
  have leaves := holds.leaves
  cases pieces : d.line.pieces with
  | nil =>
      rw [pieces] at leaves
      have none : places.map Prod.fst = [] := by simpa using leaves.symm
      rw [List.map_eq_nil_iff.mp none]
      rfl
  | cons first rest =>
      rw [pieces] at leaves
      cases places with
      | nil => simp at leaves
      | cons place places => rfl

/-- What all leaves on the line are, all pieces are. -/
theorem Holds.all_pieces
    {holds : Leaf → Prop}
    (held : d.Holds depth places)
    (leaves : ∀ place ∈ places, holds place.1) :
    ∀ q ∈ d.line.pieces, holds q.leaf := by
  intro q member
  have inside : q.leaf ∈ d.line.pieces.map Piece.leaf := List.mem_map_of_mem member
  rw [held.leaves, List.mem_reverse] at inside
  obtain ⟨place, inPlaces, same⟩ := List.mem_map.mp inside
  exact same ▸ leaves place inPlaces

theorem asksForLines_eq_false
    (noComma : ∀ q ∈ d.line.pieces, q.isMark "," = false) :
    d.asksForLines p = false := by
  unfold asksForLines
  split
  · rfl
  · rename_i comma rest pieces
    have own := noComma comma (pieces ▸ List.mem_cons_self)
    simp [own]

theorem isEmptyClass_eq_false
    (hidden : ∀ q ∈ d.line.pieces, q.isMark "(" = true → q.leaf.hidden = true) :
    d.isEmptyClass = false := by
  unfold isEmptyClass
  split
  · rename_i closing opening name first pieces
    have own := hidden opening (by rw [pieces]; simp)
    cases bracket : opening.isMark "(" with
    | false => simp
    | true => simp [own bracket]
  · rfl

/-- A piece behind others without a comma is put on the line, and nothing else changes. -/
theorem pushFollowed_plain
    (heeded : Bool)
    (shown : Shown)
    (noComma : ∀ q ∈ d.line.pieces, q.isMark "," = false) :
    (d.pushFollowed heeded shown p).line.pieces.map Piece.view =
        (d.placed p).view :: d.line.pieces.map Piece.view ∧
      (d.pushFollowed heeded shown p).line.outline = d.line.outline := by
  have follows := Brackets.view_follow d.brackets (d.placed p)
  cases pieces : d.line.pieces with
  | nil =>
      have asks (brackets : Brackets) (invisible : List Nat) (q : Piece) :
          asksForLines ⟨{ d.line with pieces := [], invisible }, brackets⟩ q = false := rfl
      simp only [pushFollowed, pieces, asks, Bool.and_false, Bool.false_and, Bool.or_false,
        Bool.false_eq_true, ↓reduceIte, List.map_cons, List.map_nil, follows]
      exact ⟨trivial, rfl⟩
  | cons last rest =>
      rw [pieces] at noComma
      have own := noComma last List.mem_cons_self
      have asks (brackets : Brackets) (invisible : List Nat) (priority : Nat) (q : Piece) :
          asksForLines ⟨{ d.line with pieces := { last with priority } :: rest, invisible }, brackets⟩ q =
            false := by
        refine asksForLines_eq_false fun other member => ?_
        rcases List.mem_cons.mp member with rfl | behind
        · exact own
        · exact noComma other (List.mem_cons_of_mem _ behind)
      simp only [pushFollowed, pieces, asks, Bool.and_false, Bool.false_and, Bool.or_false,
        Bool.false_eq_true, ↓reduceIte, List.map_cons, follows]
      exact ⟨rfl, rfl⟩

/-- A leaf that asks for nothing is put behind others that do not. -/
theorem Holds.push
    {heeded : Bool} {shown : Shown}
    (held : d.Holds depth places)
    (plain : ∀ place ∈ places, place.1.isPlain = true)
    (view : (d.placed p).view = (l, path, !places.isEmpty && hasSpaceBefore l path, [])) :
    (d.pushFollowed heeded shown p).Holds depth (places ++ [(l, path)]) := by
  have noComma : ∀ q ∈ d.line.pieces, q.leaf.isMark "," = false :=
    @all_pieces _ _ _ (fun l => l.isMark "," = false) held fun place member =>
      (Leaf.marks_of_isPlain (plain place member)).1
  obtain ⟨pieces, outline⟩ := @pushFollowed_plain d p heeded shown noComma
  refine ⟨?_, outline.trans held.outline⟩
  rw [List.map_reverse, pieces, view, List.reverse_cons, ← List.map_reverse, held.views,
    viewsOf_append]

end LineDraft

/-! ## Lines -/

/-- A logical line as it is seen: its depth, the empty lines in front of it, and its leaves at their
places. -/
structure Sketch where
  depth : Nat
  blanks : Nat
  places : List (Leaf × Path)

/-- The line shows nothing but what is sketched. -/
structure LogicalLine.Shows (line : LogicalLine) (s : Sketch) : Prop where
  views : line.line.pieces.map Piece.view = viewsOf s.places
  outline : line.line.outline = (s.depth, false, false, false)
  blanks : line.blanks = s.blanks
  formFeed : line.formFeed = false

def Comment.sketch (depth : Nat) (c : Comment) : Sketch :=
  ⟨depth, c.blanks, [(⟨.kept, c.text, [], false⟩, [])]⟩

/-- A leaf at a place is put on a line as it is. -/
structure IsSteady (style : LineStyle) (place : Leaf × Path) : Prop where
  plain : place.1.isPlain = true
  spelled : ∀ r : LineReader, r.spelled style place.1 place.2 = place.1

def leafEvent (place : Leaf × Path) : Event := .leaf place.1 place.2

namespace LineReader

variable {r : LineReader} {lines : List LogicalLine} {place : Leaf × Path}

/-- Nothing has been read of the line behind some lines. -/
structure Starts (r : LineReader) (lines : List LogicalLine) (depth : Nat) : Prop where
  lines : r.lines = lines
  draft : r.draft = .start depth false

/-- The leaves at some places have been read behind some lines. -/
structure Reads (r : LineReader) (lines : List LogicalLine) (s : Sketch) : Prop where
  lines : r.lines = lines
  draft : r.draft.Holds s.depth s.places
  blanks : r.blanks = s.blanks
  formFeed : r.formFeed = false

/-- When the line ends, there are these lines, and the next one is as deep as the shift tells. -/
def Ends (r : LineReader) (lines : List LogicalLine) (depth : Nat) : Prop :=
  ∀ shift, (r.stop shift).Starts lines ((depth : Int) + shift).toNat

theorem stop_of_pieces
    {p : Piece} {ps : List Piece}
    (pieces : r.draft.line.pieces = p :: ps)
    (noWait : ps = [] → p.isWord "async" = false)
    (shift : Int) :
    r.stop shift =
      { r with
        lines := ⟨r.draft.finish, r.blanks, r.formFeed⟩ :: r.lines
        draft := .start ((r.draft.line.depth : Int) + shift).toNat false
        blanks := 0
        formFeed := false } := by
  rw [LineReader.stop, pieces]
  cases ps with
  | nil => simp [noWait rfl, LineDraft.finish]
  | cons => rfl

theorem Starts.stop
    (starts : r.Starts lines depth)
    (shift : Int) :
    (r.stop shift).Starts lines ((depth : Int) + shift).toNat := by
  obtain ⟨known, draft⟩ := starts
  have empty : r.draft.line.pieces = [] := by rw [draft]; rfl
  rw [LineReader.stop, empty]
  exact ⟨known, by simp only [draft]; rfl⟩

theorem Starts.ends
    (starts : r.Starts lines depth) :
    r.Ends lines depth :=
  starts.stop

theorem Ends.stop
    (ends : r.Ends lines depth)
    (shift : Int) :
    (r.stop shift).Ends lines ((depth : Int) + shift).toNat :=
  (ends shift).ends

theorem Starts.comment
    {c : Comment}
    (starts : r.Starts lines depth)
    (noFormFeed : c.formFeed = false) :
    ∃ line, line.Shows (c.sketch depth) ∧ (r.comment style c).Starts (line :: lines) depth := by
  let front := if c.trails then r else r.stop 0
  have own : front.Starts lines depth := by
    cases trails : c.trails with
    | true => simpa [front, trails] using starts
    | false => simpa [front, trails] using starts.stop 0
  have closed : r.draft.brackets.anyOpen = false := by rw [starts.draft]; rfl
  have empty : front.isEmpty = true := by rw [isEmpty, own.draft]; rfl
  let alone := LineDraft.pushComment (.start depth false) c.text
  have read : r.comment style c =
      LineReader.stop 0 { front with blanks := c.blanks, formFeed := c.formFeed, draft := alone } := by
    rw [LineReader.comment, closed]
    simp [front, empty, own.draft, alone]
  rw [read, stop_of_pieces (p := .ofComment c.text) rfl fun _ => rfl]
  exact ⟨⟨alone.finish, c.blanks, c.formFeed⟩, ⟨rfl, rfl, rfl, noFormFeed⟩,
    congrArg (_ :: ·) own.lines, rfl⟩

theorem Starts.comments
    {comments : List Comment}
    (starts : r.Starts lines depth)
    (noFormFeed : ∀ c ∈ comments, c.formFeed = false) :
    ∃ added, List.Forall₂ LogicalLine.Shows added (comments.map (Comment.sketch depth)) ∧
      (comments.foldl (LineReader.comment style) r).Starts (added.reverse ++ lines) depth := by
  induction comments generalizing r lines with
  | nil => exact ⟨[], .nil, starts⟩
  | cons c comments inductionHypothesis =>
      obtain ⟨own, later⟩ := List.forall_mem_cons.mp noFormFeed
      obtain ⟨line, isComment, next⟩ := @Starts.comment style _ _ _ _ starts own
      obtain ⟨added, aligned, behind⟩ := inductionHypothesis next later
      exact ⟨line :: added, .cons isComment aligned, by simpa using behind⟩

/-- A leaf is put on the line. -/
theorem push_holds
    {row : Nat}
    (held : r.draft.Holds depth places)
    (plain : ∀ other ∈ places, other.1.isPlain = true)
    (steady : IsSteady style place) :
    (r.push style place.1 place.2 row).draft.Holds depth (places ++ [place]) := by
  have noClass : r.draft.isEmptyClass = false :=
    LineDraft.isEmptyClass_eq_false
      (@LineDraft.Holds.all_pieces _ _ _ (fun l => l.isMark "(" = true → l.hidden = true) held
        fun other member => (Leaf.marks_of_isPlain (plain other member)).2)
  simp only [push, noClass, Bool.and_false, Bool.false_eq_true, ↓reduceIte]
  refine held.push plain ?_
  simp only [LineDraft.placed, Piece.view, steady.spelled, isEmpty, held.isEmpty]
  cases places.isEmpty <;> simp

/-- The reader in front of a leaf, its comments read: the empty lines count if the leaf is the first of
its line. -/
def behindLead (style : LineStyle) (r : LineReader) (l : Leaf) : LineReader :=
  let comments := leadComments false l.lead
  let front := comments.foldl (comment style) r
  let (blanks, formFeed) := leadBlanks comments l.lead
  if front.isEmpty then { front with blanks, formFeed } else front

theorem leaf_of_isPlain
    (plain : l.isPlain = true) :
    ∃ row next, r.leaf style l path =
      { (r.behindLead style l).push style l path row with row := next } := by
  obtain ⟨inside, kept, -⟩ := Leaf.inside_of_isPlain plain
  obtain ⟨shown, unfinished⟩ := Bool.and_eq_true_iff.mp inside
  rw [Bool.not_eq_true'] at shown
  have notLast : l.kind ≠ .finish := by simpa using unfinished
  simp only [LineReader.leaf, kept, notLast, shown, decide_false, Bool.false_and, Bool.false_eq_true,
    ↓reduceIte, Bool.or_self, Bool.not_false]
  exact ⟨_, _, rfl⟩

theorem leaf_of_isMargin
    (margin : l.isMargin = true ∨ l.kind = .finish)
    (uncommented : commentMark ∉ l.lead) :
    ∃ next, r.leaf style l path = { r.behindLead style l with row := next } := by
  have kept : l.kind ≠ .kept := by
    rintro kept
    simp [Leaf.isMargin, kept] at margin
  have hidden : (l.isMargin || decide (l.kind = .finish)) = true := by simpa using margin
  simp only [LineReader.leaf, kept, hidden, leadComments_eq_nil uncommented, decide_false,
    Bool.false_and, Bool.false_eq_true, ↓reduceIte, Bool.not_true]
  exact ⟨_, by rw [behindLead, leadComments_eq_nil uncommented]⟩

/-- The first leaf of a line comes behind its comments. -/
theorem Starts.leaf
    {blanks : Nat}
    (starts : r.Starts lines depth)
    (noFormFeed : ∀ c ∈ leadComments false place.1.lead, c.formFeed = false)
    (behind : leadBlanks (leadComments false place.1.lead) place.1.lead = (blanks, false))
    (steady : IsSteady style place) :
    ∃ added, List.Forall₂ LogicalLine.Shows added
        ((leadComments false place.1.lead).map (Comment.sketch depth)) ∧
      (r.leaf style place.1 place.2).Reads (added.reverse ++ lines) ⟨depth, blanks, [place]⟩ := by
  obtain ⟨added, aligned, next⟩ := @Starts.comments style _ _ _ _ starts noFormFeed
  obtain ⟨row, number, read⟩ := @leaf_of_isPlain style _ place.2 r steady.plain
  let behindComments := (leadComments false place.1.lead).foldl (LineReader.comment style) r
  have empty : behindComments.isEmpty = true := by rw [isEmpty, next.draft]; rfl
  have front : r.behindLead style place.1 = { behindComments with blanks, formFeed := false } := by
    rw [behindLead, behind]
    exact if_pos empty
  refine ⟨added, aligned, ?_⟩
  rw [read, front]
  refine ⟨next.lines, ?_, rfl, rfl⟩
  refine @push_holds style depth [] _ place row ?_ (by simp) steady
  exact next.draft ▸ LineDraft.holds_start depth

/-- A further leaf comes behind the others. -/
theorem Reads.leaf
    {s : Sketch}
    (reads : r.Reads lines s)
    (nonempty : s.places ≠ [])
    (plain : ∀ other ∈ s.places, other.1.isPlain = true)
    (steady : IsSteady style place)
    (uncommented : commentMark ∉ place.1.lead) :
    (r.leaf style place.1 place.2).Reads lines { s with places := s.places ++ [place] } := by
  obtain ⟨row, number, read⟩ := @leaf_of_isPlain style _ place.2 r steady.plain
  have full : r.isEmpty = false := by
    rw [isEmpty, reads.draft.isEmpty]
    simpa using nonempty
  have front : r.behindLead style place.1 = r := by
    simp [behindLead, leadComments_eq_nil uncommented, full]
  have held := @push_holds style s.depth s.places r place row reads.draft plain steady
  rw [read, front]
  exact ⟨reads.lines, held, reads.blanks, reads.formFeed⟩

theorem Reads.leaves
    {s : Sketch} {more : List (Leaf × Path)}
    (reads : r.Reads lines s)
    (nonempty : s.places ≠ [])
    (plain : ∀ other ∈ s.places, other.1.isPlain = true)
    (steady : ∀ place ∈ more, IsSteady style place)
    (uncommented : ∀ place ∈ more, commentMark ∉ place.1.lead) :
    ((more.map leafEvent).foldl (event style) r).Reads lines
      { s with places := s.places ++ more } := by
  induction more generalizing r s with
  | nil => simpa using reads
  | cons place more inductionHypothesis =>
      obtain ⟨own, later⟩ := List.forall_mem_cons.mp steady
      obtain ⟨ownLead, laterLeads⟩ := List.forall_mem_cons.mp uncommented
      have next := reads.leaf nonempty plain own ownLead
      have allPlain : ∀ other ∈ s.places ++ [place], other.1.isPlain = true :=
        List.forall_mem_append.mpr ⟨plain, List.forall_mem_singleton.mpr own.plain⟩
      have all := inductionHypothesis next (by simp) allPlain later laterLeads
      rwa [List.append_assoc] at all

theorem Reads.exists_line
    {s : Sketch}
    (reads : r.Reads lines s)
    (several : 2 ≤ s.places.length) :
    ∃ line, line.Shows s ∧ r.Ends (line :: lines) s.depth := by
  have count : r.draft.line.pieces.length = s.places.length := by
    simpa using congrArg List.length reads.draft.leaves
  obtain ⟨p, ps, pieces⟩ : ∃ p ps, r.draft.line.pieces = p :: ps :=
    List.exists_cons_of_length_pos (by omega)
  have more : ps ≠ [] := by
    rintro rfl
    rw [pieces] at count
    simp at count
    omega
  have outline := reads.draft.outline
  have depth : r.draft.line.depth = s.depth := congrArg Prod.fst outline
  refine ⟨⟨r.draft.finish, r.blanks, r.formFeed⟩,
    ⟨reads.draft.views, outline, reads.blanks, reads.formFeed⟩, fun shift => ?_⟩
  rw [stop_of_pieces pieces (fun none => absurd none more), depth, reads.lines]
  exact ⟨rfl, rfl⟩

/-- How a line ends does not depend on the empty lines if nothing of it has been read. -/
theorem Ends.congr
    {other : LineReader}
    (ends : r.Ends lines depth)
    (lines_ : other.lines = r.lines)
    (draft : other.draft = r.draft)
    (front : r.isEmpty = false → other.blanks = r.blanks ∧ other.formFeed = r.formFeed) :
    other.Ends lines depth := by
  intro shift
  obtain ⟨known, next⟩ := ends shift
  unfold LineReader.stop at known next ⊢
  rw [draft]
  cases pieces : r.draft.line.pieces with
  | nil =>
      rw [pieces] at known next
      exact ⟨lines_.trans known, next⟩
  | cons p ps =>
      obtain ⟨blanks, formFeed⟩ := front (by rw [isEmpty, pieces]; rfl)
      rw [pieces] at known next
      dsimp only at known next ⊢
      rw [blanks, formFeed, lines_]
      split_ifs at known next ⊢
      · exact ⟨lines_.trans known, draft.trans next⟩
      · exact ⟨known, next⟩

/-- A margin adds nothing. -/
theorem Ends.margin
    (ends : r.Ends lines depth)
    (margin : l.isMargin = true ∨ l.kind = .finish)
    (uncommented : commentMark ∉ l.lead) :
    (r.leaf style l path).Ends lines depth := by
  obtain ⟨next, read⟩ := @leaf_of_isMargin style l path r margin uncommented
  rw [read, behindLead, leadComments_eq_nil uncommented, List.foldl_nil]
  cases empty : r.isEmpty with
  | true => exact ends.congr rfl rfl fun full => by rw [empty] at full; cases full
  | false => exact ends.congr rfl rfl fun _ => ⟨rfl, rfl⟩

end LineReader
end RecordGen.Source
